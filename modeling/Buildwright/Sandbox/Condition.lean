import Buildwright.Sandbox.Digits
import Buildwright.Sandbox.Printing
import Buildwright.Sandbox.Work

/-!
# Conditions

The conditions of `test`: questions about files, texts and integers, and their negations,
conjunctions and disjunctions. The plain shell reads them from the front. The extended shell and the
program first look at how many arguments there are. What cannot be understood gives a message.
-/

namespace Buildwright.Sandbox

/-! ### Files -/

/-- Whether something about a file holds, by the letter of the question. -/
def fileHolds (letter : Char) (path : String) : Task Bool := do
  match ← Task.ask (.status path (letter ≠ 'h' && letter ≠ 'L')) with
  | .error _ => return false
  | .ok file =>
    let hasBits (bits : Nat) : Bool := file.mode &&& bits ≠ 0
    return match letter with
      | 'f' => file.kind = .regular
      | 'd' => file.kind = .directory
      | 'h' | 'L' => file.kind = .link
      | 'c' => file.kind = .device
      | 'p' => file.kind = .channel
      | 'b' | 'S' => false
      | 's' => 0 < file.size
      | 'r' => file.permits .read
      | 'w' => file.permits .write
      | 'x' => file.permits .pass
      | 'O' | 'G' => !file.isForeign
      | 'u' => hasBits 0o4000
      | 'g' => hasBits 0o2000
      | 'k' => hasBits 0o1000
      | 'N' => file.accessed < file.modified
      | _ => true

/-- Whether an operator holds between two files. `missing` says that a file that is not there is
older than any other one. -/
def filesHold (missing : Bool) (operator a b : String) : Task Bool := do
  let first ← Task.ask (.status a true)
  let second ← Task.ask (.status b true)
  return match operator, first, second with
    | "-ef", .ok a, .ok b => a.id = b.id
    | "-nt", .ok a, .ok b => b.modified < a.modified
    | "-ot", .ok a, .ok b => a.modified < b.modified
    | "-nt", .ok _, .error _ => missing
    | "-ot", .error _, .ok _ => missing
    | _, _, _ => false

/-! ### Operators -/

/-- The operators on two integers. -/
def integerOperators : List (String × (Int → Int → Bool)) := [
  ("-eq", (· = ·)), ("-ne", (· ≠ ·)), ("-lt", (· < ·)), ("-le", (· ≤ ·)), ("-gt", (· > ·)),
  ("-ge", (· ≥ ·))]

/-- The operators on two texts. -/
def textOperators : List (String × (String → String → Bool)) := [
  ("=", (· = ·)), ("!=", (· ≠ ·)), ("<", (· < ·)), (">", (· > ·))]

/-- How conditions are understood. -/
structure ConditionStyle where
  printer : Printer
  /-- The answers to questions about the shell itself, by their letters. -/
  answer? : Char → String → Option Bool := fun _ _ => none

/-- Whether a text is an operator on two operands. -/
def ConditionStyle.isBinary (style : ConditionStyle) (text : String) : Bool :=
  (integerOperators.lookup text).isSome || (textOperators.lookup text).isSome ||
    ["-nt", "-ot", "-ef"].contains text || (style.printer ≠ .plainShell && text = "==")

/-- The letter of a question about one operand. -/
def ConditionStyle.unary? (style : ConditionStyle) (text : String) : Option Char :=
  let letters := match style.printer with
    | .plainShell => "bcdefghkprstuwxzLSnOG"
    | .extendedShell => "abcdefghknoprstuvwxzGLNORS"
    | .program => "bcdefghknprstuwxzGLNOS"
  match text.toList with
  | ['-', c] => if letters.toList.contains c then some c else none
  | _ => none

/-- A condition that is asked. -/
abbrev Asking := ExceptT String Task

/-- The integer that an operand is. -/
def ConditionStyle.integer (style : ConditionStyle) (text : String) : Except String Int :=
  match (decimalInteger? text).filter fun n => style.printer = .program || clamped n = n with
  | some n => .ok n
  | none => .error (match style.printer with
      | .plainShell => "Illegal number: " ++ text
      | .extendedShell => text ++ ": integer expression expected"
      | .program => "invalid integer " ++ quotedWord text)

/-- Whether an operator holds between two operands. -/
def ConditionStyle.binaryHolds (style : ConditionStyle) (operator a b : String) : Asking Bool := do
  let operator := if operator = "==" then "=" else operator
  match integerOperators.lookup operator, textOperators.lookup operator with
  | some holds, _ => return holds (← style.integer a) (← style.integer b)
  | none, some holds => return holds a b
  | none, none => filesHold (style.printer ≠ .plainShell) operator a b

/-- Whether a question about one operand has the answer yes. -/
def ConditionStyle.unaryHolds (style : ConditionStyle) (letter : Char) (operand : String) :
    Asking Bool := do
  match style.answer? letter operand with
  | some answer => return answer
  | none =>
    if letter = 'n' then return operand ≠ ""
    else if letter = 'z' then return operand = ""
    else if letter = 't' then
      let _ ← style.integer operand
      return false
    else fileHolds letter operand

/-! ### Reading from the front -/

/-- A sign of a condition in the plain shell. -/
inductive ConditionSign where
  | finish
  | operand
  | unary (letter : Char)
  | binary
  | opening
  | closing
  | not
  | and
  | or
  deriving DecidableEq

/-- The arguments of a condition by their positions. -/
structure PlainCondition where
  style : ConditionStyle
  args : Array String

namespace PlainCondition

/-- The sign at a position. -/
def sign (c : PlainCondition) (i : Nat) : ConditionSign :=
  match c.args[i]? with
  | none => .finish
  | some "(" => if c.args[i + 1]?.isNone then .operand else .opening
  | some ")" => .closing
  | some "!" => .not
  | some "-a" => .and
  | some "-o" => .or
  | some text =>
    if c.style.isBinary text then .binary
    else match c.style.unary? text, c.args[i + 1]?, c.args[i + 2]? with
      | none, _, _ | some _, none, _ => .operand
      | some letter, some _, none => .unary letter
      | some letter, some next, some _ => if c.style.isBinary next then .operand else .unary letter

/-- What is between two operands, and the position of the second one. -/
def binary (c : PlainCondition) (i : Nat) : Asking (Bool × Nat) := do
  let operator := c.args[i + 1]?.getD ""
  match c.args[i + 2]? with
  | none => throw (operator ++ ": argument expected")
  | some second =>
    return (← c.style.binaryHolds operator (c.args[i]?.getD "") second, i + 2)

mutual

/-- A disjunction whose first sign is known, and the position of its last argument. -/
def disjunction (c : PlainCondition) : (fuel : Nat) → (i : Nat) → ConditionSign →
    Asking (Bool × Nat)
  | 0, _, _ => throw "too many arguments"
  | fuel + 1, i, sign => do
    let (holds, i) ← c.conjunction fuel i sign
    if c.sign (i + 1) = .or then
      let (also, i) ← c.disjunction fuel (i + 2) (c.sign (i + 2))
      return (holds || also, i)
    return (holds, i)

/-- A conjunction. -/
def conjunction (c : PlainCondition) : (fuel : Nat) → (i : Nat) → ConditionSign →
    Asking (Bool × Nat)
  | 0, _, _ => throw "too many arguments"
  | fuel + 1, i, sign => do
    let (holds, i) ← c.negation fuel i sign
    if c.sign (i + 1) = .and then
      let (also, i) ← c.conjunction fuel (i + 2) (c.sign (i + 2))
      return (holds && also, i)
    return (holds, i)

/-- A condition that may be negated. -/
def negation (c : PlainCondition) : (fuel : Nat) → (i : Nat) → ConditionSign →
    Asking (Bool × Nat)
  | 0, _, _ => throw "too many arguments"
  | fuel + 1, i, sign => do
    if sign ≠ .not then return ← c.primary fuel i sign
    let next := c.sign (i + 1)
    let (holds, i) ← c.negation fuel (if next = .finish then i else i + 1) next
    return (!holds, i)

/-- A condition without connectives, or one in parentheses. -/
def primary (c : PlainCondition) : (fuel : Nat) → (i : Nat) → ConditionSign →
    Asking (Bool × Nat)
  | 0, _, _ => throw "too many arguments"
  | fuel + 1, i, sign => do
    match sign with
    | .finish => return (false, i)
    | .opening =>
      let next := c.sign (i + 1)
      if next = .closing then return (false, i + 1)
      let (holds, i) ← c.disjunction fuel (i + 1) next
      if c.sign (i + 1) ≠ .closing then throw "closing paren expected"
      return (holds, i + 1)
    | .unary letter => return (← c.style.unaryHolds letter (c.args[i + 1]?.getD ""), i + 1)
    | _ =>
      if c.sign (i + 1) = .binary then c.binary i
      else return (c.args[i]?.getD "" ≠ "", i)

end

/-- Whether a condition holds that is read from its first argument on. -/
def whole (c : PlainCondition) (asOperand : Bool) : Asking Bool := do
  let first := if asOperand then .operand else c.sign 0
  let (holds, i) ← c.disjunction (8 * c.args.size + 8) 0 first
  if c.args[i]?.isSome && c.args[i + 1]?.isSome then
    let last := c.args[i]?.getD ""
    throw ((if last = "" then "" else last ++ ": ") ++ "unexpected operator")
  return holds

/-- Whether a condition holds in the plain shell. -/
def holds (style : ConditionStyle) : (args : List String) → Asking Bool
  | [] => return false
  | [first, operator, second] => do
    let args := [first, operator, second]
    if style.isBinary operator then whole ⟨style, args.toArray⟩ true
    else if first = "(" && second = ")" then whole ⟨style, #[operator]⟩ false
    else if first = "!" then return !(← holds style [operator, second])
    else whole ⟨style, args.toArray⟩ false
  | [first, second, third, fourth] => do
    if first = "(" && fourth = ")" then whole ⟨style, #[second, third]⟩ false
    else if first = "!" then return !(← holds style [second, third, fourth])
    else whole ⟨style, #[first, second, third, fourth]⟩ false
  | args => whole ⟨style, args.toArray⟩ false

end PlainCondition

/-! ### Reading by numbers of arguments -/

namespace ConditionStyle

/-- An argument in a message. -/
def shown (style : ConditionStyle) (text : String) : String :=
  if style.printer = .program then quotedWord text else text

/-- What is said where an argument is missing. -/
def missing (style : ConditionStyle) (before : String) : String :=
  if style.printer = .program then "missing argument after " ++ quotedWord before
  else "argument expected"

/-- Whether a condition of two arguments holds. -/
def twoHold (style : ConditionStyle) (first second : String) : Asking Bool := do
  if first = "!" then return second = ""
  match style.unary? first with
  | some letter => style.unaryHolds letter second
  | none => throw (style.shown first ++ ": unary operator expected")

/-- Whether a condition of three arguments holds. -/
def threeHold (style : ConditionStyle) (first second third : String) : Asking Bool := do
  if style.isBinary second then style.binaryHolds second first third
  else if second = "-a" then return first ≠ "" && third ≠ ""
  else if second = "-o" then return first ≠ "" || third ≠ ""
  else if first = "!" then return !(← style.twoHold second third)
  else if first = "(" && third = ")" then return second ≠ ""
  else throw (style.shown second ++ ": binary operator expected")

mutual

/-- A disjunction at the front of the arguments, and the arguments behind it. -/
def disjunction (style : ConditionStyle) : (fuel : Nat) → List String →
    Asking (Bool × List String)
  | 0, _ => throw "too many arguments"
  | fuel + 1, args => do
    match ← style.conjunction fuel args with
    | (holds, "-o" :: rest) =>
      let (also, rest) ← style.disjunction fuel rest
      return (holds || also, rest)
    | found => return found

/-- A conjunction at the front of the arguments. -/
def conjunction (style : ConditionStyle) : (fuel : Nat) → List String →
    Asking (Bool × List String)
  | 0, _ => throw "too many arguments"
  | fuel + 1, args => do
    match ← style.term fuel args with
    | (holds, "-a" :: rest) =>
      let (also, rest) ← style.conjunction fuel rest
      return (holds && also, rest)
    | found => return found

/-- A condition without connectives at the front of the arguments. -/
def term (style : ConditionStyle) : (fuel : Nat) → List String → Asking (Bool × List String)
  | 0, _ => throw "too many arguments"
  | fuel + 1, args => do
    match args with
    | [] => throw (style.missing "")
    | "!" :: rest =>
      let (holds, rest) ← style.term fuel rest
      return (!holds, rest)
    | "(" :: rest =>
      match ← style.disjunction fuel rest with
      | (holds, ")" :: rest) => return (holds, rest)
      | (_, []) => throw (if style.printer = .program then "')' expected" else "\x60)' expected")
      | (_, next :: _) =>
        throw ((if style.printer = .program then "')' expected, found "
          else "\x60)' expected, found ") ++ next)
    | first :: operator :: second :: rest =>
      if style.isBinary operator then return (← style.binaryHolds operator first second, rest)
      else unary first (operator :: second :: rest)
    | first :: rest => unary first rest
where
  /-- A question about one operand, or a text. -/
  unary (first : String) (rest : List String) : Asking (Bool × List String) := do
    match style.unary? first, rest with
    | some letter, operand :: rest => return (← style.unaryHolds letter operand, rest)
    | _, rest => return (first ≠ "", rest)

end

/-- Whether a condition of any number of arguments holds. -/
def manyHold (style : ConditionStyle) (args : List String) : Asking Bool := do
  match ← style.disjunction (8 * args.length + 8) args with
  | (holds, []) => return holds
  | (_, next :: _) =>
    if style.printer = .program then throw ("extra argument " ++ quotedWord next)
    else if next.startsWith "-" then throw ("syntax error: \x60" ++ next ++ "' unexpected")
    else throw "too many arguments"

/-- Whether a condition holds. -/
def holds (style : ConditionStyle) (args : List String) : Task (Except String Bool) :=
  let asked : Asking Bool := do
    if style.printer = .plainShell then return ← PlainCondition.holds style args
    match args with
    | [] => return false
    | [text] => return text ≠ ""
    | [first, second] => style.twoHold first second
    | [first, second, third] => style.threeHold first second third
    | [first, second, third, fourth] =>
      if first = "!" then return !(← style.threeHold second third fourth)
      else if first = "(" && fourth = ")" then style.twoHold second third
      else style.manyHold args
    | args => style.manyHold args
  asked.run

end ConditionStyle

end Buildwright.Sandbox
