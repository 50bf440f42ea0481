import Buildwright.Sandbox.Digits
import Buildwright.Sandbox.Shell.Variables

/-!
# Sums

The expressions of the shell. They compute with integers of 64 bits, and a name stands for the value
of a variable, which is zero where there is none. An expression is computed while it is read, so
that of two things that are wrong with it the first one counts. A part that does not decide the
value is read idly: nothing is computed in it.
-/

namespace Buildwright.Sandbox.Shell

open Text (Reader)
open Text.Reader

/-! ### Signs -/

/-- An operation on two integers. -/
inductive Operation where
  | bitOr | bitXor | bitAnd | equal | unequal | atMost | atLeast | less | greater
  | shiftLeft | shiftRight | plus | minus | times | quotient | remainder
  deriving DecidableEq

/-- A sign of an expression. -/
inductive SumSign where
  | number (n : Int)
  /-- A variable, perhaps with a position. -/
  | name (name : String) (index? : Option String)
  | operation (o : Operation)
  /-- A variable gets a value, which its old one may be part of. -/
  | assign (operation? : Option Operation)
  | power
  | increase
  | decrease
  | comma
  | or
  | and
  | not
  | complement
  | question
  | colon
  | opening
  | closing
  | bad (message text : String)
  | finish
  deriving DecidableEq

/-- A sign with the text that starts with it. -/
structure SumToken where
  sign : SumSign
  text : List Char

/-- The signs of both shells by how they are written, longer ones before those that they begin with.
-/
def sumSigns : List (String × SumSign) := [
  ("<<=", .assign (some .shiftLeft)), (">>=", .assign (some .shiftRight)), ("||", .or),
  ("&&", .and), ("==", .operation .equal), ("!=", .operation .unequal), ("<=", .operation .atMost),
  (">=", .operation .atLeast), ("<<", .operation .shiftLeft), (">>", .operation .shiftRight),
  ("|=", .assign (some .bitOr)), ("^=", .assign (some .bitXor)), ("&=", .assign (some .bitAnd)),
  ("+=", .assign (some .plus)), ("-=", .assign (some .minus)), ("*=", .assign (some .times)),
  ("/=", .assign (some .quotient)), ("%=", .assign (some .remainder)), ("|", .operation .bitOr),
  ("^", .operation .bitXor), ("&", .operation .bitAnd), ("<", .operation .less),
  (">", .operation .greater), ("+", .operation .plus), ("-", .operation .minus),
  ("*", .operation .times), ("/", .operation .quotient), ("%", .operation .remainder),
  ("=", .assign none), ("!", .not), ("~", .complement), ("?", .question), (":", .colon),
  ("(", .opening), (")", .closing)]

/-- Further signs of the extended shell. -/
def extendedSigns : List (String × SumSign) :=
  [("**", .power), ("++", .increase), ("--", .decrease), (",", .comma)]

/-- The value of a digit in bases up to 64. -/
def wideDigit (base : Nat) (c : Char) : Nat :=
  if c.isDigit then digitValue c
  else if c.isLower then digitValue c
  else if c.isUpper then (if base ≤ 36 then digitValue c else c.toNat - 'A'.toNat + 36)
  else if c = '@' then 62
  else if c = '_' then 63
  else 64

/-- The sign that a number of the extended shell is. -/
def extendedNumber (text : String) : SumSign :=
  let cs := text.toList
  let inBase (base : Nat) (digits : List Char) : SumSign :=
    if digits.any fun c => base ≤ wideDigit base c then
      .bad "value too great for base" text
    else .number (wrapped (digits.foldl (fun n c => base * n + wideDigit base c) 0 : Nat))
  match cs with
  | '0' :: x :: digits =>
    if x = 'x' || x = 'X' then inBase 16 digits
    else if cs.contains '#' then .bad "invalid arithmetic base" text
    else inBase 8 (x :: digits)
  | _ =>
    let front := cs.takeWhile (· ≠ '#')
    if front.length = cs.length then inBase 10 cs
    else
      let base := numberOf 10 front
      if !front.all Char.isDigit || base < 2 || 64 < base then .bad "invalid arithmetic base" text
      else inBase base (cs.drop (front.length + 1))

/-- The sign at the front of a text, and the text behind it. -/
def frontSign (extended : Bool) (cs : List Char) : SumSign × List Char :=
  let written (signs : List (String × SumSign)) : Option (SumSign × List Char) :=
    (signs.find? fun (text, _) => text.toList.isPrefixOf cs).map fun (text, sign) =>
      (sign, cs.drop text.length)
  match cs with
  | [] => (.finish, [])
  | c :: _ =>
    if isNameStart c then
      let name := String.ofList (cs.takeWhile isNameChar)
      let rest := cs.drop name.length
      match extended, rest with
      | true, '[' :: behind =>
        let rec inside (depth : Nat) (seen : List Char) : List Char → List Char × List Char
          | [] => (seen.reverse, [])
          | ']' :: cs => if depth = 0 then (seen.reverse, cs) else inside (depth - 1) (']' :: seen) cs
          | '[' :: cs => inside (depth + 1) ('[' :: seen) cs
          | c :: cs => inside depth (c :: seen) cs
        let (index, rest) := inside 0 [] behind
        (.name name (some (String.ofList index)), rest)
      | _, rest => (.name name none, rest)
    else if c.isDigit then
      if extended then
        let text := cs.takeWhile fun c => isNameChar c || c = '#' || c = '@'
        (extendedNumber (String.ofList text), cs.drop text.length)
      else match unsignedNumber cs with
        | some (n, rest) => (.number (clamped n), rest.1)
        | none => (.bad "" "", [])
    else match written ((if extended then extendedSigns else []) ++ sumSigns) with
      | some found => found
      | none => (.bad "syntax error: invalid arithmetic operator" (String.ofList cs), [])

/-- The signs of a text, with an end behind them. `last` is the text that starts with the last sign.
-/
def sumTokens (extended : Bool) : (rounds : Nat) → (last : List Char) → List Char → List SumToken
  | 0, last, _ => [⟨.finish, last⟩]
  | rounds + 1, last, cs =>
    match cs.dropWhile isSpace with
    | [] => [⟨.finish, last⟩]
    | cs =>
      let (sign, rest) := frontSign extended cs
      match sign with
      | .bad _ _ => [⟨sign, cs⟩]
      | _ => ⟨sign, cs⟩ :: sumTokens extended rounds cs rest

/-! ### Values -/

/-- One for what holds, and zero. -/
def truth (b : Bool) : Int := if b then 1 else 0

/-- The number with a bitwise combination of the bits of two numbers. -/
def bitwise (f : Nat → Nat → Nat) (a b : Int) : Int :=
  wrapped (f (a % integerCount).toNat (b % integerCount).toNat)

/-- The value of an operation, unless it is a division by zero. -/
def Operation.value? (a b : Int) : Operation → Option Int
  | bitOr => some (bitwise (· ||| ·) a b)
  | bitXor => some (bitwise (· ^^^ ·) a b)
  | bitAnd => some (bitwise (· &&& ·) a b)
  | equal => some (truth (a = b))
  | unequal => some (truth (a ≠ b))
  | atMost => some (truth (a ≤ b))
  | atLeast => some (truth (b ≤ a))
  | less => some (truth (a < b))
  | greater => some (truth (b < a))
  | shiftLeft => some (wrapped (a * Nat.pow 2 (b % 64).toNat))
  | shiftRight => some (Int.fdiv a (Nat.pow 2 (b % 64).toNat))
  | plus => some (wrapped (a + b))
  | minus => some (wrapped (a - b))
  | times => some (wrapped (a * b))
  | quotient => if b = 0 then none else some (wrapped (Int.tdiv a b))
  | remainder => if b = 0 then none else some (Int.tmod a b)

/-- An expression that is computed. -/
structure SumText where
  text : String
  /-- What messages begin with. -/
  label : String := ""

/-- Stops with a message about an expression. -/
def SumText.fail {α : Type} (e : SumText) (plain extended : String) (tokens : List SumToken) :
    Sh α := do
  if ← isExtended then
    let (message, token) := match tokens.head? with
      | some ⟨.bad message text, _⟩ => (message, text)
      | some token => (extended, String.ofList token.text)
      | none => (extended, "")
    complain (e.label ++ String.ofList (e.text.toList.dropWhile isSpace) ++ ": " ++ message ++
      " (error token is \"" ++ token ++ "\")")
    setStatus 1
    throw .line
  else Shell.fail ("arithmetic expression: " ++ plain ++ ": \"" ++ e.text ++ "\"")

/-- The value of an operation in an expression. -/
def SumText.combine (e : SumText) (o : Operation) (a b : Int) (tokens : List SumToken) : Sh Int :=
  match o.value? a b with
  | some n => return n
  | none => e.fail "division by zero" "division by 0" tokens

/-! ### Reading -/

/-- Reads a part of an expression, perhaps idly, and gives its value and the signs behind it. -/
abbrev SumReader := (idle : Bool) → List SumToken → Sh (Int × List SumToken)

/-- How a text is computed that stands within another one. -/
abbrev TextSum := SumText → Sh Int

/-- The text of a variable or of one of its values. -/
def variableText (inner : TextSum) (name : String) (index? : Option String) : Sh (Option String) := do
  let value := (← get).value name
  match index? with
  | none => return value.text?
  | some index =>
    let row := value.asRow
    let n ← inner { text := index }
    return (rowPosition? row n).bind (row[·]?)

/-- The integer that a variable holds. -/
def integerOf (inner : TextSum) (name : String) (index? : Option String) : Sh Int := do
  let text? ← variableText inner name index?
  let s ← get
  match s.dialect with
  | .plain =>
    let text := text?.getD ""
    if text = "" then return 0
    match signedNumber.all? text.toList with
    | some n => return clamped n
    | none => Shell.fail ("Illegal number: " ++ text)
  | .extended =>
    if text?.isNone && s.isOn "u" && index?.isNone then
      complain (name ++ ": unbound variable")
      setStatus 1
      throw .exit
    let text := text?.getD ""
    if text.all isSpacing then return 0
    match decimalInteger? text with
    | some n => if text.startsWith "0" then inner { text } else return wrapped n
    | none => inner { text }

/-- Gives a variable or one of its values an integer. -/
def storeInteger (inner : TextSum) (name : String) (index? : Option String) (n : Int) : Sh Unit := do
  let value := (← get).value name
  let text := toString n
  match index? with
  | none => storeText name text
  | some index =>
    let row := value.asRow
    let i ← inner { text := index }
    store name (.row (row.insert ((rowPosition? row i).getD 0) text))

/-- An operand: a number, a name or an expression in parentheses, perhaps with signs before it. -/
def sumOperand (e : SumText) (text : TextSum) (inner : SumReader) : (rounds : Nat) → SumReader
  | 0, _, tokens => e.fail "expecting primary" "expression recursion level exceeded" tokens
  | rounds + 1, idle, tokens => do
    let next := sumOperand e text inner rounds idle
    let changed (name : String) (index? : Option String) (by_ : Int) : Sh (Int × Int) := do
      if idle then return (0, 0)
      let old ← integerOf text name index?
      let new := wrapped (old + by_)
      storeInteger text name index? new
      return (old, new)
    match tokens with
    | ⟨.number n, _⟩ :: tokens => return (n, tokens)
    | ⟨.name name index?, _⟩ :: ⟨.increase, _⟩ :: tokens =>
      return ((← changed name index? 1).1, tokens)
    | ⟨.name name index?, _⟩ :: ⟨.decrease, _⟩ :: tokens =>
      return ((← changed name index? (-1)).1, tokens)
    | ⟨.increase, _⟩ :: ⟨.name name index?, _⟩ :: tokens =>
      return ((← changed name index? 1).2, tokens)
    | ⟨.decrease, _⟩ :: ⟨.name name index?, _⟩ :: tokens =>
      return ((← changed name index? (-1)).2, tokens)
    | ⟨.increase, _⟩ :: tokens => next tokens
    | ⟨.decrease, _⟩ :: tokens => next tokens
    | ⟨.name name index?, _⟩ :: tokens =>
      return (← if idle then pure 0 else integerOf text name index?, tokens)
    | ⟨.opening, _⟩ :: tokens =>
      match ← inner idle tokens with
      | (n, ⟨.closing, _⟩ :: tokens) => return (n, tokens)
      | (_, tokens) => e.fail "expecting ')'" "missing \x60)'" tokens
    | ⟨.operation .plus, _⟩ :: tokens => next tokens
    | ⟨.operation .minus, _⟩ :: tokens =>
      let (n, tokens) ← next tokens
      return (wrapped (-n), tokens)
    | ⟨.not, _⟩ :: tokens =>
      let (n, tokens) ← next tokens
      return (truth (n = 0), tokens)
    | ⟨.complement, _⟩ :: tokens =>
      let (n, tokens) ← next tokens
      return (-n - 1, tokens)
    | tokens => e.fail "expecting primary" "syntax error: operand expected" tokens

/-- An operand with the power to which it is raised. -/
def sumPower (e : SumText) (operand : SumReader) : (rounds : Nat) → SumReader
  | 0, idle, tokens => operand idle tokens
  | rounds + 1, idle, tokens => do
    match ← operand idle tokens with
    | (a, ⟨.power, _⟩ :: tokens) =>
      let (b, tokens) ← sumPower e operand rounds idle tokens
      if b < 0 then e.fail "" "exponent less than 0" tokens
      let modulus : Nat := integerCount
      let rec raised : (bits : Nat) → (base exponent : Nat) → Nat
        | 0, _, _ => 1
        | bits + 1, base, exponent =>
          let half := raised bits (base * base % modulus) (exponent / 2)
          if exponent % 2 = 1 then half * base % modulus else half
      return (wrapped (raised 64 (a % (modulus : Int)).toNat b.toNat : Nat), tokens)
    | found => return found

/-- The operations by how closely they bind, loosest first. -/
def operationLevels : List (List Operation) := [
  [.bitOr], [.bitXor], [.bitAnd], [.equal, .unequal], [.atMost, .atLeast, .less, .greater],
  [.shiftLeft, .shiftRight], [.plus, .minus], [.times, .quotient, .remainder]]

/-- Goes on with the operations of a level behind a value, in at most so many `rounds`. -/
def furtherOperations (e : SumText) (level : List Operation) (operand : SumReader)
    (idle : Bool) : (rounds : Nat) → Int × List SumToken → Sh (Int × List SumToken)
  | rounds + 1, (a, ⟨.operation o, cs⟩ :: tokens) => do
    if !level.contains o then return (a, ⟨.operation o, cs⟩ :: tokens)
    let (b, behind) ← operand idle tokens
    let value ← if idle then pure b else e.combine o a b tokens
    furtherOperations e level operand idle rounds (value, behind)
  | _, found => return found

/-- Operands with operations of some levels between them. -/
def sumOperations (e : SumText) (levels : List (List Operation)) (operand : SumReader) :
    SumReader :=
  levels.foldr (fun level operand idle tokens => do
    furtherOperations e level operand idle tokens.length (← operand idle tokens)) operand

/-- A conjunction of at most so many `rounds`. -/
def sumConjunction (operand : SumReader) : (rounds : Nat) → SumReader
  | 0, idle, tokens => operand idle tokens
  | rounds + 1, idle, tokens => do
    match ← operand idle tokens with
    | (a, ⟨.and, _⟩ :: tokens) =>
      let (b, tokens) ← sumConjunction operand rounds (idle || a = 0) tokens
      return (truth (a ≠ 0 && b ≠ 0), tokens)
    | found => return found

/-- A disjunction of at most so many `rounds`. -/
def sumDisjunction (operand : SumReader) : (rounds : Nat) → SumReader
  | 0, idle, tokens => operand idle tokens
  | rounds + 1, idle, tokens => do
    match ← operand idle tokens with
    | (a, ⟨.or, _⟩ :: tokens) =>
      let (b, tokens) ← sumDisjunction operand rounds (idle || a ≠ 0) tokens
      return (truth (a ≠ 0 || b ≠ 0), tokens)
    | found => return found

/-- A choice between two values, of which the second may be another choice. -/
def sumChoice (e : SumText) (inner condition : SumReader) : (rounds : Nat) → SumReader
  | 0, idle, tokens => condition idle tokens
  | rounds + 1, idle, tokens => do
    match ← condition idle tokens with
    | (a, ⟨.question, _⟩ :: tokens) =>
      match ← inner (idle || a = 0) tokens with
      | (b, ⟨.colon, _⟩ :: tokens) =>
        let (c, tokens) ← sumChoice e inner condition rounds (idle || a ≠ 0) tokens
        return (if a ≠ 0 then b else c, tokens)
      | (_, tokens) =>
        e.fail "expecting ':'" "\x60:' expected for conditional expression" tokens
    | found => return found

/-- Expressions one behind another, of which the last one counts. -/
def sumCommas (expression : SumReader) : (rounds : Nat) → SumReader
  | 0, idle, tokens => expression idle tokens
  | rounds + 1, idle, tokens => do
    match ← expression idle tokens with
    | (_, ⟨.comma, _⟩ :: tokens) => sumCommas expression rounds idle tokens
    | found => return found

/-- An expression, which may give a variable a value; they are nested at most `depth` deep. -/
def expressionWithin (e : SumText) (text : TextSum) : (depth : Nat) → SumReader
  | 0, _, tokens => e.fail "expecting primary" "expression recursion level exceeded" tokens
  | depth + 1, idle, tokens => do
    let inner := expressionWithin e text depth
    match tokens with
    | ⟨.name target index?, _⟩ :: ⟨.assign o?, _⟩ :: tokens =>
      let (value, behind) ← inner idle tokens
      if idle then return (value, behind)
      let result ← match o? with
        | some o => e.combine o (← integerOf text target index?) value tokens
        | none => pure value
      storeInteger text target index? result
      return (result, behind)
    | tokens =>
      let within := sumCommas inner depth
      let operand := sumPower e (sumOperand e text within (depth + 1)) depth
      let operations := sumOperations e operationLevels operand
      sumChoice e within (sumDisjunction (sumConjunction operations depth) depth) depth idle tokens

/-- The value of an expression. Values of variables are themselves computed, at most `depth` of them
one within another. -/
def evaluateWithin : (depth : Nat) → TextSum
  | 0, e => e.fail "" "expression recursion level exceeded" []
  | depth + 1, e => do
    let extended ← isExtended
    let tokens := sumTokens extended (e.text.length + 1) [] e.text.toList
    if extended && tokens.length = 1 then
      match tokens with
      | [⟨.finish, _⟩] => return 0
      | _ => pure ()
    let expression := expressionWithin e (evaluateWithin depth) (tokens.length + 1)
    match ← sumCommas expression tokens.length false tokens with
    | (n, [⟨.finish, _⟩]) => return n
    | (_, tokens) =>
      match tokens.head? with
      | some ⟨.assign _, _⟩ =>
        e.fail "expecting EOF" "attempted assignment to non-variable" tokens
      | _ => e.fail "expecting EOF" "syntax error in expression" tokens

/-- How many values of variables may be computed one within another. -/
def greatestSumDepth : Nat := 1024

/-- The value of an expression. -/
def evaluateSum (e : SumText) : Sh Int := evaluateWithin greatestSumDepth e

/-- The value of the expression with a given text. -/
def evaluateText (text : String) : Sh Int := evaluateSum { text }

end Buildwright.Sandbox.Shell
