import Buildwright.Sandbox.Program.Source
import Buildwright.Sandbox.Regular

/-!
# Values of arguments

The program whose arguments are the operands and operators of an expression, of which it prints the
value. Operators are integers of any size, texts, and searches in texts. It fails where the value is
empty or zero.
-/

namespace Buildwright.Sandbox.Program

/-! ### Values -/

/-- The operators by how closely they bind, loosest first. -/
def operatorLevels : List (List String) :=
  [["|"], ["&"], ["<", "<=", "=", "==", "!=", ">=", ">"], ["+", "-"], ["*", "/", "%"], [":"]]

/-- Why there is no value. -/
inductive ValueFault where
  | missing (before : String)
  | unexpected (arg : String)
  | unclosed (before : String)
  | notClosing (arg : String)
  | closing
  | noInteger
  | divisionByZero
  | expression (fault : RegularFault)

/-- What is said where there is no value. -/
def ValueFault.message : ValueFault → String
  | missing before => "syntax error: missing argument after " ++ quotedWord before
  | unexpected arg => "syntax error: unexpected argument " ++ quotedWord arg
  | unclosed before => "syntax error: expecting ')' after " ++ quotedWord before
  | notClosing arg => "syntax error: expecting ')' instead of " ++ quotedWord arg
  | closing => "syntax error: unexpected ')'"
  | noInteger => "non-integer argument"
  | divisionByZero => "division by zero"
  | expression fault => fault.message

/-- The integer that a value is. -/
def integerIn? (text : String) : Option Int :=
  match text.toList with
  | '-' :: cs => (naturalOf? (String.ofList cs)).map fun n => -(n : Int)
  | _ => (naturalOf? text).map fun n => (n : Int)

/-- Whether a value counts as nothing. -/
def isNothing (text : String) : Bool := text = "" || integerIn? text = some 0

/-- Compares two values, as integers if they are some. -/
def comparedValues (operator a b : String) : Bool :=
  let order := match integerIn? a, integerIn? b with
    | some m, some n => compare m n
    | _, _ => compare a b
  match operator with
  | "<" => order = .lt
  | "<=" => order ≠ .gt
  | ">" => order = .gt
  | ">=" => order ≠ .lt
  | "!=" => order ≠ .eq
  | _ => order = .eq

/-- Computes with two integers. -/
def computedValue (operator : String) (a b : Int) : Except ValueFault Int :=
  match operator with
  | "+" => .ok (a + b)
  | "-" => .ok (a - b)
  | "*" => .ok (a * b)
  | "/" => if b = 0 then .error .divisionByZero else .ok (a.tdiv b)
  | _ => if b = 0 then .error .divisionByZero else .ok (a.tmod b)

/-- The front of a text that fits an expression: the text of its first group, or its length if there
are no groups. -/
def fittingFront (text pattern : String) : Except ValueFault String :=
  match Expression.ofText {} pattern.toList with
  | .error fault => .error (.expression fault)
  | .ok e =>
    let found? := e.regular.atStart? text.toList
    if 0 < e.groups then .ok (String.ofList ((found?.bind (·.group? 1)).getD []))
    else .ok (toString ((found?.map (·.text.length)).getD 0))

/-- The value of an operator between two values. -/
def operatedValue (operator a b : String) : Except ValueFault String :=
  match operator with
  | "|" => .ok (if !isNothing a then a else if isNothing b then "0" else b)
  | "&" => .ok (if isNothing a || isNothing b then "0" else a)
  | ":" => fittingFront a b
  | _ =>
    if ["+", "-", "*", "/", "%"].contains operator then
      match integerIn? a, integerIn? b with
      | some m, some n => (computedValue operator m n).map fun n => toString n
      | _, _ => .error .noInteger
    else .ok (if comparedValues operator a b then "1" else "0")

/-- The part of a text from a position, counted from one, with a length. -/
def partOfValue (text position length : String) : String :=
  match integerIn? position, integerIn? length with
  | some first, some count =>
    if first ≤ 0 then ""
    else String.ofList ((text.toList.drop (first.toNat - 1)).take count.toNat)
  | _, _ => ""

/-- The position of the first character that is one of some, counted from one. -/
def firstPosition (text characters : String) : Nat :=
  let front := text.toList.takeWhile (!characters.toList.contains ·)
  if front.length = text.length then 0 else front.length + 1

/-! ### Reading -/

/-- The arguments that are left, and the one before them. -/
structure ArgumentsLeft where
  before : String
  args : List String

/-- A value with the arguments behind it. -/
abbrev Valued := Except ValueFault (String × ArgumentsLeft)

/-- The words of functions, with the number of their operands. -/
def valueFunctions : List (String × Nat) := [("length", 1), ("match", 2), ("index", 2), ("substr", 3)]

/-- The value of a function. -/
def functionValue (evaluates : Bool) (name : String) (values : List String) :
    Except ValueFault String :=
  match name, values with
  | "length", [text] => .ok (toString text.length)
  | "match", [text, pattern] => if evaluates then fittingFront text pattern else .ok text
  | "index", [text, characters] => .ok (toString (firstPosition text characters))
  | "substr", [text, position, length] => .ok (partOfValue text position length)
  | _, _ => .ok ""

/-- The value at the front of arguments: an operand, or operands with the operators of a level
between them. Past all levels there is an operand. -/
def valueAt (evaluates : Bool) : (fuel : Nat) → (levels : List (List String)) → ArgumentsLeft → Valued
  | 0, _, s => .error (.missing s.before)
  | fuel + 1, [], s =>
    match s.args with
    | [] => .error (.missing s.before)
    | "+" :: rest =>
      match rest with
      | [] => .error (.missing "+")
      | arg :: rest => .ok (arg, ⟨arg, rest⟩)
    | "(" :: rest => do
      let (value, s) ← valueAt evaluates fuel operatorLevels ⟨"(", rest⟩
      match s.args with
      | [] => .error (.unclosed s.before)
      | ")" :: rest => .ok (value, ⟨")", rest⟩)
      | arg :: _ => .error (.notClosing arg)
    | ")" :: _ => .error .closing
    | arg :: rest =>
      match valueFunctions.lookup arg with
      | none => .ok (arg, ⟨arg, rest⟩)
      | some count => do
        let (values, s) ← operands evaluates fuel count ⟨arg, rest⟩
        return (← functionValue evaluates arg values, s)
  | fuel + 1, operators :: levels, s => do
    let (value, s) ← valueAt evaluates fuel levels s
    further evaluates fuel operators levels value s
where
  /-- Operands of a function. -/
  operands (evaluates : Bool) : (fuel count : Nat) → ArgumentsLeft →
      Except ValueFault (List String × ArgumentsLeft)
    | _, 0, s => .ok ([], s)
    | 0, _, s => .error (.missing s.before)
    | fuel + 1, count + 1, s => do
      let (value, s) ← valueAt evaluates fuel [] s
      let (values, s) ← operands evaluates fuel count s
      return (value :: values, s)
  /-- The value of further operators of a level behind a value. -/
  further (evaluates : Bool) : (fuel : Nat) → (operators : List String) →
      (levels : List (List String)) → (value : String) → ArgumentsLeft → Valued
    | 0, _, _, value, s => .ok (value, s)
    | fuel + 1, operators, levels, value, s =>
      match s.args with
      | operator :: rest =>
        if !operators.contains operator then .ok (value, s)
        else do
          let needed := evaluates &&
            (if operator = "|" then isNothing value else operator ≠ "&" || !isNothing value)
          let (other, s) ← valueAt needed fuel levels ⟨operator, rest⟩
          let value ← if evaluates || operator = "|" || operator = "&" then
              operatedValue operator value other
            else pure value
          further evaluates fuel operators levels value s
      | [] => .ok (value, s)

/-- The value of arguments. -/
def valueOf (args : List String) : Except ValueFault String := do
  let (value, s) ← valueAt true (8 * args.length + 16) operatorLevels ⟨"", args⟩
  match s.args with
  | [] => return value
  | arg :: _ => .error (.unexpected arg)

/-- Prints the value of its arguments. -/
def printValue : Work Unit := do
  let args ← Work.arguments
  let args := if args.head? = some "--" then args.tail else args
  if args.isEmpty then missOperand 2
  match valueOf args with
  | .error fault => Work.abandon fault.message 2
  | .ok value =>
    Work.printLine value
    Work.setCode (if isNothing value then 1 else 0)

end Buildwright.Sandbox.Program
