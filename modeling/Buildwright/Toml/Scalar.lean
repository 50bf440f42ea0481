import Buildwright.Data
import Buildwright.Text.Parts

/-!
# Scalars without quotes

The numbers, truth values and moments of a TOML document. None of them contains a blank, with one
exception: a date and a time of day may be separated by one. Each is therefore cut out of the
document as a whole and then recognised or refused here.
-/

namespace Buildwright.Toml

open Buildwright.Text

/-! ### Digits -/

/-- The number that a run of digits denotes in a base. -/
def numeral (base : Nat) (digits : List Char) : Nat :=
  digits.foldl (fun n c => n * base + (if c.isDigit then c.toNat - '0'.toNat
    else if 'a' ≤ c then c.toNat - 'a'.toNat + 10 else c.toNat - 'A'.toNat + 10)) 0

/-- Whether a character is a hexadecimal digit. -/
def isHexDigit (c : Char) : Bool :=
  c.isDigit || ('a' ≤ c && c ≤ 'f') || ('A' ≤ c && c ≤ 'F')

/-- The digits of a run in which single underscores may stand between digits. -/
def digitRun? (isDigit : Char → Bool) (cs : List Char) : Option (List Char) :=
  let groups := split '_' cs
  if groups.all fun group => group ≠ [] && group.all isDigit then some groups.flatten else none

/-- A decimal run without a leading zero, unless it is a single zero. -/
def decimalRun? (cs : List Char) : Option (List Char) :=
  (digitRun? Char.isDigit cs).filter fun digits => digits.length = 1 || digits.head? ≠ some '0'

/-- A leading sign, as whether it is a minus, and the characters after it. -/
def unsigned : List Char → Bool × List Char
  | '+' :: cs => (false, cs)
  | '-' :: cs => (true, cs)
  | cs => (false, cs)

/-! ### Integers -/

/-- An integer of 64 bits. -/
def inRange? (n : Int) : Option Int :=
  if Int64.minValue.toInt ≤ n ∧ n ≤ Int64.maxValue.toInt then some n else none

/-- A decimal integer with an optional sign, or a hexadecimal, octal or binary one without. -/
def integer? : List Char → Option Int
  | '0' :: 'x' :: cs => (digitRun? isHexDigit cs).bind fun ds => inRange? (numeral 16 ds)
  | '0' :: 'o' :: cs =>
    (digitRun? (fun c => '0' ≤ c && c ≤ '7') cs).bind fun ds => inRange? (numeral 8 ds)
  | '0' :: 'b' :: cs =>
    (digitRun? (fun c => c = '0' || c = '1') cs).bind fun ds => inRange? (numeral 2 ds)
  | cs =>
    let (negative, cs) := unsigned cs
    (decimalRun? cs).bind fun ds =>
      inRange? (if negative then -(numeral 10 ds : Int) else numeral 10 ds)

/-! ### Floating point -/

/-- The exponent behind `e` or `E`. -/
def exponent? (cs : List Char) : Option Int :=
  let (negative, cs) := unsigned cs
  (digitRun? Char.isDigit cs).map fun ds =>
    if negative then -(numeral 10 ds : Int) else numeral 10 ds

/-- A decimal with a fraction, an exponent or both. One that lies beyond the greatest number is
refused, though not one that lies below the least. -/
def decimal? (cs : List Char) : Option Binary64 := do
  let (negative, cs) := unsigned cs
  let isMark (c : Char) : Bool := c = 'e' || c = 'E'
  let mantissa := cs.takeWhile (!isMark ·)
  let power := cs.dropWhile (!isMark ·)
  let whole := mantissa.takeWhile (· ≠ '.')
  let fraction := mantissa.dropWhile (· ≠ '.')
  if power = [] ∧ fraction = [] then none
  let wholeDigits ← decimalRun? whole
  let fractionDigits ← if fraction = [] then some [] else digitRun? Char.isDigit fraction.tail
  let exponent ← if power = [] then some 0 else exponent? power.tail
  let x := Binary64.ofDecimal negative (numeral 10 (wholeDigits ++ fractionDigits))
    (exponent - fractionDigits.length)
  if x = .infinite false then none else some x

/-- A number with a point or an exponent, or one of the words `inf` and `nan`. -/
def float? (cs : List Char) : Option Binary64 :=
  let (negative, word) := unsigned cs
  if word = ['i', 'n', 'f'] then some (.infinite negative)
  else if word = ['n', 'a', 'n'] then some .nan
  else decimal? cs

/-! ### Moments -/

/-- Two digits that denote a number between two bounds. -/
def twoDigits? (least greatest : Nat) (a b : Char) : Option Nat :=
  if a.isDigit && b.isDigit && least ≤ numeral 10 [a, b] && numeral 10 [a, b] ≤ greatest then
    some (numeral 10 [a, b])
  else none

/-- The number of days of a month. -/
def daysIn (year month : Nat) : Nat :=
  if month = 2 then
    if year % 4 = 0 ∧ (year % 100 ≠ 0 ∨ year % 400 = 0) then 29 else 28
  else if month = 4 ∨ month = 6 ∨ month = 9 ∨ month = 11 then 30
  else 31

/-- A date at the front, and what follows it. -/
def date? : List Char → Option (List Char)
  | y₁ :: y₂ :: y₃ :: y₄ :: '-' :: m₁ :: m₂ :: '-' :: d₁ :: d₂ :: rest => do
    guard ([y₁, y₂, y₃, y₄].all Char.isDigit)
    let month ← twoDigits? 1 12 m₁ m₂
    let _ ← twoDigits? 1 (daysIn (numeral 10 [y₁, y₂, y₃, y₄]) month) d₁ d₂
    some rest
  | _ => none

/-- A time of day at the front, with a fraction of a second or without, and what follows it. -/
def time? : List Char → Option (List Char)
  | h₁ :: h₂ :: ':' :: m₁ :: m₂ :: ':' :: s₁ :: s₂ :: rest => do
    let _ ← twoDigits? 0 23 h₁ h₂
    let _ ← twoDigits? 0 59 m₁ m₂
    let _ ← twoDigits? 0 60 s₁ s₂
    match rest with
    | '.' :: fraction =>
      if fraction.head?.any Char.isDigit then some (fraction.dropWhile Char.isDigit) else none
    | rest => some rest
  | _ => none

/-- Whether a text is an offset from universal time. -/
def isOffset : List Char → Bool
  | ['Z'] | ['z'] => true
  | [sign, h₁, h₂, ':', m₁, m₂] =>
    (sign = '+' || sign = '-') && (twoDigits? 0 23 h₁ h₂).isSome && (twoDigits? 0 59 m₁ m₂).isSome
  | _ => false

/-- Whether a text is the part of a moment that follows the date: a time of day, perhaps with an
offset. -/
def isClock (cs : List Char) : Bool :=
  (time? cs).any fun rest => rest = [] || isOffset rest

/-- Whether a text is a date alone. -/
def isDate (cs : List Char) : Bool := date? cs = some []

/-- Whether a text is a date, a time of day, or both with a `T` between them. -/
def isMoment (cs : List Char) : Bool :=
  time? cs = some [] ||
    match date? cs with
    | some [] => true
    | some (mark :: rest) => (mark = 'T' || mark = 't') && isClock rest
    | none => false

/-- Whether a text between quotes states a moment. It does so like a word, except that a blank may
stand for the `T`. -/
def statesMoment (cs : List Char) : Bool :=
  isMoment cs ||
    match date? cs with
    | some (' ' :: rest) => isClock rest
    | _ => false

/-! ### Words -/

/-- Whether a character may stand in a scalar without quotes. -/
def isWordChar (c : Char) : Bool :=
  c.isAlphanum || c = '+' || c = '-' || c = '_' || c = '.' || c = ':'

/-- The scalar that a word denotes. -/
def scalar? (word : List Char) : Option Data :=
  if word = "true".toList then some (.boolean true)
  else if word = "false".toList then some (.boolean false)
  else if isMoment word then some (.moment (String.ofList word))
  else ((float? word).map Data.float).or ((integer? word).map Data.integer)

end Buildwright.Toml
