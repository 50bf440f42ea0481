import Buildwright.Number.Binary64
import Buildwright.Sandbox.Digits

/-!
# Decimals

The numbers with a point that `printf` prints: how an argument stands for one, and its digits with
a fixed number of places, with an exponent or in hexadecimal. The program computes with longer
mantissas than the shell.
-/

namespace Buildwright.Sandbox

open Text (Reader)
open Text.Reader

/-! ### Numbers -/

/-- The numbers of a binary format: mantissas of so many bits, and exponents between bounds. -/
structure BinaryRange where
  bits : Nat
  leastExponent : Int
  greatestExponent : Int
  /-- How many bits of a mantissa stand before the point in hexadecimal. -/
  leadingBits : Nat

/-- What the program or the shell computes with. -/
def BinaryRange.of (forProgram : Bool) : BinaryRange :=
  if forProgram then ⟨64, -16445, 16320, 4⟩ else ⟨53, -1074, 971, 1⟩

/-- How great a number is. -/
inductive DecimalSize where
  /-- The value `mantissa · 2 ^ exponent`. -/
  | finite (mantissa : Nat) (exponent : Int)
  | infinite
  | nan
  deriving DecidableEq

/-- Whether a number is neither infinite nor a word for no number. -/
def DecimalSize.isFinite : DecimalSize → Bool
  | finite _ _ => true
  | _ => false

/-- A number with a sign. -/
structure Decimal where
  negative : Bool
  size : DecimalSize
  /-- Whether what it stands for is too great, or so small that some of it is lost. -/
  outOfRange : Bool := false

/-- A small natural number. -/
def Decimal.ofNat (n : Nat) : Decimal := { negative := false, size := .finite n 0 }

/-- The number nearest to `± n · base ^ exponent`, with a base of two or ten. Exponents far outside
of every range settle it by themselves. -/
def BinaryRange.decimal (range : BinaryRange) (negative : Bool) (n base : Nat) (exponent : Int) :
    Decimal :=
  let magnitude : Int := exponent + (Nat.toDigits base n).length
  if n = 0 || magnitude < -17000 then
    { negative, size := .finite 0 0, outOfRange := n ≠ 0 }
  else if 17000 < magnitude then { negative, size := .infinite, outOfRange := true }
  else
    let (numerator, denominator) := Binary64.scaled n base exponent
    let (mantissa, power) :=
      Binary64.nearest range.bits range.leastExponent numerator denominator
    let (up, down) := Binary64.scaled mantissa 2 power
    let isSmall := 2 * mantissa < Nat.pow 2 range.bits && numerator * down ≠ up * denominator
    if range.greatestExponent < power then { negative, size := .infinite, outOfRange := true }
    else { negative, size := .finite mantissa power, outOfRange := isSmall }

/-! ### Reading -/

/-- Digits of a base, perhaps with a point among them: the number that they stand for without it,
and how many are behind it. -/
def pointedDigits (base : Nat) : Reader (Nat × Nat) :=
  let digits := many1 (digitOf base)
  let value := fun (whole fraction : List Char) =>
    (numberOf base (whole ++ fraction), fraction.length)
  let fraction := (thenMany (char '.') (digitOf base)).map fun (_, ds) => ds
  (digits.bind fun whole => fraction.map (value whole)).orElse <|
    (digits.map fun whole => value whole []).orElse (((char '.').andThen digits).map (value []))

/-- The sign of a number. -/
def numberSign : Reader Char := satisfy fun c => c = '-' || c = '+'

/-- Digits, and the power behind them that a letter announces, or no power. -/
def withPower (letter : Char) (digits : Reader (Nat × Nat)) : Reader (Nat × Nat × Int) :=
  let power := (satisfy fun c => c.toLower = letter).andThen <|
    optionalThen numberSign fun sign? => (many1 (digitOf 10)).map fun ds =>
      if sign? = some '-' then -(numberOf 10 ds : Int) else numberOf 10 ds
  (digits.bind fun (n, places) => power.map fun power => (n, places, power)).orElse
    (digits.map fun (n, places) => (n, places, 0))

/-- A word in small or capital letters. -/
def wordOf (word : String) : Reader Unit :=
  (exactly anyCharacter word.length).filterMap fun cs =>
    if cs.map Char.toLower = word.toList then some () else none

/-- A decimal or hexadecimal number behind blanks, with a sign or without one, perhaps with a point
and a power, or a word for what is no such number. -/
def readDecimal (range : BinaryRange) : Reader Decimal :=
  skipBefore (skipMany (satisfy fun c => c = ' ' || ('\t' ≤ c && c ≤ '\r'))) <|
    optionalThen numberSign fun sign? =>
      let negative : Bool := sign? = some '-'
      let hexadecimal := (char '0').andThen <| ((char 'x').orElse (char 'X')).andThen <|
        (withPower 'p' (pointedDigits 16)).map fun (n, places, power) =>
          range.decimal negative n 2 (power - 4 * places)
      let decimal := (withPower 'e' (pointedDigits 10)).map fun (n, places, power) =>
        range.decimal negative n 10 (power - places)
      let infinite := ((wordOf "infinity").orElse (wordOf "inf")).map fun _ =>
        ({ negative, size := .infinite } : Decimal)
      hexadecimal.orElse <| decimal.orElse <| infinite.orElse <|
        (wordOf "nan").map fun _ => { negative, size := .nan }

/-! ### Digits -/

/-- Digits with so many of them behind a point, which is left out if there are none. -/
def withPoint (places : Nat) (alternate : Bool) (digits : List Char) : List Char :=
  let digits := List.replicate (places + 1 - digits.length) '0' ++ digits
  let (whole, fraction) := digits.splitAt (digits.length - places)
  if places = 0 && !alternate then whole else whole ++ '.' :: fraction

/-- The fraction `n / d` with so many places. -/
def fixedText (places : Nat) (alternate : Bool) (n d : Nat) : List Char :=
  withPoint places alternate (Nat.toDigits 10 (Binary64.roundDiv (n * Nat.pow 10 places) d))

/-- The digits of the fraction `n / d`, one and so many places behind it, and the exponent of the
first. -/
def exponentDigits (places : Nat) (n d : Nat) : Nat × Int :=
  if n = 0 then (0, 0)
  else
    let exponent := Binary64.decimalMagnitude n d
    let (up, down) := Binary64.scaled 1 10 ((places : Int) - exponent)
    let digits := Binary64.roundDiv (n * up) (d * down)
    if digits = Nat.pow 10 (places + 1) then (digits / 10, exponent + 1) else (digits, exponent)

/-- A number of digits with an exponent behind them. -/
def exponentText (places : Nat) (alternate : Bool) (digits : Nat) (exponent : Int) : List Char :=
  let power := Nat.toDigits 10 exponent.natAbs
  withPoint places alternate (Nat.toDigits 10 digits) ++
    ['e', if exponent < 0 then '-' else '+'] ++
    List.replicate (2 - power.length) '0' ++ power

/-- A decimal without zeros at the end of its places. -/
def withoutLastZeros (text : List Char) : List Char :=
  if !text.contains '.' then text
  else ((text.reverse.dropWhile (· = '0')).dropWhile (· = '.')).reverse

/-- The fraction `n / d` with so many digits that count: with an exponent if that is far from zero.
-/
def generalText (count : Nat) (alternate : Bool) (n d : Nat) : List Char :=
  let count := max count 1
  let (digits, exponent) := exponentDigits (count - 1) n d
  let trim := fun (text : List Char) => if alternate then text else withoutLastZeros text
  if exponent < -4 || (count : Int) ≤ exponent then
    let text := exponentText (count - 1) alternate digits exponent
    let front := text.takeWhile (· ≠ 'e')
    trim front ++ text.drop front.length
  else trim (fixedText ((count : Int) - 1 - exponent).toNat alternate n d)

/-- The hexadecimal digits of `m · 2 ^ e` behind `0x`, with so many places or with all that count,
and the power of two behind them. -/
def hexadecimalText (range : BinaryRange) (places? : Option Nat) (alternate : Bool)
    (m : Nat) (e : Int) : List Char :=
  let (m, e) := if m = 0 then (0, 0) else Binary64.nearest range.bits range.leastExponent
    (Binary64.scaled m 2 e).1 (Binary64.scaled m 2 e).2
  let allPlaces := (range.bits - range.leadingBits) / 4
  let power := if m = 0 then 0 else e + 4 * allPlaces
  let (places, digits) : Nat × Nat :=
    match places? with
    | some places =>
      if allPlaces ≤ places then (places, m * Nat.pow 16 (places - allPlaces))
      else (places, Binary64.roundDiv m (Nat.pow 16 (allPlaces - places)))
    | none => (allPlaces, m)
  let (digits, power) := if digits = Nat.pow 16 (places + 1) then (digits / 16, power + 4)
    else (digits, power)
  let text := withPoint places alternate (Nat.toDigits 16 digits)
  let shortened := withoutLastZeros text
  let text := if places?.isSome then text
    else if alternate && !shortened.contains '.' then shortened ++ ['.'] else shortened
  text ++ ['p', if power < 0 then '-' else '+'] ++ Nat.toDigits 10 power.natAbs

end Buildwright.Sandbox
