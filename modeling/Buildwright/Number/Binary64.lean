/-!
# Binary floating point

The numbers of the 64-bit binary format as exact values `± m · 2 ^ e`. A decimal is read to the
nearest of them (a tie goes to the even mantissa), and a number is written with the fewest
decimal digits that read back as the same number: positionally and with at least one digit
behind the point, or with an exponent if it is far from one. All arithmetic is on natural numbers.
-/

namespace Buildwright

/-- A number of the 64-bit binary format. -/
inductive Binary64 where
  /-- The value `± mantissa · 2 ^ exponent`. -/
  | finite (negative : Bool) (mantissa : Nat) (exponent : Int)
  | infinite (negative : Bool)
  | nan
  deriving Repr, DecidableEq

namespace Binary64

/-- Mantissas are below this bound. -/
def mantissaBound : Nat := Nat.pow 2 53

/-- The exponent of the smallest numbers. -/
def minExponent : Int := -1074

/-- The exponent of the greatest numbers. -/
def maxExponent : Int := 971

/-- The fraction `numerator / denominator` rounded to a whole number, a half to the even one. -/
def roundDiv (numerator denominator : Nat) : Nat :=
  let quotient := numerator / denominator
  let twice := 2 * (numerator % denominator)
  if twice < denominator then quotient
  else if denominator < twice then quotient + 1
  else quotient + quotient % 2

/-- The fraction `n · b ^ e` as a numerator and a denominator. -/
def scaled (n base : Nat) (exponent : Int) : Nat × Nat :=
  if 0 ≤ exponent then (n * base.pow exponent.toNat, 1) else (n, base.pow (-exponent).toNat)

/-- How many decimal digits a number is written with. -/
def decimalLength (n : Nat) : Nat := (Nat.toDigits 10 n).length

/-! ### Reading -/

/-- The mantissa and the exponent of the number nearest to `numerator / denominator`, which is not
zero, among those with mantissas of so many bits and with no exponent below `least`. -/
def nearest (bits : Nat) (least : Int) (numerator denominator : Nat) : Nat × Int :=
  let magnitude : Int := (numerator.log2 : Int) - (denominator.log2 : Int)
  let least := max (magnitude - bits) least
  let bound := Nat.pow 2 bits
  let ratioAt (e : Int) : Nat × Nat :=
    let (n, d) := scaled 1 2 (-e)
    (numerator * n, denominator * d)
  let (n, d) := ratioAt least
  let exponent := if bound ≤ n / d then least + 1 else least
  let (n, d) := ratioAt exponent
  let mantissa := roundDiv n d
  if mantissa = bound then (mantissa / 2, exponent + 1) else (mantissa, exponent)

/-- The nearest number to `numerator / denominator`, which is not zero. -/
def ofRatio (negative : Bool) (numerator denominator : Nat) : Binary64 :=
  let (mantissa, exponent) := nearest 53 minExponent numerator denominator
  if maxExponent < exponent then infinite negative else finite negative mantissa exponent

/-- The nearest number to `± digits · 10 ^ exponent`. Decimals far outside the range of the
format are settled by their magnitude alone. -/
def ofDecimal (negative : Bool) (digits : Nat) (exponent : Int) : Binary64 :=
  let magnitude : Int := exponent + decimalLength digits
  if digits = 0 ∨ magnitude < -330 then finite negative 0 minExponent
  else if 310 < magnitude then infinite negative
  else
    let (n, d) := scaled digits 10 exponent
    ofRatio negative n d

/-- The number with the given bits: a sign, eleven bits for the exponent and the rest of the
mantissa, whose first bit stands there only in the smallest numbers. -/
def ofBits (bits : UInt64) : Binary64 :=
  let negative := mantissaBound * 1024 ≤ bits.toNat
  let exponent := bits.toNat / (mantissaBound / 2) % 2048
  let mantissa := bits.toNat % (mantissaBound / 2)
  if exponent = 2047 then if mantissa = 0 then infinite negative else nan
  else if exponent = 0 then finite negative mantissa minExponent
  else finite negative (mantissaBound / 2 + mantissa) (minExponent + exponent - 1)

/-! ### Writing -/

/-- How numbers are written. -/
structure Form where
  /-- Whether of two decimals that are equally near the one with the even last digit is written, and
  not the greater one. -/
  tiesToEven : Bool
  /-- Whether a number that is far from one gets an exponent. -/
  scientific : Bool

/-- The form of numbers in a manifest. -/
def Form.positional : Form := { tiesToEven := false, scientific := false }

/-- The form of numbers in JSON. -/
def Form.short : Form := { tiesToEven := true, scientific := true }

/-- The greatest `k` with `10 ^ k ≤ numerator / denominator`. -/
def decimalMagnitude (numerator denominator : Nat) : Int :=
  if denominator ≤ numerator then (decimalLength (numerator / denominator) : Int) - 1
  else -(decimalLength ((denominator + numerator - 1) / numerator - 1) : Int)

/-- Looks for a decimal of `count` digits among the two neighbours of `m · 2 ^ e` on the grid of
such decimals: one that reads back as that number, the nearer of two, and of two that are equally
near the greater or the even one. A neighbour with one digit more is a power of ten and loses a
zero. -/
def decimalOf? (tiesToEven : Bool) (mantissa : Nat) (exponent : Int) (count : Nat) :
    Option (Nat × Int) :=
  let half := 4 * mantissa
  let below := if mantissa = mantissaBound / 2 ∧ exponent ≠ minExponent then 1 else 2
  let (value, unit) := scaled half 2 (exponent - 2)
  let (low, _) := scaled (half - below) 2 (exponent - 2)
  let (high, _) := scaled (half + 2) 2 (exponent - 2)
  let power := decimalMagnitude value unit - (count : Int) + 1
  let (ten, one) := scaled 1 10 power
  let step := unit * ten
  let lower := value * one / step
  let inside (digits : Nat) : Bool :=
    let point := digits * step
    if mantissa % 2 = 0 then low * one ≤ point && point ≤ high * one
    else low * one < point && point < high * one
  let twice := 2 * (value * one - lower * step)
  let upperIsNearer := step < twice || (step = twice && !(tiesToEven && lower % 2 = 0))
  let upper :=
    if lower + 1 = Nat.pow 10 count then (Nat.pow 10 (count - 1), power + 1) else (lower + 1, power)
  match inside lower, inside (lower + 1) with
  | true, true => some (if upperIsNearer then upper else (lower, power))
  | true, false => some (lower, power)
  | false, true => some upper
  | false, false => none

/-- The shortest decimal that reads back as `m · 2 ^ e`; seventeen digits always do. -/
def shortestDecimal (tiesToEven : Bool) (mantissa : Nat) (exponent : Int) : Nat × Int :=
  ((List.range 17).findSome? fun n =>
    decimalOf? tiesToEven mantissa exponent (n + 1)).getD (mantissa, 0)

/-- The decimal `digits · 10 ^ power` in positional form, with at least one digit on either side
of the point. -/
def positional (digits : Nat) (power : Int) : List Char :=
  let text := Nat.toDigits 10 digits
  if 0 ≤ power then text ++ List.replicate power.toNat '0' ++ ['.', '0']
  else
    let places := (-power).toNat
    if places < text.length then
      text.take (text.length - places) ++ '.' :: text.drop (text.length - places)
    else ['0', '.'] ++ List.replicate (places - text.length) '0' ++ text

/-- The decimal `digits · 10 ^ power` with one digit before the point and the exponent that goes
with it. -/
def scientific (digits : Nat) (power : Int) : List Char :=
  let text := Nat.toDigits 10 digits
  let exponent := power + (text.length - 1 : Nat)
  let fraction := text.drop 1
  text.take 1 ++ (if fraction = [] then [] else '.' :: fraction) ++
    ['e', if exponent < 0 then '-' else '+'] ++ Nat.toDigits 10 exponent.natAbs

/-- Whether the decimal `digits · 10 ^ power` is not zero, and either less than `10 ^ -5` or not
less than `10 ^ 16`. -/
def isFarFromOne (digits : Nat) (power : Int) : Bool :=
  let exponent := power + decimalLength digits
  digits ≠ 0 && (exponent < -4 || 16 < exponent)

/-- The text of a number in some form. -/
def textIn (form : Form) : Binary64 → String
  | finite negative mantissa exponent =>
    let sign := if negative then ['-'] else []
    let (digits, power) :=
      if mantissa = 0 then (0, 0) else shortestDecimal form.tiesToEven mantissa exponent
    String.ofList (sign ++ if form.scientific && isFarFromOne digits power then
      scientific digits power else positional digits power)
  | infinite negative => if negative then "-inf" else "inf"
  | nan => "NaN"

end Binary64

end Buildwright
