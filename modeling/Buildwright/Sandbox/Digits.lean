import Buildwright.Text.Reader

/-!
# Digits

How texts stand for integers, and the integers of 64 bits with which the programs of the sandbox
compute.
-/

namespace Buildwright.Sandbox

open Text (Reader)
open Text.Reader

/-! ### Digits -/

/-- The value of a digit, of which letters are digits above nine. -/
def digitValue (c : Char) : Nat :=
  if c.isDigit then c.toNat - '0'.toNat
  else if 'a' ≤ c && c ≤ 'z' then c.toNat - 'a'.toNat + 10
  else if 'A' ≤ c && c ≤ 'Z' then c.toNat - 'A'.toNat + 10
  else 36

/-- A digit in a base. -/
def digitOf (base : Nat) : Reader Char := satisfy fun c => digitValue c < base

/-- The number that digits stand for. -/
def numberOf (base : Nat) (digits : List Char) : Nat :=
  digits.foldl (fun n c => base * n + digitValue c) 0

/-- The number that a text of decimal digits stands for. -/
def naturalOf? (text : String) : Option Nat :=
  if text ≠ "" && text.all Char.isDigit then some (numberOf 10 text.toList) else none

/-- Any character. -/
def anyCharacter : Reader Char := satisfy fun _ => true

/-- A character that stands between words. -/
def isSpacing (c : Char) : Bool := c = ' ' || ('\t' ≤ c && c ≤ '\r')

/-! ### Integers -/

/-- The number of integers of 64 bits. -/
def integerCount : Nat := 18446744073709551616

/-- The number of integers of 32 bits. -/
def shortCount : Nat := 4294967296

/-- The integer of 64 bits that differs from a number by a multiple of their count. -/
def wrapped (n : Int) : Int := Int.bmod n integerCount

/-- The least integer of 64 bits. -/
def leastInteger : Int := -9223372036854775808

/-- The greatest integer of 64 bits. -/
def greatestInteger : Int := 9223372036854775807

/-- An integer of 64 bits: the nearest to a number. -/
def clamped (n : Int) : Int := max leastInteger (min greatestInteger n)

/-- The digits of a number without a sign: decimal, octal behind a zero, or hexadecimal behind `0x`.
-/
def unsignedNumber : Reader Nat :=
  let hexadecimal := (char '0').andThen (((char 'x').orElse (char 'X')).andThen
    ((many1 (digitOf 16)).map (numberOf 16)))
  let octal := (thenMany (char '0') (digitOf 8)).map fun (_, ds) => numberOf 8 ds
  hexadecimal.orElse (octal.orElse ((many1 (digitOf 10)).map (numberOf 10)))

/-- A number with a sign or without one, behind blanks. -/
def signedWith (unsigned : Reader Nat) : Reader Int :=
  let positive := unsigned.map fun (n : Nat) => (n : Int)
  let negative := ((char '-').andThen unsigned).map fun (n : Nat) => -(n : Int)
  skipBefore (skipMany (satisfy isSpacing))
    (negative.orElse (((char '+').andThen positive).orElse positive))

/-- A number in any of the three forms, with a sign or without one, behind blanks. -/
def signedNumber : Reader Int := signedWith unsignedNumber

/-- The decimal integer that a text is, with blanks around it. -/
def decimalInteger? (text : String) : Option Int :=
  let number := signedWith ((many1 (digitOf 10)).map (numberOf 10))
  (number.skipAfter (skipMany (satisfy isSpacing))).all? text.toList

end Buildwright.Sandbox
