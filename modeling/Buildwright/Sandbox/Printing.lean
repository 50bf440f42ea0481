import Buildwright.Sandbox.Digits
import Buildwright.Sandbox.Octets

/-!
# Printing

What `echo` prints. A backslash begins an escape: a letter, or a byte in octal or hexadecimal
digits. The two shells and the program know different ones. A backslash that begins no escape stands
for itself.
-/

namespace Buildwright.Sandbox

open Text (Reader)
open Text.Reader

/-- Who prints. -/
inductive Printer where
  | program
  | plainShell
  | extendedShell
  deriving DecidableEq

/-! ### Escapes -/

/-- What a letter behind a backslash stands for. -/
def escapedLetter? : Char → Option Char
  | 'a' => some '\x07'
  | 'b' => some '\x08'
  | 't' => some '\t'
  | 'n' => some '\n'
  | 'v' => some '\x0b'
  | 'f' => some '\x0c'
  | 'r' => some '\r'
  | 'e' => some '\x1b'
  | '\\' => some '\\'
  | _ => none

/-- The byte with a number. -/
def octetOf (n : Nat) : Char := Char.ofNat (n % 256)

/-- One to so many digits of a base. -/
def fewDigits (base : Nat) : (most : Nat) → Reader Nat
  | 0 => fail
  | most + 1 => ((exactly (digitOf base) (most + 1)).map (numberOf base)).orElse (fewDigits base most)

/-- A byte in one to three octal digits. -/
def octalByte : Reader Char := (fewDigits 8 3).map octetOf

/-- A byte in one or two hexadecimal digits. -/
def hexByte : Reader Char := (fewDigits 16 2).map octetOf

/-- A letter behind a backslash that stands for something else. -/
def letterEscape : Reader Char := (char '\\').andThen (anyCharacter.filterMap escapedLetter?)

/-- A byte behind a backslash and `x`. -/
def hexEscape : Reader Char := (char '\\').andThen ((char 'x').andThen hexByte)

/-- A byte behind a backslash, in octal digits. -/
def octalEscape : Reader Char := (char '\\').andThen octalByte

/-- A byte behind a backslash and a zero, in octal digits. -/
def zeroEscape : Reader Char := (char '\\').andThen ((char '0').andThen octalByte)

/-- A character by its number in hexadecimal digits, as UTF-8. -/
def unicodeEscape : Reader String :=
  let letter (c : Char) (most : Nat) : Reader String :=
    (char '\\').andThen ((char c).andThen ((fewDigits 16 most).map fun n =>
      octetsOfUnicode (String.singleton (Char.ofNat n))))
  (letter 'u' 4).orElse (letter 'U' 8)

/-- A character that stands for itself. -/
def ownText : Reader String := anyCharacter.map String.singleton

/-- The escapes that somebody knows in what is echoed. -/
def echoEscape : Printer → Reader String
  | .program => (zeroEscape.orElse (letterEscape.orElse (octalEscape.orElse hexEscape))).map
      String.singleton
  | .plainShell => (zeroEscape.orElse (letterEscape.orElse octalEscape)).map String.singleton
  | .extendedShell =>
    let capital := ((char '\\').andThen (char 'E')).map fun _ => '\x1b'
    let zero := ((char '\\').andThen (char '0')).map fun _ => '\x00'
    ((zeroEscape.orElse (letterEscape.orElse (capital.orElse (hexEscape.orElse zero)))).map
      String.singleton).orElse unicodeEscape

/-! ### Echoes -/

/-- A text in which escapes count, up to an escape `\c`, and whether there is none. -/
def unescaped (printer : Printer) (text : String) : String × Bool :=
  let ending : Reader (Option String) := ((char '\\').andThen (char 'c')).map fun _ => none
  let part := ending.orElse (((echoEscape printer).orElse ownText).map some)
  let parts := (many part text.toList).1
  (String.join ((parts.takeWhile Option.isSome).map fun part => part.getD ""),
    parts.all Option.isSome)

/-- Texts with blanks between them, and perhaps a line end. -/
def echoed (printer : Printer) (escapes newline : Bool) (texts : List String) : String :=
  let text := " ".intercalate texts
  let ending := if newline then "\n" else ""
  if escapes && text.contains '\\' then
    let (text, isWhole) := unescaped printer text
    text ++ if isWhole then ending else ""
  else text ++ ending

/-- The letters of the options of `echo`, and the texts behind them. -/
def echoOptions : List String → List Char × List String
  | [] => ([], [])
  | text :: texts =>
    match text.toList with
    | '-' :: c :: cs =>
      if (c :: cs).all fun c => c = 'n' || c = 'e' || c = 'E' then
        let (letters, texts) := echoOptions texts
        (c :: cs ++ letters, texts)
      else ([], text :: texts)
    | _ => ([], text :: texts)

/-- What `echo` prints. In the plain shell escapes count always; elsewhere they do behind `-e`,
unless `-E` comes later. The line end is left out behind `-n`. -/
def echoText : Printer → (args : List String) → String
  | .plainShell, "-n" :: texts => echoed .plainShell true false texts
  | .plainShell, texts => echoed .plainShell true true texts
  | printer, args =>
    let (letters, texts) := echoOptions args
    let escapes := (letters.filter (· ≠ 'n')).getLast? = some 'e'
    echoed printer escapes (!letters.contains 'n') texts

end Buildwright.Sandbox
