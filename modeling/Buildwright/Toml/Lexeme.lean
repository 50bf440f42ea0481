import Buildwright.Text.Reader
import Buildwright.Toml.Scalar

/-!
# Blanks, strings and keys

The parts of a TOML document that are the same wherever they stand: blanks, comments and line
ends, the four kinds of strings, and keys with their dots. A carriage return counts only before a
line feed, and controls other than the tab stand nowhere.
-/

namespace Buildwright.Toml

open Buildwright.Text Buildwright.Text.Reader

/-! ### Blanks -/

/-- Whether a character may stand in a comment: no control but the tab. -/
def isPrintable (c : Char) : Bool := c = '\t' || (0x20 ≤ c.toNat && c.toNat ≠ 0x7F)

/-- A blank or a tab. -/
def blank : Reader Char := satisfy fun c => c = ' ' || c = '\t'

/-- A line end. -/
def lineEnd : Reader Char := (char '\n').orElse ((char '\r').andThen (char '\n'))

/-- A comment, up to the end of its line. -/
def comment : Reader Char := (char '#').skipAfter (skipMany (satisfy isPrintable))

/-- Passes over blanks and tabs. -/
def blanks : Skipper := skipMany blank

/-- Passes over blanks, comments and line ends. -/
def spacing : Skipper := skipMany (blank.orElse (lineEnd.orElse comment))

/-- Whether a line ends here. -/
def atLineEnd : List Char → Bool
  | [] => true
  | '\n' :: _ => true
  | '\r' :: '\n' :: _ => true
  | _ => false

/-- Reads with `p` where nothing but blanks and a comment follow on its line. -/
def endingLine {α : Type} (p : Reader α) : Reader α :=
  ((p.skipAfter blanks).skipAfter (skipMany comment)).ifRest atLineEnd

/-! ### Strings -/

/-- The character with a code point that is neither a surrogate nor too large. -/
def scalarValue? (n : Nat) : Option Char :=
  if n < 0xD800 ∨ (0xDFFF < n ∧ n < 0x110000) then some (Char.ofNat n) else none

/-- What a letter behind a backslash stands for. -/
def escapeLetter? : Char → Option Char
  | 'b' => some '\x08'
  | 't' => some '\t'
  | 'n' => some '\n'
  | 'f' => some '\x0c'
  | 'r' => some '\r'
  | '"' => some '"'
  | '\\' => some '\\'
  | _ => none

/-- An escape: a backslash with a letter, or with a code point in four or eight hexadecimal
digits. -/
def escape : Reader Char :=
  (char '\\').andThen <|
    ((satisfy fun _ => true).filterMap escapeLetter?).orElse <|
      (((char 'u').andThen (exactly (satisfy isHexDigit) 4)).orElse
        ((char 'U').andThen (exactly (satisfy isHexDigit) 8))).filterMap fun ds =>
          scalarValue? (numeral 16 ds)

/-- A character that stands for itself between double quotes. -/
def plainChar : Reader Char := satisfy fun c => isPrintable c && c ≠ '"' && c ≠ '\\'

/-- A string between double quotes. -/
def basicString : Reader (List Char) :=
  (char '"').andThen ((plainChar.orElse escape).manyThen fun cs => (char '"').map fun _ => cs)

/-- A string between single quotes, in which nothing is escaped. -/
def literalString : Reader (List Char) :=
  (char '\'').andThen <|
    (satisfy fun c => isPrintable c && c ≠ '\'').manyThen fun cs => (char '\'').map fun _ => cs

/-- Three quotes. -/
def tripled (quote : Char) : Reader Char := (char quote).andThen ((char quote).andThen (char quote))

/-- A quote inside a string of several lines: it, and those after it, must leave the three that
close the string. -/
def innerQuote (quote : Char) : Reader Char := fun cs =>
  let run := (cs.takeWhile (· = quote)).length
  if run < 3 ∨ run = 4 ∨ run = 5 then char quote cs else none

/-- A backslash at the end of a line, which joins the next character that is not blank. -/
def joinedLines : Reader (List Char) :=
  ((((char '\\').skipAfter blanks).andThen lineEnd).skipAfter
    (skipMany (blank.orElse lineEnd))).map fun _ => []

/-- A string of several lines with the given quotes and contents; a line end directly behind the
opening quotes does not count. -/
def multiLine (quote : Char) (content : Reader (List Char)) : Reader (List Char) :=
  (tripled quote).andThen <|
    optionalThen lineEnd fun _ =>
      (content.orElse (((innerQuote quote).orElse lineEnd).map ([·]))).manyThen fun parts =>
        (tripled quote).map fun _ => parts.flatten

/-- A string of several lines between double quotes. -/
def basicLines : Reader (List Char) :=
  multiLine '"' (((plainChar.orElse escape).map ([·])).orElse joinedLines)

/-- A string of several lines between single quotes. -/
def literalLines : Reader (List Char) :=
  multiLine '\'' ((satisfy fun c => isPrintable c && c ≠ '\'').map ([·]))

/-- Any string. -/
def anyString : Reader String :=
  (byFront fun
    | '"' :: '"' :: '"' :: _ => basicLines
    | '"' :: _ => basicString
    | '\'' :: '\'' :: '\'' :: _ => literalLines
    | _ => literalString).map String.ofList

/-! ### Keys -/

/-- A key without dots: letters, digits, underscores and dashes, or a string on one line. -/
def simpleKey : Reader String :=
  ((many1 (satisfy fun c => c.isAlphanum || c = '_' || c = '-')).orElse
    (basicString.orElse literalString)).map String.ofList

/-- Nesting goes less deep than this. -/
def depthLimit : Nat := 80

/-- A key with the keys of the tables in which it stands before it. -/
structure DottedKey where
  before : List String
  last : String

/-- Keys separated by dots, with blanks around each. -/
def dottedKey : Reader DottedKey :=
  (sepBy1 ((simpleKey.skipBefore blanks).skipAfter blanks) (char '.')).filterMap fun keys =>
    if keys.length < depthLimit then
      keys.getLast?.map fun last => { before := keys.dropLast, last }
    else none

end Buildwright.Toml
