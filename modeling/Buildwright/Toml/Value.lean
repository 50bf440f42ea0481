import Buildwright.Toml.Lexeme
import Buildwright.Toml.Table

/-!
# Values

The right-hand side of a TOML entry: a string, a scalar, an array or an inline table. Arrays may
spread over lines and end in a comma; inline tables stand on one line and may not. Both nest less
deep than `depthLimit`.
-/

namespace Buildwright.Toml

open Buildwright.Text Buildwright.Text.Reader

/-- Reads a word, which is as long as possible. -/
def word : Reader (List Char) := many1 (satisfy isWordChar)

/-- Reads a word that satisfies `p`. -/
def wordWith (p : List Char → Bool) : Reader (List Char) :=
  word.filterMap fun cs => if p cs then some cs else none

/-- A date and a time of day with a blank between them. -/
def spacedMoment : Reader Data :=
  (wordWith isDate).bind fun date =>
    ((char ' ').andThen (wordWith isClock)).map fun clock =>
      .moment (String.ofList (date ++ ' ' :: clock))

/-- A scalar without quotes. -/
def bareScalar : Reader Data := spacedMoment.orElse (word.filterMap scalar?)

/-- A scalar or a string. -/
def scalarValue : Reader Data :=
  byFront fun
    | '"' :: _ => anyString.map .text
    | '\'' :: _ => anyString.map .text
    | _ => bareScalar

/-- An array with the given items. -/
def arrayOf (value : Reader Data) : Reader Data :=
  (char '[').andThen <|
    optionalThen (sepBy1 ((value.skipBefore spacing).skipAfter spacing) (char ',')) fun items? =>
      optionalThen (if items?.isSome then char ',' else fail) fun _ =>
        ((char ']').skipBefore spacing).map fun _ => .list (items?.getD [])

/-- A key and its value, with a `=` between them. -/
def pairOf (value : Reader Data) : Reader (List String × String × Data) :=
  dottedKey.bind fun key =>
    ((char '=').andThen ((value.skipBefore blanks).skipAfter blanks)).map fun data =>
      (key.before, key.last, data)

/-- An inline table with the given values. -/
def inlineTableOf (value : Reader Data) : Reader Data :=
  (char '\x7b').andThen <|
    optionalThen (sepBy1 (pairOf value) (char ',')) fun pairs? =>
      ((char '\x7d').skipBefore blanks).filterMap fun _ =>
        (Entries.insertPairs (pairs?.getD []) []).map fun entries => .table (entriesData entries)

/-- A value whose arrays and inline tables nest at most `depth` deep. -/
def valueWithin : (depth : Nat) → Reader Data
  | 0 => scalarValue
  | depth + 1 =>
    byFront fun
      | '[' :: _ => arrayOf (valueWithin depth)
      | '\x7b' :: _ => inlineTableOf (valueWithin depth)
      | _ => scalarValue

/-- A value. -/
def value : Reader Data := valueWithin (depthLimit - 1)

end Buildwright.Toml
