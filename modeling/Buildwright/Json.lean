/-!
# JSON

The values of JSON and their indented text: two blanks for each level, a key and its value
separated by `: `, an empty array or object as `[]` or `{}`. Objects keep the order in which their
members are given; `sorted` puts them in ascending order of the keys.
-/

namespace Buildwright

/-- A JSON value whose numbers are whole. -/
inductive Json where
  | null
  | bool (value : Bool)
  | number (value : Int)
  | text (value : String)
  | array (items : List Json)
  | object (members : List (String × Json))
  deriving Inhabited

namespace Json

/-- A text, or null. -/
def ofText? : Option String → Json
  | some s => text s
  | none => null

/-- An array of texts. -/
def texts (ss : List String) : Json := array (ss.map text)

/-- A whole number that is not negative. -/
def count (n : Nat) : Json := number n

/-! ### Strings -/

/-- The last two hexadecimal digits of a control character. -/
def controlDigits (c : Char) : List Char :=
  [Nat.digitChar (c.toNat / 16), Nat.digitChar (c.toNat % 16)]

/-- One character as it stands inside a string. Quotes, backslashes and the controls below U+0020
are escaped, the latter by a letter where there is one. -/
def escaped (c : Char) : List Char :=
  if c = '"' then ['\\', '"']
  else if c = '\\' then ['\\', '\\']
  else if c = '\x08' then ['\\', 'b']
  else if c = '\x0c' then ['\\', 'f']
  else if c = '\n' then ['\\', 'n']
  else if c = '\r' then ['\\', 'r']
  else if c = '\t' then ['\\', 't']
  else if c.toNat < 0x20 then ['\\', 'u', '0', '0'] ++ controlDigits c
  else [c]

/-- A string between quotes. -/
def quote (s : String) : List Char := '"' :: s.toList.flatMap escaped ++ ['"']

/-! ### Text -/

/-- The blanks in front of a line at a level. -/
def indent (level : Nat) : List Char := List.replicate (2 * level) ' '

/-- The entries of an array or object between its brackets: each on a line of its own, with a comma
after all but the last. -/
def block (level : Nat) (opening closing : Char) : List (List Char) → List Char
  | [] => [opening, closing]
  | entries =>
    opening :: '\n' :: [',', '\n'].intercalate (entries.map (indent (level + 1) ++ ·)) ++
      '\n' :: indent level ++ [closing]

mutual

/-- The text of a value whose first line stands at the given level. -/
def render (level : Nat) : Json → List Char
  | null => "null".toList
  | bool value => (if value then "true" else "false").toList
  | number value => (toString value).toList
  | text value => quote value
  | array items => block level '[' ']' (renderItems (level + 1) items)
  | object members => block level '\x7b' '\x7d' (renderMembers (level + 1) members)

/-- The text of each item. -/
def renderItems (level : Nat) : List Json → List (List Char)
  | [] => []
  | item :: items => render level item :: renderItems level items

/-- The text of each member: its key, a colon and its value. -/
def renderMembers (level : Nat) : List (String × Json) → List (List Char)
  | [] => []
  | (key, value) :: members =>
    (quote key ++ ':' :: ' ' :: render level value) :: renderMembers level members

end

/-- The indented text of a value. -/
def pretty (value : Json) : String := String.ofList (render 0 value)

/-! ### Order of the members -/

mutual

/-- A value with the members of every object in ascending order of their keys. -/
def sorted : Json → Json
  | array items => array (sortedItems items)
  | object members =>
    object ((sortedMembers members).mergeSort fun a b => decide (a.1 ≤ b.1))
  | value => value

/-- Sorts inside each item. -/
def sortedItems : List Json → List Json
  | [] => []
  | item :: items => item.sorted :: sortedItems items

/-- Sorts inside the value of each member. -/
def sortedMembers : List (String × Json) → List (String × Json)
  | [] => []
  | (key, value) :: members => (key, value.sorted) :: sortedMembers members

end

end Json

end Buildwright
