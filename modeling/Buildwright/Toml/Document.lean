import Buildwright.Toml.Value

/-!
# Documents

A TOML document as a whole: entries of the document itself, then tables with headers, each with
the entries that follow it. `read?` gives the tree of tables that the text describes, or
nothing for a text that describes none. A table below the document that begins with the key of
moments has to state one there.
-/

namespace Buildwright.Toml

open Buildwright.Text Buildwright.Text.Reader

/-- One line of a document that says something; a value may spread it over several. -/
inductive Statement where
  | pair (before : List String) (key : String) (data : Data)
  | header (isArray : Bool) (key : DottedKey)

/-- A header: a key between brackets, which are doubled for a table of an array. -/
def header : Reader Statement :=
  byFront fun
    | '[' :: '[' :: _ =>
      ((char '[').andThen ((char '[').andThen dottedKey)).bind fun key =>
        ((char ']').andThen (char ']')).map fun _ => .header true key
    | _ =>
      ((char '[').andThen dottedKey).bind fun key => (char ']').map fun _ => .header false key

/-- A statement up to the end of its line. -/
def statement : Reader Statement :=
  endingLine <| header.orElse <|
    (pairOf value).map fun (before, key, data) => .pair before key data

/-- The statements of a document. A byte order mark in front does not count. -/
def statements? (cs : List Char) : Option (List Statement) :=
  let cs := if cs.head? = some '\uFEFF' then cs.tail else cs
  let (found, rest) := many (statement.skipAfter spacing) (spacing cs).1
  if rest.1 = [] then some found else none

/-- A table of a document, or the document itself, with the entries that follow its header. -/
structure Section where
  header? : Option (Bool × DottedKey)
  pairs : List (List String × String × Data)

/-- The statements grouped by headers; those before the first header belong to the document. -/
def sections (header? : Option (Bool × DottedKey)) : List Statement → List Section
  | [] => [⟨header?, []⟩]
  | .pair before key data :: rest =>
    match sections header? rest with
    | [] => [⟨header?, [(before, key, data)]⟩]
    | first :: others => { first with pairs := (before, key, data) :: first.pairs } :: others
  | .header isArray key :: rest => ⟨header?, []⟩ :: sections (some (isArray, key)) rest

/-- Adds a table to the document. -/
def Section.addTo (s : Section) (entries : Entries) : Option Entries :=
  match s.header? with
  | none => entries.insertPairs s.pairs
  | some (isArray, key) => entries.insertSection isArray key.before key.last s.pairs

/-! ### Tables that are moments -/

mutual

/-- Whether every table that begins with the key of moments states one. What follows such a
beginning does not count. -/
def isConsistent : Data → Bool
  | .table ((key, value) :: entries) =>
    if key = Data.momentKey then
      match value with
      | .text written => statesMoment written.toList
      | _ => false
    else isConsistent value && areConsistentEntries entries
  | .list items => areConsistent items
  | _ => true

/-- Whether that holds of all items of a list. -/
def areConsistent : List Data → Bool
  | [] => true
  | data :: items => isConsistent data && areConsistent items

/-- Whether that holds of all values of a table. -/
def areConsistentEntries : List (String × Data) → Bool
  | [] => true
  | (_, data) :: entries => isConsistent data && areConsistentEntries entries

end

/-! ### The whole -/

/-- The data that a document describes. -/
def read? (text : String) : Option Data := do
  let found ← statements? text.toList
  let nodes ← (sections none found).foldlM (fun entries s => s.addTo entries) []
  let entries := entriesData nodes
  if areConsistentEntries entries then some (.table entries) else none

end Buildwright.Toml
