import Buildwright.Data

/-!
# Records

How data is read as a record. A record is written as a table of its fields in any order, or as a
list of their values in the order of the record. Reading goes through the data from front to back
and stops at the first thing that does not fit, so which of two faults is reported depends on
where they stand.
-/

namespace Buildwright

/-- Why data does not have the form that is asked of it. -/
inductive Mismatch where
  | unknownField (key : String) (known : List String)
  | missingField (key : String)
  | unknownVariant (found : String) (known : List String)
  | wrongType (found : Data) (expected : String)
  | outOfRange (found : Int) (expected : String)
  /-- A list ends before the field at position `length` of a record with `size` fields. -/
  | tooShort (length : Nat) (record : String) (size : Nat)
  /-- A list goes on after its `size` fields. -/
  | tooLong (length size : Nat)

namespace Mismatch

/-- Names between backquotes, separated by commas. -/
def listed (names : List String) : String :=
  ", ".intercalate (names.map fun name => "`" ++ name ++ "`")

/-- The text of a mismatch, with numbers in some form. -/
def messageIn (form : Binary64.Form) : Mismatch → String
  | unknownField key known =>
    "unknown field `" ++ key ++ "`, expected one of " ++ listed known
  | missingField key => "missing field `" ++ key ++ "`"
  | unknownVariant found known =>
    "unknown variant `" ++ found ++ "`, expected one of " ++ listed known
  | wrongType found expected =>
    "invalid type: " ++ found.describe form ++ ", expected " ++ expected
  | outOfRange found expected =>
    "invalid value: integer `" ++ toString found ++ "`, expected " ++ expected
  | tooShort length record size =>
    "invalid length " ++ toString length ++ ", expected struct " ++ record ++ " with " ++
      toString size ++ " elements"
  | tooLong length size =>
    "invalid length " ++ toString length ++ ", expected " ++ toString size ++
      " elements in sequence"

/-- The text of a mismatch in a manifest. -/
def message : Mismatch → String := messageIn .positional

/-- The text of a mismatch in a declaration in JSON. -/
def jsonMessage : Mismatch → String := messageIn .short

end Mismatch

namespace Data

/-! ### Reading scalars and lists -/

/-- Reads a text. -/
def asText (data : Data) (expected : String) : Except Mismatch String :=
  match data with
  | text value => .ok value
  | data => .error (.wrongType data expected)

/-- Reads a truth value. -/
def asBool : Data → Except Mismatch Bool
  | boolean value => .ok value
  | data => .error (.wrongType data "a boolean")

/-- Reads a whole number that is not negative. -/
def asCount : Data → Except Mismatch Nat
  | integer value => if 0 ≤ value then .ok value.toNat else .error (.outOfRange value "usize")
  | data => .error (.wrongType data "usize")

/-- Reads a list whose items are read by `read`. -/
def asList {α : Type} (read : Data → Except Mismatch α) : Data → Except Mismatch (List α)
  | list items => items.mapM read
  | data => .error (.wrongType data "a sequence")

/-- Reads a list of texts. -/
def asTexts : Data → Except Mismatch (List String) := asList (asText · "a string")

end Data

/-! ### Reading records -/

/-- Whether a field may be left out. -/
inductive Presence where
  /-- It may not. -/
  | required
  /-- A table may leave it out, a list may not. -/
  | optional
  /-- Table and list may leave it out. -/
  | defaulted
  deriving DecidableEq

/-- A field of a record of type `α`: its key, and how a value for it changes the record. -/
structure Record.Field (α : Type) where
  key : String
  presence : Presence
  set : Data → α → Except Mismatch α

namespace Record.Field

variable {α β : Type}

/-- A field whose value is read by `read` and put into the record by `put`. -/
def reading (key : String) (presence : Presence) (read : Data → Except Mismatch β)
    (put : β → α → α) : Field α where
  key
  presence
  set data record := (read data).map fun value => put value record

/-- A text that must be there. -/
def requiredText (key : String) (put : String → α → α) : Field α :=
  reading key .required (·.asText "a string") put

/-- A text that may be left out. -/
def optionalText (key : String) (put : String → α → α) : Field α :=
  reading key .optional (·.asText "a string") put

/-- A list of texts, empty if left out. -/
def texts (key : String) (put : List String → α → α) : Field α :=
  reading key .defaulted Data.asTexts put

end Record.Field

/-- The form of a record: its name in messages, its fields in order, and the record before any
field is read. -/
structure Record (α : Type) where
  name : String
  fields : List (Record.Field α)
  blank : α

namespace Record

variable {α : Type}

/-- The keys of a record. -/
def keys (r : Record α) : List String := r.fields.map (·.key)

/-- Reads one entry of a table. -/
def readEntry (r : Record α) (record : α) (entry : String × Data) : Except Mismatch α :=
  match r.fields.find? fun field => field.key = entry.1 with
  | some field => field.set entry.2 record
  | none => .error (.unknownField entry.1 r.keys)

/-- The first required field that is not among the entries. -/
def missing? (r : Record α) (entries : List (String × Data)) : Option String :=
  r.fields.findSome? fun field =>
    if field.presence = .required ∧ (entries.lookup field.key).isNone then some field.key else none

/-- Reads the entries of a table: all of them, and then none of the required ones is missing. -/
def readTable (r : Record α) (entries : List (String × Data)) : Except Mismatch α := do
  let record ← entries.foldlM r.readEntry r.blank
  match r.missing? entries with
  | some key => .error (.missingField key)
  | none => .ok record

/-- Reads a list field by field, and gives the items after the last field. -/
def readFields (r : Record α) : (position : Nat) → List (Field α) → List Data → α →
    Except Mismatch (α × List Data)
  | _, [], items, record => .ok (record, items)
  | position, field :: fields, item :: items, record => do
    readFields r (position + 1) fields items (← field.set item record)
  | position, field :: fields, [], record =>
    if field.presence = .defaulted then readFields r (position + 1) fields [] record
    else .error (.tooShort position r.name r.fields.length)

/-- Reads a list. Items after the last field do not count. -/
def readList (r : Record α) (items : List Data) : Except Mismatch α :=
  (r.readFields 0 r.fields items r.blank).map (·.1)

/-- Reads a list that ends with the last field. -/
def readWholeList (r : Record α) (items : List Data) : Except Mismatch α := do
  let (record, rest) ← r.readFields 0 r.fields items r.blank
  if rest = [] then .ok record else .error (.tooLong items.length r.fields.length)

/-- Reads a table or a list. -/
def read (r : Record α) (data : Data) : Except Mismatch α :=
  match data, data.entries? with
  | .list items, _ => r.readList items
  | _, some entries => r.readTable entries
  | data, none => .error (.wrongType data ("struct " ++ r.name))

end Record

end Buildwright
