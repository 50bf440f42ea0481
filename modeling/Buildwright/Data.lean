import Buildwright.Number.Binary64
import Buildwright.Text.Quoted

/-!
# Data trees

What a manifest says before anyone asks whether it is a manifest: a tree of tables, lists and
scalars. Tables keep their entries in the order in which they were written, since the first fault
in that order is the one that is reported.
-/

namespace Buildwright

/-- A tree of tables, lists and scalars. -/
inductive Data where
  /-- The absence of a value; a manifest has none, a declaration in JSON may. -/
  | null
  | boolean (value : Bool)
  | integer (value : Int)
  | float (value : Binary64)
  | text (value : String)
  /-- A date, a time of day or both, as it was written. -/
  | moment (written : String)
  | list (items : List Data)
  | table (entries : List (String × Data))
  deriving Inhabited

namespace Data

/-- A list of texts. -/
def texts (ss : List String) : Data := list (ss.map text)

/-- The key under which a moment shows its text to someone who expects a table. A table that begins
with this key is therefore a moment. -/
def momentKey : String := "$__toml_private_datetime"

/-- The entries of a table; a moment counts as a table with one entry. -/
def entries? : Data → Option (List (String × Data))
  | table entries => some entries
  | moment written => some [(momentKey, text written)]
  | _ => none

/-- What a value is called when it stands where something else belongs. Numbers with a point are
written in some form. -/
def describe (form : Binary64.Form) : Data → String
  | null => "null"
  | boolean value => "boolean `" ++ (if value then "true" else "false") ++ "`"
  | integer value => "integer `" ++ toString value ++ "`"
  | float value => "floating point `" ++ value.textIn form ++ "`"
  | text value => "string " ++ Text.quoted value
  | moment _ => "map"
  | list _ => "sequence"
  | table _ => "map"

end Data

end Buildwright
