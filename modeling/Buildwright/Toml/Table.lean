import Buildwright.Data

/-!
# Tables under construction

A TOML document defines its tables piece by piece: by headers, by dotted keys, and by naming one
of their subtables. What may still be added to a table depends on how it came about, which each
table under construction remembers. A fault (a key given twice, a header for a table that is
closed) makes the whole document meaningless, so the functions here only succeed or fail.
-/

namespace Buildwright.Toml

/-- How a table came about. -/
inductive Origin where
  /-- It is the document or an inline table, or it has a header of its own. -/
  | declared
  /-- A header named one of its subtables. -/
  | implied
  /-- A dotted key named one of its entries. -/
  | dotted
  deriving DecidableEq

/-- What stands under a key while a document is read. -/
inductive Node where
  | value (data : Data)
  | table (origin : Origin) (entries : List (String × Node))
  /-- An array of tables: the closed ones, latest first, and the open one at its end. -/
  | tables (closed : List Data) (last : List (String × Node))

/-- The entries of a table under construction, in the order of their first mention. -/
abbrev Entries := List (String × Node)

/-! ### Finished tables -/

mutual

/-- The data of a finished node. -/
def Node.toData : Node → Data
  | .value data => data
  | .table _ entries => .table (entriesData entries)
  | .tables closed last => .list (closed.reverse ++ [.table (entriesData last)])

/-- The entries of a finished table. -/
def entriesData : List (String × Node) → List (String × Data)
  | [] => []
  | (key, node) :: entries => (key, node.toData) :: entriesData entries

end

namespace Entries

/-! ### Descending -/

/-- Whether a table may be entered: a header goes through every table, a dotted key only through
those that have no header. -/
def mayEnter (entered : Origin) : Origin → Bool
  | .declared => entered = .implied
  | _ => true

/-- The entries with another node under a key that is present. -/
def replace (key : String) (node : Node) (entries : Entries) : Entries :=
  entries.map fun entry => if entry.1 = key then (key, node) else entry

/-- Changes the entries at the end of a path by `f`, which also learns how their table came about.
Missing tables on the way are created with the origin `created`; of an array of tables the last
one is entered. -/
def descend (created : Origin) (f : Origin → Entries → Option Entries) :
    (path : List String) → Origin → Entries → Option Entries
  | [], origin, entries => f origin entries
  | key :: path, _, entries =>
    match entries.lookup key with
    | none => do
      let inner ← descend created f path created []
      some (entries ++ [(key, .table created inner)])
    | some (.table origin inner) =>
      if mayEnter created origin then do
        let inner ← descend created f path origin inner
        some (replace key (.table origin inner) entries)
      else none
    | some (.tables closed last) => do
      let last ← descend created f path .declared last
      some (replace key (.tables closed last) entries)
    | some (.value _) => none

/-! ### Adding entries -/

/-- Adds an entry under a key that is still free. -/
def insertNew (key : String) (node : Node) (entries : Entries) : Option Entries :=
  if (entries.lookup key).isNone then some (entries ++ [(key, node)]) else none

/-- Adds a value under a key with the keys of its tables before it. Those tables must have come
about through dotted keys alone. -/
def insertPair (before : List String) (key : String) (data : Data) (entries : Entries) :
    Option Entries :=
  descend .dotted
    (fun origin entries =>
      if before = [] ∨ origin = .dotted then insertNew key (.value data) entries else none)
    before .declared entries

/-- Adds values one after another. -/
def insertPairs (pairs : List (List String × String × Data)) (entries : Entries) :
    Option Entries :=
  pairs.foldlM (fun entries (before, key, data) => insertPair before key data entries) entries

/-- Adds the values of a table with a header. A table that is only implied so far may be declared
once, and moves to the end; an array of tables grows by one. -/
def insertSection (isArray : Bool) (before : List String) (key : String)
    (pairs : List (List String × String × Data)) (entries : Entries) : Option Entries :=
  descend .implied
    (fun _ entries =>
      match isArray, entries.lookup key with
      | true, none => do
        some (entries ++ [(key, .tables [] (← insertPairs pairs []))])
      | true, some (.tables closed last) => do
        let closed := .table (entriesData last) :: closed
        some (replace key (.tables closed (← insertPairs pairs [])) entries)
      | false, none => do
        some (entries ++ [(key, .table .declared (← insertPairs pairs []))])
      | false, some (.table .implied inner) => do
        let entries := entries.filter fun entry => entry.1 ≠ key
        some (entries ++ [(key, .table .declared (← insertPairs pairs inner))])
      | _, _ => none)
    before .declared entries

end Entries

end Buildwright.Toml
