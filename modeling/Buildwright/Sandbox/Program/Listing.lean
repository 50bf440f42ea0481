import Buildwright.Sandbox.Program.Files
import Buildwright.Sandbox.Program.Source

/-!
# Listing files

The program that prints which files there are, each on a line of its own.
-/

namespace Buildwright.Sandbox.Program

/-- A file with the name under which it is shown. -/
structure Entry where
  name : String
  /-- The path at which it is found. -/
  path : String
  status : FileStatus

/-- How files are listed. -/
structure ListStyle where
  all : Bool
  almostAll : Bool
  reversed : Bool
  recursive : Bool
  directories : Bool

/-- Whether an entry may stand before another one. -/
def Entry.mayPrecede (style : ListStyle) (a b : Entry) : Bool :=
  if style.reversed then !(a.name < b.name) else !(b.name < a.name)

/-- Entries in order. -/
def sortedEntries (style : ListStyle) (entries : List Entry) : List Entry :=
  entries.mergeSort (Entry.mayPrecede style)

/-- The entry at a path. -/
def entryAt (name path : String) : Work (Except HostFault Entry) := do
  match ← Work.ask (.status path true) with
  | .error fault => return .error fault
  | .ok status => return .ok { name, path, status }

/-- Whether a name is shown. -/
def ListStyle.isListed (style : ListStyle) (name : String) : Bool :=
  style.all || style.almostAll || !name.startsWith "."

/-- Lists a directory, and those below it if that is asked for. Titles are preceded by an empty
line, but for the first. -/
def listDirectory (style : ListStyle) :
    (depth : Nat) → (titled first : Bool) → (path : String) → (isOperand : Bool) → Work Unit
  | 0, _, _, _, _ => pure ()
  | depth + 1, titled, first, path, isOperand => do
    match ← Work.ask (.list path) with
    | .error fault =>
      Work.complain ("cannot open directory " ++ quotedName path ++ ": " ++ fault.reason)
        (if isOperand then 2 else 1)
    | .ok found =>
      if titled then
        Work.print ((if first then "" else "\n") ++ path ++ ":\n")
      let names := found.map Prod.fst |>.filter style.isListed
      let names := if style.all then "." :: ".." :: names else names
      let entries ← names.filterMapM fun name => do
        match ← entryAt name (joined path name) with
        | .ok e => return some e
        | .error fault =>
          Work.complain ("cannot access " ++ quotedName (joined path name) ++ ": " ++ fault.reason) 1
          return none
      let entries := sortedEntries style entries
      for e in entries do Work.print (e.name ++ "\n")
      if style.recursive then
        for e in entries do
          if e.status.kind = .directory && e.name ≠ "." && e.name ≠ ".." then
            listDirectory style depth true false (joined path e.name) false

/-- What the program for listing is told. -/
def listTable : OptionTable where
  letters := "aAdrR1"
  names := plainNames [("all", "a"), ("almost-all", "A"), ("directory", "d"), ("reverse", "r"),
    ("recursive", "R")]

/-- Lists files. -/
def listFiles : Work Unit := do
  let d ← Work.directions listTable 2
  let style : ListStyle := {
    all := d.last? ["a", "A"] = some "a", almostAll := d.has "A", reversed := d.has "r"
    recursive := d.has "R", directories := d.has "d" }
  let operands := if d.operands.isEmpty then ["."] else d.operands
  let entries ← operands.filterMapM fun path => do
    match ← entryAt path path with
    | .ok e => return some e
    | .error fault =>
      Work.complain ("cannot access " ++ quotedName path ++ ": " ++ fault.reason) 2
      return none
  let isOpened (e : Entry) : Bool := e.status.kind = .directory && !style.directories
  let files := sortedEntries style (entries.filter (!isOpened ·))
  let directories := sortedEntries style (entries.filter isOpened)
  for e in files do Work.print (e.name ++ "\n")
  let titled := 1 < operands.length || style.recursive
  let mut isFirst := files.isEmpty
  for e in directories do
    listDirectory style greatestDepth titled isFirst e.path true
    isFirst := false

end Buildwright.Sandbox.Program
