import Buildwright.Manifest.Basic
import Buildwright.Manifest.Record

/-!
# The form of a manifest

The records of a manifest with their keys, and how data is read as a manifest (`Manifest.ofData`)
and as the declaration of a target (`Declaration.ofData`). A declaration says what kind it is
under the key `kind`, which is looked for before anything else.
-/

namespace Buildwright

open Record.Field

/-! ### Sections -/

/-- The form of the section `package`. -/
def Package.record : Record Package where
  name := "PackageConfig"
  blank := { name := "", version := "" }
  fields := [
    requiredText "name" fun s r => { r with name := s },
    requiredText "version" fun s r => { r with version := s },
    optionalText "description" fun s r => { r with description? := some s }]

/-- The form of the section `build`. -/
def BuildSettings.record : Record BuildSettings where
  name := "BuildSettings"
  blank := {}
  fields := [
    reading "output" .optional (·.asText "path string") fun s r => { r with output? := some ⟨s⟩ },
    reading "jobs" .optional Data.asCount fun n r => { r with jobs? := some n },
    optionalText "mode" fun s r => { r with mode? := some s },
    optionalText "harness" fun s r => { r with harness? := some s },
    texts "include_dirs" fun ss r => { r with includeDirs := ss }]

/-- The form of the section `toolchain`. -/
def ToolSettings.record : Record ToolSettings where
  name := "ToolchainConfig"
  blank := {}
  fields := [
    optionalText "compiler" fun s r => { r with compiler? := some s },
    optionalText "archiver" fun s r => { r with archiver? := some s },
    texts "link_flags" fun ss r => { r with linkFlags := ss },
    optionalText "lint" fun s r => { r with linter? := some s },
    texts "lint_filters" fun ss r => { r with lintFilters := ss }]

/-! ### Declarations -/

/-- The fields before the directories that a library exports. -/
def Contents.firstFields : List (Record.Field Contents) := [
  requiredText "name" fun s r => { r with name := s },
  texts "sources" fun ss r => { r with sources := ss },
  texts "headers" fun ss r => { r with headers := ss },
  texts "local_include_dirs" fun ss r => { r with localIncludeDirs := ss }]

/-- The fields after the directories that a library exports. -/
def Contents.lastFields : List (Record.Field Contents) := [
  texts "link_flags" fun ss r => { r with linkFlags := ss },
  texts "deps" fun ss r => { r with deps := ss },
  reading "lint_exempt" .defaulted Data.asBool fun b r => { r with lintExempt := b }]

/-- A field of the first part of a pair. -/
def Record.Field.onFirst {α β : Type} (field : Record.Field α) : Record.Field (α × β) where
  key := field.key
  presence := field.presence
  set data record := (field.set data record.1).map fun a => (a, record.2)

/-- The form of a test or a program. -/
def Declaration.binaryRecord : Record Contents where
  name := "BinarySpec"
  blank := {}
  fields := Contents.firstFields ++ Contents.lastFields

/-- The form of a library. -/
def Declaration.libraryRecord : Record (Contents × List String) where
  name := "LibrarySpec"
  blank := ({}, [])
  fields :=
    Contents.firstFields.map onFirst ++
      texts "global_include_dirs" (fun ss r => (r.1, ss)) :: Contents.lastFields.map onFirst

/-- Reads the kind of a declaration. -/
def Kind.ofData (data : Data) : Except Mismatch Kind := do
  let word ← data.asText "variant identifier"
  match Kind.ofName? word with
  | some kind => .ok kind
  | none => .error (.unknownVariant word (Kind.all.map Kind.name))

namespace Declaration

/-- Reads the fields of a declaration whose kind is known, where `readAs` reads a record. -/
def ofFields (kind : Kind)
    (readAs : {α : Type} → Record α → Except Mismatch α) : Except Mismatch Declaration :=
  match kind with
  | .library => (readAs libraryRecord).map fun (contents, dirs) => library contents dirs
  | .test => (readAs binaryRecord).map test
  | .program => (readAs binaryRecord).map program

/-- Reads a declaration: a table with its kind under `kind`, or a list that begins with it. -/
def ofData (data : Data) : Except Mismatch Declaration :=
  match data, data.entries? with
  | .list [], _ => .error (.missingField "kind")
  | .list (tag :: items), _ => do ofFields (← Kind.ofData tag) fun r => r.readWholeList items
  | _, some entries =>
    match entries.lookup "kind" with
    | none => .error (.missingField "kind")
    | some tag => do
      let others := entries.filter fun entry => entry.1 ≠ "kind"
      ofFields (← Kind.ofData tag) fun r => r.readTable others
  | data, none => .error (.wrongType data "internally tagged enum TargetSpec")

end Declaration

/-! ### Manifests -/

/-- The form of a manifest. -/
def Manifest.record : Record Manifest where
  name := "ProjectConfig"
  blank := {}
  fields := [
    reading "package" .optional Package.record.read fun p r => { r with package? := some p },
    reading "build" .defaulted BuildSettings.record.read fun b r => { r with build := b },
    reading "toolchain" .defaulted ToolSettings.record.read fun t r => { r with tools := t },
    reading "target" .defaulted (Data.asList Declaration.ofData) fun ds r =>
      { r with targets := ds }]

/-- Reads a manifest. -/
def Manifest.ofData (data : Data) : Except Mismatch Manifest := Manifest.record.read data

end Buildwright
