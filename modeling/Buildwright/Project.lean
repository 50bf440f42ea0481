import Buildwright.Host.Procedure
import Buildwright.Manifest.Rules
import Buildwright.Text.Blank

/-!
# Projects

A project is a manifest together with the directory in which it was found. The manifest is a
given file, or the nearest one in a directory and those above it. Variables of the environment
override some of its settings.
-/

namespace Buildwright

/-- A manifest, and the directory that holds it if there is one. -/
structure Project where
  manifest : Manifest
  root? : Option Path
  deriving DecidableEq, Repr

namespace Project

/-- The directory for everything that is built. A relative one stands in the project. -/
def buildDir (p : Project) : Path :=
  match p.root? with
  | some root => if p.manifest.buildDir.isRelative then root.join p.manifest.buildDir
    else p.manifest.buildDir
  | none => p.manifest.buildDir

/-- The directory of the project, or the one of the caller. -/
def root (p : Project) : Path := p.root?.getD ⟨"."⟩

end Project

/-! ### Overrides -/

/-- The greatest number of jobs that can be asked for. -/
def greatestCount : Nat := UInt64.size - 1

/-- A count in decimal digits with an optional plus sign. -/
def count? (cs : List Char) : Option Nat :=
  let digits := match cs with
    | '+' :: rest => rest
    | cs => cs
  if digits ≠ [] ∧ digits.all Char.isDigit ∧ Toml.numeral 10 digits ≤ greatestCount then
    some (Toml.numeral 10 digits)
  else none

namespace Manifest

/-- The variable that overrides the number of jobs. -/
def jobsVariable : String := "KEEL_JOBS"

/-- The number of jobs that a variable asks for: a count above zero, with blanks around it. -/
def jobsFromVariable (value : String) : Except ManifestError Nat :=
  match (count? (Text.trim value.toList)).filter (0 < ·) with
  | some jobs => .ok jobs
  | none => .error (.invalidValue jobsVariable ("'" ++ value ++ "' is not a positive integer"))

/-- The manifest with the settings that variables of the environment override. A variable that is
no text counts as not set. -/
def withOverrides (env : Environment) (m : Manifest) : Except ManifestError Manifest := do
  let jobs? ← (env.text? jobsVariable).mapM jobsFromVariable
  .ok { m with
    build := { m.build with
      mode? := (env.text? "KEEL_MODE").or m.build.mode?
      jobs? := jobs?.or m.build.jobs?
      output? := ((env.text? "KEEL_BUILD_DIR").map Path.mk).or m.build.output? }
    tools := { m.tools with compiler? := (env.text? "KEEL_CXX").or m.tools.compiler? } }

/-! ### Finding a manifest -/

/-- Reads a manifest from a file. -/
def load (file : Path) : Procedure (Except ManifestError Manifest) :=
  .readFile file fun
    | .error .notFound => .pure (.error (.notFound file))
    | .error fault => .pure (.error (.unreadable fault))
    | .ok bytes =>
      match Text.text? bytes with
      | none => .pure (.error (.unreadable .notText))
      | some text => .pure (ofText text file)

end Manifest

namespace Project

/-- The project of the nearest manifest in a directory and those above it; without one, an empty
manifest that belongs to no directory. -/
def search (dir : Path) : Procedure (Except ManifestError Project) :=
  .isPresent (dir.join ⟨Manifest.fileName⟩) fun
    | true => do
      let manifest ← Manifest.load (dir.join ⟨Manifest.fileName⟩)
      return manifest.map fun manifest => { manifest, root? := some dir }
    | false =>
      match _h : dir.parent? with
      | some above => search above
      | none => .pure (.ok { manifest := {}, root? := none })
  termination_by dir.chars.length
  decreasing_by exact Path.length_parent?_lt _h

/-- The project of a manifest file. -/
def ofFile (file : Path) : Procedure (Except ManifestError Project) := do
  let manifest ← Manifest.load file
  return manifest.map fun manifest => { manifest, root? := file.parent? }

/-- The project with the settings that variables of the environment override. -/
def withOverrides (env : Environment) (p : Project) : Except ManifestError Project :=
  (p.manifest.withOverrides env).map fun manifest => { p with manifest }

end Project

end Buildwright
