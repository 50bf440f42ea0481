import Buildwright.Manifest.Basic
import Buildwright.Text.Blank

/-!
# Targets

What the build knows of a target: its kind, the contents of its declaration, and the include
directories that it gives to the targets depending on it. The name of a target is also the path of
what is built for it.
-/

namespace Buildwright

/-- A target. -/
structure Target extends Contents where
  kind : Kind
  globalIncludeDirs : List String := []
  deriving DecidableEq, Repr, Inhabited

/-- Why a target cannot be built, whatever else is declared. -/
inductive Defect where
  | blankName
  | emptyLibrary
  | noSources
  deriving DecidableEq, Repr

/-- The text of a defect. -/
def Defect.message : Defect → String
  | blankName => "target name cannot be empty"
  | emptyLibrary => "a library needs at least one header or source"
  | noSources => "sources cannot be empty"

namespace Target

/-- The target that a declaration describes. -/
def ofDeclaration (d : Declaration) : Target where
  toContents := d.contents
  kind := d.kind
  globalIncludeDirs :=
    match d with
    | .library _ dirs => dirs
    | .test _ | .program _ => []

/-- Whether a file is built for a target. Nothing is built for a library of headers alone. -/
def hasArtifact (t : Target) : Bool := t.kind.isExecutable || t.sources ≠ []

/-- The file that is built for a target. -/
def artifact (t : Target) (buildDir : Path) : Path :=
  match t.kind with
  | .library => buildDir.join ⟨t.name ++ ".a"⟩
  | .test | .program => buildDir.join ⟨t.name⟩

/-- What is wrong with a target taken by itself: first its name, then its files. -/
def defect? (t : Target) : Option Defect :=
  if Text.isBlankText t.name then some .blankName
  else match t.kind with
    | .library => if t.sources = [] ∧ t.headers = [] then some .emptyLibrary else none
    | .test | .program => if t.sources = [] then some .noSources else none

/-! ### The harness of the tests -/

/-- Whether a target is a test that should depend on a harness but does not. -/
def lacksHarness (harness : String) (t : Target) : Bool :=
  t.kind = .test && t.name ≠ harness && !t.deps.contains harness

/-- The target with a dependency on the harness behind its own, if it lacks one. -/
def withHarness (harness : String) (t : Target) : Target :=
  if t.lacksHarness harness then { t with deps := t.deps ++ [harness] } else t

@[simp]
theorem name_withHarness (harness : String) (t : Target) :
    (t.withHarness harness).name = t.name := by
  unfold withHarness; split <;> rfl

@[simp]
theorem defect?_withHarness (harness : String) (t : Target) :
    (t.withHarness harness).defect? = t.defect? := by
  unfold withHarness; split <;> rfl

/-- With the harness a target depends on what it did before, and on the harness if it lacked it. -/
theorem mem_deps_withHarness {harness dep : String} {t : Target} :
    dep ∈ (t.withHarness harness).deps ↔
      dep ∈ t.deps ∨ (t.lacksHarness harness = true ∧ dep = harness) := by
  unfold withHarness
  split <;> simp_all

end Target

end Buildwright
