import Buildwright.Path

/-!
# Manifests

What a project says about itself: an optional package, settings of the build and of the tools, and
the declarations of its targets in order. Everything but a declaration's name may be left out; the
functions at the end give the settings that then hold.
-/

namespace Buildwright

/-- What the result of building a target is. -/
inductive Kind where
  /-- An archive of object files, or headers alone. -/
  | library
  /-- An executable that is run as a test. -/
  | test
  | program
  deriving DecidableEq, Repr, Inhabited

namespace Kind

/-- Every kind, in the order in which messages list them. -/
def all : List Kind := [.library, .test, .program]

/-- The word for a kind. -/
def name : Kind → String
  | library => "library"
  | test => "test"
  | program => "program"

/-- The kind with a given name. -/
def ofName? (word : String) : Option Kind := all.find? fun kind => kind.name = word

/-- Whether a kind is linked to an executable. -/
def isExecutable : Kind → Bool
  | library => false
  | test | program => true

theorem mem_all (kind : Kind) : kind ∈ all := by cases kind <;> decide

/-- A kind is found under its own name. -/
@[simp]
theorem ofName?_name (kind : Kind) : ofName? kind.name = some kind := by cases kind <;> decide

end Kind

/-- What the manifest says about the package. -/
structure Package where
  name : String
  version : String
  description? : Option String := none
  deriving DecidableEq, Repr, Inhabited

/-- The settings of the build. -/
structure BuildSettings where
  output? : Option Path := none
  jobs? : Option Nat := none
  mode? : Option String := none
  harness? : Option String := none
  includeDirs : List String := []
  deriving DecidableEq, Repr, Inhabited

/-- The settings of the external tools. -/
structure ToolSettings where
  compiler? : Option String := none
  archiver? : Option String := none
  linkFlags : List String := []
  linter? : Option String := none
  lintFilters : List String := []
  deriving DecidableEq, Repr, Inhabited

/-- What a declaration of any kind may say. -/
structure Contents where
  name : String := ""
  sources : List String := []
  headers : List String := []
  localIncludeDirs : List String := []
  linkFlags : List String := []
  deps : List String := []
  lintExempt : Bool := false
  deriving DecidableEq, Repr, Inhabited

/-- A declared target. Only a library has include directories for others to use, since nothing is
meant to depend on a test or a program. -/
inductive Declaration where
  | library (contents : Contents) (globalIncludeDirs : List String)
  | test (contents : Contents)
  | program (contents : Contents)
  deriving DecidableEq, Repr, Inhabited

namespace Declaration

/-- The kind of a declared target. -/
def kind : Declaration → Kind
  | library _ _ => .library
  | test _ => .test
  | program _ => .program

/-- What a declaration says in the fields that all kinds share. -/
def contents : Declaration → Contents
  | library contents _ | test contents | program contents => contents

/-- The name of a declared target. -/
def name (d : Declaration) : String := d.contents.name

/-- The names of the targets on which a declared target depends. -/
def deps (d : Declaration) : List String := d.contents.deps

end Declaration

/-- A manifest. -/
structure Manifest where
  package? : Option Package := none
  build : BuildSettings := {}
  tools : ToolSettings := {}
  targets : List Declaration := []
  deriving DecidableEq, Repr, Inhabited

namespace Manifest

/-- The name of the file that holds a manifest. -/
def fileName : String := "keel.toml"

/-! ### Settings that hold by default -/

/-- The directory for everything that is built. -/
def defaultBuildDir : Path := ⟨"build"⟩

/-- The number of targets that may be built at once. -/
def defaultJobs : Nat := 8

/-- The name of the compile mode. -/
def defaultMode : String := "opt"

/-- The name of the target on which every test depends. -/
def defaultHarness : String := "tests/test_main"

/-! ### Settings that hold -/

/-- The name of the package. -/
def packageName? (m : Manifest) : Option String := m.package?.map (·.name)

/-- The version of the package. -/
def packageVersion? (m : Manifest) : Option String := m.package?.map (·.version)

/-- The directory for everything that is built. -/
def buildDir (m : Manifest) : Path := m.build.output?.getD defaultBuildDir

/-- The number of targets that may be built at once. -/
def jobs (m : Manifest) : Nat := m.build.jobs?.getD defaultJobs

/-- The name of the compile mode, which may be unknown. -/
def mode (m : Manifest) : String := m.build.mode?.getD defaultMode

/-- The name of the target on which every test depends. -/
def harness (m : Manifest) : String := m.build.harness?.getD defaultHarness

/-- The program that compiles and links. -/
def compiler (m : Manifest) : String := m.tools.compiler?.getD "c++"

/-- The program that makes archives. -/
def archiver (m : Manifest) : String := m.tools.archiver?.getD "ar"

/-- The program that checks the style of sources. -/
def linter (m : Manifest) : String := m.tools.linter?.getD "cpplint"

/-- The harness that the tests of a project need: one is needed if a test is declared, or if the
manifest names one. -/
def neededHarness? (m : Manifest) : Option String :=
  if m.targets.any (fun d => d.kind = .test) || m.build.harness?.isSome then some m.harness
  else none

end Manifest

end Buildwright
