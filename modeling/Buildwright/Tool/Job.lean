import Buildwright.Graph.Environment
import Buildwright.Mode

/-!
# Jobs

All that is needed to build one target, settled before any tool is started. Every target has a file
and a directory for its object files of its own.
-/

namespace Buildwright

/-- What a compiler is asked to build. -/
structure Job where
  target : Target
  environment : BuildEnvironment
  mode : Mode
  /-- The file to build. -/
  artifact : Path
  /-- The directory for the object files of the target. -/
  objectDir : Path
  /-- The archives of the libraries of the environment, in their order. -/
  libraries : List Path
  deriving DecidableEq, Repr

namespace Job

/-- The directory for the object files of a target. -/
def objectDirOf (buildDir : Path) (t : Target) : Path :=
  (buildDir.join ⟨".objs"⟩).join ⟨t.name⟩

/-- The job of building a target of a graph. -/
def ofTarget (g : Graph) (mode : Mode) (buildDir : Path) (t : Target) : Except BuildError Job := do
  let environment ← g.environment t.name
  return {
    target := t
    environment
    mode
    artifact := t.artifact buildDir
    objectDir := objectDirOf buildDir t
    libraries := (environment.libraries.filterMap g.get?).map (·.artifact buildDir) }

/-! ### Object files -/

/-- A text with two underscores for every two dots, from left to right. -/
def withoutDots : List Char → List Char
  | '.' :: '.' :: rest => '_' :: '_' :: withoutDots rest
  | c :: rest => c :: withoutDots rest
  | [] => []

/-- The object file of a source. It lies in the given directory wherever the source lies. -/
def objectPath (objectDir : Path) (source : String) : Path :=
  objectDir.join <|
    .ofChars (withoutDots (source.toList.dropWhile (· = '/')) ++ ['.', 'o'])

end Job

end Buildwright
