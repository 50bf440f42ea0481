import Buildwright.Project
import Buildwright.Tool.Result

/-!
# Linters

A program that checks the style of sources, all of them at once.
-/

namespace Buildwright

/-- The program that checks sources. -/
structure Linter where
  program : String
  /-- The categories that are added or removed. -/
  filters : List String := []
  /-- The directory in which the program runs. -/
  workingDir? : Option Path := none
  deriving DecidableEq, Repr

namespace Linter

/-- The linter of a project. -/
def ofProject (p : Project) : Linter where
  program := p.manifest.linter
  filters := p.manifest.tools.lintFilters
  workingDir? := p.root?

/-- The arguments that check some files. -/
def args (l : Linter) (files : List String) : List String :=
  (if l.filters = [] then [] else ["--filter=" ++ ",".intercalate l.filters]) ++ files

/-- Checks files; without files there is nothing to do. -/
def lint (l : Linter) (files : List String) : Procedure ToolResult :=
  if files = [] then return .succeeded "no files to lint"
  else do
    let command := { program := l.program, args := l.args files, workingDir? := l.workingDir? }
    match ← Procedure.logged command "" with
    | (.error fault, log) =>
      return .neverRan ("failed to run " ++ l.program ++ ": " ++ fault.message) log
    | (.ok ending, log) =>
      return if ending.isSuccess then .succeeded log else .failed ending.code? log

end Linter

end Buildwright
