import Buildwright.Tool.Result

/-!
# Test launchers

How the executable of a test is started: without arguments, in the directory of the project.
-/

namespace Buildwright

/-- Starts executables in a directory. -/
structure TestLauncher where
  workingDir? : Option Path := none
  deriving DecidableEq, Repr

namespace TestLauncher

/-- The program to start for an executable, as seen from the caller's directory. -/
def program (l : TestLauncher) (artifact : Path) : Path :=
  match l.workingDir? with
  | some dir => if artifact.isRelative then dir.join artifact else artifact
  | none => artifact

/-- Runs an executable. -/
def run (l : TestLauncher) (artifact : Path) : Procedure (Except HostFault ToolResult) := do
  let command :=
    { program := (l.program artifact).text, args := [], workingDir? := l.workingDir? }
  match ← Procedure.logged command "" with
  | (.error fault, _) => return .error fault
  | (.ok ending, log) => return .ok (.ofEnding ending log)

end TestLauncher

end Buildwright
