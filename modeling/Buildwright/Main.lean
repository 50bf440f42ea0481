import Buildwright.CommandLine.Program

/-!
# The command line

The program on a real machine. The file system, the clock and the environment are those of the
machine; programs of the machine are out of reach, and asking for one is answered by a fault.
-/

namespace Buildwright.Machine

open CommandLine

/-- The fault that an error of the file system stands for. -/
def faultOf : IO.Error → HostFault
  | .noFileOrDirectory .. => .notFound
  | .permissionDenied .. => .permissionDenied
  | .alreadyExists .. => .alreadyExists
  | e => .other (toString e)

/-- Does something with the file system. -/
def attempt {α : Type} (act : IO α) : IO (Except HostFault α) := do
  try return .ok (← act) catch e => return .error (faultOf e)

/-- Whether something is at a path. -/
def isPresent (path : Path) : IO Bool := do
  match ← attempt (IO.FS.Handle.mk path.text .read) with
  | .error .notFound => return false
  | _ => return true

/-- The fault of starting a program. -/
def outOfReach : HostFault := .other "programs cannot be started here"

/-- Runs a procedure on the machine. -/
def perform {α : Type} : Procedure α → IO α
  | .pure a => return a
  | .isPresent path next => do perform (next (← isPresent path))
  | .readFile path next => do
    perform (next ((← attempt (IO.FS.readBinFile path.text)).map (·.toList)))
  | .createDirs path next => do perform (next (← attempt (IO.FS.createDirAll path.text)))
  | .start _ next => perform (next (.error outOfReach))
  | .begin _ next => perform (next (.error outOfReach))
  | .await next => perform (next none)
  | .employ _ next => perform (next (.ok ()))
  | .clock next => do perform (next (← IO.monoNanosNow))

/-- The variables of the environment that have a meaning for the program. -/
def variableNames : List String := [
  "KEEL_MODE", "KEEL_JOBS", "KEEL_BUILD_DIR", "KEEL_CXX", "KEEL_JSON", "KEEL_NO_COLOR", "NO_COLOR",
  "CLICOLOR_FORCE"]

/-- The environment in which the program was started. -/
def environment : IO Environment := do
  let found ← variableNames.filterMapM fun name => do
    return (← IO.getEnv name).map fun value => (name, Text.utf8 value)
  return { entries := found }

end Buildwright.Machine

/-- Runs the program with its arguments. -/
def main (args : List String) : IO UInt32 := do
  let cwd ← IO.currentDir
  let output ← Buildwright.Machine.perform <|
    Buildwright.CommandLine.runProgram args (← Buildwright.Machine.environment) ⟨cwd.toString⟩
  IO.print output.stdout
  IO.eprint output.stderr
  return UInt32.ofNat output.exitCode
