import Buildwright.Host.Procedure

/-!
# Results of tools

What became of one use of an external tool: whether it succeeded, and what it printed.
-/

namespace Buildwright

/-- The result of an external tool. -/
structure ToolResult where
  success : Bool
  /-- The exit code of a program that ended by itself. -/
  code? : Option Int := none
  /-- Why the tool could not be used at all. -/
  fault? : Option String := none
  log : String := ""
  deriving DecidableEq, Repr, Inhabited

/-- The exit code of a program that ended by itself. -/
def Ending.code? : Ending → Option Int
  | exited code => some code
  | killed => none

/-- Whether a program ended well. -/
def Ending.isSuccess (e : Ending) : Bool := e.code? = some 0

namespace ToolResult

/-- A tool that did what it was asked. -/
def succeeded (log : String) : ToolResult := { success := true, code? := some 0, log }

/-- A tool that ran and failed. -/
def failed (code? : Option Int) (log : String) : ToolResult := { success := false, code?, log }

/-- A tool that could not be used. -/
def neverRan (fault log : String) : ToolResult := { success := false, fault? := some fault, log }

/-- A tool that broke down without a result. -/
def brokeDown : ToolResult := neverRan "toolchain panicked" ""

/-- The result of a program that ran. -/
def ofEnding (ending : Ending) (log : String) : ToolResult :=
  { success := ending.isSuccess, code? := ending.code?, log }

/-- Why a tool failed, in a few words. -/
def reason (r : ToolResult) : String :=
  match r.fault?, r.code? with
  | some fault, _ => fault
  | none, some code => "exit status " ++ toString code
  | none, none => if r.success then "ok" else "terminated by signal"

end ToolResult

/-! ### Logged commands -/

namespace Procedure

/-- Runs a command, and puts its line and what it printed behind a log. -/
def logged (command : Command) (log : String) : Procedure (Except HostFault Ending × String) :=
  let log := log ++ "$ " ++ command.line ++ "\n"
  .start command fun
    | .error fault => .pure (.error fault, log)
    | .ok finished =>
      .pure (.ok finished.ending, log ++
        String.ofList (Text.decodeLossy finished.stdout) ++
        String.ofList (Text.decodeLossy finished.stderr))

end Procedure

end Buildwright
