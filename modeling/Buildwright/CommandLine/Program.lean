import Buildwright.CommandLine.Commands

/-!
# The program

From the arguments of the program to what it prints: the arguments are read, the workspace is
opened, and the command does its work. Faults in the arguments give the exit code 2, and complaints
the exit code 1.
-/

namespace Buildwright.CommandLine

/-- What the program prints, and its exit code. -/
structure Output where
  stdout : String := ""
  stderr : String := ""
  exitCode : Nat := 0
  deriving DecidableEq, Repr

namespace Output

/-- The output of an answer or a complaint. -/
def ofResult : Except Complaint Answer → Output
  | .ok answer => { stdout := answer.stdout, exitCode := answer.exitCode }
  | .error complaint => { stderr := complaint.text, exitCode := 1 }

end Output

/-! ### Texts on the program -/

/-- The name of the program. -/
def programName : String := "keel"

/-- The version of the program. -/
def programVersion : String := "0.1.0"

/-- The commands with their purposes. -/
def overview : List String :=
  "Commands:" :: Verb.all.map fun verb => "  " ++ verb.name ++ "  " ++ verb.purpose

/-- The text for someone who asks for help. -/
def helpLines : Option Verb → List String
  | none => ["Usage: " ++ programName ++ " <COMMAND>", ""] ++ overview
  | some verb =>
    [verb.purpose, "", "Usage: " ++ programName ++ " " ++ verb.name ++ " [OPTIONS]", ""] ++
      verb.grammar.options.map fun form => "  --" ++ form.long

/-- The text with the version. -/
def versionLine (verb? : Option Verb) : String :=
  programName ++ ((verb?.map fun verb => "-" ++ verb.name).getD "") ++ " " ++ programVersion

/-- A script that completes the names of the commands. -/
def completionLines (shell : String) : List String :=
  let names := " ".intercalate (Verb.all.map Verb.name)
  ["# " ++ shell, "complete -W '" ++ names ++ "' " ++ programName]

/-! ### Running -/

/-- Runs a command in the workspace of the current directory. -/
def inWorkspace (env : Environment) (cwd : Path) (manifest? : Option Path)
    (work : Workspace → Procedure (Except Complaint Answer)) : Procedure Output := do
  match ← Workspace.find env cwd manifest? with
  | .error complaint => return .ofResult (.error complaint)
  | .ok w => return .ofResult (← work w)

/-- Does what is asked for. -/
def Invocation.run (env : Environment) (cwd : Path) (invocation : Invocation) : Procedure Output :=
  let console (verbose : Bool) : Console := { colored := wantsColor env, verbose }
  match invocation with
  | .build targets manifest? options verbose json =>
    inWorkspace env cwd manifest? fun w => runBuild w (console verbose) targets options json
  | .test targets manifest? options verbose json =>
    inWorkspace env cwd manifest? fun w => runTests w (console verbose) targets options json
  | .lint files all manifest? verbose json =>
    inWorkspace env cwd manifest? fun w => runLint w (console verbose) files all json
  | .plan targets waves manifest? json =>
    inWorkspace env cwd manifest? fun w => return showPlan w targets waves json
  | .env target mode? manifest? json =>
    inWorkspace env cwd manifest? fun w => return showEnvironment w target mode? json
  | .completions shell => return .ofResult (.ok (.lines (completionLines shell) 0))
  | .help verb? => return .ofResult (.ok (.lines (helpLines verb?) 0))
  | .version verb? => return .ofResult (.ok (.lines [versionLine verb?] 0))

/-- Runs the program. -/
def runProgram (args : List String) (env : Environment) (cwd : Path) : Procedure Output :=
  match Invocation.ofArgs? env args with
  | some invocation => invocation.run env cwd
  | none =>
    return {
      stderr := "error: invalid arguments; try '" ++ programName ++ " --help'\n"
      exitCode := 2 }

end Buildwright.CommandLine
