import Buildwright.Build.ReportJson
import Buildwright.CommandLine.Console
import Buildwright.CommandLine.Workspace
import Buildwright.Tool.Linter
import Buildwright.Tool.TestLauncher
import Buildwright.Tool.Toolchain

/-!
# Commands

What each command of the program does, as a procedure. A command either says what it has to say on
standard output and gives an exit code, or complains. All that can be complained about is settled
before the first tool is started. A command that starts tools makes a report first, and shows it
then, as lines or as JSON.
-/

namespace Buildwright.CommandLine

/-- What a command says, and its exit code. -/
structure Answer where
  stdout : String
  exitCode : Nat := 0
  deriving DecidableEq, Repr

namespace Answer

/-- Lines on standard output. -/
def lines (ls : List String) (exitCode : Nat) : Answer where
  stdout := "".intercalate (ls.map (· ++ "\n"))
  exitCode

/-- JSON on standard output. -/
def json (value : Json) (exitCode : Nat) : Answer := lines [value.pretty] exitCode

/-- JSON on standard output, with the members of objects in ascending order. -/
def sortedJson (value : Json) (exitCode : Nat) : Answer := json value.sorted exitCode

end Answer

/-- The compiler of a project, and the clock of the host. -/
def workshop (p : Project) : Workshop Procedure where
  build := (Toolchain.ofProject p).build
  now := Procedure.now

/-- The tests of a project run in its directory. -/
def testBench (p : Project) : TestBench Procedure where
  start := ({ workingDir? := some p.root } : TestLauncher).run
  now := Procedure.now

/-- Builds a plan in a workspace. -/
def buildPlan (w : Workspace) (config : BuildConfig) (plan : Plan) :
    Procedure (Except Complaint BuildReport) := do
  let report ← Build.onHost (workshop w.project) w.graph config plan
  return report.mapError fun e => { message := "Build failed to start", causes := [e.message] }

/-! ### Building and testing -/

/-- Builds targets and reports on it. -/
def reportBuild (w : Workspace) (targets : List String) (options : CompileOptions) :
    Procedure (Except Complaint RunReport) := do
  let settled : Except Complaint (Plan × BuildConfig) := do
    let plan ← Workspace.orComplain (w.graph.planFor targets)
    return (plan, ← w.config options)
  match settled with
  | .error c => return .error c
  | .ok (plan, config) =>
    match ← buildPlan w config plan with
    | .error c => return .error c
    | .ok build => return .ok { build, summary := Summary.ofBuild build }

/-- Builds targets and shows what became of them. -/
def runBuild (w : Workspace) (console : Console) (targets : List String)
    (options : CompileOptions) (json : Bool) : Procedure (Except Complaint Answer) := do
  return (← reportBuild w targets options).map fun report =>
    if json then .json report.toJson report.summary.exitCode
    else
      .lines (console.buildLines report.build ++ console.summaryLines report.summary)
        report.summary.exitCode

/-- Checks that a name is that of a test. -/
def checkTest (g : Graph) (name : String) : Except Complaint Unit := do
  let target ← Workspace.orComplain (g.find name)
  if target.kind ≠ .test then
    throw { message := "'" ++ name ++ "' is a " ++ target.kind.name ++ " target, not a test" }

/-- The tests to run: those that are named, or all of them. There must be one. -/
def testsToRun (g : Graph) (targets : List String) : Except Complaint (List String) := do
  let tests := if targets = [] then g.testNames else targets
  if tests = [] then throw { message := "no test targets declared" }
  tests.forM (checkTest g)
  return tests

/-- Builds tests, runs those that were built, and reports on it. -/
def reportTests (w : Workspace) (targets : List String) (options : CompileOptions) :
    Procedure (Except Complaint RunReport) := do
  let settled : Except Complaint (List String × Plan × BuildConfig) := do
    let tests ← testsToRun w.graph targets
    let plan ← Workspace.orComplain (w.graph.plan tests)
    return (tests, plan, ← w.config options)
  match settled with
  | .error c => return .error c
  | .ok (tests, plan, config) =>
    match ← buildPlan w config plan with
    | .error c => return .error c
    | .ok build =>
      match ← TestRun.all (testBench w.project) w.graph config.buildDir build tests with
      | .error e => return .error (complain e)
      | .ok runs =>
        let summary := (Summary.ofBuild build).recordTests runs
        return .ok { build, tests := runs, summary }

/-- Builds tests, runs those that were built, and shows what became of them. -/
def runTests (w : Workspace) (console : Console) (targets : List String)
    (options : CompileOptions) (json : Bool) : Procedure (Except Complaint Answer) := do
  return (← reportTests w targets options).map fun report =>
    if json then .json report.toJson report.summary.exitCode
    else
      .lines (console.buildLines report.build ++ [""] ++ console.testLines report.tests ++
        console.summaryLines report.summary) report.summary.exitCode

/-! ### Linting -/

/-- Which files to lint: those that are named, those of every target, or those of the targets that
are linted. -/
def filesToLint (g : Graph) (files : List String) (all : Bool) : List String :=
  if files ≠ [] then files else g.sourcesOf fun t => all || t.isLinted

/-- Checks files. -/
def lintFiles (w : Workspace) (files : List String) : Procedure LintResult :=
  return LintResult.ofTool (← (Linter.ofProject w.project).lint files)

/-- Checks files and shows what the linter found. -/
def runLint (w : Workspace) (console : Console) (files : List String) (all json : Bool) :
    Procedure (Except Complaint Answer) := do
  let files := filesToLint w.graph files all
  let result ← lintFiles w files
  let summary := ({} : Summary).recordLint result
  return .ok <|
    if json then
      .sortedJson (.object [
        ("files", .texts files),
        ("log", .ofText? result.toOption),
        ("summary", summary.toJson)]) summary.exitCode
    else
      .lines (console.lintLines files.length result ++
        if summary.isSuccess then [] else console.summaryLines summary) summary.exitCode

/-! ### Showing -/

/-- Shows a plan, or its waves. -/
def showPlan (w : Workspace) (targets : List String) (waves json : Bool) :
    Except Complaint Answer := do
  let plan ← Workspace.orComplain (w.graph.planFor targets)
  if waves then
    let groups ← Workspace.orComplain (w.graph.waves plan)
    return if json then .json (.object [("groups", .array (groups.map .texts))]) 0
      else .lines (groups.zipIdx.map fun (names, i) =>
        toString (i + 1) ++ ": " ++ " ".intercalate names) 0
  else
    return if json then .json (.object [("plan", .texts plan.names)]) 0
      else .lines plan.names 0

/-- A line with a label and items. -/
def itemsLine (label : String) (items : List String) : String :=
  let label := label ++ ":"
  label ++ String.ofList (List.replicate (13 - label.length) ' ') ++ " " ++
    if items = [] then "(none)" else " ".intercalate items

/-- An environment as JSON. -/
def environmentJson (e : BuildEnvironment) : Json :=
  .object [
    ("include_dirs", .texts e.includeDirs),
    ("link_flags", .texts e.linkFlags),
    ("libraries", .texts e.libraries)]

/-- Shows what a target is compiled and linked with. -/
def showEnvironment (w : Workspace) (name : String) (mode? : Option String) (json : Bool) :
    Except Complaint Answer := do
  let environment ← Workspace.orComplain (w.graph.environment name)
  let mode ← w.mode mode?
  let target ← Workspace.orComplain (w.graph.find name)
  return if json then
      .sortedJson (.object [
        ("target", .text target.name),
        ("kind", .text target.kind.name),
        ("environment", environmentJson environment),
        ("profile", .object [("mode", .text mode.name), ("flags", .texts mode.flags)])]) 0
    else
      .lines [
        "target:       " ++ target.name ++ " (" ++ target.kind.name ++ ")",
        "mode:         " ++ mode.name,
        "flags:        " ++ mode.flagText,
        itemsLine "include dirs" environment.includeDirs,
        itemsLine "link flags" environment.linkFlags,
        itemsLine "libraries" environment.libraries] 0

end Buildwright.CommandLine
