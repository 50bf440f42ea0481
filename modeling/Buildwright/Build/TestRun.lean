import Buildwright.Build.Run

/-!
# Test runs

Running the tests that were built, one after another. Whether all of the names are tests is settled
before the first test is started; a test that was not built is recorded and not started.
-/

namespace Buildwright

/-- How a test ended. -/
inductive TestVerdict where
  | passed (duration : Duration)
  | failed (reason : String) (duration : Duration)
  | notBuilt (reason : String)
  deriving DecidableEq, Repr

namespace TestVerdict

/-- Whether a test passed. -/
def isPass : TestVerdict → Bool
  | passed _ => true
  | _ => false

/-- Why a test did not pass. -/
def reason? : TestVerdict → Option String
  | passed _ => none
  | failed reason _ | notBuilt reason => some reason

/-- How long a test ran. -/
def duration : TestVerdict → Duration
  | passed duration | failed _ duration => duration
  | notBuilt _ => 0

end TestVerdict

/-- What became of a test. -/
structure TestRun where
  target : String
  verdict : TestVerdict
  log : String := ""
  deriving DecidableEq, Repr

/-- The failure of a test that did not pass. -/
def TestRun.failure? (r : TestRun) : Option Failure := r.verdict.reason?.map (.test r.target)

/-- What tests are run with: something that starts an executable, and a clock in nanoseconds. -/
structure TestBench (m : Type → Type) where
  start : Path → m (Except HostFault ToolResult)
  now : m Nat

namespace TestRun

/-- The test with a given name. -/
def findTest (g : Graph) (name : String) : Except BuildError Target := do
  let target ← g.find name
  if target.kind = .test then return target
  else .error (.invalidTarget name target.kind.name "not a test target")

/-- Why a test was not built, from its status in the report of the build. -/
def notBuiltReason : Option Status → String
  | some (.skipped dependency) => "not built: dependency '" ++ dependency ++ "' failed"
  | some (.failed _) => "not built: build failed"
  | _ => "not built"

/-- What became of a test whose executable was started. -/
def ofResult (target : String) (artifact : Path) (duration : Duration) :
    Except HostFault ToolResult → TestRun
  | .ok result =>
    { target
      verdict := if result.success then .passed duration else .failed result.reason duration
      log := result.log }
  | .error fault =>
    { target
      verdict := .failed ("failed to start " ++ artifact.text ++ ": " ++ fault.message) duration }

variable {m : Type → Type} [Monad m]

/-- Runs a test, if the report says that it was built. -/
def ofTarget (bench : TestBench m) (buildDir : Path) (report : BuildReport) (t : Target) :
    m TestRun := do
  match report.status? t.name with
  | some .succeeded =>
    let started ← bench.now
    let result ← bench.start (t.artifact buildDir)
    let ended ← bench.now
    return ofResult t.name (t.artifact buildDir) (ended - started) result
  | status? => return { target := t.name, verdict := .notBuilt (notBuiltReason status?) }

/-- Runs the tests with the given names, each once. -/
def all (bench : TestBench m) (g : Graph) (buildDir : Path) (report : BuildReport)
    (names : List String) : m (Except BuildError (List TestRun)) :=
  match (Text.distinct names).mapM (findTest g) with
  | .error e => pure (.error e)
  | .ok targets => .ok <$> targets.mapM (ofTarget bench buildDir report)

end TestRun

end Buildwright
