import Buildwright.Build.TestRun

/-!
# Summaries

The counts and failures of all phases of a run, and the exit code that follows from them.
-/

namespace Buildwright

/-- What became of a run as a whole. -/
structure Summary where
  built : Nat := 0
  buildFailed : Nat := 0
  testsPassed : Nat := 0
  testsFailed : Nat := 0
  /-- Whether the sources passed the linter, if it ran. -/
  lintPassed? : Option Bool := none
  /-- Failures in the order in which they were recorded. -/
  failures : List Failure := []
  deriving DecidableEq, Repr, Inhabited

/-- What a linter found: what it printed, or a failure. -/
abbrev LintResult := Except Failure String

/-- The result of a linter that ran. -/
def LintResult.ofTool (r : ToolResult) : LintResult :=
  if r.success then .ok r.log else .error (.lint r.reason)

namespace Summary

/-- The summary of a build. -/
def ofBuild (r : BuildReport) : Summary where
  built := r.succeeded
  buildFailed := r.failed
  failures := r.failures

/-- Records what became of a test. -/
def recordTest (s : Summary) (run : TestRun) : Summary :=
  { s with
    testsPassed := if run.verdict.isPass then s.testsPassed + 1 else s.testsPassed
    testsFailed := if run.verdict.isPass then s.testsFailed else s.testsFailed + 1
    failures := s.failures ++ run.failure?.toList }

/-- Records what became of several tests. -/
def recordTests (s : Summary) (runs : List TestRun) : Summary := runs.foldl recordTest s

/-- Records what a linter found. -/
def recordLint (s : Summary) : LintResult → Summary
  | .ok _ => { s with lintPassed? := some true }
  | .error failure => { s with lintPassed? := some false, failures := s.failures ++ [failure] }

/-- Whether nothing failed. -/
def isSuccess (s : Summary) : Bool := s.failures = []

/-- The exit code of the run. -/
def exitCode (s : Summary) : Nat := if s.isSuccess then 0 else 1

/-- The failures of one phase. -/
def failuresIn (s : Summary) (phase : Phase) : List Failure :=
  s.failures.filter fun failure => failure.phase = phase

/-! ### Text -/

/-- The counts of a summary, those of the tests only if there were any. -/
def headline (s : Summary) : String :=
  "build: " ++ toString s.built ++ " ok, " ++ toString s.buildFailed ++ " failed" ++
    (if 0 < s.testsPassed + s.testsFailed then
      "; test: " ++ toString s.testsPassed ++ " passed, " ++ toString s.testsFailed ++ " failed"
    else "") ++
    match s.lintPassed? with
    | some true => "; lint: ok"
    | some false => "; lint: failed"
    | none => ""

/-- A summary as text: its counts and then a line for each failure. -/
def render (s : Summary) : String :=
  s.headline ++ "\n" ++ "".intercalate (s.failures.map fun failure =>
    "  FAILED [" ++ failure.phase.name ++ "] " ++ failure.message ++ "\n")

end Summary

end Buildwright
