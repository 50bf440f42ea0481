import Buildwright.Build.Summary
import Buildwright.Json

/-!
# Reports as JSON

The report of a whole run for machines to read. Durations are whole milliseconds of 64 bits; logs
and lists of tests that are empty are left out.
-/

namespace Buildwright

/-- The greatest number of milliseconds that is written. -/
def greatestMilliseconds : Nat := UInt64.size - 1

/-- A duration in whole milliseconds. -/
def Duration.milliseconds (d : Duration) : Nat := min (d / 1000000) greatestMilliseconds

/-- A member with a text that is not empty. -/
def Json.nonemptyText (key value : String) : List (String × Json) :=
  if value = "" then [] else [(key, .text value)]

/-- A failure as JSON. -/
def Failure.toJson (f : Failure) : Json :=
  .object (("phase", .text f.phase.name) ::
    (f.target?.map fun target => ("target", Json.text target)).toList ++
    [("reason", .text f.reason)])

/-- A status as JSON. -/
def Status.toJson : Status → Json
  | pending => .object [("state", .text "pending")]
  | building => .object [("state", .text "building")]
  | succeeded => .object [("state", .text "succeeded")]
  | failed reason => .object [("state", .text "failed"), ("reason", .text reason)]
  | skipped dependency =>
    .object [("state", .text "skipped"), ("failed_dependency", .text dependency)]

/-- An outcome as JSON. -/
def Outcome.toJson (o : Outcome) : Json :=
  .object ([("name", .text o.name), ("kind", .text o.kind.name), ("status", o.status.toJson)] ++
    Json.nonemptyText "log" o.log ++ [("duration", .count o.duration.milliseconds)])

/-- The report of a build as JSON. -/
def BuildReport.toJson (r : BuildReport) : Json :=
  .object [
    ("outcomes", .array (r.outcomes.map Outcome.toJson)),
    ("failures", .array (r.failures.map Failure.toJson)),
    ("duration", .count r.duration.milliseconds)]

/-- The members of a verdict. -/
def TestVerdict.members : TestVerdict → List (String × Json)
  | passed duration => [("result", .text "pass"), ("duration", .count duration.milliseconds)]
  | failed reason duration =>
    [("result", .text "fail"), ("reason", .text reason), ("duration", .count duration.milliseconds)]
  | notBuilt reason => [("result", .text "not_built"), ("reason", .text reason)]

/-- What became of a test as JSON. -/
def TestRun.toJson (r : TestRun) : Json :=
  .object (("target", .text r.target) :: r.verdict.members ++ Json.nonemptyText "log" r.log)

/-- A summary as JSON. -/
def Summary.toJson (s : Summary) : Json :=
  .object [
    ("built", .count s.built),
    ("build_failed", .count s.buildFailed),
    ("tests_passed", .count s.testsPassed),
    ("tests_failed", .count s.testsFailed),
    ("lint_passed", (s.lintPassed?.map Json.bool).getD .null),
    ("failures", .array (s.failures.map Failure.toJson))]

/-- Everything that a run found out. -/
structure RunReport where
  build : BuildReport := {}
  tests : List TestRun := []
  summary : Summary := {}
  deriving DecidableEq, Repr, Inhabited

/-- The report of a run as JSON. -/
def RunReport.toJson (r : RunReport) : Json :=
  .object (("build", r.build.toJson) ::
    (if r.tests = [] then [] else [("tests", .array (r.tests.map TestRun.toJson))]) ++
    [("summary", r.summary.toJson)])

/-- The indented text of the report of a run. -/
def RunReport.text (r : RunReport) : String := r.toJson.pretty

end Buildwright
