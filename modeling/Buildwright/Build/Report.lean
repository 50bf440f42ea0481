import Buildwright.Manifest.Basic

/-!
# Reports

What became of the targets of a build: a status for each planned target, and the failures in the
order in which they came to light. A failure concerns one target and leaves the others alone.
-/

namespace Buildwright

/-! ### Failures -/

/-- The part of a run in which a failure comes to light. -/
inductive Phase where
  | build
  | lint
  | test
  deriving DecidableEq, Repr

/-- The word for a phase. -/
def Phase.name : Phase → String
  | build => "build"
  | lint => "lint"
  | test => "test"

/-- Something that failed while other things go on. -/
inductive Failure where
  | build (target reason : String)
  | lint (reason : String)
  | test (target reason : String)
  deriving DecidableEq, Repr

namespace Failure

/-- The phase of a failure. -/
def phase : Failure → Phase
  | build _ _ => .build
  | lint _ => .lint
  | test _ _ => .test

/-- The target that failed, unless the failure concerns all of them. -/
def target? : Failure → Option String
  | build target _ | test target _ => some target
  | lint _ => none

/-- What failed and why. -/
def reason : Failure → String
  | build _ reason | lint reason | test _ reason => reason

/-- The text of a failure. -/
def message : Failure → String
  | build target reason => "build of '" ++ target ++ "' failed: " ++ reason
  | lint reason => "lint failed: " ++ reason
  | test target reason => "test '" ++ target ++ "' failed: " ++ reason

end Failure

/-! ### Outcomes -/

/-- How far the build is with a target. -/
inductive Status where
  | pending
  | building
  | succeeded
  | failed (reason : String)
  /-- It was not started, since a target on which it depends failed or was skipped itself. -/
  | skipped (dependency : String)
  deriving DecidableEq, Repr, Inhabited

namespace Status

/-- Whether a target was built. -/
def isSuccess : Status → Bool
  | succeeded => true
  | _ => false

/-- Whether a target failed or was skipped. -/
def isFailure : Status → Bool
  | failed _ | skipped _ => true
  | _ => false

/-- Whether a target will not be touched again. -/
def isTerminal (s : Status) : Bool := s.isSuccess || s.isFailure

end Status

/-- A length of time in nanoseconds. -/
abbrev Duration := Nat

/-- What became of a target. -/
structure Outcome where
  name : String
  kind : Kind
  status : Status
  log : String := ""
  duration : Duration := 0
  deriving DecidableEq, Repr

/-- What became of a build. -/
structure BuildReport where
  /-- One outcome for each planned target, in the order of the plan. -/
  outcomes : List Outcome := []
  /-- Failures in the order in which they came to light. -/
  failures : List Failure := []
  duration : Duration := 0
  deriving DecidableEq, Repr, Inhabited

namespace BuildReport

/-- The outcome of a target. -/
def outcome? (r : BuildReport) (name : String) : Option Outcome :=
  r.outcomes.find? fun outcome => outcome.name = name

/-- The status of a target. -/
def status? (r : BuildReport) (name : String) : Option Status := (r.outcome? name).map (·.status)

/-- How many targets were built. -/
def succeeded (r : BuildReport) : Nat := r.outcomes.countP (·.status.isSuccess)

/-- How many targets failed or were skipped. -/
def failed (r : BuildReport) : Nat := r.outcomes.countP (·.status.isFailure)

/-- Whether nothing failed. -/
def isSuccess (r : BuildReport) : Bool := r.failures = []

end BuildReport

end Buildwright
