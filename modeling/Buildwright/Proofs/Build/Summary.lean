import Buildwright.Build.Summary
import Buildwright.Proofs.Build.Failures

/-!
# The exit code of a run

After a build the summary takes in what became of tests and what linters found, in any order and any
number of times. Each of these findings (`Summary.Finding`) leaves a failure behind if something is
wrong with it, and nothing otherwise. So the exit code is that of a success exactly if every planned
target was built, every test that was run has passed and no linter has found anything
(`Build.exitCode_truthful`).
-/

namespace Buildwright

/-- What a linter found to be wrong. -/
def LintResult.failure? : LintResult → Option Failure
  | .ok _ => none
  | .error failure => some failure

namespace Summary

/-! ### Findings -/

/-- A single thing that was found out after a build. -/
inductive Finding where
  | test (run : TestRun)
  | lint (result : LintResult)

namespace Finding

/-- Nothing is wrong with what was found out. -/
def IsGood : Finding → Prop
  | .test run => ∃ duration, run.verdict = .passed duration
  | .lint result => ∃ text, result = .ok text

/-- What is wrong with what was found out. -/
def failure? : Finding → Option Failure
  | .test run =>
    match run.verdict with
    | .passed _ => none
    | .failed reason _ | .notBuilt reason => some (.test run.target reason)
  | .lint result => result.failure?

theorem failure?_eq_none_iff {f : Finding} : f.failure? = none ↔ f.IsGood := by
  cases f with
  | test run => cases h : run.verdict <;> simp [failure?, IsGood, h]
  | lint result => cases result <;> simp [failure?, LintResult.failure?, IsGood]

theorem failure?_test (run : TestRun) : (Finding.test run).failure? = run.failure? := by
  rw [TestRun.failure?]
  cases h : run.verdict <;> simp [failure?, h, TestVerdict.reason?]

end Finding

/-- What is recorded at once: the runs of some tests, or what a linter found. -/
inductive Entry where
  | tests (runs : List TestRun)
  | lint (result : LintResult)

/-- What is found out with an entry. -/
def Entry.findings : Entry → List Finding
  | .tests runs => runs.map .test
  | .lint result => [.lint result]

/-! ### Recording -/

/-- Records one finding. -/
def note (s : Summary) : Finding → Summary
  | .test run => s.recordTest run
  | .lint result => s.recordLint result

/-- Records an entry. -/
def record (s : Summary) : Entry → Summary
  | .tests runs => s.recordTests runs
  | .lint result => s.recordLint result

/-- The summary of a build after which some entries were recorded. -/
def ofRun (r : BuildReport) (entries : List Entry) : Summary := entries.foldl record (ofBuild r)

theorem record_eq_foldl_note (s : Summary) (entry : Entry) :
    s.record entry = entry.findings.foldl note s := by
  cases entry with
  | tests runs =>
    rw [record, recordTests, Entry.findings, List.foldl_map]
    rfl
  | lint result => rfl

/-- To record entries is to record what was found out, one by one. -/
theorem ofRun_eq_foldl_note (r : BuildReport) (entries : List Entry) :
    ofRun r entries = (entries.flatMap Entry.findings).foldl note (ofBuild r) := by
  rw [ofRun, List.foldl_flatMap]
  congr 1
  funext s entry
  exact record_eq_foldl_note s entry

/-! ### Failures -/

/-- A finding leaves its failure behind those before it. -/
theorem failures_note (s : Summary) (f : Finding) :
    (s.note f).failures = s.failures ++ f.failure?.toList := by
  cases f with
  | test run =>
    rw [Finding.failure?_test]
    rfl
  | lint result =>
    cases result with
    | ok text => exact (List.append_nil _).symm
    | error failure => rfl

/-- **The failures of a run**, in the order in which they were recorded. -/
theorem failures_foldl_note (findings : List Finding) (s : Summary) :
    (findings.foldl note s).failures = s.failures ++ findings.filterMap Finding.failure? := by
  induction findings generalizing s with
  | nil => exact (List.append_nil _).symm
  | cons f findings ih =>
    rw [List.foldl_cons, ih, failures_note, List.append_assoc]
    congr 1
    cases h : f.failure? with
    | none => exact (List.filterMap_cons_none h).symm
    | some failure => exact (List.filterMap_cons_some h).symm

/-- Nothing is recorded as a failure if and only if nothing is wrong. -/
theorem filterMap_failure?_eq_nil_iff {findings : List Finding} :
    findings.filterMap Finding.failure? = [] ↔ ∀ f ∈ findings, f.IsGood := by
  rw [List.filterMap_eq_nil_iff]
  exact forall₂_congr fun f _ => Finding.failure?_eq_none_iff

theorem exitCode_eq_zero_iff {s : Summary} : s.exitCode = 0 ↔ s.failures = [] := by
  rw [exitCode, isSuccess]
  by_cases h : s.failures = [] <;> simp [h]

end Summary

/-! ### Exit codes -/

/-- A build has built every target that it was to build, or it has a failure. -/
theorem BuildReport.Accounts.failures_eq_nil_iff {r : BuildReport} {g : Graph} {names : List String}
    (h : r.Accounts g names) : r.failures = [] ↔ ∀ n ∈ names, r.Says n .succeeded := by
  have hsuccess := h.isSuccess_iff
  rw [isSuccess, decide_eq_true_eq] at hsuccess
  rw [hsuccess]
  obtain ⟨hnames, hnd⟩ := h.outcomes
  constructor
  · intro hall n hn
    obtain ⟨o, ho, rfl⟩ := List.mem_map.1 (hnames ▸ hn)
    exact ⟨o, ho, rfl, hall o ho⟩
  · intro hall o ho
    obtain ⟨o', ho', hname, hst⟩ := hall o.name (hnames ▸ List.mem_map.2 ⟨o, ho, rfl⟩)
    have hinj := List.inj_on_of_nodup_map (hnames.symm ▸ hnd) ho' ho hname
    exact hinj ▸ hst

namespace Summary

/-- `TellsTruth r names entries`: the summary of a build of the targets `names`, after which some
entries were recorded, has the exit code and the failures that it should have. -/
structure TellsTruth (r : BuildReport) (names : List String) (entries : List Entry) : Prop where
  /-- The run is a success if every target was built and every finding is good. -/
  exitCode_eq_zero_iff : (ofRun r entries).exitCode = 0 ↔
    (∀ n ∈ names, r.Says n .succeeded) ∧
      ∀ entry ∈ entries, ∀ f ∈ entry.findings, f.IsGood
  /-- Otherwise the exit code is 1. -/
  exitCode_le : (ofRun r entries).exitCode ≤ 1
  /-- Behind the failures of the build stands one failure for each finding that is not good, in the
  order in which these were recorded. -/
  failures : (ofRun r entries).failures =
    r.failures ++ (entries.flatMap Entry.findings).filterMap Finding.failure?
  failure?_eq_none_iff : ∀ f : Finding, f.failure? = none ↔ f.IsGood

/-- Whatever is recorded after a build that accounts for its failures is told truthfully. -/
theorem tellsTruth {r : BuildReport} {g : Graph} {names : List String} (h : r.Accounts g names)
    (entries : List Entry) : TellsTruth r names entries := by
  have hfailures : (ofRun r entries).failures =
      r.failures ++ (entries.flatMap Entry.findings).filterMap Finding.failure? := by
    rw [ofRun_eq_foldl_note, failures_foldl_note]
    rfl
  refine ⟨?_, ?_, hfailures, fun f => Finding.failure?_eq_none_iff⟩
  · rw [Summary.exitCode_eq_zero_iff, hfailures, List.append_eq_nil_iff, h.failures_eq_nil_iff,
      filterMap_failure?_eq_nil_iff]
    simp only [List.mem_flatMap]
    exact and_congr_right fun _ =>
      ⟨fun hall entry he f hf => hall f ⟨entry, he, hf⟩,
        fun hall f ⟨entry, he, hf⟩ => hall entry he f hf⟩
  · rw [exitCode]
    split <;> omega

end Summary

namespace Build

variable {g : Graph} {requested : List String} {plan : Plan}

/-- **The exit code of a run tells the truth.** Whatever the tools give, in whichever order the crew
is done with the targets, and whatever is recorded after the build in whichever order, the exit code
is 0 exactly if every planned target was built and nothing is wrong with any finding; and the
failures are those of the build and after them one for each finding with which something is
wrong. -/
theorem exitCode_truthful (h : g.plan requested = .ok plan) (result : String → ToolResult) :
    (∀ site, Site.Reachable g plan result site → site.ready = [] → site.inFlight = [] →
      ∀ duration entries,
        Summary.TellsTruth (site.progress.report duration) plan.names entries) ∧
    ∀ {m : Type → Type} [Monad m] {σ : Type} (e : Execution m σ) (crew : Crew m) (now : m Nat)
      (inFlight : σ → List String), crew.Reliable now e result inFlight →
        ∀ s, inFlight s = [] → ∃ report s',
          e.run (ofPlan crew now g plan) s = (.ok report, s') ∧
            ∀ entries, Summary.TellsTruth report plan.names entries := by
  refine ⟨fun site hs hr hf duration => Summary.tellsTruth (hs.accounts h hr hf duration),
    fun e crew now inFlight hc s hs => ?_⟩
  obtain ⟨site, duration, s', hrun, hreach, hr, hf⟩ := hc.ofPlan_reachable h hs
  exact ⟨_, s', hrun, Summary.tellsTruth (hreach.accounts h hr hf duration)⟩

/-- One side of a diamond cannot be built. Then a linter is content, one of two tests fails, and a
second linter is not content. -/
theorem exitCode_truthful_diamond :
    Graph.diamond.plan ["a"] = .ok ⟨["d", "b", "c", "a"]⟩ ∧
    ∃ report, alone (Site.allBut "b") Graph.diamond ⟨["d", "b", "c", "a"]⟩ = .ok report ∧
      (∀ entries, Summary.TellsTruth report ["d", "b", "c", "a"] entries) ∧
      (Summary.ofRun report [.lint (.ok ""), .tests [⟨"t", .passed 5, ""⟩,
        ⟨"u", .notBuilt "not built", ""⟩], .lint (.error (.lint "exit status 1"))]).failures =
        [.build "b" "exit status 1", .build "a" "dependency 'b' failed", .test "u" "not built",
          .lint "exit status 1"] := by
  obtain ⟨-, hcrew⟩ := exitCode_truthful Graph.plan_diamond (Site.allBut "b")
  obtain ⟨report, hrun, htruth⟩ := exists_alone hcrew
  have hfailures : (alone (Site.allBut "b") Graph.diamond ⟨["d", "b", "c", "a"]⟩).toOption.map
      (fun r => r.failures) = some [.build "b" "exit status 1",
        .build "a" "dependency 'b' failed"] := by decide +kernel
  rw [hrun] at hfailures
  have hbuild : report.failures = [.build "b" "exit status 1",
      .build "a" "dependency 'b' failed"] := Option.some.inj hfailures
  refine ⟨Graph.plan_diamond, report, hrun, htruth, ?_⟩
  rw [(htruth _).failures, hbuild]
  rfl

end Build

end Buildwright
