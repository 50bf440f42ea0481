import Buildwright.Proofs.Build.Summary
import Buildwright.Proofs.Text

/-!
# What a summary displays

A summary counts what failed in a build and among the tests, and says whether the sources passed a
linter; it shows this on its first line and lists the failures below it. The counts are those of the
failures (`Summary.Tallies`), and the first line tells of what it should (`firstLine_render`,
`showsNoFailure_headline_iff`). Only what is said of linters is not added up: each linter replaces
what was said of those before it, whose failures nevertheless stay. So after a linter that found
something and one that did not, the first line shows no failure of linters, while there is one below
it and in the exit code (`Build.lint_overwritten`). `Build.display_agrees_iff` says that this is the
only way for them to disagree.
-/

namespace Buildwright

namespace Summary

/-! ### Counts -/

/-- What a summary counts of a phase. Failures of linters are not counted. -/
def countIn (s : Summary) : Phase → Nat
  | .build => s.buildFailed
  | .test => s.testsFailed
  | .lint => 0

/-- `s.Tallies found`: in each phase there are as many failures as are counted, apart from those
that linters found. -/
def Tallies (s : Summary) (found : List Failure) : Prop :=
  ∀ phase, (s.failuresIn phase).length = s.countIn phase + found.countP (·.phase = phase)

/-- What a linter found, if it is one that was asked. -/
def Finding.lintResult? : Finding → Option LintResult
  | .test _ => none
  | .lint result => some result

/-- The results of the linters, in the order in which they were recorded. -/
def lintResults (findings : List Finding) : List LintResult :=
  findings.filterMap Finding.lintResult?

/-- What the linters found to be wrong. -/
def lintFailures (findings : List Finding) : List Failure :=
  (lintResults findings).filterMap LintResult.failure?

theorem lintFailures_cons (f : Finding) (findings : List Finding) :
    lintFailures (f :: findings) = lintFailures [f] ++ lintFailures findings := by
  rw [lintFailures, lintResults, ← List.singleton_append, List.filterMap_append,
    List.filterMap_append]
  rfl

theorem length_failuresIn_append {s s' : Summary} {more : List Failure}
    (h : s'.failures = s.failures ++ more) (phase : Phase) :
    (s'.failuresIn phase).length =
      (s.failuresIn phase).length + more.countP (·.phase = phase) := by
  rw [failuresIn, h, List.filter_append, List.length_append, List.countP_eq_length_filter]
  rfl

/-- **Recording a finding keeps the tally**: the failure of a test is counted, and that of a linter
is one that a linter found. -/
theorem Tallies.note {s : Summary} {found : List Failure} (h : s.Tallies found) (f : Finding) :
    (s.note f).Tallies (found ++ lintFailures [f]) := by
  intro phase
  rw [length_failuresIn_append (s.failures_note f), h phase, List.countP_append]
  cases f with
  | test run =>
    have hnone : lintFailures [.test run] = [] := rfl
    rw [hnone, Finding.failure?_test, TestRun.failure?]
    cases hv : run.verdict <;> cases phase <;>
      simp [Summary.note, recordTest, countIn, hv, TestVerdict.reason?, TestVerdict.isPass,
        Failure.phase] <;> omega
  | lint result =>
    have hcount : (s.note (.lint result)).countIn phase = s.countIn phase := by
      cases result <;> cases phase <;> rfl
    have hfound : lintFailures [.lint result] = result.failure?.toList := by
      cases result <;> rfl
    rw [hcount, hfound, Nat.add_assoc]
    rfl

/-- **A run keeps the tally.** -/
theorem Tallies.foldl_note {s : Summary} {found : List Failure} (h : s.Tallies found)
    (findings : List Finding) :
    (findings.foldl Summary.note s).Tallies (found ++ lintFailures findings) := by
  induction findings generalizing s found with
  | nil => exact (List.append_nil found).symm ▸ h
  | cons f findings ih =>
    rw [lintFailures_cons, ← List.append_assoc]
    exact ih (h.note f)

/-- The summary of a build that accounts for its failures begins with a tally. -/
theorem tallies_ofBuild {r : BuildReport} {g : Graph} {names : List String}
    (h : r.Accounts g names) : (ofBuild r).Tallies [] := by
  have hbuild : ∀ f ∈ r.failures, f.phase = .build := by
    intro f hf
    obtain ⟨o, -, ho⟩ := List.mem_filterMap.1 (h.failures.mem_iff.1 hf)
    cases hst : o.status <;> simp [hst, Status.failure?] at ho
    all_goals
      subst ho
      rfl
  intro phase
  rw [failuresIn, ofBuild, List.countP_nil, Nat.add_zero]
  cases phase with
  | build =>
    rw [List.filter_eq_self.2 fun f hf => by simp [hbuild f hf], h.length_failures]
    rfl
  | lint | test =>
    rw [List.filter_eq_nil_iff.2 fun f hf => by simp [hbuild f hf]]
    rfl

/-- The counts of a run are those of its failures. -/
theorem tallies_ofRun {r : BuildReport} {g : Graph} {names : List String} (h : r.Accounts g names)
    (entries : List Entry) :
    (ofRun r entries).Tallies (lintFailures (entries.flatMap Entry.findings)) := by
  rw [ofRun_eq_foldl_note]
  exact (tallies_ofBuild h).foldl_note _

/-- Nothing has failed if and only if nothing is counted and no linter has found anything. -/
theorem Tallies.failures_eq_nil_iff {s : Summary} {found : List Failure} (h : s.Tallies found) :
    s.failures = [] ↔ s.buildFailed = 0 ∧ s.testsFailed = 0 ∧ found = [] := by
  have hzero : s.failures = [] ↔ ∀ phase, (s.failuresIn phase).length = 0 := by
    simp only [failuresIn, List.length_eq_zero_iff, List.filter_eq_nil_iff, decide_eq_true_eq]
    exact ⟨fun hf phase f hmem => by simp [hf] at hmem,
      fun hall => List.eq_nil_iff_forall_not_mem.2 fun f hf => hall f.phase f hf rfl⟩
  have hfound : found = [] ↔ ∀ phase, found.countP (·.phase = phase) = 0 := by
    simp only [List.countP_eq_zero, decide_eq_true_eq]
    exact ⟨fun hf phase f hmem => by simp [hf] at hmem,
      fun hall => List.eq_nil_iff_forall_not_mem.2 fun f hf => hall f.phase f hf rfl⟩
  rw [hzero, hfound]
  constructor
  · intro hall
    have hsum (phase : Phase) := (h phase).symm.trans (hall phase)
    exact ⟨(Nat.add_eq_zero_iff.1 (hsum .build)).1, (Nat.add_eq_zero_iff.1 (hsum .test)).1,
      fun phase => (Nat.add_eq_zero_iff.1 (hsum phase)).2⟩
  · rintro ⟨hb, ht, hl⟩ phase
    rw [h phase, hl phase]
    cases phase <;> simp [countIn, hb, ht]

/-! ### Linters -/

/-- A linter that is recorded replaces what was said of those before it. -/
theorem lintPassed?_foldl_note (findings : List Finding) (s : Summary) :
    (findings.foldl note s).lintPassed? =
      ((lintResults findings).getLast?.map fun r => r.isOk).or s.lintPassed? := by
  induction findings generalizing s with
  | nil => rfl
  | cons f findings ih =>
    rw [List.foldl_cons, ih]
    cases f with
    | test run => rfl
    | lint result =>
      have hcons : lintResults (.lint result :: findings) = result :: lintResults findings := rfl
      rw [hcons, List.getLast?_cons]
      cases (lintResults findings).getLast? with
      | none => cases result <;> rfl
      | some last => rfl

/-- What a summary says of linters is what the last one said. -/
theorem lintPassed?_ofRun (r : BuildReport) (entries : List Entry) :
    (ofRun r entries).lintPassed? =
      (lintResults (entries.flatMap Entry.findings)).getLast?.map fun r => r.isOk := by
  rw [ofRun_eq_foldl_note, lintPassed?_foldl_note]
  exact Option.or_none

end Summary

/-! ### First lines -/

namespace Text

/-- The first line of a text. -/
def firstLine (s : String) : String := .ofList (s.toList.takeWhile (· ≠ '\n'))

theorem firstLine_append {s rest : String} (h : '\n' ∉ s.toList) :
    firstLine (s ++ "\n" ++ rest) = s := by
  have hs : ∀ c ∈ s.toList, decide (c ≠ '\n') = true := fun c hc =>
    decide_eq_true fun he => h (he ▸ hc)
  have htext : (s ++ "\n" ++ rest).toList = s.toList ++ '\n' :: rest.toList := by
    simp [String.toList_append]
  rw [firstLine, htext, List.takeWhile_append_of_pos hs, List.takeWhile_cons_of_neg (by simp),
    List.append_nil, String.ofList_toList]

end Text

namespace Summary

/-- `ShowsNoFailure line`: the line counts no target that failed, and no test that failed if there
were any, and no linter has found anything if there was one. -/
def ShowsNoFailure (line : String) : Prop :=
  ∃ (built : Nat) (tests lint : String),
    line = "build: " ++ toString built ++ " ok, 0 failed" ++ tests ++ lint ∧
    (tests = "" ∨ ∃ passed : Nat, tests = "; test: " ++ toString passed ++ " passed, 0 failed") ∧
    (lint = "" ∨ lint = "; lint: ok")

variable {s : Summary}

theorem newline_not_mem_headline (s : Summary) : '\n' ∉ s.headline.toList := by
  have hdigits (n : Nat) : '\n' ∉ Nat.toDigits 10 n := fun h => by
    cases Text.isDigit_of_mem_toDigits h
  rw [headline]
  split <;> split <;> simp [hdigits]

theorem firstLine_render (s : Summary) : Text.firstLine s.render = s.headline :=
  Text.firstLine_append s.newline_not_mem_headline

/-- How many went well and how many failed, as a first line has it. -/
def countsText (head unit : String) (good bad : Nat) : String :=
  head ++ toString good ++ (" " ++ unit ++ ", ") ++ toString bad ++ " failed"

/-- What a first line says of tests. -/
def testsText (passed failed : Nat) : String :=
  if 0 < passed + failed then countsText "; test: " "passed" passed failed else ""

/-- What a first line says of a linter. -/
def lintText : Option Bool → String
  | some true => "; lint: ok"
  | some false => "; lint: failed"
  | none => ""

theorem headline_eq (s : Summary) : s.headline =
    countsText "build: " "ok" s.built s.buildFailed ++
      (testsText s.testsPassed s.testsFailed ++ lintText s.lintPassed?) := by
  rw [← String.append_assoc]
  rfl

theorem countsText_zero (head unit : String) (good : Nat) :
    countsText head unit good 0 = head ++ toString good ++ (" " ++ unit ++ ", 0 failed") := by
  have hzero : ", " ++ (toString 0 ++ " failed") = ", 0 failed" := rfl
  simp only [countsText, String.append_assoc, hzero]

/-- Two counts can be read off a text that begins with them. -/
theorem countsText_append_inj {head unit x y : String} {m n bad bad' : Nat}
    (h : countsText head unit m bad ++ x = countsText head unit n bad' ++ y) :
    m = n ∧ bad = bad' ∧ x = y := by
  have hspace : " ".toList = [' '] := rfl
  have hfailed : " failed".toList = ' ' :: "failed".toList := rfl
  have h := congrArg String.toList h
  simp only [countsText, String.toList_append, Nat.toString_eq_repr, Nat.toList_repr,
    List.append_assoc, hspace, hfailed, List.cons_append, List.nil_append] at h
  obtain ⟨hgood, h⟩ := Text.toDigits_append_cons_inj (by decide) (by decide)
    (List.append_cancel_left h)
  have h := List.append_cancel_left (List.append_cancel_left (List.cons.inj h).2)
  obtain ⟨hbad, h⟩ := Text.toDigits_append_cons_inj (by decide) (by decide) h
  exact ⟨hgood, hbad, String.toList_inj.1 (List.append_cancel_left (List.cons.inj h).2)⟩

/-- A first line shows a failure of linters only if the last one failed. -/
theorem lintText_cases {passed? : Option Bool} :
    lintText passed? = "" ∨ lintText passed? = "; lint: ok" ↔ passed? ≠ some false := by
  rcases passed? with _ | _ | _ <;> simp [lintText]

/-- What is said of a linter does not begin like what is said of tests. -/
theorem lintText_ne (passed? : Option Bool) (good bad : Nat) (rest : String) :
    lintText passed? ≠ countsText "; test: " "passed" good bad ++ rest := by
  intro h
  have h := congrArg String.toList h
  rcases passed? with _ | _ | _ <;> simp [lintText, countsText] at h

/-- Where no failure of a test or a linter is shown, there is none. -/
theorem no_failure_of_testsText {passed failed : Nat} {passed? : Option Bool} {tests lint : String}
    (h : testsText passed failed ++ lintText passed? = tests ++ lint)
    (htests : tests = "" ∨ ∃ good, tests = countsText "; test: " "passed" good 0)
    (hlint : lint = "" ∨ lint = "; lint: ok") : failed = 0 ∧ passed? ≠ some false := by
  have hlint' : ∃ linted?, lint = lintText linted? := by
    rcases hlint with rfl | rfl
    exacts [⟨none, rfl⟩, ⟨some true, rfl⟩]
  rw [← lintText_cases]
  -- tests are spoken of on both sides or on none
  by_cases hsome : 0 < passed + failed
  · rw [testsText, if_pos hsome] at h
    rcases htests with rfl | ⟨good, rfl⟩
    · obtain ⟨linted?, rfl⟩ := hlint'
      rw [String.empty_append] at h
      exact absurd h.symm (lintText_ne _ _ _ _)
    · obtain ⟨-, hfailed, h⟩ := countsText_append_inj h
      exact ⟨hfailed, h ▸ hlint⟩
  · rw [testsText, if_neg hsome, String.empty_append] at h
    rcases htests with rfl | ⟨good, rfl⟩
    · rw [String.empty_append] at h
      exact ⟨by omega, h ▸ hlint⟩
    · exact absurd h (lintText_ne _ _ _ _)

/-- **What the first line shows.** -/
theorem showsNoFailure_headline_iff : ShowsNoFailure s.headline ↔
    s.buildFailed = 0 ∧ s.testsFailed = 0 ∧ s.lintPassed? ≠ some false := by
  rw [headline_eq]
  constructor
  · rintro ⟨built, tests, lint, h, htests, hlint⟩
    have h := h.trans (String.append_assoc.trans
      (congrArg (· ++ _) (countsText_zero "build: " "ok" built).symm))
    obtain ⟨-, hbuild, h⟩ := countsText_append_inj h
    refine ⟨hbuild, no_failure_of_testsText h (htests.imp_right ?_) hlint⟩
    exact fun ⟨good, ht⟩ => ⟨good, ht.trans (countsText_zero "; test: " "passed" good).symm⟩
  · rintro ⟨hbuild, htests, hlint⟩
    refine ⟨s.built, testsText s.testsPassed s.testsFailed, lintText s.lintPassed?, ?_, ?_,
      lintText_cases.2 hlint⟩
    · rw [hbuild, countsText_zero]
      exact String.append_assoc.symm
    · rw [testsText, htests]
      split
      · exact .inr ⟨_, countsText_zero "; test: " "passed" _⟩
      · exact .inl rfl

/-! ### What is shown and what failed -/

/-- A linter found something, and the last one did not. -/
def Overwritten (findings : List Finding) : Prop :=
  (∃ result ∈ lintResults findings, result.isOk = false) ∧
    ∃ last, (lintResults findings).getLast? = some last ∧ last.isOk = true

theorem lintFailures_eq_nil_iff {findings : List Finding} :
    lintFailures findings = [] ↔ ∀ result ∈ lintResults findings, result.isOk = true := by
  rw [lintFailures, List.filterMap_eq_nil_iff]
  refine forall₂_congr fun result _ => ?_
  cases result <;> simp [LintResult.failure?, Except.isOk, Except.toBool]

/-- Something that a linter found is overwritten unless the last one found something as well. -/
theorem overwritten_iff {findings : List Finding} : Overwritten findings ↔
    lintFailures findings ≠ [] ∧
      (lintResults findings).getLast?.map (fun r => r.isOk) ≠ some false := by
  have hbad : lintFailures findings ≠ [] ↔
      ∃ result ∈ lintResults findings, result.isOk = false := by
    rw [Ne, lintFailures_eq_nil_iff]
    simp only [not_forall, exists_prop, Bool.not_eq_true]
  rw [Overwritten, hbad]
  refine and_congr_right fun ⟨result, hr, _⟩ => ?_
  rw [List.getLast?_eq_getLast_of_ne_nil (List.ne_nil_of_mem hr)]
  simp

/-- `s.Displays findings`: what a summary shows of its failures, when the last things to be recorded
were some findings. -/
structure Displays (s : Summary) (findings : List Finding) : Prop where
  /-- What is counted are the failures of the build and of the tests. -/
  tallies : s.Tallies (lintFailures findings)
  /-- Where linters report failures of linters, the counts are the numbers of failures in the build
  and among the tests, and unless it was overwritten, it is said that a linter found something
  exactly if there is a failure of a linter. -/
  phases : (∀ failure ∈ lintFailures findings, failure.phase = .lint) →
    s.buildFailed = (s.failuresIn .build).length ∧
    s.testsFailed = (s.failuresIn .test).length ∧
    ((s.lintPassed? = some false ↔ s.failuresIn .lint ≠ []) ↔ ¬ Overwritten findings)
  /-- The first line shows no failure if nothing is counted and the last linter found nothing. -/
  shows : ShowsNoFailure (Text.firstLine s.render) ↔
    s.buildFailed = 0 ∧ s.testsFailed = 0 ∧
      ∀ last, (lintResults findings).getLast? = some last → last.isOk = true
  /-- The exit code is that of a success if nothing is counted and no linter found anything. -/
  exitCode : s.exitCode = 0 ↔
    s.buildFailed = 0 ∧ s.testsFailed = 0 ∧ ∀ result ∈ lintResults findings, result.isOk = true
  /-- So the first line agrees with the exit code, unless all that failed was overwritten. -/
  agree : (s.exitCode = 0 ↔ ShowsNoFailure (Text.firstLine s.render)) ↔
    ¬ (s.buildFailed = 0 ∧ s.testsFailed = 0 ∧ Overwritten findings)

theorem Tallies.phases {findings : List Finding} (h : s.Tallies (lintFailures findings))
    (hlint : ∀ failure ∈ lintFailures findings, failure.phase = .lint) :
    s.buildFailed = (s.failuresIn .build).length ∧
      s.testsFailed = (s.failuresIn .test).length ∧
      (s.failuresIn .lint ≠ [] ↔ lintFailures findings ≠ []) := by
  have hnone (phase : Phase) (hphase : phase ≠ .lint) :
      (lintFailures findings).countP (·.phase = phase) = 0 :=
    List.countP_eq_zero.2 fun failure hf => by simpa [hlint failure hf] using hphase.symm
  have hall : (lintFailures findings).countP (·.phase = .lint) = (lintFailures findings).length :=
    List.countP_eq_length.2 fun failure hf => by simp [hlint failure hf]
  refine ⟨?_, ?_, ?_⟩
  · rw [h .build, hnone .build (by decide)]
    rfl
  · rw [h .test, hnone .test (by decide)]
    rfl
  · rw [← List.length_pos_iff, ← List.length_pos_iff, h .lint, hall, countIn, Nat.zero_add]

/-- A summary that counts its failures and says of linters what the last one said shows its failures
as it should, but for those of linters that were overwritten. -/
theorem Tallies.displays {findings : List Finding} (h : s.Tallies (lintFailures findings))
    (hlast : s.lintPassed? = (lintResults findings).getLast?.map fun r => r.isOk) :
    s.Displays findings := by
  have hpassed : s.lintPassed? ≠ some false ↔
      ∀ last, (lintResults findings).getLast? = some last → last.isOk = true := by
    rw [hlast]
    cases (lintResults findings).getLast? <;> simp
  have hover : Overwritten findings ↔
      lintFailures findings ≠ [] ∧ s.lintPassed? ≠ some false := hlast ▸ overwritten_iff
  have hshows : ShowsNoFailure (Text.firstLine s.render) ↔
      s.buildFailed = 0 ∧ s.testsFailed = 0 ∧ s.lintPassed? ≠ some false := by
    rw [firstLine_render, showsNoFailure_headline_iff]
  have hcode : s.exitCode = 0 ↔
      s.buildFailed = 0 ∧ s.testsFailed = 0 ∧ lintFailures findings = [] := by
    rw [Summary.exitCode_eq_zero_iff, h.failures_eq_nil_iff]
  -- where no linter found anything, the last one did not either
  have hnil : lintFailures findings = [] → s.lintPassed? ≠ some false := fun hf =>
    hpassed.2 fun last hl => lintFailures_eq_nil_iff.1 hf last (List.mem_of_getLast? hl)
  refine ⟨h, fun hlint => ?_, by rw [hshows, hpassed], by rw [hcode, lintFailures_eq_nil_iff], ?_⟩
  · obtain ⟨hbuild, htest, hiff⟩ := h.phases hlint
    refine ⟨hbuild, htest, ?_⟩
    rw [hiff, hover]
    constructor
    · rintro hsame ⟨hf, hp⟩
      exact hp (hsame.2 hf)
    · exact fun hnot =>
        ⟨fun hfalse hf => hnil hf hfalse, fun hf => by_contra fun hp => hnot ⟨hf, hp⟩⟩
  · rw [hcode, hshows, hover]
    constructor
    · rintro hsame ⟨hb, ht, hf, hp⟩
      exact hf (hsame.2 ⟨hb, ht, hp⟩).2.2
    · exact fun hnot =>
        ⟨fun ⟨hb, ht, hf⟩ => ⟨hb, ht, hnil hf⟩,
          fun ⟨hb, ht, hp⟩ => ⟨hb, ht, by_contra fun hf => hnot ⟨hb, ht, hf, hp⟩⟩⟩

theorem displays {r : BuildReport} {g : Graph} {names : List String} (h : r.Accounts g names)
    (entries : List Entry) : (ofRun r entries).Displays (entries.flatMap Entry.findings) :=
  (tallies_ofRun h entries).displays (lintPassed?_ofRun r entries)

end Summary

namespace Build

variable {g : Graph} {requested : List String} {plan : Plan}

/-- **Where the first line agrees with the failures and the exit code.** Whatever the tools give, in
whichever order the crew is done with the targets, and whatever is recorded after the build in
whichever order: what is counted are the failures of the build and of the tests, and the first line
shows no failure exactly if the exit code is 0, unless nothing failed in the build and among the
tests, and a linter found something while the last one did not. -/
theorem display_agrees_iff (h : g.plan requested = .ok plan) (result : String → ToolResult) :
    (∀ site, Site.Reachable g plan result site → site.ready = [] → site.inFlight = [] →
      ∀ duration entries,
        (Summary.ofRun (site.progress.report duration) entries).Displays
          (entries.flatMap Summary.Entry.findings)) ∧
    ∀ {m : Type → Type} [Monad m] {σ : Type} (e : Execution m σ) (crew : Crew m) (now : m Nat)
      (inFlight : σ → List String), crew.Reliable now e result inFlight →
        ∀ s, inFlight s = [] → ∃ report s',
          e.run (ofPlan crew now g plan) s = (.ok report, s') ∧
            ∀ entries,
              (Summary.ofRun report entries).Displays (entries.flatMap Summary.Entry.findings) := by
  refine ⟨fun site hs hr hf duration => Summary.displays (hs.accounts h hr hf duration),
    fun e crew now inFlight hc s hs => ?_⟩
  obtain ⟨site, duration, s', hrun, hreach, hr, hf⟩ := hc.ofPlan_reachable h hs
  exact ⟨_, s', hrun, Summary.displays (hreach.accounts h hr hf duration)⟩

/-- One of two tests fails, and a linter is not content, but the one after it is. -/
def reconsidered : List Summary.Entry :=
  [.tests [⟨"t", .passed 5, ""⟩, ⟨"u", .notBuilt "not built", ""⟩],
    .lint (.error (.lint "exit status 1")), .lint (.ok "")]

/-- One side of a diamond cannot be built. What a linter found after it is overwritten, and still
the first line shows that something failed. -/
theorem display_agrees_diamond :
    Graph.diamond.plan ["a"] = .ok ⟨["d", "b", "c", "a"]⟩ ∧
    ∃ report, alone (Site.allBut "b") Graph.diamond ⟨["d", "b", "c", "a"]⟩ = .ok report ∧
      (∀ entries,
        (Summary.ofRun report entries).Displays (entries.flatMap Summary.Entry.findings)) ∧
      Text.firstLine (Summary.ofRun report reconsidered).render =
        "build: 2 ok, 2 failed; test: 1 passed, 1 failed; lint: ok" := by
  obtain ⟨-, hcrew⟩ := display_agrees_iff Graph.plan_diamond (Site.allBut "b")
  obtain ⟨report, hrun, hdisplays⟩ := exists_alone hcrew
  have hcounts : (alone (Site.allBut "b") Graph.diamond ⟨["d", "b", "c", "a"]⟩).toOption.map
      (Summary.ofRun · reconsidered) =
      some ⟨2, 2, 1, 1, some true, [.build "b" "exit status 1",
        .build "a" "dependency 'b' failed", .test "u" "not built", .lint "exit status 1"]⟩ := by
    decide +kernel
  rw [hrun] at hcounts
  have hsummary : Summary.ofRun report reconsidered = _ := Option.some.inj hcounts
  refine ⟨Graph.plan_diamond, report, hrun, hdisplays, ?_⟩
  rw [Summary.firstLine_render, hsummary]
  rfl

/-- A library that needs nothing. -/
def solitary : Graph where
  toCatalog := (default : Catalog).push
    { name := "a", kind := .library, sources := ["a.cpp"] } (by decide) (by decide)
  closed := Catalog.danglingReference?_eq_none_iff.1 (by decide)

/-- **A failure that is not shown.** A linter is not content, and the one after it is: the first
line shows no failure, and the exit code is 1 for the failure below it. -/
theorem lint_overwritten :
    solitary.plan ["a"] = .ok ⟨["a"]⟩ ∧
    ∃ report, alone (fun _ => .succeeded "") solitary ⟨["a"]⟩ = .ok report ∧
      ∃ s, s = Summary.ofRun report [.lint (.error (.lint "exit status 1")), .lint (.ok "")] ∧
        s.lintPassed? = some true ∧ s.failuresIn .lint = [.lint "exit status 1"] ∧
        s.exitCode = 1 ∧
        s.render = "build: 1 ok, 0 failed; lint: ok\n" ++
          "  FAILED [lint] lint failed: exit status 1\n" ∧
        Summary.ShowsNoFailure (Text.firstLine s.render) ∧
        ¬ (s.lintPassed? = some false ↔ s.failuresIn .lint ≠ []) ∧
        ¬ (s.exitCode = 0 ↔ Summary.ShowsNoFailure (Text.firstLine s.render)) := by
  refine ⟨by cbv, _, rfl, _, rfl, ?_⟩
  -- the first line itself is not evaluated: what it shows follows from the counts
  rw [Summary.firstLine_render, Summary.showsNoFailure_headline_iff]
  decide +kernel

end Build

end Buildwright
