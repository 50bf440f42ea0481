import Buildwright.Build.Summary
import Buildwright.Proofs.Build.Tests
import Buildwright.Proofs.Text
import Mathlib.Data.Finset.Card

/-!
# All tests or none

The names of tests are looked up before the first test is started, each when it comes up first. So
the first name that is not that of a test ends the run with its error, and nothing has been started
by then. If there is no such name, each of the names has one run, in the order in which they come up
first, and started are exactly the tests that the report says were built, each once and in the same
order (`TestRun.all_or_none`). The counts of a summary grow by the number of different names.
-/

namespace Buildwright

/-! ### Names of tests -/

namespace Graph

variable {g : Graph} {n : String} {e : BuildError} {names : List String}

/-- `g.IsTest n`: the name `n` is that of a test. -/
def IsTest (g : Graph) (n : String) : Prop := ∃ t, g.get? n = some t ∧ t.kind = .test

/-- `g.Refuses n e`: the error `e` says why the name `n` is not that of a test. It is not declared,
or it is the name of something else. -/
inductive Refuses (g : Graph) (n : String) : BuildError → Prop
  | undeclared (h : g.get? n = none) : g.Refuses n (.unknownTarget n none)
  | other {t : Target} (h : g.get? n = some t) (hk : t.kind ≠ .test) :
    g.Refuses n (.invalidTarget n t.kind.name "not a test target")

/-- `g.RefusesFirst names e`: the error `e` says why the first name in a list that is not that of a
test is not. -/
def RefusesFirst (g : Graph) (names : List String) (e : BuildError) : Prop :=
  ∃ before n after, names = before ++ n :: after ∧ (∀ b ∈ before, g.IsTest b) ∧ g.Refuses n e

theorem Refuses.not_isTest (h : g.Refuses n e) : ¬ g.IsTest n := by
  rintro ⟨t, ht, hk⟩
  cases h with
  | undeclared h => cases h.symm.trans ht
  | other h hne =>
    obtain rfl := Option.some.inj (h.symm.trans ht)
    exact hne hk

theorem isTest_or_refuses (g : Graph) (n : String) : g.IsTest n ∨ ∃ e, g.Refuses n e := by
  cases h : g.get? n with
  | none => exact .inr ⟨_, .undeclared h⟩
  | some t =>
    by_cases hk : t.kind = .test
    · exact .inl ⟨t, h, hk⟩
    · exact .inr ⟨_, .other h hk⟩

/-- Either all names of a list are those of tests, or there is a first one that is not. -/
theorem areTests_or_refusesFirst (g : Graph) (names : List String) :
    (∀ n ∈ names, g.IsTest n) ∨ ∃ e, g.RefusesFirst names e := by
  induction names with
  | nil => exact .inl nofun
  | cons n names ih =>
    rcases g.isTest_or_refuses n with hn | ⟨e, he⟩
    · rcases ih with hall | ⟨e, before, b, after, rfl, hbefore, he⟩
      · exact .inl (List.forall_mem_cons.2 ⟨hn, hall⟩)
      · exact .inr ⟨e, n :: before, b, after, rfl, List.forall_mem_cons.2 ⟨hn, hbefore⟩, he⟩
    · exact .inr ⟨e, [], n, names, rfl, nofun, he⟩

/-- To leave out repeats does not change which name is refused first. -/
theorem RefusesFirst.distinct (h : g.RefusesFirst names e) :
    g.RefusesFirst (Text.distinct names) e := by
  obtain ⟨before, n, after, rfl, hbefore, he⟩ := h
  obtain ⟨rest, hrest⟩ :=
    Text.exists_distinct_append_cons (fun hn => he.not_isTest (hbefore n hn)) after
  exact ⟨_, n, rest, hrest, fun b hb => hbefore b (Text.mem_distinct.1 hb), he⟩

theorem findTest_of_refuses (h : g.Refuses n e) : TestRun.findTest g n = .error e := by
  cases h with
  | undeclared h =>
    rw [TestRun.findTest, Catalog.find, h]
    rfl
  | other h hk =>
    rw [TestRun.findTest, find_of_get? h]
    exact if_neg hk

theorem exists_findTest (h : g.IsTest n) : ∃ t, TestRun.findTest g n = .ok t := by
  obtain ⟨t, ht, hk⟩ := h
  exact ⟨t, TestRun.findTest_of_get? ht hk⟩

/-- Looking up the names fails with the error of the first one that is refused. -/
theorem RefusesFirst.mapM_findTest (h : g.RefusesFirst names e) :
    names.mapM (TestRun.findTest g) = .error e := by
  obtain ⟨before, n, after, rfl, hbefore, he⟩ := h
  exact mapM_of_error (fun b hb => exists_findTest (hbefore b hb)) (findTest_of_refuses he)

end Graph

/-! ### Counts -/

theorem Text.Firsts.length_eq {items firsts : List String} (h : Text.Firsts items firsts) :
    firsts.length = items.toFinset.card := by
  rw [← List.toFinset_card_of_nodup h.nodup]
  congr 1
  ext x
  rw [List.mem_toFinset, List.mem_toFinset, h.mem_iff]

/-- A run of a test is counted once, as passed or as failed. -/
theorem Summary.tests_recordTest (s : Summary) (run : TestRun) :
    (s.recordTest run).testsPassed + (s.recordTest run).testsFailed =
      s.testsPassed + s.testsFailed + 1 := by
  rw [recordTest]
  cases run.verdict.isPass <;> simp <;> omega

theorem Summary.tests_recordTests (s : Summary) (runs : List TestRun) :
    (s.recordTests runs).testsPassed + (s.recordTests runs).testsFailed =
      s.testsPassed + s.testsFailed + runs.length := by
  induction runs generalizing s with
  | nil => rfl
  | cons run runs ih =>
    rw [recordTests, List.foldl_cons, ← recordTests, ih, tests_recordTest, List.length_cons]
    omega

/-! ### Runs and what was started -/

namespace TestRun

variable {m : Type → Type} [Monad m] {σ : Type} {e : Execution m σ} {g : Graph} {buildDir : Path}
  {report : BuildReport} {names : List String} {trials : List Trial}

/-- `Ran g buildDir report names runs uses`: there is one run for each of the names, in the order in
which they come up first. Used for them was what was built, and nothing else: the artifacts of the
names that were built, each once and in the same order. -/
structure Ran (g : Graph) (buildDir : Path) (report : BuildReport) (names : List String)
    (runs : List TestRun) (uses : List TestBench.Use) : Prop where
  targets : runs.map (·.target) = Text.distinct names
  firsts : Text.Firsts names (runs.map (·.target))
  started : List.Forall₂ (fun n use => ∃ t, g.get? n = some t ∧ use.artifact = t.artifact buildDir)
    ((runs.map (·.target)).filter fun n => report.status? n = some .succeeded) uses
  notBuilt : ∀ run ∈ runs, report.status? run.target ≠ some .succeeded ↔
    ∃ reason, run.verdict = .notBuilt reason

theorem Ran.length_eq {runs : List TestRun} {uses : List TestBench.Use}
    (h : Ran g buildDir report names runs uses) : runs.length = names.toFinset.card := by
  rw [← h.firsts.length_eq, List.length_map]

/-- The trials of some tests, in their order. -/
abbrev Tried (g : Graph) (buildDir : Path) (report : BuildReport) :
    List String → List Trial → Prop :=
  List.Forall₂ fun n trial => ∃ t, g.get? n = some t ∧
    Trial.Gated trial t buildDir (report.status? n = some .succeeded)

theorem targets_of_tried (h : Tried g buildDir report names trials) :
    trials.map (·.run.target) = names := by
  induction h with
  | nil => rfl
  | cons hfirst _ ih =>
    obtain ⟨t, ht, hgated⟩ := hfirst
    rw [List.map_cons, ih, hgated.target, Graph.name_of_get? ht]

/-- The bench was used for the names that were built. -/
theorem started_of_tried (h : Tried g buildDir report names trials) :
    List.Forall₂ (fun n use => ∃ t, g.get? n = some t ∧ use.artifact = t.artifact buildDir)
      (names.filter fun n => report.status? n = some .succeeded) (trials.filterMap (·.use?)) := by
  induction h with
  | nil => exact .nil
  | @cons n trial names trials hfirst _ ih =>
    obtain ⟨t, ht, hgated⟩ := hfirst
    by_cases hn : report.status? n = some .succeeded
    · obtain ⟨use, huse⟩ := hgated.used_iff.2 hn
      rw [List.filter_cons_of_pos (by simpa using hn), List.filterMap_cons_some huse]
      exact .cons ⟨t, ht, hgated.artifact use huse⟩ ih
    · have hunused : trial.use? = none :=
        Option.eq_none_iff_forall_ne_some.2 fun use hu => hn (hgated.used_iff.1 ⟨use, hu⟩)
      rw [List.filter_cons_of_neg (by simpa using hn), List.filterMap_cons_none hunused]
      exact ih

theorem notBuilt_of_tried (h : Tried g buildDir report names trials) :
    ∀ trial ∈ trials, report.status? trial.run.target ≠ some .succeeded ↔
      ∃ reason, trial.run.verdict = .notBuilt reason := by
  induction h with
  | nil => exact nofun
  | @cons n trial names trials hfirst _ ih =>
    obtain ⟨t, ht, hgated⟩ := hfirst
    refine List.forall_mem_cons.2 ⟨?_, ih⟩
    rw [hgated.target, Graph.name_of_get? ht, hgated.notBuilt_iff,
      Option.eq_none_iff_forall_ne_some, ← not_exists, hgated.used_iff]

theorem ran_of_tried (h : Tried g buildDir report (Text.distinct names) trials) :
    Ran g buildDir report names (trials.map (·.run)) (trials.filterMap (·.use?)) := by
  have htargets : (trials.map (·.run)).map (·.target) = Text.distinct names := by
    rw [List.map_map]
    exact targets_of_tried h
  refine ⟨htargets, htargets ▸ Text.firsts_distinct names, htargets ▸ started_of_tried h, ?_⟩
  rintro _ hrun
  obtain ⟨trial, htrial, rfl⟩ := List.mem_map.1 hrun
  exact notBuilt_of_tried h trial htrial

/-- **All tests or none.** Whatever the names are, and whatever the report says and the bench does:
either the first name that is not that of a test is refused with its error, and the bench has not
been used; or all names are those of tests, and each of them has one run, in the order in which they
come up first. The bench has then been used exactly for those that were built, once for each and in
the same order. To record the runs adds the number of different names to the counts of a summary. -/
theorem all_or_none [LawfulMonad m] (e : Execution m σ) (bench : TestBench m) (g : Graph)
    (buildDir : Path) (report : BuildReport) (names : List String) (s : σ) :
    (∃ error, g.RefusesFirst names error ∧
      e.Shows s (all bench g buildDir report names) (all bench.recording g buildDir report names)
        (.error error) [] s) ∨
    ((∀ n ∈ names, g.IsTest n) ∧ ∃ runs uses s',
      e.Shows s (all bench g buildDir report names) (all bench.recording g buildDir report names)
        (.ok runs) uses s' ∧
      Ran g buildDir report names runs uses ∧
      ∀ summary : Summary,
        (summary.recordTests runs).testsPassed + (summary.recordTests runs).testsFailed =
          summary.testsPassed + summary.testsFailed + names.toFinset.card) := by
  rcases g.areTests_or_refusesFirst names with htests | ⟨error, hrefused⟩
  · obtain ⟨trials, s', hshows, htried⟩ := all_shows (e := e) bench buildDir report htests s
    have hran := ran_of_tried htried
    refine .inr ⟨htests, _, _, s', hshows, hran, fun summary => ?_⟩
    rw [Summary.tests_recordTests, hran.length_eq]
  · refine .inl ⟨error, hrefused, ?_⟩
    rw [all, all, hrefused.distinct.mapM_findTest]
    exact .pure _ s

/-- A report in which only one of two tests was built. -/
def halfBuilt : BuildReport where
  outcomes :=
    [{ name := "u", kind := .test, status := .succeeded },
      { name := "t", kind := .test, status := .failed "exit status 1" }]

/-- A name that is given twice counts once, and the test that was not built is not started. A list
with the name of a library in it is refused, though the test in front of it was built. -/
theorem all_or_none_probed :
    (∃ runs use, (Execution.ofId Unit).Shows ()
        (all quietBench probedGraph ⟨"build"⟩ halfBuilt ["u", "t", "u"])
        (all quietBench.recording probedGraph ⟨"build"⟩ halfBuilt ["u", "t", "u"])
        (.ok runs) [use] () ∧
      runs.map (·.target) = ["u", "t"] ∧ use.artifact = ⟨"build/u"⟩ ∧
      (({} : Summary).recordTests runs).testsPassed +
        (({} : Summary).recordTests runs).testsFailed = 2) ∧
    (Execution.ofId Unit).Shows ()
      (all quietBench probedGraph ⟨"build"⟩ halfBuilt ["u", "l", "ghost"])
      (all quietBench.recording probedGraph ⟨"build"⟩ halfBuilt ["u", "l", "ghost"])
      (.error (.invalidTarget "l" "library" "not a test target")) [] () := by
  have ht : probedGraph.get? "t" = some
      { name := "t", kind := .test, sources := ["t.c"], deps := ["l", "h"] } := by cbv
  have hu : probedGraph.get? "u" = some
      { name := "u", kind := .test, sources := ["u.c"], deps := ["h"] } := by cbv
  have hl : probedGraph.get? "l" = some
      { name := "l", kind := .library, sources := ["l.c"] } := by cbv
  constructor
  · rcases all_or_none (.ofId Unit) quietBench probedGraph ⟨"build"⟩ halfBuilt ["u", "t", "u"] ()
      with ⟨error, ⟨before, n, after, hnames, -, hrefused⟩, -⟩ |
        ⟨-, runs, uses, ⟨⟩, hshows, hran, hcounts⟩
    · have hn : n ∈ ["u", "t", "u"] := hnames ▸ by simp
      have htest : ∀ n ∈ ["u", "t", "u"], probedGraph.IsTest n := by simp [Graph.IsTest, ht, hu]
      exact absurd (htest n hn) hrefused.not_isTest
    · have htargets : runs.map (·.target) = ["u", "t"] := hran.targets.trans (by decide)
      have hstarted := hran.started
      have hbuilt : (["u", "t"].filter fun n => halfBuilt.status? n = some .succeeded) = ["u"] := by
        decide
      rw [htargets, hbuilt] at hstarted
      obtain ⟨use, _, ⟨t, hget, huse⟩, hrest, rfl⟩ := List.forall₂_cons_left_iff.1 hstarted
      obtain rfl := List.forall₂_nil_left_iff.1 hrest
      obtain rfl := Option.some.inj (hu.symm.trans hget)
      exact ⟨runs, use, hshows, htargets, huse, (hcounts {}).trans (by decide)⟩
  · rcases all_or_none (.ofId Unit) quietBench probedGraph ⟨"build"⟩ halfBuilt
      ["u", "l", "ghost"] () with ⟨error, hrefused, hshows⟩ | ⟨htests, -⟩
    · have herror : ["u", "l", "ghost"].mapM (findTest probedGraph) =
          .error (.invalidTarget "l" "library" "not a test target") := by cbv
      obtain rfl := Except.error.inj (hrefused.mapM_findTest.symm.trans herror)
      exact hshows
    · obtain ⟨t, hget, hk⟩ := htests "l" (by decide)
      obtain rfl := Option.some.inj (hl.symm.trans hget)
      cases hk

end TestRun

end Buildwright
