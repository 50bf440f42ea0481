import Buildwright.Build.TestRun
import Buildwright.Proofs.Build.Outcome
import Buildwright.Proofs.Graph.Harness

/-!
# Which tests are run

A test is run if its build succeeded, and its build succeeds if the tools gave good results for it
and for everything it depends on. So whoever builds the tests and in whichever order, the
executables that are started are those of the tests behind which nothing went wrong, each of them
once, and every other test is recorded as not built (`TestRun.tests_gated`). To say what is started,
a bench writes down its uses (`TestBench.recording`); each run is seen together with the use that
was made for it (`Trial`), and the uses of all runs are the whole record.
-/

namespace Buildwright

variable {m : Type → Type} [Monad m] {σ : Type} {e : Execution m σ} {s s₁ s₂ : σ}

/-! ### A bench that keeps a record -/

/-- A use of a bench: what was started, and what came of that. -/
structure TestBench.Use where
  artifact : Path
  answer : Except HostFault ToolResult

/-- A bench that does what another one does, and writes down what it starts. -/
def TestBench.recording (bench : TestBench m) : TestBench (StateT (List Use) m) where
  start artifact := do
    let answer ← bench.start artifact
    modify (· ++ [{ artifact, answer }])
    return answer
  now := liftM bench.now

/-- `e.Shows s x y a uses s'`: in the state `s`, the computation `x` comes to `a` and leaves `s'`,
and so does `y`, which writes down `uses` behind what has been written down before. -/
structure Execution.Shows (e : Execution m σ) (s : σ) {α : Type} (x : m α)
    (y : StateT (List TestBench.Use) m α) (a : α) (uses : List TestBench.Use) (s' : σ) : Prop where
  plain : e.run x s = (a, s')
  recorded : ∀ before,
    (e.withState (List TestBench.Use)).run y (before, s) = (a, (before ++ uses, s'))

namespace Execution.Shows

variable {α β : Type} {x : m α} {y : StateT (List TestBench.Use) m α} {a : α} {b : β}
  {uses uses' : List TestBench.Use}

theorem pure (a : α) (s : σ) : e.Shows s (pure a) (pure a) a [] s where
  plain := e.run_pure a s
  recorded before := by simp [Execution.run_pure]

theorem bind {f : α → m β} {f' : α → StateT (List TestBench.Use) m β}
    (h : e.Shows s x y a uses s₁) (hf : e.Shows s₁ (f a) (f' a) b uses' s₂) :
    e.Shows s (x >>= f) (y >>= f') b (uses ++ uses') s₂ where
  plain := by rw [e.run_bind, h.plain, hf.plain]
  recorded before := by
    rw [Execution.run_bind, h.recorded, hf.recorded, List.append_assoc]

/-- Nothing is written down of what is only passed on. -/
theorem lift (x : m α) (s : σ) :
    e.Shows s x (liftM x) (e.run x s).1 [] (e.run x s).2 where
  plain := rfl
  recorded before := by rw [e.run_withState_lift, List.append_nil]

/-- What is started is written down with what comes of it. -/
theorem start (bench : TestBench m) (artifact : Path) (s : σ) :
    e.Shows s (bench.start artifact) (bench.recording.start artifact)
      (e.run (bench.start artifact) s).1 [⟨artifact, (e.run (bench.start artifact) s).1⟩]
      (e.run (bench.start artifact) s).2 where
  plain := rfl
  recorded before := by
    simp [TestBench.recording, Execution.withState, e.run_pure, e.run_bind]

theorem map [LawfulMonad m] (f : α → β) (h : e.Shows s x y a uses s₁) :
    e.Shows s (f <$> x) (f <$> y) (f a) uses s₁ := by
  rw [map_eq_pure_bind, map_eq_pure_bind, ← List.append_nil uses]
  exact h.bind (.pure (f a) s₁)

end Execution.Shows

/-! ### Trials -/

/-- The run of a test with the use of the bench that was made for it, if there was one. -/
structure Trial where
  run : TestRun
  use? : Option TestBench.Use

/-- `trial.Gated t buildDir good`: the bench was used for the test `t` exactly if `good` holds, and
then to start the artifact of the test. The test passed exactly if the bench was used and what it
started succeeded, and it counts as not built exactly if the bench was not used. -/
structure Trial.Gated (trial : Trial) (t : Target) (buildDir : Path) (good : Prop) : Prop where
  target : trial.run.target = t.name
  used_iff : (∃ use, trial.use? = some use) ↔ good
  artifact : ∀ use, trial.use? = some use → use.artifact = t.artifact buildDir
  passed_iff : trial.run.verdict.isPass = true ↔
    ∃ use r, trial.use? = some use ∧ use.answer = .ok r ∧ r.success = true
  notBuilt_iff : (∃ reason, trial.run.verdict = .notBuilt reason) ↔ trial.use? = none

namespace TestRun

variable {g : Graph} {buildDir : Path} {report : BuildReport} {t : Target}

section OfResult

variable {target : String} {artifact : Path} {duration : Duration}
  {answer : Except HostFault ToolResult}

@[simp]
theorem target_ofResult : (ofResult target artifact duration answer).target = target := by
  cases answer <;> rfl

/-- A test that was started passes exactly if what was started succeeded. -/
theorem isPass_ofResult : (ofResult target artifact duration answer).verdict.isPass = true ↔
    ∃ r, answer = .ok r ∧ r.success = true := by
  cases answer with
  | error fault => simp [ofResult, TestVerdict.isPass]
  | ok r => cases hr : r.success <;> simp [ofResult, TestVerdict.isPass, hr]

theorem ofResult_ne_notBuilt (reason : String) :
    (ofResult target artifact duration answer).verdict ≠ .notBuilt reason := by
  cases answer with
  | error fault => exact nofun
  | ok r => cases hr : r.success <;> simp [ofResult, hr]

end OfResult

/-- A test that was started is one that should have been. -/
theorem gated_ofResult (t : Target) (buildDir : Path) {good : Prop} (h : good) (duration : Duration)
    (answer : Except HostFault ToolResult) :
    Trial.Gated ⟨ofResult t.name (t.artifact buildDir) duration answer,
      some ⟨t.artifact buildDir, answer⟩⟩ t buildDir good where
  target := target_ofResult
  used_iff := by simp [h]
  artifact := by
    rintro use ⟨⟩
    rfl
  passed_iff := by simp [isPass_ofResult]
  notBuilt_iff := by simp [ofResult_ne_notBuilt]

/-- A test that was not started is one that should not have been. -/
theorem gated_notBuilt (t : Target) (buildDir : Path) {good : Prop} (h : ¬ good)
    (reason : String) :
    Trial.Gated ⟨{ target := t.name, verdict := .notBuilt reason }, none⟩ t buildDir good where
  target := rfl
  used_iff := by simp [h]
  artifact := nofun
  passed_iff := by simp [TestVerdict.isPass]
  notBuilt_iff := by simp

/-- **One test.** Its executable is started exactly if the report says that it was built. -/
theorem ofTarget_shows (bench : TestBench m) (buildDir : Path) (report : BuildReport) (t : Target)
    (s : σ) :
    ∃ (trial : Trial) (s' : σ), e.Shows s (ofTarget bench buildDir report t)
        (ofTarget bench.recording buildDir report t) trial.run trial.use?.toList s' ∧
      trial.Gated t buildDir (report.status? t.name = some .succeeded) := by
  unfold ofTarget
  split
  · next hst =>
    let started := e.run bench.now s
    let answered := e.run (bench.start (t.artifact buildDir)) started.2
    let ended := e.run bench.now answered.2
    refine ⟨_, ended.2, ?_,
      gated_ofResult t buildDir hst (ended.1 - started.1) answered.1⟩
    refine .bind (.lift bench.now s) (.bind (.start bench _ started.2) ?_)
    exact .bind (.lift bench.now answered.2) (.pure _ ended.2)
  · next st hst =>
    exact ⟨_, s, .pure _ _, gated_notBuilt t buildDir hst _⟩

/-- One test after another. -/
theorem mapM_shows [LawfulMonad m] (bench : TestBench m) (buildDir : Path) (report : BuildReport)
    {names : List String} {targets : List Target}
    (h : List.Forall₂ (fun n t => g.get? n = some t) names targets) (s : σ) :
    ∃ (trials : List Trial) (s' : σ), e.Shows s (targets.mapM (ofTarget bench buildDir report))
        (targets.mapM (ofTarget bench.recording buildDir report)) (trials.map (·.run))
        (trials.filterMap (·.use?)) s' ∧
      List.Forall₂ (fun n trial => ∃ t, g.get? n = some t ∧
        Trial.Gated trial t buildDir (report.status? n = some .succeeded)) names trials := by
  induction h generalizing s with
  | nil =>
    rw [List.mapM_nil, List.mapM_nil]
    exact ⟨[], s, .pure [] s, .nil⟩
  | @cons n t names targets ht _ ih =>
    obtain ⟨trial, s₁, hfirst, hgated⟩ := ofTarget_shows bench buildDir report t s
    obtain ⟨trials, s₂, hrest, hall⟩ := ih s₁
    rw [Graph.name_of_get? ht] at hgated
    refine ⟨trial :: trials, s₂, ?_, .cons ⟨t, ht, hgated⟩ hall⟩
    have huses : (trial :: trials).filterMap (·.use?) =
        trial.use?.toList ++ (trials.filterMap (·.use?) ++ []) := by
      cases hu : trial.use? <;> simp [hu]
    rw [List.mapM_cons, List.mapM_cons, huses]
    exact hfirst.bind (hrest.bind (.pure (trial.run :: trials.map (·.run)) s₂))

theorem findTest_of_get? {n : String} (ht : g.get? n = some t) (hk : t.kind = .test) :
    findTest g n = .ok t := by
  rw [findTest, Graph.find_of_get? ht]
  exact if_pos hk

/-- Tests are found under their names. -/
theorem exists_tests {names : List String}
    (h : ∀ n ∈ names, ∃ t, g.get? n = some t ∧ t.kind = .test) :
    ∃ targets, names.mapM (findTest g) = .ok targets ∧
      List.Forall₂ (fun n t => g.get? n = some t) names targets := by
  induction names with
  | nil => exact ⟨[], rfl, .nil⟩
  | cons n names ih =>
    obtain ⟨t, ht, hk⟩ := h n (.head _)
    obtain ⟨targets, htargets, hall⟩ := ih fun m hm => h m (.tail _ hm)
    refine ⟨t :: targets, ?_, .cons ht hall⟩
    rw [List.mapM_cons, findTest_of_get? ht hk, htargets]
    rfl

/-- **A run of tests.** If all names are those of tests, then there is one trial for each of them,
and what is written down are the uses of all trials in their order. -/
theorem all_shows [LawfulMonad m] (bench : TestBench m) (buildDir : Path) (report : BuildReport)
    {names : List String} (h : ∀ n ∈ names, ∃ t, g.get? n = some t ∧ t.kind = .test) (s : σ) :
    ∃ (trials : List Trial) (s' : σ), e.Shows s (all bench g buildDir report names)
        (all bench.recording g buildDir report names) (.ok (trials.map (·.run)))
        (trials.filterMap (·.use?)) s' ∧
      List.Forall₂ (fun n trial => ∃ t, g.get? n = some t ∧
          Trial.Gated trial t buildDir (report.status? n = some .succeeded))
        (Text.distinct names) trials := by
  obtain ⟨targets, htargets, hfound⟩ := exists_tests fun n hn => h n (Text.mem_distinct.1 hn)
  obtain ⟨trials, s', hshows, hall⟩ := mapM_shows bench buildDir report hfound s
  refine ⟨trials, s', ?_, hall⟩
  rw [all, all, htargets]
  exact hshows.map Except.ok

/-- **Tests are run only if nothing went wrong behind them.** In a graph made of declared targets
every test but the harness depends on the harness. Whatever the tools give, and whoever builds a
plan of some tests in whichever order, the build ends with a report, with which the tests can be run
on any bench. There is one trial for each test: the bench was used for it exactly if the test and
everything it depends on, directly or through others, gave good results; what was started is the
artifact of the test; the test passed exactly if what was started succeeded; and a test for which
the bench was not used is recorded as not built. What the bench was used for at all are the uses of
these trials, in their order. -/
theorem tests_gated {c : Catalog} {harness? : Option String} {dirs names : List String}
    (made : Graph.ofCatalog c harness? dirs = .ok g)
    (tests : ∀ n ∈ names, ∃ t, g.get? n = some t ∧ t.kind = .test) {plan : Plan}
    (planned : g.plan names = .ok plan) (result : String → ToolResult) :
    (∀ h, harness? = some h → ∀ n ∈ names, n ≠ h → g.Needs n h) ∧
    ∀ {m : Type → Type} [Monad m] {σ : Type} (e : Execution m σ) (crew : Crew m) (now : m Nat)
      (inFlight : σ → List String), crew.Reliable now e result inFlight →
        ∀ s, inFlight s = [] → ∃ report s',
          e.run (Build.ofPlan crew now g plan) s = (.ok report, s') ∧
          ∀ {m : Type → Type} [Monad m] [LawfulMonad m] {σ : Type} (e : Execution m σ)
            (bench : TestBench m) (buildDir : Path) (s : σ), ∃ (trials : List Trial) (s' : σ),
              e.run (all bench g buildDir report names) s = (.ok (trials.map (·.run)), s') ∧
              (e.withState (List TestBench.Use)).run
                  (all bench.recording g buildDir report names) ([], s) =
                (.ok (trials.map (·.run)), (trials.filterMap (·.use?), s')) ∧
              (Text.distinct names).Nodup ∧
              List.Forall₂ (fun n trial => ∃ t, g.get? n = some t ∧
                  Trial.Gated trial t buildDir (∀ d, g.Reaches n d → (result d).success = true))
                (Text.distinct names) trials := by
  refine ⟨fun h hh n hn hne => ?_, fun e crew now inFlight hc s hs => ?_⟩
  · obtain ⟨⟨-, hg⟩, -⟩ := Graph.ofCatalog_eq_ok_iff.1 made
    obtain ⟨t, ht, hk⟩ := tests n hn
    subst hh
    exact ⟨t, ht, Catalog.harness_mem_deps (hg ▸ ht) hk hne⟩
  · obtain ⟨site, duration, s', hrun, hreach, hr, hf⟩ := hc.ofPlan_reachable planned hs
    obtain ⟨hsound, hnames⟩ := hreach.sound planned
    have htells := hnames ▸ hsound.report_tells hr hf duration
    refine ⟨_, s', hrun, fun e bench buildDir s => ?_⟩
    obtain ⟨trials, s', hshows, hall⟩ :=
      all_shows bench buildDir (site.progress.report duration) tests s
    have hall := (List.forall₂_and_left _ _).2 ⟨fun n hn => Text.mem_distinct.1 hn, hall⟩
    refine ⟨trials, s', hshows.plain, hshows.recorded [], Text.nodup_distinct names, hall.imp ?_⟩
    rintro n trial ⟨hn, t, ht, hgated⟩
    have hplan : n ∈ plan.names := (Graph.mem_plan_iff planned).2 ⟨n, hn, .refl⟩
    rw [htells.status?_eq_succeeded_iff hplan, Graph.fate_eq_succeeded_iff] at hgated
    exact ⟨t, ht, hgated⟩

/-- A harness, a library, a test of the library and another test. -/
def probed : Catalog :=
  ((((default : Catalog).push
    { name := "h", kind := .library, sources := ["h.c"] } (by decide) (by decide)).push
    { name := "l", kind := .library, sources := ["l.c"] } (by decide) (by decide)).push
    { name := "t", kind := .test, sources := ["t.c"], deps := ["l"] } (by decide) (by decide)).push
    { name := "u", kind := .test, sources := ["u.c"] } (by decide) (by decide)

theorem isClosed_probed : probed.IsClosed := Catalog.danglingReference?_eq_none_iff.1 (by decide)

/-- The graph of these targets. -/
def probedGraph : Graph :=
  { probed.withHarness "h" with
    harness? := some "h", closed := isClosed_probed.withHarness (by decide) }

/-- A bench on which everything that is started succeeds. -/
def quietBench : TestBench Id where
  start _ := .ok (.succeeded "")
  now := (0 : Nat)

/-- The library cannot be built, so that its test is not run. The other test is run once, though it
is named twice. -/
theorem tests_gated_probed :
    Graph.ofCatalog probed (some "h") [] = .ok probedGraph ∧
    probedGraph.plan ["u", "t", "u"] = .ok ⟨["h", "u", "l", "t"]⟩ ∧
    probedGraph.Needs "u" "h" ∧
    ∃ report s first second use reason,
      ((Execution.ofId Unit).withState (List String)).run
          (Build.ofPlan (.single fun n => { name := n, result := Site.allBut "l" n })
            (liftM (0 : Id Nat)) probedGraph ⟨["h", "u", "l", "t"]⟩) ([], ()) =
        (.ok report, s) ∧
      ((Execution.ofId Unit).withState (List TestBench.Use)).run
          (all quietBench.recording probedGraph ⟨"build"⟩ report ["u", "t", "u"]) ([], ()) =
        (.ok [first, second], ([use], ())) ∧
      use.artifact = ⟨"build/u"⟩ ∧ second.verdict = .notBuilt reason := by
  have made : Graph.ofCatalog probed (some "h") [] = .ok probedGraph :=
    Graph.ofCatalog_harness isClosed_probed (by decide) []
  have ht : probedGraph.get? "t" = some
      { name := "t", kind := .test, sources := ["t.c"], deps := ["l", "h"] } := by cbv
  have hu : probedGraph.get? "u" = some
      { name := "u", kind := .test, sources := ["u.c"], deps := ["h"] } := by cbv
  have planned : probedGraph.plan ["u", "t", "u"] = .ok ⟨["h", "u", "l", "t"]⟩ := by cbv
  have planned_u : probedGraph.plan ["u"] = .ok ⟨["h", "u"]⟩ := by cbv
  obtain ⟨hneeds, hbuild⟩ := tests_gated made (by simp [ht, hu]) planned (Site.allBut "l")
  have hcrew : (Crew.single fun n => { name := n, result := Site.allBut "l" n }).Reliable
      (liftM (0 : Id Nat)) ((Execution.ofId Unit).withState (List String))
      (Site.allBut "l") (·.1) :=
    Crew.reliable_single 0 (.ofId Unit) (fun _ _ => rfl) fun _ _ => rfl
  obtain ⟨report, s, hrun, htests⟩ := hbuild _ _ _ _ hcrew ([], ()) rfl
  obtain ⟨trials, ⟨⟩, -, hall, -, hgated⟩ := htests (.ofId Unit) quietBench ⟨"build"⟩ ()
  have hnames : Text.distinct ["u", "t", "u"] = ["u", "t"] := by decide
  rw [hnames] at hgated
  obtain ⟨first, _, ⟨_, hu', hfirst⟩, hrest, rfl⟩ := List.forall₂_cons_left_iff.1 hgated
  obtain ⟨second, _, ⟨_, ht', hsecond⟩, hnone, rfl⟩ := List.forall₂_cons_left_iff.1 hrest
  obtain rfl := List.forall₂_nil_left_iff.1 hnone
  obtain rfl := Option.some.inj (hu'.symm.trans hu)
  obtain rfl := Option.some.inj (ht'.symm.trans ht)
  -- the first test reaches the harness and itself only, the second one reaches the library
  have hgood (d : String) (hd : probedGraph.Reaches "u" d) :
      (Site.allBut "l" d).success = true := by
    have hmem : d ∈ ["h", "u"] := (Graph.mem_plan_iff planned_u).2 ⟨"u", .head _, hd⟩
    exact (by decide : ∀ d ∈ ["h", "u"], (Site.allBut "l" d).success = true) d hmem
  have hlib : probedGraph.Reaches "t" "l" := .single ⟨_, ht, by decide⟩
  obtain ⟨use, huse⟩ := hfirst.used_iff.2 hgood
  have hunused : second.use? = none := by
    refine Option.eq_none_iff_forall_ne_some.2 fun use hu => ?_
    exact absurd (hsecond.used_iff.1 ⟨use, hu⟩ "l" hlib) (by decide)
  obtain ⟨reason, hreason⟩ := hsecond.notBuilt_iff.2 hunused
  refine ⟨made, planned, hneeds "h" rfl "u" (by decide) (by decide), report, s, first.run,
    second.run, use, reason, hrun, ?_, hfirst.artifact use huse, hreason⟩
  simpa [huse, hunused] using hall

end TestRun

end Buildwright
