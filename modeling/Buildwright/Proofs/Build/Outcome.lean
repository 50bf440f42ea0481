import Buildwright.Proofs.Build.Crew

/-!
# What becomes of the targets of a build

The end of a build does not depend on the order in which the crew is done with targets: it follows
from the results of the tools alone (`Graph.fate`). A target succeeds if it and everything it
depends on gave good results; it fails if everything it depends on succeeded and its own result is
bad; and it is skipped behind a target that failed. The status of a skipped target names one of its
dependencies as well, one that did not succeed. Which one this is, if there are several, does depend
on the order (`Build.skipped_differs`), and it is no part of its fate.
-/

namespace Buildwright

open Relation

/-- What becomes of a target in the end. -/
inductive Fate where
  | succeeded
  | failed (reason : String)
  | skipped
  deriving DecidableEq, Repr

/-- The fate that a terminal status tells. -/
def Status.fate? : Status → Option Fate
  | .pending | .building => none
  | .succeeded => some .succeeded
  | .failed reason => some (.failed reason)
  | .skipped _ => some .skipped

/-- `r.Tells g names fate`: there is one outcome for each of the targets `names`, in this order, and
its status tells the fate of the target. A skipped target names a dependency that did not
succeed. -/
structure BuildReport.Tells (r : BuildReport) (g : Graph) (names : List String)
    (fate : String → Fate) : Prop where
  outcomes : r.outcomes.map (fun o => (o.name, o.status.fate?)) =
    names.map fun n => (n, some (fate n))
  skipped : ∀ o ∈ r.outcomes, ∀ d, o.status = .skipped d → g.Needs o.name d ∧ fate d ≠ .succeeded

/-- The status of a target that is told about is a success exactly if its fate is. -/
theorem BuildReport.Tells.status?_eq_succeeded_iff {r : BuildReport} {g : Graph}
    {names : List String} {fate : String → Fate} (h : r.Tells g names fate) {n : String}
    (hn : n ∈ names) : r.status? n = some .succeeded ↔ fate n = .succeeded := by
  have hmem (m : String) (f? : Option Fate) :
      (∃ o ∈ r.outcomes, o.name = m ∧ o.status.fate? = f?) ↔ m ∈ names ∧ some (fate m) = f? := by
    simpa [and_assoc] using congrArg ((m, f?) ∈ ·) h.outcomes
  obtain ⟨o, ho⟩ : ∃ o, r.outcome? n = some o := by
    obtain ⟨o, ho, hname, -⟩ := (hmem n _).2 ⟨hn, rfl⟩
    rw [← Option.isSome_iff_exists, outcome?, List.find?_isSome]
    exact ⟨o, ho, by simpa using hname⟩
  have hname : o.name = n := by simpa using List.find?_some ho
  obtain ⟨-, hfate⟩ := (hmem n o.status.fate?).1 ⟨o, List.mem_of_find?_eq_some ho, hname, rfl⟩
  rw [status?, ho, ← Option.some_inj (a := fate n), hfate]
  cases hs : o.status <;> simp [Status.fate?, hs]

/-! ### Fates -/

namespace Graph

variable {g : Graph} {names : List String} {result : String → ToolResult} {n : String}

/-- `g.Fated names result fate`: the fates of the targets `names` are those that follow from the
results. -/
structure Fated (g : Graph) (names : List String) (result : String → ToolResult)
    (fate : String → Fate) : Prop where
  succeeded_iff : ∀ n ∈ names,
    fate n = .succeeded ↔ ∀ d, g.Reaches n d → (result d).success = true
  failed_iff : ∀ n ∈ names, ∀ r, fate n = .failed r ↔
    ((result n).success = false ∧ r = (result n).reason) ∧
      ∀ d, g.DependsOn n d → fate d = .succeeded
  skipped_iff : ∀ n ∈ names, fate n = .skipped ↔ ∃ d r, g.DependsOn n d ∧ fate d = .failed r

open Classical in
/-- What becomes of a target when `result` is what the tools give. -/
noncomputable def fate (g : Graph) (result : String → ToolResult) (name : String) : Fate :=
  if ∃ d, g.DependsOn name d ∧ (result d).success = false then .skipped
  else if (result name).success then .succeeded
  else .failed (result name).reason

theorem fate_eq_skipped_iff :
    g.fate result n = .skipped ↔ ∃ d, g.DependsOn n d ∧ (result d).success = false := by
  unfold fate
  split
  · next h => simpa using h
  · next h =>
    refine iff_of_false ?_ h
    split <;> exact nofun

theorem fate_eq_succeeded_iff :
    g.fate result n = .succeeded ↔ ∀ d, g.Reaches n d → (result d).success = true := by
  unfold fate
  constructor
  · intro h d hd
    split at h
    · cases h
    · next hdeps =>
      rcases reflTransGen_iff_eq_or_transGen.1 hd with rfl | hd
      · split at h
        · assumption
        · cases h
      · by_contra hc
        exact hdeps ⟨d, hd, Bool.eq_false_iff.2 hc⟩
  · intro h
    rw [if_neg, if_pos (h n .refl)]
    rintro ⟨d, hd, hf⟩
    rw [h d hd.to_reflTransGen] at hf
    cases hf

theorem fate_eq_failed_iff {r : String} :
    g.fate result n = .failed r ↔ ((result n).success = false ∧ r = (result n).reason) ∧
      ∀ d, g.DependsOn n d → g.fate result d = .succeeded := by
  constructor
  · intro h
    have hdeps : ∀ d, g.DependsOn n d → (result d).success = true := by
      intro d hd
      by_contra hc
      rw [fate_eq_skipped_iff.2 ⟨d, hd, Bool.eq_false_iff.2 hc⟩] at h
      cases h
    refine ⟨?_, fun d hd => fate_eq_succeeded_iff.2 fun e he => hdeps e (hd.trans_left he)⟩
    unfold fate at h
    split at h
    · cases h
    · split at h
      · cases h
      · next hs =>
        cases h
        exact ⟨Bool.eq_false_iff.2 hs, rfl⟩
  · rintro ⟨⟨hs, rfl⟩, hdeps⟩
    unfold fate
    rw [if_neg, if_neg (by simp [hs])]
    rintro ⟨d, hd, hf⟩
    rw [fate_eq_succeeded_iff.1 (hdeps d hd) d .refl] at hf
    cases hf

/-- Wherever a bad result can be reached, so can a target that fails. -/
theorem Settled.exists_failed {l : List String} (h : g.Settled l) :
    ∀ n ∈ l, (∃ d, g.Reaches n d ∧ (result d).success = false) →
      ∃ d r, g.Reaches n d ∧ g.fate result d = .failed r := by
  refine h.induction fun n _ ih => ?_
  rintro ⟨d, hd, hs⟩
  by_cases hdeps : ∃ e, g.DependsOn n e ∧ (result e).success = false
  · -- the bad result is behind one of the dependencies
    obtain ⟨e, he, hs⟩ := hdeps
    obtain ⟨b, hb, he⟩ := TransGen.head'_iff.1 he
    obtain ⟨f, r, hf, hr⟩ := ih b hb ⟨e, he, hs⟩
    exact ⟨f, r, .head hb hf, hr⟩
  · -- it is the result of the target itself
    obtain rfl : d = n := by
      refine (reflTransGen_iff_eq_or_transGen.1 hd).resolve_right fun hd => hdeps ⟨d, hd, hs⟩
    refine ⟨d, (result d).reason, .refl, fate_eq_failed_iff.2 ⟨⟨hs, rfl⟩, fun e he => ?_⟩⟩
    refine fate_eq_succeeded_iff.2 fun f hf => ?_
    by_contra hc
    exact hdeps ⟨f, he.trans_left hf, Bool.eq_false_iff.2 hc⟩

/-- **The fates of planned targets** are those that follow from the results. -/
theorem fated_of_plan {requested : List String} {plan : Plan} (h : g.plan requested = .ok plan) :
    g.Fated plan.names result (g.fate result) := by
  refine ⟨fun n _ => fate_eq_succeeded_iff, fun n _ r => fate_eq_failed_iff, fun n hn => ?_⟩
  have hset := settled_of_plan h
  rw [fate_eq_skipped_iff]
  constructor
  · rintro ⟨d, hd, hs⟩
    have hmem := hset.mem_of_reaches (List.mem_reverse.2 hn) hd.to_reflTransGen
    obtain ⟨e, r, he, hf⟩ := hset.exists_failed d hmem ⟨d, .refl, hs⟩
    exact ⟨e, r, hd.trans_left he, hf⟩
  · rintro ⟨d, r, hd, hf⟩
    exact ⟨d, hd, (fate_eq_failed_iff.1 hf).1.1⟩

end Graph

/-! ### What a build finds out -/

namespace Progress.Sound

variable {g : Graph} {p : Progress} {result : String → ToolResult} {n : String}

/-- Behind a target that failed or was skipped there is a bad result. -/
theorem exists_bad_of_failing (h : Sound g result p) (hn : p.Failing n) :
    ∃ d, g.Reaches n d ∧ (result d).success = false := by
  have hall : ∀ n ∈ p.names.reverse, p.Failing n →
      ∃ d, g.Reaches n d ∧ (result d).success = false := by
    refine h.settled.induction fun n _ ih => ?_
    rintro ⟨st, hst, hf⟩
    cases st with
    | pending | building | succeeded => cases hf
    | failed r => exact ⟨n, .refl, (h.failed n r hst).1⟩
    | skipped d =>
      obtain ⟨hneed, hfd⟩ := h.skipped n d hst
      obtain ⟨e, he, hs⟩ := ih d hneed hfd
      exact ⟨e, .head hneed he, hs⟩
  obtain ⟨st, hst, hf⟩ := hn
  exact hall n (List.mem_reverse.2 (mem_names_of_status? hst)) ⟨st, hst, hf⟩

end Progress.Sound

namespace Site.Sound

variable {g : Graph} {s : Site} {result : String → ToolResult} {n : String}

/-- A skipped target names a dependency from which a bad result can be reached. -/
theorem bad_of_skipped (h : Sound g result s) {d : String}
    (hst : s.progress.status? n = some (.skipped d)) :
    g.Needs n d ∧ ∃ e, g.Reaches d e ∧ (result e).success = false := by
  obtain ⟨hneed, hf⟩ := h.progress.skipped n d hst
  exact ⟨hneed, h.progress.exists_bad_of_failing hf⟩

/-- A terminal status tells the fate of its target. -/
theorem fate?_eq (h : Sound g result s) {st : Status} (hst : s.progress.status? n = some st)
    (ht : st.isTerminal = true) : st.fate? = some (g.fate result n) := by
  have hdeps (hs : st.isStarted = true) (d : String) (hd : g.DependsOn n d) :
      (result d).success = true :=
    h.progress.succeeded d (h.succeeded_of_dependsOn ⟨st, hst, hs⟩ hd)
  cases st with
  | pending | building => cases ht
  | succeeded =>
    refine congrArg some (Graph.fate_eq_succeeded_iff.2 fun d hd => ?_).symm
    rcases reflTransGen_iff_eq_or_transGen.1 hd with rfl | hd
    · exact h.progress.succeeded d hst
    · exact hdeps rfl d hd
  | failed r =>
    have hown := h.progress.failed n r hst
    refine congrArg some (Graph.fate_eq_failed_iff.2 ⟨hown, fun d hd => ?_⟩).symm
    exact Graph.fate_eq_succeeded_iff.2 fun e he => hdeps rfl e (hd.trans_left he)
  | skipped d =>
    obtain ⟨hneed, e, he, hs⟩ := h.bad_of_skipped hst
    exact congrArg some (Graph.fate_eq_skipped_iff.2 ⟨e, TransGen.head' hneed he, hs⟩).symm

/-- **The report on a build at rest** tells the fates of the planned targets. -/
theorem report_tells (h : Sound g result s) (hr : s.ready = []) (hf : s.inFlight = [])
    (duration : Duration) :
    (s.progress.report duration).Tells g s.progress.names (g.fate result) := by
  have hdone (t : Target) (ht : t ∈ s.progress.targets) :
      ∃ st, s.progress.status? t.name = some st ∧ st.isTerminal = true :=
    Progress.isDone_iff.1 (h.isDone_of_rest hr hf t.name (List.mem_map.2 ⟨t, ht, rfl⟩))
  constructor
  · rw [Progress.report, Progress.names, List.map_map, List.map_map]
    refine List.map_congr_left fun t ht => ?_
    obtain ⟨st, hst, hterm⟩ := hdone t ht
    simp [hst, h.fate?_eq hst hterm]
  · intro o ho d hd
    obtain ⟨t, ht, rfl⟩ := List.mem_map.1 ho
    obtain ⟨st, hst, -⟩ := hdone t ht
    obtain rfl : st = .skipped d := by simpa [hst] using hd
    obtain ⟨hneed, e, he, hs⟩ := h.bad_of_skipped hst
    refine ⟨hneed, fun hc => ?_⟩
    rw [Graph.fate_eq_succeeded_iff.1 hc e he] at hs
    cases hs

end Site.Sound

/-! ### Results of tools -/

/-- The targets without an artifact are the libraries without sources. -/
theorem Target.hasArtifact_eq_false_iff {t : Target} :
    t.hasArtifact = false ↔ t.kind = .library ∧ t.sources = [] := by
  unfold hasArtifact
  cases t.kind <;> simp [Kind.isExecutable]

namespace Build

variable {g : Graph} {config : BuildConfig} {tool : Job → ToolResult} {requested : List String}
  {plan : Plan} {n : String} {t : Target}

/-- A workshop in which each job comes to what `tool` says, in no time. -/
def workshopOf (tool : Job → ToolResult) : Workshop Id where
  build := tool
  now := 0

/-- The result of building a target, when `tool` is what comes of each job. -/
def resultOf (g : Graph) (config : BuildConfig) (tool : Job → ToolResult) (name : String) :
    ToolResult := (attempt (workshopOf tool) g config name).result

theorem name_attempt (workshop : Workshop Id) (g : Graph) (config : BuildConfig) (n : String) :
    (attempt workshop g config n).name = n := by
  unfold attempt
  cases g.find n <;> rfl

/-- Building a target takes what the target is made of, or the job that is made for it. -/
theorem resultOf_eq (h : g.get? n = some t) :
    resultOf g config tool n = buildTarget (workshopOf tool) g config t := by
  rw [resultOf, attempt, Graph.find_of_get? h]
  rfl

/-- Nobody is asked to build a target without an artifact. -/
theorem buildTarget_of_not_hasArtifact {m : Type → Type} [Monad m] (workshop : Workshop m)
    (h : t.hasArtifact = false) : buildTarget workshop g config t = pure (.succeeded "") := by
  rw [buildTarget, h]
  rfl

/-- What comes of the job of a target is what comes of the target. -/
theorem buildTarget_of_job {m : Type → Type} [Monad m] (workshop : Workshop m) {job : Job}
    (h : t.hasArtifact = true) (hj : Job.ofTarget g config.mode config.buildDir t = .ok job) :
    buildTarget workshop g config t = workshop.build job := by
  rw [buildTarget, h, hj]
  rfl

/-- Every planned target has its job. -/
theorem exists_job (config : BuildConfig) (h : g.plan requested = .ok plan)
    (hn : n ∈ plan.names) (ht : g.get? n = some t) :
    ∃ job, Job.ofTarget g config.mode config.buildDir t = .ok job := by
  obtain ⟨env, he⟩ := Graph.exists_environment_of_mem_plan h hn
  rw [Job.ofTarget, Graph.name_of_get? ht, he]
  exact ⟨_, rfl⟩

/-- **The outcome of a build does not depend on the order** in which its targets are done. Whatever
comes of each job, every planned target has a fate that follows from the results alone, and whoever
does the work, the report tells the fate of each planned target once and in the order of the plan.
The result of a library without sources is a success for which nobody is asked; every other planned
target has a job, and its result is what comes of that. -/
theorem outcome_independent_of_order (h : g.plan requested = .ok plan) (config : BuildConfig)
    (tool : Job → ToolResult) :
    (∃ fate, g.Fated plan.names (resultOf g config tool) fate ∧
      ∀ {m : Type → Type} [Monad m] {σ : Type} (e : Execution m σ) (crew : Crew m) (now : m Nat)
        (inFlight : σ → List String), crew.Reliable now e (resultOf g config tool) inFlight →
          ∀ s, inFlight s = [] → ∃ report s',
            e.run (ofPlan crew now g plan) s = (.ok report, s') ∧
            report.Tells g plan.names fate) ∧
    ∀ n ∈ plan.names, ∃ t, g.get? n = some t ∧
      (t.kind = .library ∧ t.sources = [] →
        resultOf g config tool n = .succeeded "" ∧
        ∀ {m : Type → Type} [Monad m] (workshop : Workshop m),
          buildTarget workshop g config t = pure (.succeeded "")) ∧
      (¬ (t.kind = .library ∧ t.sources = []) →
        ∃ job, Job.ofTarget g config.mode config.buildDir t = .ok job ∧
          resultOf g config tool n = tool job) := by
  have hset := Graph.settled_of_plan h
  refine ⟨⟨g.fate (resultOf g config tool), Graph.fated_of_plan h, ?_⟩, fun n hn => ?_⟩
  · intro m _ σ e crew now inFlight hc s hs
    obtain ⟨site, duration, s', hrun, hreach, hr, hf⟩ := hc.ofPlan_reachable h hs
    obtain ⟨hsound, hnames⟩ := hreach.sound h
    exact ⟨_, s', hrun, hnames ▸ hsound.report_tells hr hf duration⟩
  · obtain ⟨t, ht⟩ := Catalog.contains_iff_get?.1 (hset.contains (List.mem_reverse.2 hn))
    refine ⟨t, ht, fun hlib => ?_, fun hlib => ?_⟩
    · have hb := Target.hasArtifact_eq_false_iff.2 hlib
      refine ⟨(resultOf_eq ht).trans (buildTarget_of_not_hasArtifact _ hb), fun workshop => ?_⟩
      exact buildTarget_of_not_hasArtifact workshop hb
    · obtain ⟨job, hjob⟩ := exists_job config h hn ht
      have hb : t.hasArtifact = true := by
        rwa [← Bool.not_eq_false, Target.hasArtifact_eq_false_iff]
      exact ⟨job, hjob, (resultOf_eq ht).trans (buildTarget_of_job _ hb hjob)⟩

/-- A single worker builds a diamond one side of which fails. -/
theorem outcome_of_diamond :
    Graph.diamond.plan ["a"] = .ok ⟨["d", "b", "c", "a"]⟩ ∧
    ∃ fate report s', Graph.diamond.Fated ["d", "b", "c", "a"]
        (resultOf Graph.diamond {} fun job => Site.allBut "b" job.target.name) fate ∧
      ((Execution.ofId Unit).withState (List String)).run
        (ofPlan (.single (attempt (workshopOf fun job => Site.allBut "b" job.target.name)
          Graph.diamond {})) (liftM (0 : Id Nat)) Graph.diamond ⟨["d", "b", "c", "a"]⟩) ([], ()) =
        (.ok report, s') ∧
      report.Tells Graph.diamond ["d", "b", "c", "a"] fate := by
  obtain ⟨⟨fate, hf, hcrew⟩, -⟩ := outcome_independent_of_order Graph.plan_diamond {}
    fun job => Site.allBut "b" job.target.name
  obtain ⟨report, s', hrun, hreport⟩ :=
    hcrew _ _ _ _ (Crew.reliable_single 0 (.ofId Unit) (fun n _ => name_attempt _ _ _ n)
      fun _ _ => rfl) ([], ()) rfl
  exact ⟨Graph.plan_diamond, fate, report, s', hf, hrun, hreport⟩

/-! ### What does depend on the order -/

end Build

namespace Crew

variable {m : Type → Type} [Monad m] {σ : Type} {attempt : String → m Completion}
  {result : String → ToolResult}

/-- A single worker, who takes first what came last. -/
def lastFirst (attempt : String → m Completion) : Crew (StateT (List String) m) :=
  { single attempt with hand := fun name => modify (name :: ·) }

/-- A worker is reliable in whichever order things are taken. -/
theorem reliable_lastFirst (time : m Nat) (e : Execution m σ)
    (hname : ∀ n s, (e.run (attempt n) s).1.name = n)
    (hresult : ∀ n s, (e.run (attempt n) s).1.result = result n) :
    (lastFirst attempt).Reliable (liftM time) (e.withState (List String)) result (·.1) :=
  { reliable_single time e hname hresult with
    hand := fun n s => by simp [lastFirst, Execution.withState, e.run_pure] }

end Crew

namespace Build

/-- Both sides of a diamond fail. -/
def sidesFail (job : Job) : ToolResult :=
  if job.target.name ∈ ["b", "c"] then .failed (some 1) "" else .succeeded ""

/-- Builds a target of that diamond. -/
def attemptDiamond : String → Id Completion := attempt (workshopOf sidesFail) Graph.diamond {}

/-- Its sides fail, its other targets succeed, and nothing else can be built. -/
theorem attemptDiamond_eq (n : String) : attemptDiamond n = {
    name := n
    result :=
      if n ∈ ["d", "a"] then .succeeded ""
      else if n ∈ ["b", "c"] then .failed (some 1) ""
      else .neverRan (BuildError.unknownTarget n none).message "" } := by
  by_cases hn : n ∈ ["d", "b", "c", "a"]
  · simp only [List.mem_cons, List.not_mem_nil, or_false] at hn
    obtain rfl | rfl | rfl | rfl := hn <;> cbv
  · have hfree : Graph.diamond.contains n = false := by
      have hnames : ∀ t ∈ Graph.diamond.targets, t.name ∈ ["d", "b", "c", "a"] := by decide
      rw [← Bool.not_eq_true, Catalog.contains_iff_exists]
      rintro ⟨t, ht, rfl⟩
      exact hn (hnames t ht)
    have hne : ¬ n ∈ ["d", "a"] ∧ ¬ n ∈ ["b", "c"] := by grind
    rw [attemptDiamond, attempt, Graph.find_of_contains_eq_false hfree, if_neg hne.1, if_neg hne.2]
    rfl

/-- What becomes of the diamond with a crew that starts with nothing. -/
def runDiamond (crew : Crew (StateT (List String) Id)) :
    Except BuildError BuildReport × List String × Unit :=
  ((Execution.ofId Unit).withState (List String)).run
    (ofPlan crew (liftM (0 : Id Nat)) Graph.diamond ⟨["d", "b", "c", "a"]⟩) ([], ())

/-- A crew whose promises hold for the diamond. -/
def ServesDiamond (crew : Crew (StateT (List String) Id)) : Prop :=
  crew.Reliable (liftM (0 : Id Nat)) ((Execution.ofId Unit).withState (List String))
    (resultOf Graph.diamond {} sidesFail) (·.1)

theorem exists_report_of_status? {crew : Crew (StateT (List String) Id)} {st : Status}
    (hc : ServesDiamond crew)
    (hst : (runDiamond crew).1.toOption.bind (·.status? "a") = some st) :
    ∃ report s, runDiamond crew = (.ok report, s) ∧ report.status? "a" = some st := by
  obtain ⟨_, _, s, hrun, -⟩ := hc.ofPlan_reachable Graph.plan_diamond (s := ([], ())) rfl
  have hrun : runDiamond crew = _ := hrun
  rw [hrun] at hst
  exact ⟨_, s, hrun, hst⟩

/-- **Which dependency a skip names depends on the order.** Both sides of a diamond fail. Of two
reliable workers one is heard first of the one side, one of the other side, and the top of the
diamond is skipped behind the side that was heard of first. -/
theorem skipped_differs :
    Graph.diamond.plan ["a"] = .ok ⟨["d", "b", "c", "a"]⟩ ∧
    ServesDiamond (.single attemptDiamond) ∧ ServesDiamond (.lastFirst attemptDiamond) ∧
    (∃ report s, runDiamond (.single attemptDiamond) = (.ok report, s) ∧
      report.status? "a" = some (.skipped "b")) ∧
    ∃ report s, runDiamond (.lastFirst attemptDiamond) = (.ok report, s) ∧
      report.status? "a" = some (.skipped "c") := by
  have hsingle : ServesDiamond (.single attemptDiamond) :=
    Crew.reliable_single 0 (.ofId Unit) (fun n _ => name_attempt _ _ _ n) fun _ _ => rfl
  have hlast : ServesDiamond (.lastFirst attemptDiamond) :=
    Crew.reliable_lastFirst 0 (.ofId Unit) (fun n _ => name_attempt _ _ _ n) fun _ _ => rfl
  refine ⟨Graph.plan_diamond, hsingle, hlast, exists_report_of_status? hsingle ?_,
    exists_report_of_status? hlast ?_⟩
  · rw [funext attemptDiamond_eq]
    decide +kernel
  · rw [funext attemptDiamond_eq]
    decide +kernel

end Build

end Buildwright
