import Buildwright.Build.Summary
import Buildwright.Proofs.Build.Failures
import Mathlib.Data.Set.Finite.List
import Mathlib.Order.WellFounded

/-!
# Plans of other graphs

A plan may be built in another graph than the one it was made for, as long as its targets are
declared there. The build then waits for those dependencies that are planned, and nothing keeps the
planned targets from depending on each other in a circle. Such targets, and those behind them, are
stuck (`Graph.Stuck`): they never become ready, and a build in which nothing else fails ends without
them and without a failure. So a build may report a success while targets are still pending
(`Build.success_of_loop`). `Build.success_of_foreign_plan` says for every plan when a success is
reported, and what has become of the targets then.

As long as nothing fails, no target is skipped, so that the invariant `Progress.Smooth` of the other
builds is simpler than that of builds in general; once something fails, the failure is in the report
whatever happens later.
-/

namespace Buildwright

open Relation

/-! ### Planned dependencies -/

namespace Graph

variable {g : Graph} {names : List String} {a b : String}

/-- `g.NeedsWithin names a b`: both targets are among the targets `names`, and `a` lists `b` among
its dependencies. -/
def NeedsWithin (g : Graph) (names : List String) (a b : String) : Prop :=
  a ∈ names ∧ b ∈ names ∧ g.Needs a b

/-- `g.Stuck names a`: from the target `a` dependencies among the targets `names` lead into a
circle. -/
def Stuck (g : Graph) (names : List String) (a : String) : Prop :=
  ∃ m, ReflTransGen (g.NeedsWithin names) a m ∧ TransGen (g.NeedsWithin names) m m

theorem Stuck.of_needs (hab : g.NeedsWithin names a b) (h : g.Stuck names b) :
    g.Stuck names a := by
  obtain ⟨m, hbm, hm⟩ := h
  exact ⟨m, .head hab hbm, hm⟩

/-- A stuck target has a dependency that is stuck. -/
theorem Stuck.exists_needs (h : g.Stuck names a) :
    ∃ b, g.NeedsWithin names a b ∧ g.Stuck names b := by
  obtain ⟨m, ham, hm⟩ := h
  rcases ReflTransGen.cases_head ham with rfl | ⟨b, hab, hbm⟩
  · obtain ⟨b, hab, hba⟩ := TransGen.head'_iff.1 hm
    exact ⟨b, hab, a, hba, hm⟩
  · exact ⟨b, hab, m, hbm, hm⟩

/-- **Induction over targets that are not stuck**, from their planned dependencies to them. -/
theorem induction_of_not_stuck {P : String → Prop}
    (step : ∀ a ∈ names, ¬ g.Stuck names a → (∀ b, g.NeedsWithin names a b → P b) → P a) :
    ∀ a ∈ names, ¬ g.Stuck names a → P a := by
  let free : Type := { a : String // a ∈ names ∧ ¬ g.Stuck names a }
  have : Finite free := (names.finite_toSet.subset fun a ha => ha.1).to_subtype
  let below (b a : free) : Prop := TransGen (g.NeedsWithin names) a.1 b.1
  have : IsTrans free below := ⟨fun _ _ _ hba hcb => hcb.trans hba⟩
  have : Std.Irrefl below := ⟨fun a ha => a.2.2 ⟨a.1, .refl, ha⟩⟩
  have hall : ∀ a : free, P a.1 := by
    refine (Finite.wellFounded_of_trans_of_irrefl below).fix fun a ih => ?_
    refine step a.1 a.2.1 a.2.2 fun b hab => ?_
    exact ih ⟨b, hab.2.1, fun hb => a.2.2 (.of_needs hab hb)⟩ (.single hab)
  exact fun a ha hs => hall ⟨a, ha, hs⟩

/-- In the graph for which a plan was made, no planned target is stuck. -/
theorem not_stuck_of_plan {requested : List String} {plan : Plan}
    (h : g.plan requested = .ok plan) (ha : a ∈ plan.names) : ¬ g.Stuck plan.names a := by
  rintro ⟨m, ham, hm⟩
  have hle : g.NeedsWithin plan.names ≤ g.Needs := fun _ _ h => h.2.2
  have hset := settled_of_plan h
  have hmem := hset.mem_of_reaches (List.mem_reverse.2 ha) (ReflTransGen.mono hle _ _ ham)
  exact hset.acyclic m hmem (TransGen.mono hle _ _ hm)

end Graph

/-! ### As long as nothing fails -/

namespace Progress

variable {g : Graph} {result : String → ToolResult} {p : Progress} {n m d : String}

/-- What is true of a build in any graph after each event, as long as nothing has failed. -/
structure Smooth (g : Graph) (result : String → ToolResult) (p : Progress) : Prop extends
    p.Counts (Target.within p.names) where
  declared : ∀ t ∈ p.targets, g.get? t.name = some t
  known : ∀ n ∈ p.names, ∃ st, p.status? n = some st
  unfailed : ∀ n st, p.status? n = some st → st.isFailure = false
  free : ∀ n st, p.status? n = some st → st.isStarted = true → ¬ g.Stuck p.names n
  succeeded : ∀ n, p.status? n = some .succeeded → (result n).success = true
  failures : p.failures = []

namespace Smooth

/-- The planned dependencies of a target. -/
theorem needsWithin_iff (h : p.Smooth g result) {t : Target} (ht : t ∈ p.targets) :
    g.NeedsWithin p.names t.name d ↔ d ∈ (t.within p.names).deps := by
  have hmem : t.name ∈ p.names := List.mem_map.2 ⟨t, ht, rfl⟩
  rw [Target.mem_deps_within, Graph.NeedsWithin, and_iff_right hmem,
    Graph.needs_iff (h.declared t ht), and_comm]

/-- A target is ready when it is pending and its planned dependencies have succeeded. -/
theorem mem_ready_iff_needs (h : p.Smooth g result) :
    n ∈ p.ready ↔ p.status? n = some .pending ∧
      ∀ d, g.NeedsWithin p.names n d → p.status? d = some .succeeded := by
  rw [h.mem_ready_iff]
  refine and_congr_right fun hp => ?_
  obtain ⟨t, ht, rfl⟩ := List.mem_map.1 (mem_names_of_status? hp)
  rw [h.counted t ht, Option.some.injEq, unmet_eq_zero_iff]
  exact forall_congr' fun d => by rw [h.needsWithin_iff ht]

/-- A target that is ready is not stuck: its planned dependencies are not. -/
theorem not_stuck_of_ready (h : p.Smooth g result) (hn : n ∈ p.ready) :
    ¬ g.Stuck p.names n := by
  intro hs
  obtain ⟨d, hd, hs⟩ := hs.exists_needs
  exact h.free d _ ((h.mem_ready_iff_needs.1 hn).2 d hd) rfl hs

/-- A stuck target stays as it is. -/
theorem pending_of_stuck (h : p.Smooth g result) (hn : n ∈ p.names) (hs : g.Stuck p.names n) :
    p.status? n = some .pending := by
  obtain ⟨st, hst⟩ := h.known n hn
  cases st with
  | pending => exact hst
  | failed | skipped => cases h.unfailed n _ hst
  | building | succeeded => exact absurd hs (h.free n _ hst rfl)

/-- Taking what is ready keeps a build smooth. -/
theorem takeReady (h : p.Smooth g result) : p.takeReady.2.Smooth g result := by
  have hw := sameWork_takeReady p
  have hn : p.takeReady.2.names = p.names := by rw [names, hw.targets]; rfl
  have hc : p.takeReady.2.Counts (Target.within p.takeReady.2.names) :=
    hn ▸ h.toCounts.takeReady
  refine { toCounts := hc, declared := fun t ht => h.declared t (hw.targets ▸ ht), known := ?_,
           unfailed := ?_, free := ?_, succeeded := ?_,
           failures := (failures_takeReady p).trans h.failures }
  · intro n hp
    by_cases hm : n ∈ p.ready
    · exact ⟨_, h.status?_takeReady_of_mem hm⟩
    · rw [status?_takeReady, if_neg hm]
      exact h.known n (hn ▸ hp)
  · intro n st hst
    by_cases hb : st = .building
    · exact hb ▸ rfl
    · exact h.unfailed n st (h.status?_of_takeReady hst hb).2
  · intro n st hst hstart
    rw [hn]
    by_cases hm : n ∈ p.ready
    · exact h.not_stuck_of_ready hm
    · rw [status?_takeReady, if_neg hm] at hst
      exact h.free n st hst hstart
  · exact fun n hs => h.succeeded n (h.status?_of_takeReady hs (by decide)).2

/-- Recording a success keeps a build smooth. -/
theorem succeed (h : p.Smooth g result) (hn : p.status? n = some .building)
    (hr : (result n).success = true) : (p.succeed n).Smooth g result := by
  have hs := h.succeeds hn
  have hnames : (p.succeed n).names = p.names := by
    rw [names, hs.targets]
    rfl
  have hc : (p.succeed n).Counts (Target.within (p.succeed n).names) :=
    hnames ▸ h.toCounts.succeed hn
  refine { toCounts := hc, declared := fun t ht => h.declared t (hs.targets ▸ ht), known := ?_,
           unfailed := ?_, free := ?_, succeeded := ?_,
           failures := (failures_succeed p n).trans h.failures }
  · intro m hm
    rw [hs.status]
    split
    · exact ⟨_, rfl⟩
    · exact h.known m (hnames ▸ hm)
  · intro m st hst
    rcases hs.cases hst with ⟨-, rfl⟩ | ⟨-, hst⟩
    · rfl
    · exact h.unfailed m st hst
  · intro m st hst hstart
    rw [hnames]
    rcases hs.cases hst with ⟨rfl, -⟩ | ⟨-, hst⟩
    · exact h.free m _ hn rfl
    · exact h.free m st hst hstart
  · intro m hm
    rcases hs.cases hm with ⟨rfl, -⟩ | ⟨-, hm⟩
    · exact hr
    · exact h.succeeded m hm

/-- Recording what became of a target keeps a build smooth if that is a success. -/
theorem complete (h : p.Smooth g result) {done : Completion}
    (hn : p.status? done.name = some .building) (hr : done.result = result done.name)
    (hs : done.result.success = true) : (p.complete done).Smooth g result := by
  have hq := h.succeed hn (hr ▸ hs)
  rw [Progress.complete, if_pos hs]
  exact ⟨⟨hq.count_dependentsOn, hq.mem_names_of_dependent, hq.counted, hq.mem_names_of_counted,
    hq.ready_nodup, hq.mem_ready_iff⟩, hq.declared, hq.known, hq.unfailed, hq.free, hq.succeeded,
    hq.failures⟩

/-- **A build is smooth when it begins.** -/
theorem ofTargets {ts : List Target} (hnd : (ts.map (·.name)).Nodup)
    (hdecl : ∀ t ∈ ts, g.get? t.name = some t) : (Progress.ofTargets ts).Smooth g result := by
  have hpending {n : String} {st : Status} (hst : (Progress.ofTargets ts).status? n = some st) :
      st = .pending := eq_pending_of_ofTargets hnd hst
  refine { toCounts := counts_ofTargets hnd, declared := hdecl, known := ?_, unfailed := ?_,
           free := ?_, succeeded := ?_, failures := rfl }
  · exact fun n hn => ⟨.pending, (status?_ofTargets hnd n).trans (if_pos hn)⟩
  · exact fun n st hst => hpending hst ▸ rfl
  · intro n st hst hstart
    rw [hpending hst] at hstart
    cases hstart
  · exact fun n hn => nomatch hpending hn

end Smooth

/-- Whatever is planned can be begun, if it is declared. -/
theorem smooth_ofPlan {plan : Plan} (hnd : plan.names.Nodup)
    (hdecl : ∀ n ∈ plan.names, g.contains n = true) (result : String → ToolResult) :
    ∃ p, ofPlan g plan = .ok p ∧ p.names = plan.names ∧ p.Smooth g result ∧
      ∀ n st, p.status? n = some st → st = .pending := by
  obtain ⟨ts, hts, hnames, hget⟩ := Graph.mapM_find_of_forall hdecl
  have hnd' : (ts.map (·.name)).Nodup := hnames ▸ hnd
  exact ⟨ofTargets ts, map_eq_ok_iff.2 ⟨ts, hts, rfl⟩, hnames, .ofTargets hnd' hget,
    fun n st hst => eq_pending_of_ofTargets hnd' hst⟩

end Progress

namespace Site

variable {g : Graph} {result : String → ToolResult} {s s' : Site} {n : String}

/-- What is true of a build in any graph after each event, as long as nothing has failed. -/
structure Smooth (g : Graph) (result : String → ToolResult) (s : Site) : Prop extends s.Busy where
  progress : s.progress.Smooth g result

namespace Smooth

/-- A target that the coordinator hears of and that was built is so from then on. -/
theorem status?_hear (h : s.Smooth g result) {done : Completion} (hd : done.name ∈ s.inFlight)
    (hr : done.result = result done.name) (hs : done.result.success = true) :
    (s.progress.complete done).Smooth g result ∧
      ∀ m, (s.progress.complete done).status? m =
        if done.name = m then some .succeeded else s.progress.status? m := by
  have hn := h.status?_of_mem_inFlight hd
  refine ⟨h.progress.complete hn hr hs, fun m => ?_⟩
  rw [Progress.complete, if_pos hs]
  exact Progress.status?_succeed hn m

/-- Hearing of a success keeps a build smooth. -/
theorem hear (h : s.Smooth g result) {done : Completion} (hd : done.name ∈ s.inFlight)
    (hr : done.result = result done.name) (hs : done.result.success = true) :
    (s.hear done).Smooth g result := by
  obtain ⟨hq, hstatus⟩ := h.status?_hear hd hr hs
  refine ⟨h.toBusy.hear hd hq.toCounts fun m => ?_, hq.takeReady⟩
  rw [hstatus]
  split
  · next he => simp [he]
  · next he => rw [and_iff_right (Ne.symm he)]

/-- Hearing of a success leaves fewer targets that nothing has become of. -/
theorem undone_hear_lt (h : s.Smooth g result) {done : Completion} (hd : done.name ∈ s.inFlight)
    (hr : done.result = result done.name) (hs : done.result.success = true) :
    (s.hear done).progress.undone < s.progress.undone := by
  have hn := h.status?_of_mem_inFlight hd
  obtain ⟨hq, hstatus⟩ := h.status?_hear hd hr hs
  have hkeep (m : String) {st : Status} (hst : (s.progress.complete done).status? m = some st)
      (ht : st.isTerminal = true) : (s.hear done).progress.isDone m = true := by
    refine Progress.isDone_iff.2 ⟨st, hq.status?_takeReady_of_ne hst ?_, ht⟩
    rintro rfl
    cases ht
  refine Progress.undone_lt (targets_hear s done) (Progress.mem_names_of_status? hn) ?_ ?_ ?_
  · rw [Progress.isDone, hn]
    rfl
  · exact hkeep _ ((hstatus _).trans (if_pos rfl)) rfl
  · intro m hm
    obtain ⟨st, hst, ht⟩ := Progress.isDone_iff.1 hm
    refine hkeep m ((hstatus m).trans ?_) ht
    rw [if_neg, hst]
    rintro rfl
    rw [hn] at hst
    cases hst
    cases ht

/-- **A smooth build at rest has built every target that is not stuck.** -/
theorem succeeded_of_rest (h : s.Smooth g result) (hr : s.ready = []) (hf : s.inFlight = []) :
    ∀ n ∈ s.progress.names, ¬ g.Stuck s.progress.names n →
      s.progress.status? n = some .succeeded := by
  refine Graph.induction_of_not_stuck fun n hn _ ih => ?_
  obtain ⟨st, hst⟩ := h.progress.known n hn
  cases st with
  | succeeded => exact hst
  | failed | skipped => cases h.progress.unfailed n _ hst
  | building =>
    have := (h.building_iff n).2 hst
    rw [hr, hf] at this
    cases this
  | pending =>
    have hready := h.progress.mem_ready_iff_needs.2 ⟨hst, ih⟩
    rw [h.taken] at hready
    cases hready

end Smooth

/-! ### Once something has failed -/

theorem failures_hear (s : Site) (done : Completion) :
    (s.hear done).progress.failures = (s.progress.complete done).failures :=
  Progress.failures_takeReady _

/-- `s.Spoilt g result`: a failure was recorded, and the tools fail for a target that is not
stuck. -/
structure Spoilt (g : Graph) (result : String → ToolResult) (s : Site) : Prop where
  failures : s.progress.failures ≠ []
  culprit : ∃ n ∈ s.progress.names, ¬ g.Stuck s.progress.names n ∧ (result n).success = false

/-- **No event makes a failure forgotten.** -/
theorem Spoilt.steps (h : s.Spoilt g result) (hs : Steps result s s') : s'.Spoilt g result := by
  have hnames : s'.progress.names = s.progress.names := by
    rw [Progress.names, targets_of_steps hs]
    rfl
  refine ⟨?_, hnames ▸ h.culprit⟩
  clear hnames
  induction hs with
  | refl => exact h.failures
  | tail _ hs ih =>
    cases hs with
    | hand => exact ih
    | hear =>
      rw [failures_hear]
      exact (Progress.failures_prefix_complete _ _).ne_nil ih

/-- Hearing of a failure spoils a smooth build. -/
theorem Smooth.spoilt_hear (h : s.Smooth g result) {done : Completion} (hd : done.name ∈ s.inFlight)
    (hr : done.result = result done.name) (hs : done.result.success = false) :
    (s.hear done).Spoilt g result := by
  have hn := h.status?_of_mem_inFlight hd
  have hnames : (s.hear done).progress.names = s.progress.names := by
    rw [Progress.names, targets_hear]
    rfl
  refine ⟨?_, hnames ▸ ⟨done.name, Progress.mem_names_of_status? hn, ?_, hr ▸ hs⟩⟩
  · rw [failures_hear]
    exact Progress.failures_complete_ne_nil hs
  · exact h.progress.free _ _ hn rfl

/-- Each event spoils a smooth build or keeps it so. -/
theorem Smooth.step (h : s.Smooth g result) (hs : Step result s s') :
    s'.Spoilt g result ∨ s'.Smooth g result := by
  cases hs with
  | hand => exact .inr ⟨h.toBusy.hand, h.progress⟩
  | @hear _ done hd hr =>
    cases hsucc : done.result.success with
    | true => exact .inr (h.hear hd hr hsucc)
    | false => exact .inl (h.spoilt_hear hd hr hsucc)

/-- **A whole build** is spoilt or smooth to its end. -/
theorem Smooth.steps (h : s.Smooth g result) (hs : Steps result s s') :
    s'.Spoilt g result ∨ s'.Smooth g result := by
  induction hs with
  | refl => exact .inr h
  | tail _ hs ih =>
    rcases ih with ih | ih
    · exact .inl (ih.steps (.single hs))
    · exact ih.step hs

/-- A build is smooth when nothing has been handed to the crew. -/
theorem smooth_start {p : Progress} (h : p.Smooth g result)
    (hp : ∀ n st, p.status? n = some st → st = .pending) : (start p).Smooth g result :=
  ⟨Busy.start h.toCounts hp, h.takeReady⟩

/-- **Every state that a build in any graph can reach** is spoilt or smooth. -/
theorem Reachable.spoilt_or_smooth {plan : Plan} (hs : Reachable g plan result s)
    (hnd : plan.names.Nodup) (hdecl : ∀ n ∈ plan.names, g.contains n = true) :
    (s.Spoilt g result ∨ s.Smooth g result) ∧ s.progress.names = plan.names := by
  obtain ⟨p, hp, hs⟩ := hs
  obtain ⟨p', hp', hnames, hsmooth, hpending⟩ := Progress.smooth_ofPlan hnd hdecl result
  obtain rfl : p' = p := Except.ok.inj (hp'.symm.trans hp)
  refine ⟨(smooth_start hsmooth hpending).steps hs, ?_⟩
  rw [← hnames, Progress.names, targets_of_steps hs]
  exact congrArg _ (Progress.sameWork_takeReady p').targets

end Site

/-! ### Reports -/

theorem Progress.status_of_mem_report {p : Progress} {duration : Duration} {o : Outcome}
    (ho : o ∈ (p.report duration).outcomes) :
    o.name ∈ p.names ∧ o.status = (p.status? o.name).getD .pending := by
  obtain ⟨t, ht, rfl⟩ := List.mem_map.1 ho
  exact ⟨List.mem_map.2 ⟨t, ht, rfl⟩, rfl⟩

/-- `r.Foreign g result names`: what the report tells of a build of the targets `names` in the graph
`g`, whichever graph they were planned for. -/
structure BuildReport.Foreign (r : BuildReport) (g : Graph) (result : String → ToolResult)
    (names : List String) : Prop where
  /-- Every target has one outcome. -/
  outcomes : r.outcomes.map (·.name) = names
  /-- The build is a success if everything can be built that is not stuck. -/
  isSuccess_iff : r.isSuccess = true ↔
    ∀ n ∈ names, ¬ g.Stuck names n → (result n).success = true
  exitCode_iff : (Summary.ofBuild r).exitCode = 0 ↔ r.isSuccess = true
  /-- After a success everything was built that is not stuck, and what is stuck is pending. -/
  status : r.isSuccess = true → ∀ o ∈ r.outcomes,
    (o.status = .succeeded ∧ ¬ g.Stuck names o.name) ∨ (o.status = .pending ∧ g.Stuck names o.name)
  /-- A success leaves nothing unfinished if nothing is stuck. -/
  finished_iff : r.isSuccess = true →
    ((∀ o ∈ r.outcomes, o.status = .succeeded) ↔ ∀ n ∈ names, ¬ g.Stuck names n)

namespace Site

variable {g : Graph} {result : String → ToolResult} {s : Site}

/-- A smooth build is a success, and a spoilt one is not. -/
theorem isSuccess_report_iff (h : s.Spoilt g result ∨ s.Smooth g result) (duration : Duration) :
    (s.progress.report duration).isSuccess = true ↔ ¬ s.Spoilt g result := by
  show decide (s.progress.failures = []) = true ↔ _
  rw [decide_eq_true_eq]
  exact ⟨fun hf hs => hs.failures hf, fun hs => (h.resolve_left hs).progress.failures⟩

/-- **The report on a build that is spoilt or at rest**, whichever graph the plan was made for. -/
theorem report_foreign
    (h : s.Spoilt g result ∨ s.Smooth g result ∧ s.ready = [] ∧ s.inFlight = [])
    (duration : Duration) : (s.progress.report duration).Foreign g result s.progress.names := by
  have hnames := s.progress.names_report duration
  have hsuccess := isSuccess_report_iff (h.imp_right (·.1)) duration
  have hstatus : (s.progress.report duration).isSuccess = true →
      ∀ o ∈ (s.progress.report duration).outcomes,
        (o.status = .succeeded ∧ ¬ g.Stuck s.progress.names o.name) ∨
          (o.status = .pending ∧ g.Stuck s.progress.names o.name) := by
    intro hs o ho
    obtain ⟨hsmooth, hr, hf⟩ := h.resolve_left (hsuccess.1 hs)
    obtain ⟨hn, hst⟩ := Progress.status_of_mem_report ho
    by_cases hstuck : g.Stuck s.progress.names o.name
    · rw [hsmooth.progress.pending_of_stuck hn hstuck] at hst
      exact .inr ⟨hst, hstuck⟩
    · rw [hsmooth.succeeded_of_rest hr hf _ hn hstuck] at hst
      exact .inl ⟨hst, hstuck⟩
  refine ⟨hnames, ?_, ?_, hstatus, fun hs => ⟨fun hall n hn => ?_, fun hfree o ho => ?_⟩⟩
  · rw [hsuccess]
    refine ⟨fun hs n hn hfree => ?_, fun hall hs => ?_⟩
    · obtain ⟨hsmooth, hr, hf⟩ := h.resolve_left hs
      exact hsmooth.progress.succeeded n (hsmooth.succeeded_of_rest hr hf n hn hfree)
    · obtain ⟨n, hn, hfree, hfail⟩ := hs.culprit
      rw [hall n hn hfree] at hfail
      cases hfail
  · show (if (s.progress.report duration).isSuccess then 0 else 1) = 0 ↔ _
    split <;> simp_all
  · obtain ⟨o, ho, rfl⟩ := List.mem_map.1 (hnames ▸ hn)
    rcases hstatus hs o ho with ⟨-, hfree⟩ | ⟨hp, -⟩
    · exact hfree
    · cases (hall o ho).symm.trans hp
  · rcases hstatus hs o ho with ⟨hst, -⟩ | ⟨-, hstuck⟩
    · exact hst
    · exact absurd hstuck (hfree _ (hnames ▸ List.mem_map.2 ⟨o, ho, rfl⟩))

end Site

/-! ### Every crew -/

namespace Crew.Reliable

variable {m : Type → Type} [Monad m] {σ : Type} {e : Execution m σ} {crew : Crew m} {now : m Nat}
  {result : String → ToolResult} {inFlight : σ → List String} {g : Graph} {site : Site} {s : σ}

/-- The loop of a build in any graph comes to rest if it stays smooth. -/
theorem run_smooth (hc : crew.Reliable now e result inFlight) (rounds : Nat)
    (h : site.Smooth g result) (hf : (inFlight s).Perm site.inFlight)
    (hu : site.progress.undone ≤ rounds) :
    ∃ site' s', e.run (Build.run crew rounds site.ready site.progress) s = (site'.progress, s') ∧
      Site.Steps result site site' ∧
      (site'.Spoilt g result ∨ site'.Smooth g result ∧ site'.ready = [] ∧ site'.inFlight = []) := by
  induction rounds generalizing site s with
  | zero =>
    obtain ⟨hr, hf⟩ := h.rest_of_undone (Nat.le_zero.1 hu)
    exact ⟨site, s, e.run_pure _ s, .refl, .inr ⟨h, hr, hf⟩⟩
  | succ rounds ih =>
    obtain ⟨site₁, s₁, hsteps, hsame, hround⟩ := hc.run_round hf
    have h₁ : site₁.Smooth g result :=
      (h.steps hsteps).resolve_left fun hs => hs.failures (hsame ▸ h.progress.failures)
    rcases hround with ⟨hr, hf, hrun⟩ | ⟨done, hd, hr, hf, hrun⟩
    · exact ⟨site₁, s₁, hrun rounds, hsteps, .inr ⟨h₁, hr, hf⟩⟩
    · cases hs : done.result.success with
      | true =>
        have hfewer := hsame ▸ h₁.undone_hear_lt hd hr hs
        obtain ⟨site', s', hrest, hsteps', hfinal⟩ := ih (h₁.hear hd hr hs) hf (by omega)
        exact ⟨site', s', (hrun rounds).trans hrest, hsteps.trans (.head (.hear hd hr) hsteps'),
          hfinal⟩
      | false =>
        -- the failure stays, however the loop goes on
        obtain ⟨site', s', hrest, hsteps'⟩ := hc.run_exists_steps rounds hf
        exact ⟨site', s', (hrun rounds).trans hrest, hsteps.trans (.head (.hear hd hr) hsteps'),
          .inl ((h₁.spoilt_hear hd hr hs).steps hsteps')⟩

/-- The build of a plan in any graph ends in a state that the build can reach, and in one in which
nothing is left to be done, unless it is spoilt. -/
theorem ofPlan_smooth {plan : Plan} (hc : crew.Reliable now e result inFlight)
    (hnd : plan.names.Nodup) (hdecl : ∀ n ∈ plan.names, g.contains n = true)
    (hs : inFlight s = []) :
    ∃ site duration s', e.run (Build.ofPlan crew now g plan) s =
        (.ok (site.progress.report duration), s') ∧ Site.Reachable g plan result site ∧
      (site.Spoilt g result ∨ site.Smooth g result ∧ site.ready = [] ∧ site.inFlight = []) := by
  obtain ⟨p, hp, hnames, hsmooth, hpending⟩ := Progress.smooth_ofPlan hnd hdecl result
  have hstart := Site.smooth_start hsmooth hpending
  have hempty : (inFlight (e.run now s).2).Perm (Site.start p).inFlight := by
    rw [hc.clock, hs]
    exact .refl _
  obtain ⟨s₀, hbegins, hempty⟩ := hc.serves.exists_begins plan hempty
  have hrounds : (Site.start p).progress.undone ≤ plan.names.length :=
    hnames ▸ Site.undone_start_le p
  obtain ⟨site, s', hrun, hsteps, hfinal⟩ := hc.run_smooth plan.names.length hstart hempty hrounds
  refine ⟨site, (e.run now s').1 - (e.run now s).1, (e.run now s').2, ?_, ⟨p, hp, hsteps⟩, hfinal⟩
  exact Build.ofPlan_of_run hp hbegins hrun

end Crew.Reliable

namespace Build

variable {g other : Graph} {requested : List String} {plan : Plan}

/-- **When a build reports a success.** A plan may have been made for another graph than the one it
is built in, as long as its targets are declared there. Whatever the tools give and in whichever
order the crew is done with the targets, the build ends with a report. It tells of a success, also
in its exit code, exactly if every target that is not stuck can be built. Then those targets were
built, and all others are still pending. So nothing is left unfinished by a success exactly if no
target is stuck, as it is in the graph for which the plan was made. -/
theorem success_of_foreign_plan (planned : other.plan requested = .ok plan)
    (declared : ∀ n ∈ plan.names, g.contains n = true) (result : String → ToolResult) :
    (∀ site, Site.Reachable g plan result site → site.ready = [] → site.inFlight = [] →
      ∀ duration, (site.progress.report duration).Foreign g result plan.names) ∧
    (∀ {m : Type → Type} [Monad m] {σ : Type} (e : Execution m σ) (crew : Crew m) (now : m Nat)
      (inFlight : σ → List String), crew.Reliable now e result inFlight →
        ∀ s, inFlight s = [] → ∃ report s',
          e.run (ofPlan crew now g plan) s = (.ok report, s') ∧
            report.Foreign g result plan.names) ∧
    ∀ names, g.plan names = .ok plan → ∀ n ∈ plan.names, ¬ g.Stuck plan.names n := by
  have hnd := List.nodup_reverse.1 (Graph.settled_of_plan planned).nodup
  refine ⟨fun site hs hr hf duration => ?_, fun e crew now inFlight hc s hs => ?_,
    fun names h n hn => Graph.not_stuck_of_plan h hn⟩
  · obtain ⟨hsite, hnames⟩ := hs.spoilt_or_smooth hnd declared
    exact hnames ▸ Site.report_foreign (hsite.imp_right fun h => ⟨h, hr, hf⟩) duration
  · obtain ⟨site, duration, s', hrun, hreach, hfinal⟩ := hc.ofPlan_smooth hnd declared hs
    obtain ⟨-, hnames⟩ := hreach.spoilt_or_smooth hnd declared
    exact ⟨_, s', hrun, hnames ▸ Site.report_foreign hfinal duration⟩

/-! ### A circle -/

/-- Four libraries that need nothing. -/
def apart : Graph where
  toCatalog :=
    ((((default : Catalog).push
      { name := "a", kind := .library, sources := ["a.cc"] } (by decide) (by decide)).push
      { name := "b", kind := .library, sources := ["b.cc"] } (by decide) (by decide)).push
      { name := "c", kind := .library, sources := ["c.cc"] } (by decide) (by decide)).push
      { name := "d", kind := .library, sources := ["d.cc"] } (by decide) (by decide)
  closed := Catalog.danglingReference?_eq_none_iff.1 (by decide)

/-- The same libraries, two of which now need each other and a third one needs them. -/
def looped : Graph where
  toCatalog :=
    ((((default : Catalog).push
      { name := "a", kind := .library, sources := ["a.cc"], deps := ["b"] }
        (by decide) (by decide)).push
      { name := "b", kind := .library, sources := ["b.cc"], deps := ["a"] }
        (by decide) (by decide)).push
      { name := "c", kind := .library, sources := ["c.cc"], deps := ["a", "d"] }
        (by decide) (by decide)).push
      { name := "d", kind := .library, sources := ["d.cc"] } (by decide) (by decide)
  closed := Catalog.danglingReference?_eq_none_iff.1 (by decide)

/-- What the build of a plan for `apart` must come to in `looped`: two of the libraries are in a
circle and a third one is behind it, so that it is a success in which these are pending. -/
theorem success_of_foreign_plan_looped :
    apart.plan ["a", "b", "c", "d"] = .ok ⟨["a", "b", "c", "d"]⟩ ∧
    (∀ n ∈ ["a", "b", "c", "d"], looped.contains n = true) ∧
    ∃ report, alone (fun _ => .succeeded "") looped ⟨["a", "b", "c", "d"]⟩ = .ok report ∧
      report.Foreign looped (fun _ => .succeeded "") ["a", "b", "c", "d"] ∧
      report.isSuccess = true ∧ ∀ o ∈ report.outcomes, o.name = "c" → o.status = .pending := by
  have planned : apart.plan ["a", "b", "c", "d"] = .ok ⟨["a", "b", "c", "d"]⟩ := by cbv
  have declared : ∀ n ∈ ["a", "b", "c", "d"], looped.contains n = true := by decide
  obtain ⟨-, hcrew, -⟩ := success_of_foreign_plan planned declared fun _ => .succeeded ""
  obtain ⟨report, hrun, hreport⟩ := exists_alone hcrew
  have hsuccess : report.isSuccess = true := hreport.isSuccess_iff.2 fun _ _ _ => rfl
  refine ⟨planned, declared, report, hrun, hreport, hsuccess, ?_⟩
  have hab : looped.NeedsWithin ["a", "b", "c", "d"] "a" "b" :=
    ⟨by decide, by decide, _, rfl, by decide⟩
  have hba : looped.NeedsWithin ["a", "b", "c", "d"] "b" "a" :=
    ⟨by decide, by decide, _, rfl, by decide⟩
  have hca : looped.NeedsWithin ["a", "b", "c", "d"] "c" "a" :=
    ⟨by decide, by decide, _, rfl, by decide⟩
  intro o ho hname
  rcases hreport.status hsuccess o ho with ⟨-, hfree⟩ | ⟨hpending, -⟩
  · exact absurd ⟨"a", .single hca, .head hab (.single hba)⟩ (hname ▸ hfree)
  · exact hpending

/-- **A success with unfinished work.** A plan made before two libraries came to need each other is
built without a failure, and three of its four targets are left pending. -/
theorem success_of_loop :
    apart.plan ["a", "b", "c", "d"] = .ok ⟨["a", "b", "c", "d"]⟩ ∧
    (∀ n ∈ ["a", "b", "c", "d"], looped.contains n = true) ∧
    ∃ report, alone (fun _ => .succeeded "") looped ⟨["a", "b", "c", "d"]⟩ = .ok report ∧
      report.isSuccess = true ∧ (Summary.ofBuild report).exitCode = 0 ∧
      report.outcomes.map (fun o => (o.name, o.status)) =
        [("a", .pending), ("b", .pending), ("c", .pending), ("d", .succeeded)] ∧
      ¬ ∀ o ∈ report.outcomes, o.status = .succeeded := by
  refine ⟨by cbv, by decide, _, rfl, ?_⟩
  decide +kernel

end Build

end Buildwright
