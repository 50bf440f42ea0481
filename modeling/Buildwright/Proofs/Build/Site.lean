import Buildwright.Proofs.Build.Beginning

/-!
# Every order of events

A build as a relation between states (`Site.Step`): targets that became ready are handed to the crew
one by one, and at any moment the coordinator may hear of any target that the crew has. Nothing is
said about which one that is, so that the states that can be reached are those of every crew; that
the loop of a build goes through no others is shown where crews are (`Crew.Serves.run_events`), and
what follows for the loop after any number of rounds stands behind it (`Build.run_safe`).
`Site.Sound` holds in all of them. From it follow that a target is handed over once and only after
everything it depends on has succeeded, that nothing changes what became of a target, and that a
build can end only when something has become of every target.
-/

namespace Buildwright

open Relation

/-- The building site: the progress of a build together with who has which targets. -/
structure Site where
  progress : Progress
  /-- The targets that became ready and are still to be handed to the crew. -/
  ready : List String
  /-- The targets that the crew has. -/
  inFlight : List String := []
  /-- All targets that were handed to the crew so far. -/
  handed : List String := []

namespace Site

variable {g : Graph} {plan : Plan} {result : String → ToolResult} {s s' : Site} {n : String}

/-! ### Steps -/

/-- The beginning of a build. -/
def start (p : Progress) : Site := { progress := p.takeReady.2, ready := p.takeReady.1 }

/-- The site after the coordinator heard of a target. -/
def hear (s : Site) (done : Completion) : Site where
  progress := (s.progress.complete done).takeReady.2
  ready := s.ready ++ (s.progress.complete done).takeReady.1
  inFlight := s.inFlight.erase done.name
  handed := s.handed

/-- One event of a build, when `result` is what the tools give. -/
inductive Step (result : String → ToolResult) : Site → Site → Prop where
  /-- The next target is handed to the crew. -/
  | hand {p n ready inFlight handed} :
      Step result ⟨p, n :: ready, inFlight, handed⟩ ⟨p, ready, inFlight ++ [n], handed ++ [n]⟩
  /-- The coordinator hears of some target that the crew has. -/
  | hear {s : Site} {done : Completion} : done.name ∈ s.inFlight →
      done.result = result done.name → Step result s (s.hear done)

theorem Step.hand_of_ready {ready : List String} (h : s.ready = n :: ready) :
    Step result s
      { s with ready := ready, inFlight := s.inFlight ++ [n], handed := s.handed ++ [n] } := by
  obtain ⟨p, _, inFlight, handed⟩ := s
  subst h
  exact .hand

/-- Any number of events. -/
abbrev Steps (result : String → ToolResult) : Site → Site → Prop := ReflTransGen (Step result)

/-- The states in which the build of a plan can be. -/
def Reachable (g : Graph) (plan : Plan) (result : String → ToolResult) (s : Site) : Prop :=
  ∃ p, Progress.ofPlan g plan = .ok p ∧ Steps result (start p) s

/-! ### The plan -/

theorem targets_hear (s : Site) (done : Completion) :
    (s.hear done).progress.targets = s.progress.targets :=
  (Progress.sameWork_takeReady (s.progress.complete done)).targets.trans
    (s.progress.targets_complete done)

/-- Events do not change the plan. -/
theorem targets_of_steps (hs : Steps result s s') : s'.progress.targets = s.progress.targets := by
  induction hs with
  | refl => rfl
  | tail _ hs ih =>
    cases hs with
    | hand => exact ih
    | hear => exact (targets_hear _ _).trans ih

/-- There are no more targets to wait for than are planned. -/
theorem undone_start_le (p : Progress) : (start p).progress.undone ≤ p.names.length := by
  rw [Progress.names, List.length_map, ← (Progress.sameWork_takeReady p).targets]
  exact List.countP_le_length

/-! ### Who has what -/

/-- Everything that became ready was taken, and the targets that are being built are those that are
to be handed over or that the crew has. -/
structure Busy (s : Site) : Prop where
  taken : s.progress.ready = []
  nodup : (s.ready ++ s.inFlight).Nodup
  building_iff : ∀ n, n ∈ s.ready ++ s.inFlight ↔ s.progress.status? n = some .building

namespace Busy

theorem status?_of_mem_inFlight (h : s.Busy) (hn : n ∈ s.inFlight) :
    s.progress.status? n = some .building :=
  (h.building_iff n).1 (List.mem_append_right _ hn)

theorem start {p : Progress} {part : Target → Target} (h : p.Counts part)
    (hp : ∀ n st, p.status? n = some st → st = .pending) : (start p).Busy := by
  refine ⟨(Progress.sameWork_takeReady p).ready, ?_, fun n => ?_⟩
  · exact (List.append_nil p.ready).symm ▸ h.ready_nodup
  · have hnot : p.status? n ≠ some .building := fun hn => nomatch hp n _ hn
    rw [Site.start, h.building_takeReady_iff, or_iff_left hnot, List.append_nil]
    rfl

theorem hand {p n ready inFlight handed} (h : Busy ⟨p, n :: ready, inFlight, handed⟩) :
    Busy ⟨p, ready, inFlight ++ [n], handed ++ [n]⟩ := by
  have hperm : (ready ++ (inFlight ++ [n])).Perm (n :: ready ++ inFlight) := by
    rw [← List.append_assoc]
    exact List.perm_append_singleton n _
  refine ⟨h.taken, hperm.nodup_iff.2 h.nodup, fun m => ?_⟩
  rw [← h.building_iff m, hperm.mem_iff]

/-- Hearing of a target, when that one is no longer being built and all others still are. -/
theorem hear {done : Completion} {part : Target → Target} (h : s.Busy)
    (hd : done.name ∈ s.inFlight) (hc : (s.progress.complete done).Counts part)
    (hb : ∀ m, (s.progress.complete done).status? m = some .building ↔
      m ≠ done.name ∧ s.progress.status? m = some .building) : (s.hear done).Busy := by
  have hrest : (s.ready ++ s.inFlight.erase done.name).Nodup :=
    h.nodup.sublist ((List.erase_sublist).append_left _)
  have hperm : (s.hear done).ready ++ (s.hear done).inFlight |>.Perm
      ((s.progress.complete done).ready ++ (s.ready ++ s.inFlight.erase done.name)) := by
    rw [← List.append_assoc]
    exact List.perm_append_comm.append_right _
  -- who is left is who is still being built
  have hleft (m : String) : m ∈ s.ready ++ s.inFlight.erase done.name ↔
      (s.progress.complete done).status? m = some .building := by
    rw [hb, ← h.building_iff]
    have hinf := (List.nodup_append.1 h.nodup).2.1
    have hdisj := (List.nodup_append.1 h.nodup).2.2
    simp only [List.mem_append, hinf.mem_erase_iff]
    by_cases hm : m = done.name
    · subst hm
      simpa using fun hc => hdisj _ hc _ hd rfl
    · simp [hm]
  refine ⟨(Progress.sameWork_takeReady _).ready, ?_, fun m => ?_⟩
  · refine hperm.nodup_iff.2 (List.nodup_append.2 ⟨hc.ready_nodup, hrest, ?_⟩)
    rintro m hm _ hm' rfl
    exact hc.not_mem_ready ((hleft m).1 hm') nofun hm
  · rw [hperm.mem_iff, List.mem_append, hleft]
    exact hc.building_takeReady_iff.symm

/-- When something has become of every planned target, nobody has anything to do. -/
theorem rest_of_undone (h : s.Busy) (hu : s.progress.undone = 0) :
    s.ready = [] ∧ s.inFlight = [] := by
  refine List.append_eq_nil_iff.1 (List.eq_nil_iff_forall_not_mem.2 fun n hn => ?_)
  have hb := (h.building_iff n).1 hn
  obtain ⟨t, ht, rfl⟩ := List.mem_map.1 (Progress.mem_names_of_status? hb)
  have := List.countP_eq_zero.1 hu t ht
  rw [Progress.isDone, hb] at this
  exact this rfl

end Busy

/-! ### The invariant -/

/-- What is true of a build after each event. -/
structure Sound (g : Graph) (result : String → ToolResult) (s : Site) : Prop where
  progress : s.progress.Sound g result
  taken : s.progress.ready = []
  nodup : (s.ready ++ s.inFlight).Nodup
  building_iff : ∀ n, n ∈ s.ready ++ s.inFlight ↔ s.progress.status? n = some .building
  handed_nodup : s.handed.Nodup
  handed_iff : ∀ n, n ∈ s.handed ↔ n ∉ s.ready ∧ s.progress.Started n

namespace Sound

theorem busy (h : Sound g result s) : s.Busy := ⟨h.taken, h.nodup, h.building_iff⟩

theorem status?_of_mem_inFlight (h : Sound g result s) (hn : n ∈ s.inFlight) :
    s.progress.status? n = some .building := h.busy.status?_of_mem_inFlight hn

theorem hand {p n ready inFlight handed} (h : Sound g result ⟨p, n :: ready, inFlight, handed⟩) :
    Sound g result ⟨p, ready, inFlight ++ [n], handed ++ [n]⟩ := by
  have hb := h.busy.hand
  have hbuilding : p.status? n = some .building := (h.building_iff n).1 (by simp)
  have hn : n ∉ ready := fun hc =>
    (List.nodup_cons.1 h.nodup).1 (List.mem_append_left _ hc)
  have hnew : n ∉ handed := fun hc => ((h.handed_iff n).1 hc).1 (.head _)
  refine ⟨h.progress, hb.taken, hb.nodup, hb.building_iff, ?_, fun m => ?_⟩
  · exact (List.perm_append_singleton n handed).nodup_iff.2
      (List.nodup_cons.2 ⟨hnew, h.handed_nodup⟩)
  · have hiff := h.handed_iff m
    simp only [List.mem_cons, not_or] at hiff
    rw [List.mem_append, List.mem_singleton]
    by_cases hm : m = n
    · subst hm
      exact ⟨fun _ => ⟨hn, _, hbuilding, rfl⟩, fun _ => .inr rfl⟩
    · rw [or_iff_left hm, hiff, and_iff_right hm]

theorem hear {done : Completion} (h : Sound g result s) (hd : done.name ∈ s.inFlight)
    (hr : done.result = result done.name) : Sound g result (s.hear done) := by
  have hn := h.status?_of_mem_inFlight hd
  have hq := h.progress.complete hn hr
  have hb := h.busy.hear hd hq.counts fun m => h.progress.building_complete_iff hn
  refine ⟨hq.takeReady, hb.taken, hb.nodup, hb.building_iff, h.handed_nodup, fun m => ?_⟩
  have hstarted : (s.hear done).progress.Started m ↔
      m ∈ (s.progress.complete done).ready ∨ s.progress.Started m :=
    hq.started_takeReady_iff.trans (or_congr_right (h.progress.started_complete_iff hn))
  have hnot : s.progress.Started m → m ∉ (s.progress.complete done).ready := by
    intro hs
    obtain ⟨st, hst, hs⟩ := (h.progress.started_complete_iff hn).2 hs
    refine hq.counts.not_mem_ready hst ?_
    rintro rfl
    cases hs
  rw [hstarted]
  show m ∈ s.handed ↔ m ∉ s.ready ++ (s.progress.complete done).ready ∧ _
  rw [h.handed_iff, List.mem_append, not_or]
  tauto

/-- **Each event keeps the invariant.** -/
theorem step (h : Sound g result s) (hs : Step result s s') : Sound g result s' := by
  cases hs with
  | hand => exact h.hand
  | hear hd hr => exact h.hear hd hr

/-- **A whole build keeps what each event keeps.** -/
theorem steps (h : Sound g result s) (hs : Steps result s s') : Sound g result s' := by
  induction hs with
  | refl => exact h
  | tail _ hs ih => exact ih.step hs

/-- A terminal status does not change. -/
theorem status?_of_step (h : Sound g result s) (hs : Step result s s') {st : Status}
    (hst : s.progress.status? n = some st) (ht : st.isTerminal = true) :
    s'.progress.status? n = some st := by
  cases hs with
  | hand => exact hst
  | hear hd hr =>
    have hn := h.status?_of_mem_inFlight hd
    refine (h.progress.complete hn hr).counts.status?_takeReady_of_ne
      (h.progress.status?_complete_of_isTerminal hn hst ht) ?_
    rintro rfl
    cases ht

theorem status?_of_steps (h : Sound g result s) (hs : Steps result s s') {st : Status}
    (hst : s.progress.status? n = some st) (ht : st.isTerminal = true) :
    s'.progress.status? n = some st := by
  induction hs with
  | refl => exact hst
  | tail hs hs' ih => exact (h.steps hs).status?_of_step hs' ih ht

/-- Hearing of a target leaves fewer that nothing has become of. -/
theorem undone_hear_lt {done : Completion} (h : Sound g result s) (hd : done.name ∈ s.inFlight)
    (hr : done.result = result done.name) :
    (s.hear done).progress.undone < s.progress.undone := by
  have hn := h.status?_of_mem_inFlight hd
  refine Progress.undone_lt (targets_hear s done) (Progress.mem_names_of_status? hn) ?_ ?_ ?_
  · rw [Progress.isDone, hn]
    rfl
  · obtain ⟨st, hst, hterm, -⟩ := h.progress.status?_complete_self hn
    refine Progress.isDone_iff.2 ⟨st, ?_, hterm⟩
    refine (h.progress.complete hn hr).counts.status?_takeReady_of_ne hst ?_
    rintro rfl
    cases hterm
  · intro m hm
    obtain ⟨st, hst, hterm⟩ := Progress.isDone_iff.1 hm
    exact Progress.isDone_iff.2 ⟨st, h.status?_of_step (.hear hd hr) hst hterm, hterm⟩

/-- **A build at rest is complete**: when nothing is to be handed over and the crew has nothing,
something has become of every planned target. -/
theorem isDone_of_rest (h : Sound g result s) (hr : s.ready = []) (hf : s.inFlight = []) :
    ∀ n ∈ s.progress.names, s.progress.isDone n = true := by
  refine fun n hn => h.progress.settled.induction
    (P := fun n => s.progress.isDone n = true) (fun n hn ih => ?_) n (List.mem_reverse.2 hn)
  obtain ⟨st, hst⟩ := h.progress.known n (List.mem_reverse.1 hn)
  cases st with
  | succeeded | failed | skipped => exact Progress.isDone_iff.2 ⟨_, hst, rfl⟩
  | building =>
    have := (h.building_iff n).2 hst
    rw [hr, hf] at this
    cases this
  | pending =>
    exfalso
    obtain ⟨t, ht, rfl, hg⟩ := h.progress.exists_target (List.mem_reverse.1 hn)
    -- nothing it depends on failed, so all of it succeeded, and the target would be ready
    have hsucc : ∀ d ∈ t.deps, s.progress.status? d = some .succeeded := by
      intro d hd
      have hneed := (Graph.needs_iff hg).2 hd
      obtain ⟨sd, hsd, hterm⟩ := Progress.isDone_iff.1 (ih d hneed)
      have hnf := h.progress.waiting _ hst d hneed
      cases hs : sd.isFailure with
      | true => exact absurd ⟨sd, hsd, hs⟩ hnf
      | false =>
        cases sd with
        | succeeded => exact hsd
        | _ => simp [Status.isTerminal, Status.isSuccess, Status.isFailure] at hterm hs
    have hzero := Progress.unmet_eq_zero_iff.2 hsucc
    have hready := (h.progress.mem_ready_iff t.name).2 ⟨hst, hzero ▸ h.progress.counted t ht⟩
    rw [h.taken] at hready
    cases hready

/-- What was started stands on successes only. -/
theorem succeeded_of_dependsOn (h : Sound g result s) (hn : s.progress.Started n) {d : String}
    (hd : g.DependsOn n d) : s.progress.status? d = some .succeeded := by
  induction hd with
  | single hd =>
    obtain ⟨st, hst, hs⟩ := hn
    exact h.progress.started n st hst hs _ hd
  | tail _ hd ih => exact h.progress.started _ _ ih rfl _ hd

/-- What was skipped was not handed over. -/
theorem not_mem_handed_of_skipped (h : Sound g result s) {d : String}
    (hst : s.progress.status? n = some (.skipped d)) : n ∉ s.handed := by
  intro hn
  obtain ⟨-, st, hst', hstarted⟩ := (h.handed_iff n).1 hn
  obtain rfl := Option.some.inj (hst.symm.trans hst')
  cases hstarted

end Sound

/-- The invariant holds when nothing has been handed to the crew. -/
theorem sound_start {p : Progress} (h : p.Sound g result)
    (hp : ∀ n st, p.status? n = some st → st = .pending) : Sound g result (start p) := by
  have hnone : ∀ n, ¬ p.Started n := by
    rintro n ⟨st, hst, hs⟩
    rw [hp n st hst] at hs
    cases hs
  have hb := Busy.start h.counts hp
  refine ⟨h.takeReady, hb.taken, hb.nodup, hb.building_iff, List.nodup_nil, fun n => ?_⟩
  rw [start, h.started_takeReady_iff, or_iff_left (hnone n)]
  exact ⟨nofun, fun hn => absurd hn.2 hn.1⟩

variable {requested : List String}

/-- **The invariant holds in every state that a build can reach**, and the planned targets are those
of the plan. -/
theorem Reachable.sound (hs : Reachable g plan result s) (h : g.plan requested = .ok plan) :
    Sound g result s ∧ s.progress.names = plan.names := by
  obtain ⟨p, hp, hs⟩ := hs
  obtain ⟨hnames, hsound, hpending⟩ := Progress.sound_of_ofPlan h hp result
  have hstart := sound_start hsound hpending
  refine ⟨hstart.steps hs, ?_⟩
  rw [← hnames, Progress.names, targets_of_steps hs]
  exact congrArg _ (Progress.sameWork_takeReady p).targets

/-- **Nothing is built too early, twice or in vain.** Whatever the tools give and in whichever order
the coordinator hears of it, a target is being built, was built or failed only if everything that it
depends on, directly or through others, has succeeded. No target is handed to the crew twice. From
then on what became of a target stays as it is, and a target that was skipped is never handed to the
crew. -/
theorem reachable_safe (h : g.plan requested = .ok plan) (hs : Reachable g plan result s) :
    (∀ n st, s.progress.status? n = some st → st.isStarted = true →
      ∀ d, g.DependsOn n d → s.progress.status? d = some .succeeded) ∧
    s.handed.Nodup ∧
    ∀ s', Steps result s s' → ∀ n st, s.progress.status? n = some st → st.isTerminal = true →
      s'.progress.status? n = some st ∧ (∀ d, st = .skipped d → n ∉ s'.handed) := by
  obtain ⟨hsound, -⟩ := hs.sound h
  refine ⟨fun n st hst hn d hd => hsound.succeeded_of_dependsOn ⟨st, hst, hn⟩ hd,
    hsound.handed_nodup, fun s' hs' n st hst ht => ?_⟩
  have hst' := hsound.status?_of_steps hs' hst ht
  refine ⟨hst', ?_⟩
  rintro d rfl
  exact (hsound.steps hs').not_mem_handed_of_skipped hst'

/-- Every target can be built except for one. -/
def allBut (name : String) : String → ToolResult := fun n =>
  if n = name then .failed (some 1) "" else .succeeded ""

/-- The build of a diamond after one side has failed and before the other one is handed over. -/
theorem reachable_safe_diamond :
    ∃ s, Graph.diamond.plan ["a"] = .ok ⟨["d", "b", "c", "a"]⟩ ∧
      Reachable Graph.diamond ⟨["d", "b", "c", "a"]⟩ (allBut "b") s ∧
      s.handed = ["d", "b"] ∧ s.progress.status? "c" = some .building ∧
      s.progress.status? "a" = some (.skipped "b") ∧
      (∀ d, Graph.diamond.DependsOn "c" d → s.progress.status? d = some .succeeded) ∧
      ∀ s', Steps (allBut "b") s s' →
        s'.progress.status? "a" = some (.skipped "b") ∧ "a" ∉ s'.handed := by
  let s₀ : Site := start (.ofTargets [
    { name := "d", kind := .library, headers := ["d.h"] },
    { name := "b", kind := .library, sources := ["b.c"], deps := ["d"] },
    { name := "c", kind := .library, sources := ["c.c"], deps := ["d"] },
    { name := "a", kind := .program, sources := ["a.c"], deps := ["b", "c", "b"] }])
  let s₁ : Site := { s₀ with ready := [], inFlight := ["d"], handed := ["d"] }
  have h₁ : Step (allBut "b") s₀ s₁ := .hand_of_ready (by decide)
  let s₂ : Site := s₁.hear { name := "d", result := .succeeded "" }
  let s₃ : Site := { s₂ with ready := ["c"], inFlight := ["b"], handed := ["d", "b"] }
  have h₃ : Step (allBut "b") s₂ s₃ := .hand_of_ready (by decide)
  let s₄ : Site := s₃.hear { name := "b", result := .failed (some 1) "" }
  have hs : Reachable Graph.diamond ⟨["d", "b", "c", "a"]⟩ (allBut "b") s₄ :=
    ⟨_, rfl, .head h₁ <| .head (.hear (.head _) rfl) <| .head h₃ <|
      .single (.hear (.head _) rfl)⟩
  have hc : s₄.progress.status? "c" = some .building := by decide +kernel
  have ha : s₄.progress.status? "a" = some (.skipped "b") := by decide +kernel
  obtain ⟨hstarted, -, hkeep⟩ := reachable_safe Graph.plan_diamond hs
  refine ⟨s₄, Graph.plan_diamond, hs, rfl, hc, ha, hstarted "c" _ hc rfl, fun s' hs' => ?_⟩
  obtain ⟨hst, hnot⟩ := hkeep s' hs' "a" _ ha rfl
  exact ⟨hst, hnot "b" rfl⟩

end Site

end Buildwright
