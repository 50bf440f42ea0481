import Buildwright.Proofs.Build.Progress
import Buildwright.Proofs.Graph.Dependency

/-!
# The invariant of a build

What ties the parts of a `Progress` together after every event (`Sound`): every planned target
counts the dependencies that have not succeeded, what may be started is what is pending with nothing
left to count, nothing was started before everything it depends on had succeeded, and nothing
pending stands behind a target that failed. The two events of a build keep it: taking what is ready
(`Sound.takeReady`) and recording what became of a target (`Sound.complete`).
-/

namespace Buildwright

/-- Whether a target was handed to the crew: it is being built, or it was built or failed. -/
def Status.isStarted : Status → Bool
  | .building | .succeeded | .failed _ => true
  | .pending | .skipped _ => false

namespace Progress

variable {g : Graph} {p q : Progress} {m n : String}

/-! ### The plan of a build -/

/-- The parts that no event changes: the planned targets are in order, and every target is listed
with those that depend on it, once for each time they name it. -/
structure Wired (g : Graph) (p : Progress) : Prop where
  declared : ∀ t ∈ p.targets, g.get? t.name = some t
  settled : g.Settled p.names.reverse
  count_dependentsOn : ∀ t ∈ p.targets, ∀ d, (p.dependentsOn d).count t.name = t.deps.count d
  mem_names_of_dependent : ∀ d, ∀ m ∈ p.dependentsOn d, m ∈ p.names

namespace Wired

theorem congr (h : Wired g p) (ht : q.targets = p.targets) (hd : q.dependents = p.dependents) :
    Wired g q := by
  have hn : q.names = p.names := by rw [names, ht]; rfl
  have hdep (d : String) : q.dependentsOn d = p.dependentsOn d := by
    rw [dependentsOn, hd]
    rfl
  refine ⟨fun t htq => h.declared t (ht ▸ htq), hn ▸ h.settled, fun t htq d => ?_, fun d m hm => ?_⟩
  · exact hdep d ▸ h.count_dependentsOn t (ht ▸ htq) d
  · exact hn ▸ h.mem_names_of_dependent d m (hdep d ▸ hm)

/-- The target behind a planned name. -/
theorem exists_target (h : Wired g p) (hn : n ∈ p.names) :
    ∃ t ∈ p.targets, t.name = n ∧ g.get? n = some t := by
  obtain ⟨t, ht, rfl⟩ := List.mem_map.1 hn
  exact ⟨t, ht, rfl, h.declared t ht⟩

theorem mem_dependentsOn_iff (h : Wired g p) :
    m ∈ p.dependentsOn n ↔ m ∈ p.names ∧ g.Needs m n := by
  constructor
  · intro hm
    have hp := h.mem_names_of_dependent n m hm
    obtain ⟨t, ht, rfl, hg⟩ := h.exists_target hp
    have := List.count_pos_iff.2 hm
    rw [h.count_dependentsOn t ht] at this
    exact ⟨hp, t, hg, List.count_pos_iff.1 this⟩
  · rintro ⟨hp, hd⟩
    obtain ⟨t, ht, rfl, hg⟩ := h.exists_target hp
    rw [← List.count_pos_iff, h.count_dependentsOn t ht, List.count_pos_iff]
    exact (Graph.needs_iff hg).1 hd

end Wired

/-! ### The invariant -/

/-- The dependencies of a target that are still to succeed, repeats counted. -/
def unmet (p : Progress) (t : Target) : Nat := t.deps.countP fun d => p.status? d ≠ some .succeeded

/-- What is true of a build after each event, when `result` is what the tools give. -/
structure Sound (g : Graph) (result : String → ToolResult) (p : Progress) : Prop extends
    Wired g p where
  known : ∀ n ∈ p.names, ∃ s, p.status? n = some s
  counted : ∀ t ∈ p.targets, p.remaining? t.name = some (p.unmet t)
  mem_names_of_counted : ∀ n c, p.remaining? n = some c → n ∈ p.names
  ready_nodup : p.ready.Nodup
  mem_ready_iff : ∀ n, n ∈ p.ready ↔ p.status? n = some .pending ∧ p.remaining? n = some 0
  started : ∀ n s, p.status? n = some s → s.isStarted = true → ∀ d, g.Needs n d →
    p.status? d = some .succeeded
  waiting : ∀ n, p.status? n = some .pending → ∀ d, g.Needs n d → ¬ p.Failing d
  skipped : ∀ n d, p.status? n = some (.skipped d) → g.Needs n d ∧ p.Failing d
  succeeded : ∀ n, p.status? n = some .succeeded → (result n).success = true
  failed : ∀ n r, p.status? n = some (.failed r) →
    (result n).success = false ∧ r = (result n).reason

variable {result : String → ToolResult}

/-- Nothing is left to count when everything that a target depends on has succeeded. -/
theorem unmet_eq_zero_iff {t : Target} :
    p.unmet t = 0 ↔ ∀ d ∈ t.deps, p.status? d = some .succeeded := by
  simp [unmet]

theorem unmet_congr (t : Target)
    (h : ∀ d, q.status? d = some .succeeded ↔ p.status? d = some .succeeded) :
    q.unmet t = p.unmet t := by
  unfold unmet
  refine List.countP_congr fun d _ => ?_
  simp [h]

/-- A dependency that has not succeeded is counted in each place where it is listed. -/
theorem count_le_unmet (t : Target) (hn : p.status? n ≠ some .succeeded) :
    t.deps.count n ≤ p.unmet t := by
  refine List.countP_mono_left fun d _ hd => ?_
  obtain rfl : d = n := by simpa using hd
  simpa using hn

/-- When one more target succeeds, each place where it is listed is counted no longer. -/
theorem unmet_eq_add_count (t : Target) (hn : p.status? n ≠ some .succeeded)
    (hq : ∀ d, q.status? d = some .succeeded ↔ d = n ∨ p.status? d = some .succeeded) :
    p.unmet t = q.unmet t + t.deps.count n := by
  unfold unmet
  induction t.deps with
  | nil => rfl
  | cons d deps ih =>
    simp only [List.countP_cons, List.count_cons, ih, ne_eq, hq, beq_iff_eq]
    by_cases hd : d = n
    · subst hd
      simp [hn]; omega
    · simp [hd]; omega

/-! ### Counting -/

/-- `p.Counts part`: every planned target counts what is still to succeed of its dependencies, and
what is pending with nothing left to count is ready. Some dependencies may not count, since they are
not planned: `part` leaves them out. -/
structure Counts (p : Progress) (part : Target → Target) : Prop where
  count_dependentsOn : ∀ t ∈ p.targets, ∀ d,
    (p.dependentsOn d).count t.name = (part t).deps.count d
  mem_names_of_dependent : ∀ d, ∀ m ∈ p.dependentsOn d, m ∈ p.names
  counted : ∀ t ∈ p.targets, p.remaining? t.name = some (p.unmet (part t))
  mem_names_of_counted : ∀ n c, p.remaining? n = some c → n ∈ p.names
  ready_nodup : p.ready.Nodup
  mem_ready_iff : ∀ n, n ∈ p.ready ↔ p.status? n = some .pending ∧ p.remaining? n = some 0

namespace Counts

variable {part : Target → Target}

/-- A status after taking what is ready. -/
theorem status?_takeReady_of_mem (h : p.Counts part) (hn : n ∈ p.ready) :
    p.takeReady.2.status? n = some .building := by
  rw [status?_takeReady, if_pos hn, ((h.mem_ready_iff n).1 hn).1]
  rfl

/-- A status other than `building` is an old one. -/
theorem status?_of_takeReady (h : p.Counts part) {s : Status}
    (hs : p.takeReady.2.status? n = some s) (hne : s ≠ .building) :
    n ∉ p.ready ∧ p.status? n = some s := by
  by_cases hm : n ∈ p.ready
  · rw [h.status?_takeReady_of_mem hm, Option.some.injEq] at hs
    exact absurd hs.symm hne
  · rw [status?_takeReady, if_neg hm] at hs
    exact ⟨hm, hs⟩

theorem succeeded_takeReady_iff (h : p.Counts part) :
    p.takeReady.2.status? n = some .succeeded ↔ p.status? n = some .succeeded := by
  by_cases hn : n ∈ p.ready
  · rw [h.status?_takeReady_of_mem hn, ((h.mem_ready_iff n).1 hn).1]
    exact ⟨nofun, nofun⟩
  · rw [status?_takeReady, if_neg hn]

/-- A target whose status is settled is not ready. -/
theorem not_mem_ready (h : p.Counts part) {s : Status} (hs : p.status? n = some s)
    (hp : s ≠ .pending) : n ∉ p.ready := by
  intro hn
  rw [((h.mem_ready_iff n).1 hn).1, Option.some.injEq] at hs
  exact hp hs.symm

theorem status?_takeReady_of_ne (h : p.Counts part) {s : Status} (hs : p.status? n = some s)
    (hp : s ≠ .pending) : p.takeReady.2.status? n = some s := by
  rw [status?_takeReady, if_neg (h.not_mem_ready hs hp), hs]

theorem building_takeReady_iff (h : p.Counts part) :
    p.takeReady.2.status? n = some .building ↔ n ∈ p.ready ∨ p.status? n = some .building := by
  by_cases hn : n ∈ p.ready
  · simp [h.status?_takeReady_of_mem hn, hn]
  · rw [status?_takeReady, if_neg hn]
    simp [hn]

/-- Taking what is ready keeps the counts. -/
theorem takeReady (h : p.Counts part) : p.takeReady.2.Counts part := by
  have hw := sameWork_takeReady p
  have hn : p.takeReady.2.names = p.names := by rw [names, hw.targets]; rfl
  have hr : p.takeReady.2.ready = [] := hw.ready
  refine { count_dependentsOn := ?_, mem_names_of_dependent := ?_, counted := ?_,
           mem_names_of_counted := ?_, ready_nodup := hr ▸ List.nodup_nil, mem_ready_iff := ?_ }
  · intro t ht d
    rw [hw.dependentsOn]
    exact h.count_dependentsOn t (hw.targets ▸ ht) d
  · intro d m hm
    exact hn ▸ h.mem_names_of_dependent d m (hw.dependentsOn d ▸ hm)
  · intro t ht
    rw [hw.remaining?, unmet_congr _ fun d => h.succeeded_takeReady_iff]
    exact h.counted t (hw.targets ▸ ht)
  · intro n c hc
    exact hn ▸ h.mem_names_of_counted n c (hw.remaining? n ▸ hc)
  · intro n
    rw [hr, hw.remaining?]
    refine ⟨nofun, fun ⟨hp, hc⟩ => ?_⟩
    obtain ⟨hm, hp⟩ := h.status?_of_takeReady hp nofun
    exact absurd ((h.mem_ready_iff n).2 ⟨hp, hc⟩) hm

/-- A success that is recorded releases the targets that depend on it. -/
theorem succeeds (h : p.Counts part) (hn : p.status? n = some .building) :
    p.Succeeds n (p.succeed n) := by
  refine succeed_spec hn fun m count hc => ?_
  obtain ⟨t, ht, rfl⟩ := List.mem_map.1 (h.mem_names_of_counted m count hc)
  rw [h.counted t ht, Option.some.injEq] at hc
  rw [h.count_dependentsOn t ht, ← hc]
  exact count_le_unmet _ (by simp [hn])

/-- What was ready had nothing left to count, and what is added had something. -/
theorem ready_nodup_succeed (h : p.Counts part) (hn : p.status? n = some .building) :
    (p.succeed n).ready.Nodup := by
  obtain ⟨added, hready, hnodup, hadded⟩ := (h.succeeds hn).ready
  rw [hready]
  refine List.nodup_append.2 ⟨h.ready_nodup, hnodup, fun m hm m' hm' => ?_⟩
  rintro rfl
  obtain ⟨hdep, hcount, -⟩ := (hadded m).1 hm'
  rw [((h.mem_ready_iff m).1 hm).2, Option.some.injEq] at hcount
  exact List.count_eq_zero.1 hcount.symm hdep

theorem mem_ready_succeed_iff (h : p.Counts part) (hn : p.status? n = some .building) :
    m ∈ (p.succeed n).ready ↔
      (p.succeed n).status? m = some .pending ∧ (p.succeed n).remaining? m = some 0 := by
  have hs := h.succeeds hn
  obtain ⟨added, hready, -, hadded⟩ := hs.ready
  rw [hready, List.mem_append, hadded, h.mem_ready_iff, hs.remaining]
  have hstatus (hp : (p.succeed n).status? m = some .pending) : p.status? m = some .pending := by
    rcases hs.cases hp with ⟨-, hc⟩ | ⟨-, hp⟩
    · cases hc
    · exact hp
  constructor
  · rintro (⟨hp, hc⟩ | ⟨-, hc, hp⟩)
    · refine ⟨?_, by simp [hc]⟩
      rw [hs.status, if_neg, hp]
      rintro rfl
      rw [hn] at hp
      cases hp
    · exact ⟨hp, by simp [hc]⟩
  · rintro ⟨hp, hc⟩
    obtain ⟨count, hcount, hzero⟩ := Option.map_eq_some_iff.1 hc
    by_cases hdep : m ∈ p.dependentsOn n
    · -- what it still counts are the places where it lists the target
      obtain ⟨t, ht, rfl⟩ := List.mem_map.1 (h.mem_names_of_counted m count hcount)
      have hle := count_le_unmet (part t) (n := n) (p := p) (by simp [hn])
      rw [← h.count_dependentsOn t ht] at hle
      have heq := (h.counted t ht).symm.trans hcount
      rw [Option.some.injEq] at heq
      exact .inr ⟨hdep, by rw [hcount]; congr 1; omega, hp⟩
    · rw [List.count_eq_zero.2 hdep, Nat.sub_zero] at hzero
      exact .inl ⟨hstatus hp, by rw [hcount, hzero]⟩

/-- **Recording a success keeps the counts.** -/
theorem succeed (h : p.Counts part) (hn : p.status? n = some .building) :
    (p.succeed n).Counts part := by
  have hs := h.succeeds hn
  have hnames : (p.succeed n).names = p.names := by
    rw [names, hs.targets]
    rfl
  have hdep (d : String) : (p.succeed n).dependentsOn d = p.dependentsOn d := by
    rw [dependentsOn, hs.dependents]
    rfl
  refine { count_dependentsOn := ?_, mem_names_of_dependent := ?_, counted := ?_,
           mem_names_of_counted := ?_, ready_nodup := h.ready_nodup_succeed hn,
           mem_ready_iff := fun m => h.mem_ready_succeed_iff hn }
  · intro t ht d
    rw [hdep]
    exact h.count_dependentsOn t (hs.targets ▸ ht) d
  · intro d m hm
    exact hnames ▸ h.mem_names_of_dependent d m (hdep d ▸ hm)
  · intro t ht
    have ht' : t ∈ p.targets := hs.targets ▸ ht
    rw [hs.remaining, h.counted t ht', h.count_dependentsOn t ht',
      unmet_eq_add_count (part t) (by simp [hn]) fun d => hs.succeeded_iff]
    simp
  · intro m c hc
    rw [hs.remaining, Option.map_eq_some_iff] at hc
    obtain ⟨c', hc', -⟩ := hc
    exact hnames ▸ h.mem_names_of_counted m c' hc'

end Counts

/-! ### The invariant, event by event -/

namespace Sound

/-- All dependencies of a planned target count, since they are planned as well. -/
theorem counts (h : Sound g result p) : p.Counts id :=
  ⟨h.count_dependentsOn, h.mem_names_of_dependent, h.counted, h.mem_names_of_counted,
    h.ready_nodup, h.mem_ready_iff⟩

/-- A target may be started when everything it depends on has succeeded. -/
theorem succeeded_of_ready (h : Sound g result p) (hn : n ∈ p.ready) {d : String}
    (hd : g.Needs n d) : p.status? d = some .succeeded := by
  obtain ⟨hp, hr⟩ := (h.mem_ready_iff n).1 hn
  obtain ⟨t, ht, rfl, hg⟩ := h.exists_target (mem_names_of_status? hp)
  rw [h.counted t ht, Option.some.injEq, unmet_eq_zero_iff] at hr
  exact hr d ((Graph.needs_iff hg).1 hd)

/-! ### Taking what is ready -/

theorem failing_takeReady_iff (h : Sound g result p) :
    p.takeReady.2.Failing n ↔ p.Failing n := by
  by_cases hn : n ∈ p.ready
  · rw [Failing, Failing, h.counts.status?_takeReady_of_mem hn, ((h.mem_ready_iff n).1 hn).1]
    simp [Status.isFailure]
  · rw [Failing, Failing, status?_takeReady, if_neg hn]

/-- **Taking what is ready keeps the invariant.** -/
theorem takeReady (h : Sound g result p) : Sound g result p.takeReady.2 := by
  have hw := sameWork_takeReady p
  have hn : p.takeReady.2.names = p.names := by rw [names, hw.targets]; rfl
  have hc := h.counts.takeReady
  refine { toWired := h.congr hw.targets hw.dependents, known := ?_, counted := hc.counted,
           mem_names_of_counted := hc.mem_names_of_counted, ready_nodup := hc.ready_nodup,
           mem_ready_iff := hc.mem_ready_iff, started := ?_, waiting := ?_, skipped := ?_,
           succeeded := ?_, failed := ?_ }
  · intro n hp
    by_cases hm : n ∈ p.ready
    · exact ⟨_, h.counts.status?_takeReady_of_mem hm⟩
    · rw [status?_takeReady, if_neg hm]
      exact h.known n (hn ▸ hp)
  · intro n s hs hstart d hd
    rw [h.counts.succeeded_takeReady_iff]
    by_cases hm : n ∈ p.ready
    · exact h.succeeded_of_ready hm hd
    · rw [status?_takeReady, if_neg hm] at hs
      exact h.started n s hs hstart d hd
  · intro n hp d hd
    rw [h.failing_takeReady_iff]
    exact h.waiting n (h.counts.status?_of_takeReady hp nofun).2 d hd
  · intro n d hs
    rw [h.failing_takeReady_iff]
    exact h.skipped n d (h.counts.status?_of_takeReady hs nofun).2
  · exact fun n hs => h.succeeded n (h.counts.status?_of_takeReady hs nofun).2
  · exact fun n r hs => h.failed n r (h.counts.status?_of_takeReady hs nofun).2

/-! ### Success -/

/-- **Recording a success keeps the invariant.** -/
theorem succeed (h : Sound g result p) (hn : p.status? n = some .building)
    (hr : (result n).success = true) : Sound g result (p.succeed n) := by
  have hs := h.counts.succeeds hn
  have hnames : (p.succeed n).names = p.names := by
    rw [names, hs.targets]
    rfl
  have hc := h.counts.succeed hn
  refine { toWired := h.congr hs.targets hs.dependents, known := ?_, counted := hc.counted,
           mem_names_of_counted := hc.mem_names_of_counted, ready_nodup := hc.ready_nodup,
           mem_ready_iff := hc.mem_ready_iff, started := ?_, waiting := ?_, skipped := ?_,
           succeeded := ?_, failed := ?_ }
  · intro m hm
    rw [hs.status]
    split
    · exact ⟨_, rfl⟩
    · exact h.known m (hnames ▸ hm)
  · intro m s hm hstart d hd
    rw [hs.succeeded_iff]
    rcases hs.cases hm with ⟨rfl, -⟩ | ⟨-, hm⟩
    · exact .inr (h.started m _ hn rfl d hd)
    · exact .inr (h.started m s hm hstart d hd)
  · intro m hm d hd
    rw [hs.failing_iff hn]
    rcases hs.cases hm with ⟨-, hc⟩ | ⟨-, hm⟩
    · cases hc
    · exact h.waiting m hm d hd
  · intro m d hm
    rw [hs.failing_iff hn]
    rcases hs.cases hm with ⟨-, hc⟩ | ⟨-, hm⟩
    · cases hc
    · exact h.skipped m d hm
  · intro m hm
    rcases hs.cases hm with ⟨rfl, -⟩ | ⟨-, hm⟩
    · exact hr
    · exact h.succeeded m hm
  · intro m r hm
    rcases hs.cases hm with ⟨-, hc⟩ | ⟨-, hm⟩
    · cases hc
    · exact h.failed m r hm

/-! ### Failure -/

/-- A failure that is recorded leaves no pending target behind a failed one. -/
theorem fails (h : Sound g result p) (r : String) (hn : p.status? n = some .building) :
    p.Fails n r (p.fail n r) ∧ (p.fail n r).PendingBehind [] := by
  refine fail_spec r hn fun m d hm hd hf => ?_
  exact absurd hf (h.waiting m hm d (h.mem_dependentsOn_iff.1 hd).2)

/-- **Recording a failure keeps the invariant.** -/
theorem fail (h : Sound g result p) (hn : p.status? n = some .building)
    (hr : (result n).success = false) : Sound g result (p.fail n (result n).reason) := by
  obtain ⟨hf, hdone⟩ := h.fails (result n).reason hn
  have hnames : (p.fail n (result n).reason).names = p.names := by
    rw [names, hf.targets]
    rfl
  refine { toWired := h.congr hf.targets hf.dependents, known := ?_, counted := ?_,
           mem_names_of_counted := ?_, ready_nodup := ?_, mem_ready_iff := ?_, started := ?_,
           waiting := ?_, skipped := ?_, succeeded := ?_, failed := ?_ }
  · intro m hm
    by_cases hmn : m = n
    · subst hmn
      exact ⟨_, hf.self⟩
    · rcases hf.other m hmn with he | ⟨-, d, hd, -⟩
      · exact he ▸ h.known m (hnames ▸ hm)
      · exact ⟨_, hd⟩
  · intro t ht
    rw [hf.remaining?, unmet_congr t fun d => hf.succeeded_iff hn]
    exact h.counted t (hf.targets ▸ ht)
  · intro m c hc
    exact hnames ▸ h.mem_names_of_counted m c (hf.remaining? m ▸ hc)
  · exact hf.ready ▸ h.ready_nodup
  · intro m
    rw [hf.ready, hf.remaining?, h.mem_ready_iff]
    refine and_congr_left fun hc => ⟨fun hp => ?_, hf.pending⟩
    have hmn : m ≠ n := by
      rintro rfl
      rw [hn] at hp
      cases hp
    rcases hf.other m hmn with he | ⟨-, d, -, hdep, s, hs, hsf⟩
    · exact he.trans hp
    · -- everything it depends on has succeeded, so it cannot have been skipped
      have hsucc := h.succeeded_of_ready ((h.mem_ready_iff m).2 ⟨hp, hc⟩)
        (h.mem_dependentsOn_iff.1 hdep).2
      rw [(hf.succeeded_iff hn).2 hsucc, Option.some.injEq] at hs
      subst hs
      cases hsf
  · intro m s hm hstart d hd
    rw [hf.succeeded_iff hn]
    rcases hf.cases hm with ⟨rfl, -⟩ | ⟨-, hm'⟩ | ⟨d', rfl, -⟩
    · exact h.started m _ hn rfl d hd
    · exact h.started m s hm' hstart d hd
    · cases hstart
  · intro m hp d hd hfd
    have hdep := h.mem_dependentsOn_iff.2 ⟨hnames ▸ mem_names_of_status? hp, hd⟩
    exact List.not_mem_nil (hdone m d hp (by rwa [hf.dependentsOn]) hfd)
  · intro m d hm
    rcases hf.cases hm with ⟨-, hm'⟩ | ⟨-, hm'⟩ | ⟨d', hd', hdep, hfd⟩
    · cases hm'
    · obtain ⟨hneed, hfd⟩ := h.skipped m d hm'
      exact ⟨hneed, hf.failing hfd⟩
    · cases hd'
      exact ⟨(h.mem_dependentsOn_iff.1 hdep).2, hfd⟩
  · exact fun m hm => h.succeeded m ((hf.succeeded_iff hn).1 hm)
  · intro m r hm
    rcases hf.cases hm with ⟨rfl, hm'⟩ | ⟨-, hm'⟩ | ⟨d', hd', -⟩
    · cases hm'
      exact ⟨hr, rfl⟩
    · exact h.failed m r hm'
    · cases hd'

/-! ### Completion -/

/-- The logs are no part of the invariant. -/
theorem withLogs (h : Sound g result p) (logs : Std.TreeMap String (String × Duration)) :
    Sound g result { p with logs } :=
  ⟨⟨h.declared, h.settled, h.count_dependentsOn, h.mem_names_of_dependent⟩, h.known, h.counted,
    h.mem_names_of_counted, h.ready_nodup, h.mem_ready_iff, h.started, h.waiting, h.skipped,
    h.succeeded, h.failed⟩

/-- **Recording what became of a target keeps the invariant.** -/
theorem complete (h : Sound g result p) {done : Completion}
    (hn : p.status? done.name = some .building) (hr : done.result = result done.name) :
    Sound g result (p.complete done) := by
  rw [Progress.complete, hr]
  refine withLogs ?_ _
  cases hs : (result done.name).success with
  | true => exact h.succeed hn hs
  | false => exact h.fail hn hs

end Sound

/-! ### What the events change -/

/-- A target was handed to the crew, or it is about to be. -/
def Started (p : Progress) (name : String) : Prop :=
  ∃ st, p.status? name = some st ∧ st.isStarted = true

/-- Something has become of a target. -/
def isDone (p : Progress) (name : String) : Bool := (p.status? name).any Status.isTerminal

theorem isDone_iff : p.isDone n = true ↔ ∃ st, p.status? n = some st ∧ st.isTerminal = true :=
  Option.any_eq_true _ _

/-- How many planned targets nothing has become of. -/
def undone (p : Progress) : Nat := p.targets.countP fun t => !p.isDone t.name

/-- Fewer targets are left when something becomes of one more and what was done stays so. -/
theorem undone_lt (ht : q.targets = p.targets) (hn : n ∈ p.names) (hold : p.isDone n = false)
    (hnew : q.isDone n = true) (hkeep : ∀ m, p.isDone m = true → q.isDone m = true) :
    q.undone < p.undone := by
  obtain ⟨t, hmem, rfl⟩ := List.mem_map.1 hn
  rw [undone, ht]
  refine countP_lt_countP (fun u _ hu => ?_) hmem (by simp [hold]) (by simp [hnew])
  cases hu' : p.isDone u.name with
  | false => rfl
  | true => simp [hkeep _ hu'] at hu

namespace Sound

variable {st : Status} {done : Completion}

/-- A target is started when it is taken. -/
theorem started_takeReady_iff (h : Sound g result p) :
    p.takeReady.2.Started n ↔ n ∈ p.ready ∨ p.Started n := by
  unfold Started
  by_cases hn : n ∈ p.ready
  · simp [h.counts.status?_takeReady_of_mem hn, hn, Status.isStarted]
  · rw [status?_takeReady, if_neg hn]
    simp [hn]

/-- A target that was built has a result. -/
theorem status?_complete_self (h : Sound g result p)
    (hn : p.status? done.name = some .building) :
    ∃ st, (p.complete done).status? done.name = some st ∧ st.isTerminal = true ∧
      st.isStarted = true := by
  unfold Progress.complete
  cases done.result.success with
  | true => exact ⟨_, (status?_succeed hn _).trans (if_pos rfl), rfl, rfl⟩
  | false => exact ⟨_, (h.fails _ hn).1.self, rfl, rfl⟩

/-- Of the targets that were not built just now, some that were pending are skipped. -/
theorem status?_complete_of_ne (h : Sound g result p)
    (hn : p.status? done.name = some .building) (hm : m ≠ done.name) :
    (p.complete done).status? m = p.status? m ∨
      (p.status? m = some .pending ∧ ∃ d, (p.complete done).status? m = some (.skipped d)) := by
  unfold Progress.complete
  cases done.result.success with
  | true => exact .inl ((status?_succeed hn m).trans (if_neg (Ne.symm hm)))
  | false =>
    refine ((h.fails _ hn).1.other m hm).imp_right fun ⟨hp, d, hd, _⟩ => ⟨hp, d, hd⟩

/-- What is being built goes on being built, apart from the target that is done. -/
theorem building_complete_iff (h : Sound g result p)
    (hn : p.status? done.name = some .building) :
    (p.complete done).status? m = some .building ↔
      m ≠ done.name ∧ p.status? m = some .building := by
  by_cases hm : m = done.name
  · subst hm
    obtain ⟨st, hs, ht, -⟩ := h.status?_complete_self hn
    simp only [hs, Option.some.injEq, ne_eq, not_true_eq_false, false_and, iff_false]
    rintro rfl
    cases ht
  · rcases h.status?_complete_of_ne hn hm with he | ⟨hp, d, hd⟩
    · rw [he, and_iff_right hm]
    · simp [hp, hd]

/-- Recording what became of a target starts nothing. -/
theorem started_complete_iff (h : Sound g result p)
    (hn : p.status? done.name = some .building) : (p.complete done).Started m ↔ p.Started m := by
  unfold Started
  by_cases hm : m = done.name
  · subst hm
    obtain ⟨st, hs, -, hst⟩ := h.status?_complete_self hn
    exact ⟨fun _ => ⟨_, hn, rfl⟩, fun _ => ⟨st, hs, hst⟩⟩
  · rcases h.status?_complete_of_ne hn hm with he | ⟨hp, d, hd⟩
    · rw [he]
    · simp [hp, hd, Status.isStarted]

/-- A terminal status does not change. -/
theorem status?_complete_of_isTerminal (h : Sound g result p)
    (hn : p.status? done.name = some .building) (hs : p.status? m = some st)
    (ht : st.isTerminal = true) : (p.complete done).status? m = some st := by
  have hm : m ≠ done.name := by
    rintro rfl
    rw [hn, Option.some.injEq] at hs
    subst hs
    cases ht
  rcases h.status?_complete_of_ne hn hm with he | ⟨hp, -⟩
  · rw [he, hs]
  · rw [hp, Option.some.injEq] at hs
    subst hs
    cases ht

/-- What has succeeded after a target was built is that target, or it had succeeded before. -/
theorem succeeded_of_complete (h : Sound g result p) (hn : p.status? done.name = some .building)
    (hs : (p.complete done).status? m = some .succeeded) :
    m = done.name ∨ p.status? m = some .succeeded := by
  by_cases hm : m = done.name
  · exact .inl hm
  · rcases h.status?_complete_of_ne hn hm with he | ⟨-, d, hd⟩
    · exact .inr (he ▸ hs)
    · rw [hd] at hs
      cases hs

/-- Where nothing was ready, a target becomes ready only through one on which it depends. -/
theorem needs_of_mem_ready (h : Sound g result p) (hn : p.status? done.name = some .building)
    (hr : done.result = result done.name) (hnone : p.ready = [])
    (hm : m ∈ (p.complete done).ready) : g.Needs m done.name := by
  have hq := h.complete hn hr
  by_contra hneed
  have hpending : p.status? m = some .pending := by
    have hp := ((hq.mem_ready_iff m).1 hm).1
    have hne : m ≠ done.name := by
      rintro rfl
      obtain ⟨st, hst, hterm, -⟩ := h.status?_complete_self hn
      rw [hp, Option.some.injEq] at hst
      subst hst
      cases hterm
    rcases h.status?_complete_of_ne hn hne with he | ⟨hp, -⟩
    · exact he ▸ hp
    · exact hp
  -- it waited for nothing, so it would have been ready before
  obtain ⟨t, ht, rfl, hg⟩ := h.exists_target (mem_names_of_status? hpending)
  have hmet : ∀ d ∈ t.deps, p.status? d = some .succeeded := by
    intro d hd
    have hd := (Graph.needs_iff hg).2 hd
    refine (h.succeeded_of_complete hn (hq.succeeded_of_ready hm hd)).resolve_left ?_
    rintro rfl
    exact hneed hd
  have hready := (h.mem_ready_iff t.name).2
    ⟨hpending, unmet_eq_zero_iff.2 hmet ▸ h.counted t ht⟩
  rw [hnone] at hready
  cases hready

end Sound

end Progress

end Buildwright
