import Buildwright.Proofs.Build.Site

/-!
# The counts of a build

Whether a target may be started is decided by a number alone: how many of its dependencies are still
to succeed. This number is never computed anew. It is set when a build begins, and from then on one
is taken from it for each place at which a target that has just succeeded is listed among the
dependencies. Subtraction stops at zero, so that one step too many would not be noticed where it
happens.

No step is one too many (`Progress.Counts.remaining?_of_decrements`), and at every moment between
two changes the numbers are what they stand for (`Site.counts_exact`): before and after the targets
that became ready are taken, with dependencies that are listed repeatedly, and also for targets that
were skipped, whose counts go on being decremented.
-/

namespace Buildwright

namespace Progress

variable {g : Graph} {p q : Progress} {part : Target → Target} {m n : String}

/-- `p.Decrements n m q`: in the course of recording in `p` that `n` succeeded, one is taken from
the count of `m`, and `q` is the state just before. -/
def Decrements (p : Progress) (n m : String) (q : Progress) : Prop :=
  ∃ front back, p.dependentsOn n = front ++ m :: back ∧
    q = front.foldl release (p.setStatus n .succeeded)

/-- **No count is decremented at zero.** A target counts every place at which it lists a dependency
that has not succeeded, and this many times it is found among the dependents of that one. -/
theorem Counts.remaining?_of_decrements (h : p.Counts part) (hn : p.status? n = some .building)
    (hq : p.Decrements n m q) : ∃ count, q.remaining? m = some (count + 1) := by
  obtain ⟨front, back, hsplit, rfl⟩ := hq
  have hm : m ∈ p.dependentsOn n := by
    rw [hsplit]
    simp
  obtain ⟨t, ht, rfl⟩ := List.mem_map.1 (h.mem_names_of_dependent n m hm)
  have hle : (p.dependentsOn n).count t.name ≤ p.unmet (part t) := by
    rw [h.count_dependentsOn t ht]
    exact count_le_unmet _ (by simp [hn])
  rw [hsplit, List.count_append, List.count_cons_self] at hle
  rw [remaining?_foldl_release, (sameWork_setStatus p n .succeeded).remaining?, h.counted t ht]
  refine ⟨p.unmet (part t) - front.count t.name - 1, ?_⟩
  rw [Option.map_some, Option.some.injEq]
  omega

/-- `p.IsExact g`: the counts of a build, its lists of dependents and its queue are what they stand
for. -/
structure IsExact (g : Graph) (p : Progress) : Prop where
  /-- A target counts the places at which it lists a dependency that has not succeeded. -/
  remaining : ∀ t ∈ p.targets,
    p.remaining? t.name = some (t.deps.countP fun d => p.status? d ≠ some .succeeded)
  /-- It is listed with each of its dependencies, once for each of these places. -/
  dependents : ∀ t ∈ p.targets, ∀ d, (p.dependentsOn d).count t.name = t.deps.count d
  /-- No other targets are listed with a dependency. -/
  planned : ∀ d, ∀ m ∈ p.dependentsOn d, m ∈ p.names
  nodup : p.ready.Nodup
  /-- What is ready is pending and has nothing left to count. -/
  ready : ∀ n, n ∈ p.ready ↔ p.status? n = some .pending ∧ p.remaining? n = some 0
  declared : ∀ t ∈ p.targets, g.get? t.name = some t

theorem Sound.isExact {result : String → ToolResult} (h : Sound g result p) : p.IsExact g where
  remaining := h.counted
  dependents := h.count_dependentsOn
  planned := h.mem_names_of_dependent
  nodup := h.ready_nodup
  ready := h.mem_ready_iff
  declared := h.declared

end Progress

namespace Site

variable {g : Graph} {plan : Plan} {result : String → ToolResult} {requested : List String}
  {p : Progress} {s : Site}

/-- `Moment g plan result p`: the progress of a build at some moment between two changes. -/
inductive Moment (g : Graph) (plan : Plan) (result : String → ToolResult) : Progress → Prop where
  /-- The build has begun, and nothing was taken yet. -/
  | begun {p : Progress} : Progress.ofPlan g plan = .ok p → Moment g plan result p
  /-- What became ready was taken. -/
  | taken {s : Site} : Reachable g plan result s → Moment g plan result s.progress
  /-- It was recorded what became of a target, and what is ready now was not taken yet. -/
  | told {s : Site} {done : Completion} : Reachable g plan result s → done.name ∈ s.inFlight →
      done.result = result done.name → Moment g plan result (s.progress.complete done)

theorem Moment.sound (h : g.plan requested = .ok plan) (hp : Moment g plan result p) :
    p.Sound g result ∧ p.names = plan.names := by
  cases hp with
  | begun hp =>
    obtain ⟨hnames, hsound, -⟩ := Progress.sound_of_ofPlan h hp result
    exact ⟨hsound, hnames⟩
  | taken hs =>
    obtain ⟨hsound, hnames⟩ := hs.sound h
    exact ⟨hsound.progress, hnames⟩
  | told hs hd hr =>
    obtain ⟨hsound, hnames⟩ := hs.sound h
    refine ⟨hsound.progress.complete (hsound.status?_of_mem_inFlight hd) hr, ?_⟩
    rw [← hnames, Progress.names, Progress.targets_complete]
    rfl

/-- **The counts of a build are exact.** At every moment of the build of a plan, whatever the tools
give and in whichever order the coordinator hears of it, each planned target counts the places at
which it lists a dependency that has not succeeded; it is found among the dependents of each
dependency once for each place; and the queue holds, without repeats, the pending targets that have
nothing left to count. Whenever one is taken from a count, there is one to take. -/
theorem counts_exact (h : g.plan requested = .ok plan) (result : String → ToolResult) :
    (∀ p, Moment g plan result p → p.names = plan.names ∧ p.IsExact g) ∧
    ∀ (s : Site) (done : Completion), Reachable g plan result s → done.name ∈ s.inFlight →
      done.result = result done.name → done.result.success = true →
      ∀ m q, s.progress.Decrements done.name m q → ∃ count, q.remaining? m = some (count + 1) := by
  constructor
  · intro p hp
    obtain ⟨hsound, hnames⟩ := hp.sound h
    exact ⟨hnames, hsound.isExact⟩
  · intro s done hs hd hr hsuccess m q hq
    obtain ⟨hsound, -⟩ := hs.sound h
    have hbuilding := hsound.status?_of_mem_inFlight hd
    exact hsound.progress.counts.remaining?_of_decrements hbuilding hq

/-- In a diamond whose top lists one side twice, the success of that side takes two from the count
of the top, the second time from a count of two. -/
theorem counts_exact_diamond :
    Graph.diamond.plan ["a"] = .ok ⟨["d", "b", "c", "a"]⟩ ∧
    ∃ (s : Site) (q : Progress),
      Reachable Graph.diamond ⟨["d", "b", "c", "a"]⟩ (fun _ => .succeeded "") s ∧
      s.inFlight = ["b"] ∧ s.progress.IsExact Graph.diamond ∧
      (s.progress.complete { name := "b", result := .succeeded "" }).IsExact Graph.diamond ∧
      s.progress.Decrements "b" "a" q ∧ q.remaining? "a" = some 2 ∧
      (s.progress.complete { name := "b", result := .succeeded "" }).remaining? "a" = some 1 ∧
      ∃ count, q.remaining? "a" = some (count + 1) := by
  let s₀ : Site := start (.ofTargets [
    { name := "d", kind := .library, headers := ["d.h"] },
    { name := "b", kind := .library, sources := ["b.c"], deps := ["d"] },
    { name := "c", kind := .library, sources := ["c.c"], deps := ["d"] },
    { name := "a", kind := .program, sources := ["a.c"], deps := ["b", "c", "b"] }])
  let s₁ : Site := { s₀ with ready := [], inFlight := ["d"], handed := ["d"] }
  have h₁ : Step (fun _ => .succeeded "") s₀ s₁ := .hand_of_ready (by decide)
  let s₂ : Site := s₁.hear { name := "d", result := .succeeded "" }
  let s₃ : Site := { s₂ with ready := ["c"], inFlight := ["b"], handed := ["d", "b"] }
  have h₃ : Step (fun _ => .succeeded "") s₂ s₃ := .hand_of_ready (by decide)
  have hs : Reachable Graph.diamond ⟨["d", "b", "c", "a"]⟩ (fun _ => .succeeded "") s₃ :=
    ⟨_, rfl, .head h₁ <| .head (.hear (.head _) rfl) <| .single h₃⟩
  let q : Progress := [("a" : String)].foldl Progress.release
    (s₃.progress.setStatus "b" .succeeded)
  have hq : s₃.progress.Decrements "b" "a" q := ⟨["a"], [], by decide +kernel, rfl⟩
  obtain ⟨hexact, hpositive⟩ := counts_exact Graph.plan_diamond fun _ => .succeeded ""
  refine ⟨Graph.plan_diamond, s₃, q, hs, rfl, (hexact _ (.taken hs)).2, ?_, hq, ?_, ?_, ?_⟩
  · exact (hexact _ (.told hs (.head _) rfl)).2
  · decide +kernel
  · decide +kernel
  · exact hpositive s₃ { name := "b", result := .succeeded "" } hs (.head _) rfl rfl "a" q hq

end Site

end Buildwright
