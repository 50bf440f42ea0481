import Buildwright.Proofs.Build.Scheduling
import Buildwright.Proofs.Graph.Plan

/-!
# How a build begins

The maps that a build begins with, read entry by entry, and the invariant at the beginning: a plan
of a graph can always be begun, and then everything is pending, every target counts all of its
dependencies, and what depends on nothing is ready (`sound_ofPlan`).
-/

namespace Buildwright

/-- A target with those of its dependencies that are among the targets `names`. -/
def Target.within (names : List String) (t : Target) : Target :=
  { t with deps := Progress.plannedDeps (Std.TreeSet.ofList names) t }

theorem Target.mem_deps_within {names : List String} {t : Target} {d : String} :
    d ∈ (t.within names).deps ↔ d ∈ t.deps ∧ d ∈ names := by
  rw [within, Progress.plannedDeps, List.mem_filter, Std.TreeSet.contains_ofList,
    List.contains_iff_mem]

namespace Progress

variable {g : Graph} {result : String → ToolResult} {n : String}

/-! ### Targets by name -/

variable {ts : List Target}

theorem find?_eq_none_iff : ts.find? (·.name = n) = none ↔ n ∉ ts.map (·.name) := by
  simp [List.find?_eq_none]

/-- A target is found under its own name, as long as no other one has it. -/
theorem find?_eq_some_iff (hnd : (ts.map (·.name)).Nodup) {t : Target} :
    ts.find? (·.name = n) = some t ↔ t ∈ ts ∧ t.name = n := by
  constructor
  · exact fun h => ⟨List.mem_of_find?_eq_some h, by simpa using List.find?_some h⟩
  · rintro ⟨ht, rfl⟩
    induction ts with
    | nil => cases ht
    | cons u ts ih =>
      obtain ⟨hu, hnd⟩ := List.nodup_cons.1 hnd
      rcases List.mem_cons.1 ht with rfl | ht
      · simp
      · have hne : u.name ≠ t.name := fun he => hu (List.mem_map.2 ⟨t, ht, he.symm⟩)
        rw [List.find?_cons_of_neg (by simpa using hne), ih hnd ht]

/-- A table with an entry for each target of a list. -/
theorem getElem?_foldl_insert {β : Type} (f : Target → β) (ts : List Target)
    (found : Std.TreeMap String β) (hnd : (ts.map (·.name)).Nodup) (n : String) :
    (ts.foldl (fun found t => found.insert t.name (f t)) found)[n]? =
      ((ts.find? (·.name = n)).map f).or found[n]? := by
  induction ts generalizing found with
  | nil => rfl
  | cons t ts ih =>
    obtain ⟨ht, hnd⟩ := List.nodup_cons.1 hnd
    rw [List.foldl_cons, ih _ hnd, List.find?_cons]
    simp only [Std.TreeMap.getElem?_insert, Std.compare_eq_iff_eq]
    by_cases hn : t.name = n
    · subst hn
      simp [find?_eq_none_iff.2 ht]
    · simp [hn]

theorem count_flatMap_replicate (f : Target → Nat) (hnd : (ts.map (·.name)).Nodup) {t : Target}
    (ht : t ∈ ts) : (ts.flatMap fun t => List.replicate (f t) t.name).count t.name = f t := by
  induction ts with
  | nil => cases ht
  | cons u ts ih =>
    obtain ⟨hu, hnd⟩ := List.nodup_cons.1 hnd
    rw [List.flatMap_cons, List.count_append, List.count_replicate]
    rcases List.mem_cons.1 ht with rfl | ht
    · have : t.name ∉ ts.flatMap fun t => List.replicate (f t) t.name := by
        simp only [List.mem_flatMap, List.mem_replicate, not_exists, not_and]
        exact fun v hv _ he => hu (List.mem_map.2 ⟨v, hv, he.symm⟩)
      simp [List.count_eq_zero.2 this]
    · have hne : u.name ≠ t.name := fun he => hu (List.mem_map.2 ⟨t, ht, he.symm⟩)
      simp [hne, ih hnd ht]

/-- A table in which a name is put in front of the entry of each of some others. -/
theorem getElem?_foldr_insert_cons (n d : String) (deps : List String)
    (found : Std.TreeMap String (List String)) :
    (deps.foldr (fun dep found => found.insert dep (n :: found[dep]?.getD [])) found)[d]?.getD [] =
      List.replicate (deps.count d) n ++ found[d]?.getD [] := by
  induction deps with
  | nil => simp
  | cons dep deps ih =>
    rw [List.foldr_cons, Std.TreeMap.getElem?_insert]
    by_cases hd : dep = d
    · subst hd
      simp [ih, List.replicate_succ]
    · simp [hd, ih]

/-! ### The maps of a build -/

theorem status?_ofTargets (hnd : (ts.map (·.name)).Nodup) (n : String) :
    (ofTargets ts).status? n = if n ∈ ts.map (·.name) then some .pending else none := by
  refine (getElem?_foldl_insert (fun _ => Status.pending) ts ∅ hnd n).trans ?_
  by_cases hn : n ∈ ts.map (·.name)
  · obtain ⟨t, ht, rfl⟩ := List.mem_map.1 hn
    rw [(find?_eq_some_iff hnd).2 ⟨ht, rfl⟩, if_pos hn]
    rfl
  · rw [find?_eq_none_iff.2 hn, if_neg hn]
    rfl

theorem remaining?_ofTargets (hnd : (ts.map (·.name)).Nodup) (n : String) :
    (ofTargets ts).remaining? n = (ts.find? (·.name = n)).map fun t =>
      (plannedDeps (Std.TreeSet.ofList (ts.map (·.name))) t).length :=
  (getElem?_foldl_insert _ ts ∅ hnd n).trans (by simp)

/-- The dependents of a target in the order of the plan, each once for every time it lists it. -/
theorem dependentsOf_eq (names : Std.TreeSet String) (ts : List Target) (d : String) :
    (dependentsOf names ts)[d]?.getD [] =
      ts.flatMap fun t => List.replicate ((plannedDeps names t).count d) t.name := by
  induction ts with
  | nil => simp [dependentsOf]
  | cons t ts ih =>
    rw [dependentsOf, List.foldr_cons, getElem?_foldr_insert_cons, List.flatMap_cons, ← ih]
    rfl

/-- Nothing has become of any target yet. -/
theorem eq_pending_of_ofTargets (hnd : (ts.map (·.name)).Nodup) {s : Status}
    (hs : (ofTargets ts).status? n = some s) : s = .pending := by
  rw [status?_ofTargets hnd] at hs
  split at hs
  · exact (Option.some.inj hs).symm
  · cases hs

/-- A target may be started at once when it depends on nothing that is planned. -/
theorem mem_ready_ofTargets_iff (hnd : (ts.map (·.name)).Nodup) :
    n ∈ (ofTargets ts).ready ↔
      (ofTargets ts).status? n = some .pending ∧ (ofTargets ts).remaining? n = some 0 := by
  rw [status?_ofTargets hnd, remaining?_ofTargets hnd]
  simp only [ofTargets, List.mem_map, List.mem_filter, decide_eq_true_eq]
  constructor
  · rintro ⟨t, ⟨ht, hd⟩, rfl⟩
    rw [(find?_eq_some_iff hnd).2 ⟨ht, rfl⟩, if_pos ⟨t, ht, rfl⟩]
    simp [hd]
  · rintro ⟨-, hc⟩
    obtain ⟨t, ht, hc⟩ := Option.map_eq_some_iff.1 hc
    obtain ⟨ht, hname⟩ := (find?_eq_some_iff hnd).1 ht
    exact ⟨t, ⟨ht, List.eq_nil_of_length_eq_zero hc⟩, hname⟩

/-- Nothing has succeeded when a build begins. -/
theorem unmet_ofTargets (hnd : (ts.map (·.name)).Nodup) (t : Target) :
    (ofTargets ts).unmet t = t.deps.length := by
  refine List.countP_eq_length.2 fun d _ => ?_
  have hd : (ofTargets ts).status? d ≠ some .succeeded :=
    fun hc => nomatch eq_pending_of_ofTargets hnd hc
  simpa using hd

/-- **When a build begins, every target counts those of its dependencies that are planned.** -/
theorem counts_ofTargets (hnd : (ts.map (·.name)).Nodup) :
    (ofTargets ts).Counts (Target.within (ts.map (·.name))) := by
  refine { count_dependentsOn := fun t ht d => ?_, mem_names_of_dependent := fun d m hm => ?_,
           counted := fun t ht => ?_, mem_names_of_counted := fun n c hc => ?_,
           ready_nodup := hnd.sublist (List.filter_sublist.map _),
           mem_ready_iff := fun n => mem_ready_ofTargets_iff hnd }
  · rw [dependentsOn, ofTargets, dependentsOf_eq,
      count_flatMap_replicate (fun t => (plannedDeps _ t).count d) hnd ht]
    rfl
  · rw [dependentsOn, ofTargets, dependentsOf_eq, List.mem_flatMap] at hm
    obtain ⟨t, ht, hm⟩ := hm
    rw [(List.mem_replicate.1 hm).2]
    exact List.mem_map.2 ⟨t, ht, rfl⟩
  · rw [remaining?_ofTargets hnd, (find?_eq_some_iff hnd).2 ⟨ht, rfl⟩, unmet_ofTargets hnd]
    rfl
  · rw [remaining?_ofTargets hnd, Option.map_eq_some_iff] at hc
    obtain ⟨t, ht, -⟩ := hc
    exact List.mem_map.2 ⟨t, (find?_eq_some_iff hnd).1 ht⟩

/-- Every dependency of a target is planned when the targets are in order. -/
theorem within_of_settled (hdecl : ∀ t ∈ ts, g.get? t.name = some t)
    (hset : g.Settled (ts.map (·.name)).reverse) {t : Target} (ht : t ∈ ts) :
    t.within (ts.map (·.name)) = t := by
  have hdeps : plannedDeps (Std.TreeSet.ofList (ts.map (·.name))) t = t.deps := by
    refine List.filter_eq_self.2 fun d hd => ?_
    rw [Std.TreeSet.contains_ofList, List.contains_iff_mem]
    refine List.mem_reverse.1 (hset.mem_of_needs ?_ ⟨t, hdecl t ht, hd⟩)
    exact List.mem_reverse.2 (List.mem_map.2 ⟨t, ht, rfl⟩)
  rw [Target.within, hdeps]

/-! ### The invariant -/

theorem wired_ofTargets (hdecl : ∀ t ∈ ts, g.get? t.name = some t)
    (hset : g.Settled (ts.map (·.name)).reverse) : Wired g (ofTargets ts) := by
  have hc := counts_ofTargets (List.nodup_reverse.1 hset.nodup)
  refine ⟨hdecl, hset, fun t ht d => ?_, hc.mem_names_of_dependent⟩
  rw [hc.count_dependentsOn t ht, within_of_settled hdecl hset ht]

/-- **The invariant holds when the build of a plan begins.** -/
theorem sound_ofTargets (hdecl : ∀ t ∈ ts, g.get? t.name = some t)
    (hset : g.Settled (ts.map (·.name)).reverse) : Sound g result (ofTargets ts) := by
  have hnd : (ts.map (·.name)).Nodup := List.nodup_reverse.1 hset.nodup
  have hc := counts_ofTargets hnd
  have hnone (n : String) (s : Status) (hs : s ≠ .pending) : (ofTargets ts).status? n ≠ some s :=
    fun hc => hs (eq_pending_of_ofTargets hnd hc)
  refine { toWired := wired_ofTargets hdecl hset, known := ?_, counted := ?_,
           mem_names_of_counted := hc.mem_names_of_counted, ready_nodup := hc.ready_nodup,
           mem_ready_iff := hc.mem_ready_iff, started := ?_, waiting := ?_,
           skipped := ?_, succeeded := ?_, failed := ?_ }
  · exact fun n hn => ⟨.pending, (status?_ofTargets hnd n).trans (if_pos hn)⟩
  · intro t ht
    rw [hc.counted t ht, within_of_settled hdecl hset ht]
  · intro n s hs hstart
    rw [eq_pending_of_ofTargets hnd hs] at hstart
    cases hstart
  · rintro n - d - ⟨s, hs, hf⟩
    rw [eq_pending_of_ofTargets hnd hs] at hf
    cases hf
  · exact fun n d hs => absurd hs (hnone n _ (by simp))
  · exact fun n hs => absurd hs (hnone n _ (by simp))
  · exact fun n r hs => absurd hs (hnone n _ (by simp))

/-- The build of a plan can be begun, with every planned target pending. -/
theorem sound_ofPlan {requested : List String} {plan : Plan} (h : g.plan requested = .ok plan)
    (result : String → ToolResult) :
    ∃ p, ofPlan g plan = .ok p ∧ p.names = plan.names ∧ Sound g result p ∧
      ∀ n s, p.status? n = some s → s = .pending := by
  have hset := Graph.settled_of_plan h
  obtain ⟨ts, hts, hnames, hdecl⟩ :=
    Graph.mapM_find_of_forall fun n hn => hset.contains (List.mem_reverse.2 hn)
  rw [← hnames] at hset
  refine ⟨ofTargets ts, map_eq_ok_iff.2 ⟨ts, hts, rfl⟩, hnames, sound_ofTargets hdecl hset, ?_⟩
  exact fun n s hs => eq_pending_of_ofTargets (List.nodup_reverse.1 hset.nodup) hs

/-- Whatever the build of a plan begins with has every planned target pending. -/
theorem sound_of_ofPlan {requested : List String} {plan : Plan} {p : Progress}
    (h : g.plan requested = .ok plan) (hp : ofPlan g plan = .ok p) (result : String → ToolResult) :
    p.names = plan.names ∧ Sound g result p ∧ ∀ n s, p.status? n = some s → s = .pending := by
  obtain ⟨p', hp', hbegin⟩ := sound_ofPlan h result
  obtain rfl : p' = p := Except.ok.inj (hp'.symm.trans hp)
  exact hbegin

end Progress

end Buildwright
