import Buildwright.Proofs.Graph.Environment
import Buildwright.Proofs.Graph.Manifest
import Buildwright.Proofs.Graph.Recursion
import Mathlib.Data.List.NodupEquivFin

/-!
# Plans put together

How the plan of several requests is made of the plans of its parts. A walk that finds some targets
finished goes past them. If everything that these depend on is finished as well, then what the walk
leaves out is no more than that, and it never hides a circle, since none can be reached from a
finished target. So the walk finishes what it would finish from the start, without the targets that
were finished before, or it fails with the same error (`Graph.search_resumed`), and plans can be put
behind each other (`Graph.plans_compose`). A list that is in an order of building is planned as it
stands, and no other list is (`Graph.plan_eq_self_iff`); from this it follows that nothing changes
when a plan is planned again (`Graph.plan_fixed_points`).
-/

namespace Buildwright

/-- One text stands before another in a list. -/
theorem pair_sublist_iff {l : List String} {a b : String} :
    [a, b].Sublist l ↔ ∃ i j : Nat, l[i]? = some a ∧ l[j]? = some b ∧ i < j := by
  constructor
  · intro h
    obtain ⟨f, hf⟩ := List.sublist_iff_exists_orderEmbedding_getElem?_eq.1 h
    exact ⟨f 0, f 1, (hf 0).symm, (hf 1).symm, f.lt_iff_lt.2 Nat.zero_lt_one⟩
  · rintro ⟨i, j, hi, hj, hij⟩
    have hleft : [a].Sublist (l.take j) := by
      refine List.singleton_sublist.2 (List.mem_of_getElem? (i := i) ?_)
      rw [List.getElem?_take_of_lt hij, hi]
    have hright : [b].Sublist (l.drop j) := by
      refine List.singleton_sublist.2 (List.mem_of_getElem? (i := 0) ?_)
      rw [List.getElem?_drop, Nat.add_zero, hj]
    have := hleft.append hright
    rwa [List.take_append_drop] at this

namespace Graph

open Relation

variable {g : Graph} {path done old names l : List String} {name : String} {p : Plan}

/-! ### Going past finished targets -/

/-- What a walk has finished that began when `old` was finished, if a walk from the start has
finished `done`. -/
def resumed (old done : List String) : List String := old ++ done.filter (· ∉ old)

theorem resumed_nil (old : List String) : resumed old [] = old := List.append_nil old

theorem mem_resumed_iff : name ∈ resumed old done ↔ name ∈ old ∨ name ∈ done := by
  rw [resumed, List.mem_append, List.mem_filter, decide_eq_true_eq]
  tauto

/-- One more target is finished, unless it was before. -/
theorem resumed_concat (old done : List String) (name : String) :
    resumed old (done ++ [name]) =
      if name ∈ old then resumed old done else resumed old done ++ [name] := by
  split
  · next h => simp [resumed, List.filter_append, h]
  · next h => simp [resumed, List.filter_append, h]

/-- A call for a target that was finished before comes to an end, whatever is finished now, and adds
nothing but targets that were finished before as well. -/
theorem search_of_settled (h : g.Settled old.reverse) (hn : name ∈ old) (path done : List String)
    (hpath : ∀ n ∈ path, ¬ g.Reaches name n) :
    ∃ done', g.search path done name = .ok done' ∧ resumed old done' = resumed old done := by
  revert path done
  refine h.induction (P := fun name => ∀ path done, (∀ n ∈ path, ¬ g.Reaches name n) →
    ∃ done', g.search path done name = .ok done' ∧ resumed old done' = resumed old done)
    (fun name hn ih path done hpath => ?_) name (List.mem_reverse.2 hn)
  by_cases hd : name ∈ done
  · exact ⟨done, search_of_mem_done hd, rfl⟩
  have ho : name ∉ path := fun hc => hpath name hc .refl
  obtain ⟨t, ht⟩ := Catalog.contains_iff_get?.1 (h.contains hn)
  -- a dependency leads neither to the path nor back to the target
  have hdeps : ∀ dep ∈ t.deps, ∀ n ∈ path ++ [name], ¬ g.Reaches dep n := by
    intro dep hdep n hmem hr
    have hneed : g.Needs name dep := (needs_iff ht).2 hdep
    rcases List.mem_append.1 hmem with hmem | hmem
    · exact hpath n hmem (.head hneed hr)
    · obtain rfl := List.mem_singleton.1 hmem
      exact h.acyclic n hn (TransGen.head' hneed hr)
  obtain ⟨done', hloop, hsame⟩ := exists_foldlM_eq_ok (f := g.search (path ++ [name]))
    (P := fun d => resumed old d = resumed old done) (l := t.deps) (b := done)
    (fun dep hdep d hd => by
      obtain ⟨d', hs, hd'⟩ := ih dep ((needs_iff ht).2 hdep) _ d (hdeps dep hdep)
      exact ⟨d', hs, hd'.trans hd⟩) rfl
  refine ⟨done' ++ [name], ?_, ?_⟩
  · rw [search_of_get? hd ho ht, hloop]
    rfl
  · rw [resumed_concat, if_pos (List.mem_reverse.1 hn), hsame]

/-- **A call goes past what was finished before.** If the targets `old` are in an order of building,
then a call that finds them finished adds what it would add otherwise, without them, or it fails
with the same error. -/
theorem search_resumed (h : g.Settled old.reverse) (path done : List String) (name : String)
    (hpath : ∀ n ∈ path, n ∉ old) :
    g.search path (resumed old done) name = (g.search path done name).map (resumed old) := by
  induction path, done, name using search.induct (g := g) with
  | case1 path done name hd =>
    rw [search_of_mem_done hd, search_of_mem_done (mem_resumed_iff.2 (.inr hd))]
    rfl
  | case2 path done name hd ho =>
    have hr : name ∉ resumed old done := by simp [mem_resumed_iff, hd, hpath name ho]
    rw [search_of_mem_path hd ho, search_of_mem_path hr ho]
    rfl
  | case3 path done name hd ho hf =>
    have hold : name ∉ old := by
      intro hc
      have := h.contains (List.mem_reverse.2 hc)
      rw [contains_eq_false_iff.2 hf] at this
      cases this
    have hr : name ∉ resumed old done := by simp [mem_resumed_iff, hd, hold]
    rw [search_of_get?_eq_none hd ho hf, search_of_get?_eq_none hr ho hf]
    rfl
  | case4 path done name hd ho t ht ih =>
    by_cases hold : name ∈ old
    · -- the resumed walk stops here, and the other one adds nothing that counts
      have hleave : ∀ n ∈ path, ¬ g.Reaches name n := fun n hn hr =>
        hpath n hn (List.mem_reverse.1 (h.mem_of_reaches (List.mem_reverse.2 hold) hr))
      obtain ⟨done', hs, hsame⟩ := search_of_settled h hold path done hleave
      rw [search_of_mem_done (mem_resumed_iff.2 (.inl hold)), hs]
      exact congrArg Except.ok hsame.symm
    · have hr : name ∉ resumed old done := by simp [mem_resumed_iff, hd, hold]
      have hpath' : ∀ n ∈ path ++ [name], n ∉ old := by
        intro n hn
        rcases List.mem_append.1 hn with hn | hn
        · exact hpath n hn
        · exact List.mem_singleton.1 hn ▸ hold
      rw [search_of_get? hd ho ht, search_of_get? hr ho ht,
        foldlM_map (fun dep _ d => ih d dep hpath') done]
      cases t.deps.foldlM (g.search (path ++ [name])) done with
      | error e => rfl
      | ok done' =>
        have hconcat : resumed old (done' ++ [name]) = resumed old done' ++ [name] := by
          rw [resumed_concat, if_neg hold]
        exact congrArg Except.ok hconcat.symm

/-- A closure that begins when some targets are finished. -/
theorem foldlM_search_resumed (h : g.Settled old.reverse) (names : List String) :
    names.foldlM (g.search []) old = (g.closure names).map (resumed old) := by
  have := foldlM_map (fun name _ done => search_resumed h [] done name nofun) [] (l := names)
  rwa [resumed_nil, ← closure_eq_foldlM_search] at this

/-! ### Requests behind each other -/

/-- The plan of two lists of requests is made of their plans, or it fails where the first of them
fails. -/
theorem plan_append (g : Graph) (names more : List String) :
    g.plan (names ++ more) = g.plan names >>= fun p =>
      (g.plan more).map fun q => ⟨p.names ++ q.names.filter (· ∉ p.names)⟩ := by
  have hclosure : g.closure (names ++ more) =
      g.closure names >>= fun l => (g.closure more).map (resumed l) := by
    rw [closure_eq_foldlM_search, List.foldlM_append, ← closure_eq_foldlM_search]
    cases hc : g.closure names with
    | error e => rfl
    | ok l => exact foldlM_search_resumed (settled_of_closure hc).1 more
  rw [plan, plan, plan, hclosure]
  cases g.closure names with
  | error e => rfl
  | ok l => cases g.closure more <;> rfl

/-- **Plans compose.** If the first of two lists of requests cannot be planned, then both together
fail with the same error. If the first one can be planned but the second one cannot, both together
fail with the error of the second one. Otherwise the plan of both is the plan of the first, and
behind it what the plan of the second one adds to that, in its order. -/
theorem plans_compose (g : Graph) (names more : List String) :
    (∀ e, g.plan names = .error e → g.plan (names ++ more) = .error e) ∧
    (∀ p q, g.plan names = .ok p → g.plan more = .ok q →
      g.plan (names ++ more) = .ok ⟨p.names ++ q.names.filter (· ∉ p.names)⟩) ∧
    ∀ p e, g.plan names = .ok p → g.plan more = .error e →
      g.plan (names ++ more) = .error e := by
  refine ⟨fun e he => ?_, fun p q hp hq => ?_, fun p e hp he => ?_⟩
  · rw [plan_append, he]
    rfl
  · rw [plan_append, hp, hq]
    rfl
  · rw [plan_append, hp, he]
    rfl

/-- A side of the diamond that is requested in front is planned in front. -/
example : diamond.plan ["c", "a"] = .ok ⟨["d", "c", "b", "a"]⟩ := by cbv

/-! ### Lists that are planned as they stand -/

/-- A list whose members have everything they depend on behind them is in order, from its end. -/
theorem settled_of_sublist {l : List String} (hnodup : l.Nodup)
    (hdecl : ∀ n ∈ l, g.contains n = true)
    (hdeps : ∀ a ∈ l, ∀ b, g.Needs a b → [a, b].Sublist l) : g.Settled l := by
  induction l with
  | nil => exact .nil
  | cons name older ih =>
    obtain ⟨hn, hnodup⟩ := List.nodup_cons.1 hnodup
    obtain ⟨hname, hdecl⟩ := List.forall_mem_cons.1 hdecl
    obtain ⟨t, ht⟩ := Catalog.contains_iff_get?.1 hname
    refine .cons ht (fun d hd => ?_) hn (ih hnodup hdecl fun a ha b hab => ?_)
    · have hsub := hdeps name (.head _) d ((needs_iff ht).2 hd)
      cases hsub with
      | cons _ hsub => exact hsub.subset (by simp)
      | cons_cons _ hsub => exact List.singleton_sublist.1 hsub
    · have hsub := hdeps a (.tail _ ha) b hab
      cases hsub with
      | cons _ hsub => exact hsub
      | cons_cons => exact absurd ha hn

/-- What it means for a list to be an order of building. -/
theorem settled_reverse_iff : g.Settled l.reverse ↔
    l.Nodup ∧ (∀ n ∈ l, g.contains n = true) ∧ (∀ a ∈ l, ∀ b, g.Needs a b → b ∈ l) ∧
      ∀ a ∈ l, ∀ b ∈ l, g.Needs a b → [b, a].Sublist l := by
  constructor
  · intro h
    refine ⟨List.nodup_reverse.1 h.nodup, fun n hn => h.contains (List.mem_reverse.2 hn),
      fun a ha b hab => List.mem_reverse.1 (h.mem_of_needs (List.mem_reverse.2 ha) hab),
      fun a ha b _ hab => ?_⟩
    exact List.reverse_sublist.1 (h.sublist_of_dependsOn (List.mem_reverse.2 ha) (.single hab))
  · rintro ⟨hnodup, hdecl, hclosed, hbefore⟩
    refine settled_of_sublist (List.nodup_reverse.2 hnodup)
      (fun n hn => hdecl n (List.mem_reverse.1 hn)) fun a ha b hab => ?_
    have ha := List.mem_reverse.1 ha
    exact List.reverse_sublist.2 (hbefore a ha b (hclosed a ha b hab) hab)

/-- A target whose dependencies are finished is finished at once. -/
theorem search_of_deps {t : Target} (ht : g.get? name = some t) (hdeps : ∀ d ∈ t.deps, d ∈ done)
    (hn : name ∉ done) : g.search [] done name = .ok (done ++ [name]) := by
  obtain ⟨_, hloop, rfl⟩ := exists_foldlM_eq_ok (f := g.search ([] ++ [name]))
    (P := fun d => d = done) (l := t.deps) (b := done)
    (fun dep hdep d hd => ⟨d, search_of_mem_done (hd ▸ hdeps dep hdep), hd⟩) rfl
  rw [search_of_get? hn List.not_mem_nil ht, hloop]
  rfl

/-- The closure of an order of building is that order. -/
theorem closure_of_settled (h : g.Settled l) : g.closure l.reverse = .ok l.reverse := by
  rw [closure_eq_foldlM_search]
  induction h with
  | nil => rfl
  | @cons name t older ht hd hn _ ih =>
    have hstep : g.search [] older.reverse name = .ok (older.reverse ++ [name]) :=
      search_of_deps ht (fun d hmem => List.mem_reverse.2 (hd d hmem)) (by simpa using hn)
    rw [List.reverse_cons, List.foldlM_append, ih]
    exact bind_eq_ok_iff.2 ⟨_, rfl, bind_eq_ok_iff.2 ⟨_, hstep, rfl⟩⟩

/-- Orders of building are what is planned as it stands. -/
theorem plan_eq_self_iff : g.plan l = .ok ⟨l⟩ ↔ g.Settled l.reverse := by
  refine ⟨fun h => settled_of_plan h, fun h => plan_eq_ok_iff.2 ?_⟩
  simpa using closure_of_settled h

/-- The declared names are in an order of building exactly if every target is declared after the
targets on which it depends. -/
theorem settled_names_iff : g.Settled g.names.reverse ↔
    ∀ a b, g.Needs a b → ∃ i j, g.position? b = some i ∧ g.position? a = some j ∧ i < j := by
  have hposition (n : String) (i : Nat) : g.position? n = some i ↔ g.names[i]? = some n := by
    rw [Catalog.position?, g.positions_iff, Catalog.names, List.getElem?_map, Array.getElem?_toList]
  have hleft {a b : String} (h : g.Needs a b) : a ∈ g.names := by
    obtain ⟨t, ht, -⟩ := h
    exact Catalog.mem_names_iff.2 (Catalog.contains_iff_get?.2 ⟨t, ht⟩)
  have hright {a b : String} (h : g.Needs a b) : b ∈ g.names :=
    Catalog.mem_names_iff.2 h.contains_right
  simp only [hposition, ← pair_sublist_iff, settled_reverse_iff]
  constructor
  · rintro ⟨-, -, -, h⟩ a b hab
    exact h a (hleft hab) b (hright hab) hab
  · exact fun h => ⟨g.nodup_names, fun n hn => Catalog.mem_names_iff.1 hn,
      fun a _ b hab => hright hab, fun a _ b _ hab => h a b hab⟩

/-- **What planning leaves as it is.** A list of names is its own plan exactly if no name is
repeated, all of them are declared, everything that one of them depends on is among them, and it
stands before those that depend on it. So to plan the targets of a plan again changes nothing, and
the plan of all targets keeps the order of declaration exactly if every target is declared after
the targets on which it depends. -/
theorem plan_fixed_points (g : Graph) :
    (∀ l, g.plan l = .ok ⟨l⟩ ↔
      l.Nodup ∧ (∀ n ∈ l, g.contains n = true) ∧ (∀ a ∈ l, ∀ b, g.Needs a b → b ∈ l) ∧
        ∀ a ∈ l, ∀ b ∈ l, g.Needs a b → [b, a].Sublist l) ∧
    (∀ names p, g.plan names = .ok p → g.plan p.names = .ok p) ∧
    (g.planAll = .ok ⟨g.names⟩ ↔
      ∀ a b, g.Needs a b → ∃ i j, g.position? b = some i ∧ g.position? a = some j ∧ i < j) := by
  refine ⟨fun l => ?_, fun names p hp => ?_, ?_⟩
  · rw [plan_eq_self_iff, settled_reverse_iff]
  · exact plan_eq_self_iff.2 (settled_of_plan hp)
  · rw [planAll, plan_eq_self_iff, settled_names_iff]

end Graph

end Buildwright
