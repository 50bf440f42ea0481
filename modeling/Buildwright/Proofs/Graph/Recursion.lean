import Buildwright.Proofs.Fallible
import Buildwright.Proofs.Graph.Walk

/-!
# The walk as a recursion

A depth-first walk can be said in a few lines, if calls may be nested: a target is visited by
visiting its dependencies, and it is finished behind them (`Graph.search`). The walk with a stack
of its own comes to the same order for every list of roots, and to the same error with the same
circle (`Graph.closure_eq_postOrder`). A call of the recursion answers to the rounds of the walk
from the moment at which the dependency is in front of the cursor up to the moment at which the
cursor has moved on (`Walk.Does`); the path of the nested calls is the stack from its bottom.
-/

namespace Buildwright

namespace Graph

variable {g : Graph} {name : String} {path : List String} {t : Target}

/-! ### The recursion -/

/-- How many targets are not on a path. -/
def offPath (g : Graph) (path : List String) : Nat :=
  g.targets.toList.countP fun t => t.name ∉ path

theorem offPath_append_lt (declared : g.get? name = some t) (new : name ∉ path) :
    g.offPath (path ++ [name]) < g.offPath path := by
  obtain ⟨member, rfl⟩ := Catalog.get?_eq_some_iff.1 declared
  refine countP_lt_countP (fun u _ h => ?_) (Array.mem_toList_iff.2 member) ?_ ?_
  · simp only [List.mem_append, not_or, decide_eq_true_eq] at h ⊢
    exact h.1
  · simpa using new
  · simp

/-- Visits a target and everything it depends on. The targets on `path` are being visited, each on
behalf of the one before it; those in `done` have been visited, and the result continues them. -/
def search (g : Graph) (path done : List String) (name : String) :
    Except BuildError (List String) :=
  if name ∈ done then .ok done
  else if _open : name ∈ path then .error (.cycle (path.dropWhile (· ≠ name) ++ [name]))
  else
    match _found : g.get? name with
    | none => .error (.unknownTarget name none)
    | some t => do
      let done ← t.deps.foldlM (fun done dep => search g (path ++ [name]) done dep) done
      return done ++ [name]
  termination_by g.offPath path
  decreasing_by exact offPath_append_lt _found _open

/-! What a call comes to, case by case. -/

section

variable {done : List String}

theorem search_of_mem_done (hd : name ∈ done) : g.search path done name = .ok done := by
  rw [search, if_pos hd]

theorem search_of_mem_path (hd : name ∉ done) (hp : name ∈ path) : g.search path done name =
    .error (.cycle (path.dropWhile (· ≠ name) ++ [name])) := by
  rw [search, if_neg hd, dif_pos hp]

theorem search_of_get?_eq_none (hd : name ∉ done) (hp : name ∉ path) (hf : g.get? name = none) :
    g.search path done name = .error (.unknownTarget name none) := by
  rw [search, if_neg hd, dif_neg hp]
  split
  · rfl
  · next hs =>
    rw [hf] at hs
    cases hs

theorem search_of_get? (hd : name ∉ done) (hp : name ∉ path) (hf : g.get? name = some t) :
    g.search path done name =
      t.deps.foldlM (g.search (path ++ [name])) done >>= fun done => .ok (done ++ [name]) := by
  rw [search, if_neg hd, dif_neg hp]
  split
  · next hn =>
    rw [hf] at hn
    cases hn
  · next u hu =>
    obtain rfl : t = u := Option.some.inj (hf.symm.trans hu)
    rfl

end

/-- The targets with the given names and everything they depend on, one name after another. -/
def postOrder (g : Graph) (names : List String) : Except BuildError (List String) :=
  names.foldlM (g.search []) []

end Graph

namespace Walk

variable {g : Graph} {w w' : Walk} {frames : List Frame}

/-! ### Following the recursion -/

theorem Sound.steps (h : Sound g w) (hs : Steps g w w') : Sound g w' := by
  induction hs with
  | refl => exact h
  | tail _ hs ih => exact ih.step hs

/-- A round of the walk does not change what it comes to. -/
theorem run_eq_of_step (hs : Step g w w') : run g w = run g w' := by
  cases hs with
  | finish =>
    rw [run]
    rfl
  | skip hm =>
    rw [run]
    dsimp only
    split <;> simp_all
  | enter hm hf =>
    rw [run]
    dsimp only
    split
    · simp_all
    · simp_all
    · split <;> simp_all [push]

theorem run_eq_of_steps (hs : Steps g w w') : run g w = run g w' := by
  induction hs with
  | refl => rfl
  | tail _ hs ih => exact ih.trans (run_eq_of_step hs)

theorem run_of_stuck {e : BuildError} (hs : Stuck g w e) : run g w = .error e := by
  cases hs with
  | circle hm =>
    rw [run]
    dsimp only
    split <;> simp_all
  | unknown hm hf =>
    rw [run]
    dsimp only
    split
    · simp_all
    · simp_all
    · split <;> simp_all

/-- A target that is neither open nor finished has no mark. -/
theorem Sound.unmarked (h : Sound g w) {n : String} (ho : n ∉ w.opened) (hf : n ∉ w.finished) :
    w.marks[n]? = none := by
  cases hm : w.marks[n]? with
  | none => rfl
  | some mark =>
    cases mark with
    | opened => exact absurd ((h.opened_iff n).1 hm) ho
    | finished => exact absurd ((h.finished_iff n).1 hm) hf

/-- `Does g w frames r`: from `w` the walk comes to what `r` says. If that is an order, the stack
is then `frames` and the order is that of the finished targets; if it is an error, the walk is stuck
with it. -/
def Does (g : Graph) (w : Walk) (frames : List Frame) : Except BuildError (List String) → Prop
  | .ok done => ∃ marks, Steps g w ⟨marks, frames, done.reverse⟩
  | .error e => ∃ w', Steps g w w' ∧ Stuck g w' e

namespace Does

variable {r : Except BuildError (List String)}

/-- Rounds before the recursion is followed. -/
theorem head (hs : Steps g w w') (h : Does g w' frames r) : Does g w frames r := by
  cases r with
  | ok done =>
    obtain ⟨marks, h⟩ := h
    exact ⟨marks, hs.trans h⟩
  | error e =>
    obtain ⟨w₁, h, hk⟩ := h
    exact ⟨w₁, hs.trans h, hk⟩

/-- One part of the recursion is followed after the other. -/
theorem bind {frames' : List Frame} {f : List String → Except BuildError (List String)}
    (h : Does g w frames r)
    (hf : ∀ marks done, Steps g w ⟨marks, frames, done.reverse⟩ →
      Does g ⟨marks, frames, done.reverse⟩ frames' (f done)) : Does g w frames' (r >>= f) := by
  cases r with
  | ok done =>
    obtain ⟨marks, hs⟩ := h
    exact (hf marks done hs).head hs
  | error e => exact h

end Does

/-- If the walk follows `f` for every dependency in front of the cursor, it follows `f` for all that
are left. -/
theorem does_foldlM {t : Target} {f : List String → String → Except BuildError (List String)}
    (hf : ∀ marks dep rest done,
      Sound g ⟨marks, ⟨t, dep :: rest⟩ :: frames, done.reverse⟩ →
      Does g ⟨marks, ⟨t, dep :: rest⟩ :: frames, done.reverse⟩ (⟨t, rest⟩ :: frames) (f done dep))
    (deps : List String) (marks : Std.TreeMap String Mark) (done : List String)
    (h : Sound g ⟨marks, ⟨t, deps⟩ :: frames, done.reverse⟩) :
    Does g ⟨marks, ⟨t, deps⟩ :: frames, done.reverse⟩ (⟨t, []⟩ :: frames)
      (deps.foldlM f done) := by
  induction deps generalizing marks done with
  | nil => exact ⟨marks, .refl⟩
  | cons dep deps ih =>
    rw [List.foldlM_cons]
    exact (hf marks dep deps done h).bind fun marks' done' hs => ih marks' done' (h.steps hs)

/-- If the walk follows `f` for the dependencies of an open target, it finishes the target behind
them. -/
theorem does_target {t : Target} {f : List String → String → Except BuildError (List String)}
    (hf : ∀ marks dep rest done,
      Sound g ⟨marks, ⟨t, dep :: rest⟩ :: frames, done.reverse⟩ →
      Does g ⟨marks, ⟨t, dep :: rest⟩ :: frames, done.reverse⟩ (⟨t, rest⟩ :: frames) (f done dep))
    (marks : Std.TreeMap String Mark) (done : List String)
    (h : Sound g ⟨marks, ⟨t, t.deps⟩ :: frames, done.reverse⟩) :
    Does g ⟨marks, ⟨t, t.deps⟩ :: frames, done.reverse⟩ frames
      (do return (← t.deps.foldlM f done) ++ [t.name]) := by
  refine (does_foldlM hf t.deps marks done h).bind fun marks' done' _ => ?_
  refine ⟨marks'.insert t.name .finished, .single ?_⟩
  rw [List.reverse_append]
  exact .finish

/-- **The walk follows the recursion** from the moment at which a dependency is in front of the
cursor. -/
theorem does_search (path done : List String) (name : String) {marks t rest frames}
    (h : Sound g ⟨marks, ⟨t, name :: rest⟩ :: frames, done.reverse⟩)
    (hp : path = (opened ⟨marks, ⟨t, name :: rest⟩ :: frames, done.reverse⟩).reverse) :
    Does g ⟨marks, ⟨t, name :: rest⟩ :: frames, done.reverse⟩ (⟨t, rest⟩ :: frames)
      (g.search path done name) := by
  fun_induction Graph.search g path done name generalizing marks t rest frames with
  | case1 path done name hd =>
    have hm := (h.finished_iff name).2 (List.mem_reverse.2 hd)
    exact ⟨marks, .single (.skip hm)⟩
  | case2 path done name _ ho =>
    have hm := (h.opened_iff name).2 (List.mem_reverse.1 (hp ▸ ho))
    refine ⟨_, .refl, ?_⟩
    rw [hp, ← circle_eq_dropWhile]
    exact .circle hm
  | case3 path done name hd ho hf =>
    have hm : marks[name]? = none :=
      h.unmarked (fun hc => ho (hp ▸ List.mem_reverse.2 hc)) fun hc => hd (List.mem_reverse.1 hc)
    exact ⟨_, .refl, .unknown hm hf⟩
  | case4 path done name hd ho next hf ih =>
    obtain rfl : next.name = name := Graph.name_of_get? hf
    have hm : marks[next.name]? = none :=
      h.unmarked (fun hc => ho (hp ▸ List.mem_reverse.2 hc)) fun hc => hd (List.mem_reverse.1 hc)
    refine .head (.single (.enter hm hf)) (does_target (fun marks' dep rest' done' h' => ?_) _ done
      (h.enter hm hf))
    exact ih done' dep h' (by simp [hp, opened])

/-! ### Roots -/

/-- A walk that follows the recursion down to an empty stack comes to what the recursion says. -/
theorem Does.run_eq {r : Except BuildError (List String)} (h : Does g w [] r) :
    (run g w).map (·.finished.reverse) = r := by
  cases r with
  | ok done =>
    obtain ⟨marks, hs⟩ := h
    rw [run_eq_of_steps hs, run]
    exact congrArg Except.ok (List.reverse_reverse done)
  | error e =>
    obtain ⟨w', hs, hk⟩ := h
    rw [run_eq_of_steps hs, run_of_stuck hk]
    rfl

/-- Visiting a root comes to what the recursion says. -/
theorem visit_eq_search (h : AtRest g w) (root : String) :
    (visit g w root).map (·.finished.reverse) = g.search [] w.finished.reverse root := by
  rw [visit, Graph.search]
  by_cases hm : w.marks.contains root = true
  · rw [if_pos hm, if_pos (List.mem_reverse.2 (h.mem_finished_iff.2 hm))]
    rfl
  rw [if_neg hm, if_neg fun hd => hm (h.mem_finished_iff.1 (List.mem_reverse.1 hd)),
    dif_neg List.not_mem_nil]
  split
  · next hf =>
    rw [Graph.find_of_contains_eq_false (Graph.contains_eq_false_iff.2 hf)]
    rfl
  · next t hf =>
    have hmark : w.marks[root]? = none :=
      Std.TreeMap.getElem?_eq_none_of_contains_eq_false (Bool.eq_false_iff.2 hm)
    have hs := (h.from_push h.stack_eq_nil hf hmark).toSound
    obtain ⟨marks, stack, finished⟩ := w
    obtain rfl : stack = [] := h.stack_eq_nil
    obtain rfl : t.name = root := Graph.name_of_get? hf
    obtain ⟨done, rfl⟩ : ∃ done : List String, finished = done.reverse :=
      ⟨finished.reverse, finished.reverse_reverse.symm⟩
    rw [Graph.find_of_get? hf, List.reverse_reverse]
    refine Does.run_eq (does_target (fun marks' dep rest done' h' => ?_) _ done hs)
    exact does_search [t.name] done' dep h' rfl

/-- Visiting several roots comes to what the recursion says of one after another. -/
theorem foldlM_visit_eq_search (roots : List String) (h : AtRest g w) :
    (roots.foldlM (visit g) w).map (·.finished.reverse) =
      roots.foldlM (g.search []) w.finished.reverse := by
  induction roots generalizing w with
  | nil => rfl
  | cons root roots ih =>
    rw [List.foldlM_cons, List.foldlM_cons, ← visit_eq_search h root]
    rcases visit_cases h root with ⟨w', new, hv, h', -⟩ | ⟨e, hv, -⟩
    · rw [hv]
      exact ih h'
    · rw [hv]
      rfl

end Walk

namespace Graph

/-- A closure is found by calls of the recursion, one for each name. -/
theorem closure_eq_foldlM_search (g : Graph) (names : List String) :
    g.closure names = names.foldlM (g.search []) [] :=
  Walk.foldlM_visit_eq_search names (Walk.atRest_empty g)

/-- **The walk is the recursion**: for every list of names, declared or not, and whether or not
there are circles, the walk with a stack of its own finishes the same targets in the same order as
the nested visits do, or it fails with the same error. -/
theorem closure_eq_postOrder (g : Graph) (names : List String) :
    g.closure names = g.postOrder names :=
  Walk.foldlM_visit_eq_search names (Walk.atRest_empty g)

end Graph

end Buildwright
