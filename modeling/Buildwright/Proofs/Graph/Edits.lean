import Buildwright.Proofs.Fallible
import Buildwright.Target.Catalog
import Mathlib.Data.List.Induction

/-!
# What edits leave behind

An edit of a catalog checks and writes in turn, and the catalog that it leaves behind when it fails
need not be the one that it began with. Declaring a target and adding a harness do all of their
checks before they write, so that either changes everything or nothing (`Edit.IsAtomic`). A harness
is given to one target after the other; the loop never fails, and what it comes to is the catalog in
which every test has the harness (`Edit.run_addHarness`).
-/

namespace Buildwright

namespace Catalog

variable {c c' : Catalog} {t : Target} {harness : String}

/-! ### Every test has the harness -/

/-- The catalog with a harness behind the dependencies of every test that lacks it. -/
def withHarness (c : Catalog) (harness : String) : Catalog where
  targets := c.targets.map (·.withHarness harness)
  positions := c.positions
  positions_iff name i := by
    rw [c.positions_iff, Array.getElem?_map, Option.map_map]
    simp [Function.comp_def]
  defect?_eq_none u member := by
    obtain ⟨t, declared, rfl⟩ := Array.mem_map.1 member
    rw [Target.defect?_withHarness]
    exact c.defect?_eq_none t declared

/-- How many tests lack a harness. -/
def countLackingHarness (c : Catalog) (harness : String) : Nat :=
  c.targets.toList.countP (·.lacksHarness harness)

@[simp]
theorem contains_withHarness (c : Catalog) (harness name : String) :
    (c.withHarness harness).contains name = c.contains name := rfl

theorem targets_withHarness (c : Catalog) (harness : String) :
    (c.withHarness harness).targets.toList = c.targets.toList.map (·.withHarness harness) :=
  Array.toList_map

/-- Giving the harness to the target behind some others. -/
theorem targets_withHarnessAt {before after : List Target}
    (h : c.targets.toList = before ++ t :: after) :
    (c.withHarnessAt harness before.length).targets.toList =
      before ++ t.withHarness harness :: after := by
  rw [withHarnessAt, Array.toList_modify, h, List.modify_eq_take_drop]
  simp

/-- A catalog is its targets and its index. -/
theorem eq_of_targets_eq (htargets : c'.targets.toList = c.targets.toList)
    (hpositions : c'.positions = c.positions) : c' = c := by
  have htargets : c'.targets = c.targets := Array.toList_inj.1 htargets
  cases c
  cases c'
  cases htargets
  cases hpositions
  rfl

/-! ### Edits -/

namespace Edit

/-- An edit that leaves a catalog as it was if it fails. -/
def IsAtomic {α : Type} (edit : Edit α) : Prop :=
  ∀ c e c', edit.run c = .error e c' → c' = c

/-- The value of an edit does not matter for what it leaves behind. -/
theorem run_discard {α : Type} (edit : Edit α) (c : Catalog) : (discard edit).run c =
    match edit.run c with
    | .ok _ c' => .ok () c'
    | .error e c' => .error e c' := by
  change EStateM.map (Function.const α PUnit.unit) edit c = _
  rw [EStateM.map, EStateM.run]
  cases edit c <;> rfl

theorem IsAtomic.discard {α : Type} {edit : Edit α} (h : edit.IsAtomic) :
    (Functor.discard edit).IsAtomic := by
  intro c e c' hrun
  rw [run_discard] at hrun
  split at hrun
  · cases hrun
  · next hedit =>
    obtain ⟨rfl, rfl⟩ := EStateM.Result.error.inj hrun
    exact h c _ _ hedit

theorem run_declare_of_defect {defect : Defect} (h : t.defect? = some defect) (c : Catalog) :
    (declare t).run c = .error (.invalidTarget t.name t.kind.name defect.message) c := by
  rw [declare]
  split
  · next hd =>
    obtain rfl := Option.some.inj (h.symm.trans hd)
    rfl
  · next hd => cases h.symm.trans hd

theorem run_declare_of_sound (sound : t.defect? = none) (c : Catalog) : (declare t).run c =
    if taken : c.contains t.name then .error (.duplicateName t.name) c
    else .ok () (c.push t sound (Bool.not_eq_true _ ▸ taken)) := by
  rw [declare]
  split
  · next hd => cases sound.symm.trans hd
  · rw [EStateM.run_bind, EStateM.run_get]
    dsimp only
    split <;> rfl

theorem isAtomic_declare (t : Target) : (declare t).IsAtomic := by
  intro c e c' h
  cases hd : t.defect? with
  | some defect =>
    rw [run_declare_of_defect hd] at h
    exact (EStateM.Result.error.inj h).2.symm
  | none =>
    rw [run_declare_of_sound hd] at h
    split at h
    · exact (EStateM.Result.error.inj h).2.symm
    · cases h

/-- Giving the harness to the next target. -/
theorem run_addHarnessUpTo_succ {n added : Nat} (hc : c.targets[n]? = some t)
    {edited : Catalog} (hrun : (addHarnessUpTo harness n).run edited = .ok added c) :
    (addHarnessUpTo harness (n + 1)).run edited =
      if t.lacksHarness harness then .ok (added + 1) (c.withHarnessAt harness n)
      else .ok added c := by
  rw [addHarnessUpTo, EStateM.run_bind, hrun]
  simp only [EStateM.run_bind, EStateM.run_get, hc, Option.any_some]
  split <;> rfl

/-- Going through the first targets changes these, and leaves the others as they were. -/
theorem run_addHarnessUpTo (harness : String) {before after : List Target}
    (h : c.targets.toList = before ++ after) :
    ∃ c', (addHarnessUpTo harness before.length).run c =
        .ok (before.countP (·.lacksHarness harness)) c' ∧
      c'.positions = c.positions ∧
      c'.targets.toList = before.map (·.withHarness harness) ++ after := by
  induction before using List.reverseRec generalizing after with
  | nil => exact ⟨c, rfl, rfl, h⟩
  | append_singleton before t ih =>
    obtain ⟨c', hrun, hpositions, htargets⟩ := ih (h.trans (List.append_assoc _ _ _))
    have hlength : (before.map (·.withHarness harness)).length = before.length := List.length_map _
    have ht : c'.targets[before.length]? = some t := by
      rw [← Array.getElem?_toList, htargets, ← hlength]
      simp
    rw [List.length_append, List.length_singleton, run_addHarnessUpTo_succ ht hrun,
      List.countP_append, List.countP_singleton, List.map_append, List.append_assoc]
    split
    · refine ⟨c'.withHarnessAt harness before.length, rfl, hpositions, ?_⟩
      exact hlength ▸ targets_withHarnessAt htargets
    · next hl =>
      refine ⟨c', rfl, hpositions, ?_⟩
      rw [htargets, List.map_singleton, Target.withHarness, if_neg hl]

/-- **Adding a harness** comes to the catalog in which every test has it. -/
theorem run_addHarness (harness : String) (c : Catalog) : (addHarness harness).run c =
    if c.contains harness then .ok (c.countLackingHarness harness) (c.withHarness harness)
    else .error (.missingHarness harness) c := by
  obtain ⟨c', hrun, hpositions, htargets⟩ :=
    run_addHarnessUpTo harness (List.append_nil c.targets.toList).symm
  rw [List.append_nil] at htargets
  obtain rfl : c' = c.withHarness harness :=
    eq_of_targets_eq (htargets.trans (targets_withHarness c harness).symm) hpositions
  rw [addHarness, EStateM.run_bind, EStateM.run_get]
  dsimp only
  split
  · exact hrun
  · rfl

theorem isAtomic_addHarness (harness : String) : (addHarness harness).IsAtomic := by
  intro c e c' h
  rw [run_addHarness] at h
  split at h
  · cases h
  · exact (EStateM.Result.error.inj h).2.symm

end Edit

/-! ### Calls -/

theorem declare_of_defect {defect : Defect} (h : t.defect? = some defect) :
    c.declare t = .error (.invalidTarget t.name t.kind.name defect.message) := by
  rw [declare, Edit.result, Edit.run_declare_of_defect h]
  rfl

theorem declare_of_taken (sound : t.defect? = none) (taken : c.contains t.name = true) :
    c.declare t = .error (.duplicateName t.name) := by
  rw [declare, Edit.result, Edit.run_declare_of_sound sound, dif_pos taken]
  rfl

theorem declare_of_free (sound : t.defect? = none) (free : c.contains t.name = false) :
    c.declare t = .ok (c.push t sound free) := by
  rw [declare, Edit.result, Edit.run_declare_of_sound sound, dif_neg (by simp [free])]
  rfl

theorem addHarness_of_contains (h : c.contains harness = true) :
    c.addHarness harness = .ok (c.withHarness harness, c.countLackingHarness harness) := by
  rw [addHarness, Edit.result, Edit.run_addHarness, if_pos h]

theorem addHarness_of_undeclared (h : c.contains harness = false) :
    c.addHarness harness = .error (.missingHarness harness) := by
  rw [addHarness, Edit.result, Edit.run_addHarness, if_neg (by simp [h])]

end Catalog

end Buildwright
