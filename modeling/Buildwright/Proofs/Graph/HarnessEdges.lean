import Buildwright.Proofs.Graph.Harness

/-!
# What adding a harness changes

Adding a harness goes through all targets and edits some of them in place. It edits exactly the
tests that miss the harness, and gives each of them one dependency more, at the end; all else is
left alone (`Catalog.Gains`). A target that has been edited misses the harness no longer, so that
adding it again does nothing. Whether a target misses one harness does not depend on another one, so
that of two harnesses either can be added first: only the order of the new dependencies differs
(`Catalog.addHarness_gains`).
-/

namespace Buildwright

/-! ### One target -/

namespace Target

variable {t : Target} {harness a b : String}

/-- `t.Misses harness`: the target is a test that should depend on the harness but does not list
it. -/
def Misses (t : Target) (harness : String) : Prop :=
  t.kind = .test ∧ t.name ≠ harness ∧ harness ∉ t.deps

instance (t : Target) (harness : String) : Decidable (t.Misses harness) :=
  inferInstanceAs (Decidable (_ ∧ _ ∧ _))

/-- `t.SameButOrder u`: the targets are the same but for the order of their dependencies. -/
def SameButOrder (t u : Target) : Prop := u = { t with deps := u.deps } ∧ t.deps.Perm u.deps

theorem lacksHarness_iff : t.lacksHarness harness = true ↔ t.Misses harness := by
  simp [lacksHarness, Misses, and_assoc]

theorem withHarness_of_misses (h : t.Misses harness) :
    t.withHarness harness = { t with deps := t.deps ++ [harness] } := by
  rw [withHarness, if_pos (lacksHarness_iff.2 h)]

theorem withHarness_of_not_misses (h : ¬ t.Misses harness) : t.withHarness harness = t := by
  rw [withHarness, if_neg (lacksHarness_iff.not.2 h)]

/-- A target changes exactly if it misses the harness. -/
theorem withHarness_ne_iff : t.withHarness harness ≠ t ↔ t.Misses harness := by
  refine ⟨fun h => ?_, fun h heq => ?_⟩
  · by_contra hm
    exact h (withHarness_of_not_misses hm)
  · rw [withHarness_of_misses h] at heq
    have hdeps : t.deps ++ [harness] = t.deps := congrArg (fun u : Target => u.deps) heq
    simp at hdeps

/-- With a harness, nothing misses it. -/
theorem not_misses_withHarness (t : Target) (harness : String) :
    ¬ (t.withHarness harness).Misses harness := by
  by_cases h : t.Misses harness
  · rw [withHarness_of_misses h]
    exact fun hm => hm.2.2 (List.mem_append_right _ (.head _))
  · rwa [withHarness_of_not_misses h]

theorem withHarness_withHarness (t : Target) (harness : String) :
    (t.withHarness harness).withHarness harness = t.withHarness harness :=
  withHarness_of_not_misses (not_misses_withHarness t harness)

/-- Whether a target misses one harness does not depend on another one. -/
theorem misses_withHarness_iff (hne : b ≠ a) : (t.withHarness a).Misses b ↔ t.Misses b := by
  rw [Misses, kind_withHarness, name_withHarness, mem_deps_withHarness]
  simp [hne, Misses]

/-- **Either of two harnesses can be added first**, for a single target. -/
theorem withHarness_comm (t : Target) (a b : String) :
    ((t.withHarness a).withHarness b).SameButOrder ((t.withHarness b).withHarness a) := by
  obtain rfl | hne := eq_or_ne a b
  · exact ⟨rfl, .rfl⟩
  have hab := misses_withHarness_iff (t := t) hne.symm
  have hba := misses_withHarness_iff (t := t) hne
  by_cases ha : t.Misses a
  · by_cases hb : t.Misses b
    · rw [withHarness_of_misses (hab.2 hb), withHarness_of_misses (hba.2 ha),
        withHarness_of_misses ha, withHarness_of_misses hb]
      refine ⟨rfl, ?_⟩
      simpa using (List.Perm.swap b a []).append_left t.deps
    · rw [withHarness_of_not_misses (hab.not.2 hb), withHarness_of_not_misses hb]
      exact ⟨rfl, .rfl⟩
  · rw [withHarness_of_not_misses (hba.not.2 ha), withHarness_of_not_misses ha]
    exact ⟨rfl, .rfl⟩

end Target

/-! ### All targets -/

namespace Catalog

variable {c : Catalog} {harness : String}

/-- How many dependencies the targets of a catalog list. -/
def edgeCount (c : Catalog) : Nat := (c.targets.toList.flatMap (·.deps)).length

/-- `c.Gains harness c' n`: the catalog `c'` is `c` with `n` new dependencies on the harness. The
index and the order of the targets are as before. A target is changed exactly if it misses the
harness, and then only by one dependency at the end; the harness itself is not changed. -/
structure Gains (c : Catalog) (harness : String) (c' : Catalog) (n : Nat) : Prop where
  positions : c'.positions = c.positions
  names : c'.names = c.names
  changed_iff : List.Forall₂ (fun t t' => t' ≠ t ↔ t.Misses harness) c.targets.toList
    c'.targets.toList
  appended : List.Forall₂ (fun t t' => t.Misses harness →
    t' = { t with deps := t.deps ++ [harness] }) c.targets.toList c'.targets.toList
  count : n = c.targets.toList.countP (·.Misses harness)
  edgeCount : c'.edgeCount = c.edgeCount + n
  get?_harness : c'.get? harness = c.get? harness

/-- `c.SameButOrder c'`: the catalogs are the same but for the order of dependencies. -/
structure SameButOrder (c c' : Catalog) : Prop where
  positions : c'.positions = c.positions
  targets : List.Forall₂ Target.SameButOrder c.targets.toList c'.targets.toList

theorem countLackingHarness_eq (c : Catalog) (harness : String) :
    c.countLackingHarness harness = c.targets.toList.countP (·.Misses harness) := by
  refine List.countP_congr fun t _ => ?_
  rw [Target.lacksHarness_iff, decide_eq_true_iff]

theorem names_withHarness (c : Catalog) (harness : String) :
    (c.withHarness harness).names = c.names := by
  rw [names, targets_withHarness, List.map_map, names]
  exact List.map_congr_left fun t _ => Target.name_withHarness harness t

/-- Each target that misses the harness adds one to the number of dependencies. -/
theorem edgeCount_withHarness (c : Catalog) (harness : String) :
    (c.withHarness harness).edgeCount = c.edgeCount + c.countLackingHarness harness := by
  rw [edgeCount, targets_withHarness, countLackingHarness_eq, edgeCount]
  induction c.targets.toList with
  | nil => rfl
  | cons t ts ih =>
    rw [List.map_cons, List.flatMap_cons, List.length_append, ih, List.flatMap_cons,
      List.length_append, List.countP_cons]
    by_cases h : t.Misses harness
    · rw [Target.withHarness_of_misses h, if_pos (decide_eq_true h), List.length_append,
        List.length_singleton]
      omega
    · rw [Target.withHarness_of_not_misses h, if_neg (by simpa using h)]
      omega

/-- The harness does not come to depend on itself. -/
theorem get?_withHarness_self (c : Catalog) (harness : String) :
    (c.withHarness harness).get? harness = c.get? harness := by
  rw [get?_withHarness]
  cases h : c.get? harness with
  | none => rfl
  | some t =>
    have hname : t.name = harness := (get?_eq_some_iff.1 h).2
    exact congrArg some (Target.withHarness_of_not_misses fun hm => hm.2.1 hname)

theorem gains_withHarness (c : Catalog) (harness : String) :
    c.Gains harness (c.withHarness harness) (c.countLackingHarness harness) where
  positions := rfl
  names := names_withHarness c harness
  changed_iff := by
    rw [targets_withHarness, List.forall₂_map_right_iff, List.forall₂_same]
    exact fun t _ => Target.withHarness_ne_iff
  appended := by
    rw [targets_withHarness, List.forall₂_map_right_iff, List.forall₂_same]
    exact fun t _ => Target.withHarness_of_misses
  count := countLackingHarness_eq c harness
  edgeCount := edgeCount_withHarness c harness
  get?_harness := get?_withHarness_self c harness

theorem withHarness_withHarness (c : Catalog) (harness : String) :
    (c.withHarness harness).withHarness harness = c.withHarness harness := by
  refine eq_of_targets_eq ?_ rfl
  rw [targets_withHarness, targets_withHarness, List.map_map]
  exact List.map_congr_left fun t _ => Target.withHarness_withHarness t harness

theorem countLackingHarness_withHarness (c : Catalog) (harness : String) :
    (c.withHarness harness).countLackingHarness harness = 0 := by
  rw [countLackingHarness_eq, targets_withHarness, List.countP_eq_zero]
  rintro _ hmem
  obtain ⟨t, -, rfl⟩ := List.mem_map.1 hmem
  simpa using Target.not_misses_withHarness t harness

theorem sameButOrder_withHarness (c : Catalog) (a b : String) :
    ((c.withHarness a).withHarness b).SameButOrder ((c.withHarness b).withHarness a) where
  positions := rfl
  targets := by
    simp only [targets_withHarness, List.map_map, List.forall₂_map_left_iff,
      List.forall₂_map_right_iff, List.forall₂_same]
    exact fun t _ => Target.withHarness_comm t a b

/-- **What adding a harness changes.** A declared harness can be added to any catalog. This changes
exactly the tests other than the harness that do not list it, each by one dependency at the end; the
answer is their number, by which the number of all dependencies grows; and the index, the order, the
harness itself and all that is not a dependency stay as they are. To add the harness again adds
nothing and changes nothing. Of two declared harnesses either can be added first: this makes no
difference but in the order of dependencies. -/
theorem addHarness_gains (declared : c.contains harness = true) :
    (∃ c' n, c.addHarness harness = .ok (c', n) ∧ c.Gains harness c' n ∧
      c'.addHarness harness = .ok (c', 0)) ∧
    ∀ other, c.contains other = true → ∃ c₁ c₂ c₁₂ c₂₁ n₁ n₂ m₁ m₂,
      c.addHarness harness = .ok (c₁, n₁) ∧ c₁.addHarness other = .ok (c₁₂, m₁) ∧
      c.addHarness other = .ok (c₂, n₂) ∧ c₂.addHarness harness = .ok (c₂₁, m₂) ∧
      c₁₂.SameButOrder c₂₁ := by
  refine ⟨⟨_, _, addHarness_of_contains declared, gains_withHarness c harness, ?_⟩,
    fun other hother => ⟨_, _, _, _, _, _, _, _, addHarness_of_contains declared,
      addHarness_of_contains hother, addHarness_of_contains hother,
      addHarness_of_contains declared, sameButOrder_withHarness c harness other⟩⟩
  have hagain : (c.withHarness harness).contains harness = true := declared
  rw [addHarness_of_contains hagain, withHarness_withHarness, countLackingHarness_withHarness]

/-- A harness that is a test itself, a library that could be one, and two tests, of which the second
lists the harness. -/
def rigged : Catalog :=
  ((((default : Catalog).push
    { name := "h", kind := .test, sources := ["h.c"] } (by decide) (by decide)).push
    { name := "q", kind := .library, sources := ["q.c"] } (by decide) (by decide)).push
    { name := "t", kind := .test, sources := ["t.c"], deps := ["q"] } (by decide) (by decide)).push
    { name := "v", kind := .test, sources := ["v.c"], deps := ["h"] } (by decide) (by decide)

/-- Of the three tests only one is changed. -/
theorem addHarness_rigged :
    rigged.contains "h" = true ∧ rigged.contains "q" = true ∧
    (∃ c', rigged.addHarness "h" = .ok (c', 1) ∧ rigged.Gains "h" c' 1 ∧
      c'.get? "t" = some { name := "t", kind := .test, sources := ["t.c"], deps := ["q", "h"] } ∧
      c'.addHarness "h" = .ok (c', 0)) ∧
    ∃ c₁ c₂ c₁₂ c₂₁ n₁ n₂ m₁ m₂,
      rigged.addHarness "h" = .ok (c₁, n₁) ∧ c₁.addHarness "q" = .ok (c₁₂, m₁) ∧
      rigged.addHarness "q" = .ok (c₂, n₂) ∧ c₂.addHarness "h" = .ok (c₂₁, m₂) ∧
      c₁₂.SameButOrder c₂₁ := by
  have hh : rigged.contains "h" = true := by decide
  have hk : rigged.contains "q" = true := by decide
  obtain ⟨⟨c', n, hadd, hgains, hagain⟩, hother⟩ := addHarness_gains hh
  have hn : n = 1 := hgains.count.trans (by decide)
  have hc' : c' = rigged.withHarness "h" :=
    (congrArg Prod.fst (Except.ok.inj (hadd.symm.trans (addHarness_of_contains hh))))
  subst hn
  refine ⟨hh, hk, ⟨c', hadd, hgains, ?_, hagain⟩, hother "q" hk⟩
  rw [hc']
  cbv

end Catalog

end Buildwright
