import Buildwright.Graph.Plan
import Mathlib.Data.List.Chain
import Mathlib.Logic.Relation

/-!
# Dependencies

What it means for a target to depend on another one, directly or through others, and what an order
of building is. `Settled` describes such an order from its end: the latest target first, each one in
front of everything it depends on. A settled list is closed under dependencies, holds no circle
(`Settled.acyclic`), and carries an induction from the dependencies to the dependents
(`Settled.induction`), which is how facts about a whole plan are proved.
-/

namespace Buildwright

/-! ### Positions in a plan -/

namespace Plan

variable {a : String} {before : List String}

theorem position?_append_cons (h : a ∉ before) (after : List String) :
    position? ⟨before ++ a :: after⟩ a = some before.length := by
  have hn : before.findIdx? (· = a) = none := by
    rw [List.findIdx?_eq_none_iff]
    intro x hx
    rw [decide_eq_false_iff_not]
    rintro rfl
    exact h hx
  simp [position?, List.findIdx?_append, hn, List.findIdx?_cons]

theorem position?_of_mem_left (h : a ∈ before) (after : List String) :
    ∃ i, position? ⟨before ++ after⟩ a = some i ∧ i < before.length := by
  obtain ⟨i, hi⟩ : ∃ i, before.findIdx? (· = a) = some i :=
    ⟨_, List.findIdx?_eq_some_of_exists ⟨a, h, by simp⟩⟩
  refine ⟨i, by simp [position?, List.findIdx?_append, hi], ?_⟩
  obtain ⟨hlt, -⟩ := List.findIdx?_eq_some_iff_getElem.1 hi
  exact hlt

end Plan

namespace Graph

open Relation

variable {g : Graph}

/-! ### The relation -/

/-- `g.Needs a b`: the target `a` lists `b` among its dependencies. -/
def Needs (g : Graph) (a b : String) : Prop := ∃ t, g.get? a = some t ∧ b ∈ t.deps

/-- `g.Reaches a b`: `b` is `a`, or `a` depends on it directly or through others. -/
abbrev Reaches (g : Graph) : String → String → Prop := ReflTransGen g.Needs

/-- `g.DependsOn a b`: `a` depends on `b` directly or through others. -/
abbrev DependsOn (g : Graph) : String → String → Prop := TransGen g.Needs

/-- A circle can be reached from a target. -/
def Circular (g : Graph) (name : String) : Prop := ∃ m, g.Reaches name m ∧ g.DependsOn m m

/-- A name that cannot be planned: it is not declared, or a circle can be reached from it. -/
def Faulty (g : Graph) (name : String) : Prop := g.contains name = false ∨ g.Circular name

/-- `g.IsCircle path`: a walk along dependencies that ends where it began and meets no other target
twice. -/
structure IsCircle (g : Graph) (path : List String) : Prop where
  chain : path.IsChain g.Needs
  closed : ∃ a rest, path = a :: rest ++ [a] ∧ (a :: rest).Nodup

theorem contains_eq_false_iff {name : String} : g.contains name = false ↔ g.get? name = none := by
  rw [← Bool.not_eq_true, Catalog.contains_iff_get?, Option.eq_none_iff_forall_ne_some]
  exact not_exists

/-- Every dependency is declared. -/
theorem Needs.contains_right {a b : String} (h : g.Needs a b) : g.contains b = true := by
  obtain ⟨t, ht, hb⟩ := h
  exact g.closed t (Catalog.get?_eq_some_iff.1 ht).1 b hb

theorem needs_iff {a b : String} {t : Target} (h : g.get? a = some t) :
    g.Needs a b ↔ b ∈ t.deps := by
  constructor
  · rintro ⟨u, hu, hb⟩
    rw [h, Option.some.injEq] at hu
    exact hu ▸ hb
  · exact fun hb => ⟨t, h, hb⟩

/-- A target is found under its own name. -/
theorem name_of_get? {a : String} {t : Target} (h : g.get? a = some t) : t.name = a :=
  (Catalog.get?_eq_some_iff.1 h).2

theorem find_of_get? {a : String} {t : Target} (h : g.get? a = some t) : g.find a = .ok t := by
  rw [Catalog.find, h]

theorem find_of_contains_eq_false {a : String} (h : g.contains a = false) :
    g.find a = .error (.unknownTarget a none) := by
  rw [Catalog.find, contains_eq_false_iff.1 h]

/-- A walk that ends where it began makes its first name depend on itself. -/
theorem transGen_of_isChain {r : String → String → Prop} {a : String} {rest : List String}
    (h : (a :: rest ++ [a]).IsChain r) : TransGen r a a := by
  have hc : (a :: (rest ++ [a])).IsChain (TransGen r) := by
    simpa using h.imp fun _ _ => TransGen.single
  exact hc.rel_cons (by simp)

/-- A circle shows itself at its first target. -/
theorem IsCircle.dependsOn {path : List String} (h : g.IsCircle path) :
    ∃ a, path.head? = some a ∧ g.DependsOn a a := by
  obtain ⟨a, rest, rfl, -⟩ := h.closed
  exact ⟨a, by simp, transGen_of_isChain h.chain⟩

/-! ### Orders of building -/

/-- `g.Settled l`: the targets of `l` could be built in the reverse of their order. Each one is
declared, stands once, and has everything it depends on behind it. -/
inductive Settled (g : Graph) : List String → Prop where
  /-- Nothing is built. -/
  | nil : Settled g []
  /-- A target is built when everything it depends on has been. -/
  | cons {name : String} {t : Target} {older : List String} : g.get? name = some t →
      (∀ d ∈ t.deps, d ∈ older) → name ∉ older → Settled g older → Settled g (name :: older)

namespace Settled

variable {l : List String}

theorem nodup (h : g.Settled l) : l.Nodup := by
  induction h with
  | nil => exact List.nodup_nil
  | cons _ _ hn _ ih => exact List.nodup_cons.2 ⟨hn, ih⟩

theorem contains (h : g.Settled l) {a : String} (ha : a ∈ l) : g.contains a = true := by
  induction h with
  | nil => cases ha
  | cons ht _ _ _ ih =>
    rcases List.mem_cons.1 ha with rfl | ha
    · exact Catalog.contains_iff_get?.2 ⟨_, ht⟩
    · exact ih ha

/-- A target stands in front of everything it depends on. -/
theorem split (h : g.Settled l) {a b : String} (ha : a ∈ l) (hab : g.Needs a b) :
    ∃ newer older, l = newer ++ a :: older ∧ b ∈ older := by
  induction h with
  | nil => cases ha
  | @cons name t older ht hd hn _ ih =>
    rcases List.mem_cons.1 ha with rfl | ha
    · exact ⟨[], older, rfl, hd b ((needs_iff ht).1 hab)⟩
    · obtain ⟨newer, rest, rfl, hb⟩ := ih ha
      exact ⟨name :: newer, rest, rfl, hb⟩

theorem mem_of_needs (h : g.Settled l) {a b : String} (ha : a ∈ l) (hab : g.Needs a b) :
    b ∈ l := by
  obtain ⟨newer, older, rfl, hb⟩ := h.split ha hab
  exact List.mem_append_right _ (.tail _ hb)

/-- Whatever a settled target depends on is settled. -/
theorem mem_of_reaches (h : g.Settled l) {a b : String} (ha : a ∈ l) (hab : g.Reaches a b) :
    b ∈ l := by
  induction hab with
  | refl => exact ha
  | tail _ hbc ih => exact h.mem_of_needs ih hbc

/-- **Induction from dependencies to dependents**: what holds of a target as soon as it holds of
all of its dependencies holds of every settled target. -/
theorem induction (h : g.Settled l) {P : String → Prop}
    (step : ∀ a ∈ l, (∀ b, g.Needs a b → P b) → P a) : ∀ a ∈ l, P a := by
  induction h with
  | nil => simp
  | @cons name t older ht hd hn ho ih =>
    have hold : ∀ a ∈ older, P a := ih fun a ha => step a (.tail _ ha)
    intro a ha
    rcases List.mem_cons.1 ha with rfl | ha
    · exact step a (.head _) fun b hb => hold b (hd b ((needs_iff ht).1 hb))
    · exact hold a ha

/-- No settled target depends on itself. -/
theorem acyclic (h : g.Settled l) : ∀ a ∈ l, ¬ g.DependsOn a a := by
  refine h.induction fun a _ ih hc => ?_
  obtain ⟨b, hab, hba⟩ := TransGen.head'_iff.1 hc
  exact ih b hab (TransGen.tail' hba hab)

/-- No circle can be reached from a settled target. -/
theorem not_faulty (h : g.Settled l) {a : String} (ha : a ∈ l) : ¬ g.Faulty a := by
  rintro (hn | ⟨m, ham, hm⟩)
  · rw [h.contains ha] at hn
    cases hn
  · exact h.acyclic m (h.mem_of_reaches ha ham) hm

/-- In the order of building, a target comes after everything it depends on. -/
theorem position_lt (h : g.Settled l) {a b : String} (ha : a ∈ l) (hab : g.Needs a b) :
    ∃ i j, Plan.position? ⟨l.reverse⟩ b = some i ∧ Plan.position? ⟨l.reverse⟩ a = some j ∧
      i < j := by
  obtain ⟨newer, older, rfl, hb⟩ := h.split ha hab
  have hn : a ∉ older := (List.nodup_cons.1 (List.nodup_append.1 h.nodup).2.1).1
  have hr : (newer ++ a :: older).reverse = older.reverse ++ a :: newer.reverse := by simp
  obtain ⟨i, hi, hlt⟩ := Plan.position?_of_mem_left (List.mem_reverse.2 hb) (a :: newer.reverse)
  rw [hr]
  exact ⟨i, _, hi, Plan.position?_append_cons (by simpa using hn) newer.reverse, hlt⟩

end Settled

end Graph

end Buildwright
