import Buildwright.Proofs.Graph.Plan

/-!
# What a target is linked with

The libraries of an environment come from an order of building, read backwards and without the
targets that have no archive. The order of building puts everything that a target depends on behind
it, directly or not, so a library keeps its place in front of the ones it needs even if what leads
to them is not linked itself (`libraries_linkable`).
-/

namespace Buildwright

/-- A target has an archive if it is a library with sources. -/
theorem Target.isArchive_iff {t : Target} :
    t.isArchive = true ↔ t.kind = .library ∧ t.sources ≠ [] := by
  unfold isArchive hasArtifact
  cases t.kind <;> simp [Kind.isExecutable]

namespace Graph

open Relation

variable {g : Graph} {name : String} {env : BuildEnvironment}

/-- In an order of building, read from its end, a target stands in front of everything it depends
on, directly or through others. -/
theorem Settled.sublist_of_dependsOn {l : List String} (h : g.Settled l) {a b : String}
    (ha : a ∈ l) (hab : g.DependsOn a b) : [a, b].Sublist l := by
  induction h with
  | nil => cases ha
  | @cons name t older ht hd _ ho ih =>
    rcases List.mem_cons.1 ha with rfl | ha
    · obtain ⟨c, hac, hcb⟩ := TransGen.head'_iff.1 hab
      have hb : b ∈ older := ho.mem_of_reaches (hd c ((needs_iff ht).1 hac)) hcb
      exact (List.singleton_sublist.2 hb).cons_cons a
    · exact (ih ha).cons name

/-- An environment is made of the target and everything it depends on, in an order of building. -/
theorem members_of_environment (h : g.environment name = .ok env) :
    ∃ root members, g.get? name = some root ∧ (∀ t ∈ members, g.get? t.name = some t) ∧
      g.closure [name] = .ok (members.map (·.name)) ∧ env = g.environmentOf root members := by
  obtain ⟨l, hc, h⟩ := bind_eq_ok_iff.1 h
  obtain ⟨members, hms, h⟩ := bind_eq_ok_iff.1 h
  obtain ⟨root, hroot, h⟩ := bind_eq_ok_iff.1 h
  obtain ⟨hset, hmem⟩ := settled_of_closure hc
  have hdecl : ∀ n ∈ l, g.contains n = true := fun n hn => hset.contains (List.mem_reverse.2 hn)
  obtain ⟨ts, hts, rfl, hget⟩ := mapM_find_of_forall hdecl
  obtain rfl : ts = members := Except.ok.inj (hts.symm.trans hms)
  obtain ⟨t, ht⟩ := Catalog.contains_iff_get?.1 (hdecl name ((hmem name).2 ⟨name, by simp, .refl⟩))
  obtain rfl : t = root := Except.ok.inj ((find_of_get? ht).symm.trans hroot)
  exact ⟨t, ts, ht, hget, hc, (Except.ok.inj h).symm⟩

/-- Whether the target with a given name is linked into `root`. -/
def isLinkedInto (g : Graph) (root name : String) : Bool :=
  name ≠ root && (g.get? name).any Target.isArchive

theorem isLinkedInto_iff {root : String} : g.isLinkedInto root name = true ↔
    name ≠ root ∧ ∃ t, g.get? name = some t ∧ t.kind = .library ∧ t.sources ≠ [] := by
  simp only [isLinkedInto, Bool.and_eq_true, decide_eq_true_eq, Option.any_eq_true,
    Target.isArchive_iff]

/-- The libraries of an environment are those of an order of building, latest first. -/
theorem libraries_eq_filter (h : g.environment name = .ok env) :
    ∃ l, g.closure [name] = .ok l ∧ env.libraries = l.reverse.filter (g.isLinkedInto name) := by
  obtain ⟨root, members, hroot, hget, hc, rfl⟩ := members_of_environment h
  have hfilter : members.filter (fun t => t.name ≠ name && t.isArchive) =
      members.filter (g.isLinkedInto name ∘ (·.name)) := by
    refine List.filter_congr fun t ht => ?_
    simp [isLinkedInto, hget t ht]
  refine ⟨_, hc, ?_⟩
  rw [environmentOf, name_of_get? hroot, List.filter_reverse, List.filter_map, ← hfilter]

/-- The libraries of an environment are those with sources that the target depends on. -/
theorem mem_libraries_iff (h : g.environment name = .ok env) {a : String} :
    a ∈ env.libraries ↔ g.DependsOn name a ∧
      ∃ t, g.get? a = some t ∧ t.kind = .library ∧ t.sources ≠ [] := by
  obtain ⟨l, hc, hlibs⟩ := libraries_eq_filter h
  obtain ⟨hset, hmem⟩ := settled_of_closure hc
  rw [hlibs, List.mem_filter, List.mem_reverse, hmem, isLinkedInto_iff]
  simp only [List.mem_singleton, exists_eq_left]
  constructor
  · rintro ⟨hr, hne, hlink⟩
    exact ⟨(reflTransGen_iff_eq_or_transGen.1 hr).resolve_left hne, hlink⟩
  · rintro ⟨hd, hlink⟩
    have hroot : name ∈ l.reverse := List.mem_reverse.2 ((hmem name).2 ⟨name, by simp, .refl⟩)
    refine ⟨hd.to_reflTransGen, ?_, hlink⟩
    rintro rfl
    exact hset.acyclic a hroot hd

/-- **The libraries of a target can be linked in their order.** They are the libraries with sources
that the target depends on, directly or through targets of any kind; each one stands once, the
target itself does not, and a library that depends on another one, directly or through targets that
are not linked, stands in front of it. -/
theorem libraries_linkable (h : g.environment name = .ok env) :
    env.libraries.Nodup ∧ name ∉ env.libraries ∧
    (∀ a, a ∈ env.libraries ↔ g.DependsOn name a ∧
      ∃ t, g.get? a = some t ∧ t.kind = .library ∧ t.sources ≠ []) ∧
    ∀ a ∈ env.libraries, ∀ b ∈ env.libraries, g.DependsOn a b → [a, b].Sublist env.libraries := by
  have hmem (a : String) := mem_libraries_iff h (a := a)
  obtain ⟨l, hc, hlibs⟩ := libraries_eq_filter h
  obtain ⟨hset, -⟩ := settled_of_closure hc
  rw [hlibs] at hmem ⊢
  refine ⟨hset.nodup.filter _, fun hn => ?_, hmem, fun a ha b hb hab => ?_⟩
  · exact (isLinkedInto_iff.1 (List.mem_filter.1 hn).2).1 rfl
  · -- what is left out between the two does not change their order
    obtain ⟨hal, hap⟩ := List.mem_filter.1 ha
    obtain ⟨-, hbp⟩ := List.mem_filter.1 hb
    have hkept : [a, b].filter (g.isLinkedInto name) = [a, b] := by simp [hap, hbp]
    exact hkept ▸ (hset.sublist_of_dependsOn hal hab).filter (g.isLinkedInto name)

/-- A program that lists two libraries. One of them needs the other through a program of its own and
a library of headers. -/
def layered : Graph where
  toCatalog :=
    (((((default : Catalog).push
      { name := "c", kind := .library, sources := ["c.c"] } (by decide) (by decide)).push
      { name := "h", kind := .library, headers := ["h.h"], deps := ["c"] }
        (by decide) (by decide)).push
      { name := "g", kind := .program, sources := ["g.c"], deps := ["h"] }
        (by decide) (by decide)).push
      { name := "n", kind := .library, sources := ["n.c"], deps := ["g"] }
        (by decide) (by decide)).push
      { name := "a", kind := .program, sources := ["a.c"], deps := ["c", "n"] }
        (by decide) (by decide)
  closed := Catalog.danglingReference?_eq_none_iff.1 (by decide)

/-- The library that is needed through others stands last, though the program lists it first. -/
theorem libraries_layered :
    layered.environment "a" = .ok { libraries := ["n", "c"] } ∧
    ["n", "c"].Nodup ∧ "a" ∉ ["n", "c"] ∧
    (∀ a, a ∈ ["n", "c"] ↔ layered.DependsOn "a" a ∧
      ∃ t, layered.get? a = some t ∧ t.kind = .library ∧ t.sources ≠ []) ∧
    ∀ a ∈ ["n", "c"], ∀ b ∈ ["n", "c"], layered.DependsOn a b →
      [a, b].Sublist ["n", "c"] := by
  have h : layered.environment "a" = .ok { libraries := ["n", "c"] } := by cbv
  exact ⟨h, libraries_linkable h⟩

end Graph

end Buildwright
