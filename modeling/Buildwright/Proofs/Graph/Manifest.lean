import Buildwright.Proofs.Graph.Harness

/-!
# Graphs of manifests

What a manifest must say for a graph to be made of its targets: every declaration is valid by
itself, no name is declared twice, the harness is declared if one is needed, and so is every
dependency. A graph that was made keeps all of this in its type, so that only the absence of circles
is left to be checked. Together these are the conditions `Manifest.IsSound`, which speak of the
manifest alone (`Graph.exists_ofManifest_iff`).
-/

namespace Buildwright

open Relation

/-! ### Sound manifests -/

/-- What a declaration must say whatever else is declared: its name shows, and there is something to
build. A library may consist of headers alone. -/
@[mk_iff]
structure Declaration.IsValid (d : Declaration) : Prop where
  named : Text.isBlankText d.name = false
  filled : d.contents.sources ≠ [] ∨ d.kind = .library ∧ d.contents.headers ≠ []

namespace Manifest

variable {m : Manifest} {a b : String}

/-- The names of the declared targets. -/
def names (m : Manifest) : List String := m.targets.map (·.name)

/-- A test is declared, or a harness is named. -/
def WantsHarness (m : Manifest) : Prop :=
  (∃ d ∈ m.targets, d.kind = .test) ∨ m.build.harness?.isSome = true

/-- `m.Needs a b`: the target `a` lists `b` among its dependencies, or it is a test and `b` is the
harness, unless it is the harness itself. -/
def Needs (m : Manifest) (a b : String) : Prop :=
  ∃ d ∈ m.targets, d.name = a ∧ (b ∈ d.deps ∨ d.kind = .test ∧ a ≠ m.harness ∧ b = m.harness)

/-- What a manifest must say for its targets to be built. -/
structure IsSound (m : Manifest) : Prop where
  valid : ∀ d ∈ m.targets, d.IsValid
  distinct : m.names.Nodup
  harness : m.WantsHarness → m.harness ∈ m.names
  closed : ∀ d ∈ m.targets, ∀ dep ∈ d.deps, dep ∈ m.names
  acyclic : ∀ a, ¬ TransGen m.Needs a a

theorem neededHarness?_eq_some_iff :
    m.neededHarness? = some a ↔ m.WantsHarness ∧ m.harness = a := by
  simp [neededHarness?, WantsHarness]

end Manifest

/-! ### Catalogs of manifests -/

namespace Target

theorem defect?_eq_none_iff {t : Target} : t.defect? = none ↔
    Text.isBlankText t.name = false ∧ (t.sources ≠ [] ∨ t.kind = .library ∧ t.headers ≠ []) := by
  unfold defect?
  cases Text.isBlankText t.name <;> cases t.kind <;> simp [or_iff_not_imp_left]

@[simp]
theorem name_ofDeclaration (d : Declaration) : (ofDeclaration d).name = d.name := rfl

@[simp]
theorem kind_ofDeclaration (d : Declaration) : (ofDeclaration d).kind = d.kind := rfl

@[simp]
theorem deps_ofDeclaration (d : Declaration) : (ofDeclaration d).deps = d.deps := rfl

/-- The targets without a defect are those that valid declarations describe. -/
theorem defect?_ofDeclaration_eq_none_iff {d : Declaration} :
    (ofDeclaration d).defect? = none ↔ d.IsValid :=
  defect?_eq_none_iff.trans (Declaration.isValid_iff d).symm

end Target

namespace Catalog

variable {c c' : Catalog} {m : Manifest} {ds : List Declaration} {t : Target} {a b : String}

/-- No name is declared twice. -/
theorem nodup_names (c : Catalog) : c.names.Nodup := by
  refine List.nodup_iff_getElem?_ne_getElem?.2 fun i j hij hj heq => ?_
  obtain ⟨name, hname⟩ : ∃ name, c.names[j]? = some name := ⟨_, List.getElem?_eq_getElem hj⟩
  have hfound (k : Nat) : c.names[k]? = some name ↔ c.positions[name]? = some k := by
    rw [c.positions_iff, names, List.getElem?_map, Array.getElem?_toList]
  have hi := (hfound i).1 (heq.trans hname)
  rw [(hfound j).1 hname, Option.some.injEq] at hi
  exact Nat.lt_irrefl i (hi ▸ hij)

/-- A target that is declared is put behind the others. -/
theorem targets_of_declare (h : c.declare t = .ok c') :
    c'.targets.toList = c.targets.toList ++ [t] := by
  cases hd : t.defect? with
  | some defect => cases (declare_of_defect hd).symm.trans h
  | none =>
    cases hf : c.contains t.name with
    | true => cases (declare_of_taken hd hf).symm.trans h
    | false =>
      obtain rfl := Except.ok.inj ((declare_of_free hd hf).symm.trans h)
      exact Array.toList_push

theorem targets_of_foldlM
    (h : ds.foldlM (fun c d => c.declare (.ofDeclaration d)) c = .ok c') :
    c'.targets.toList = c.targets.toList ++ ds.map .ofDeclaration := by
  induction ds generalizing c with
  | nil =>
    obtain rfl := Except.ok.inj h
    simp
  | cons d ds ih =>
    obtain ⟨c₁, hd, hrest⟩ := bind_eq_ok_iff.1 h
    rw [ih hrest, targets_of_declare hd, List.map_cons, List.append_assoc, List.singleton_append]

theorem exists_foldlM_declare (hv : ∀ d ∈ ds, d.IsValid)
    (hn : (c.names ++ ds.map (·.name)).Nodup) :
    ∃ c', ds.foldlM (fun c d => c.declare (.ofDeclaration d)) c = .ok c' := by
  induction ds generalizing c with
  | nil => exact ⟨c, rfl⟩
  | cons d ds ih =>
    have hfree : c.contains d.name = false := by
      rw [← Bool.not_eq_true, ← mem_names_iff]
      exact fun hc => List.disjoint_of_nodup_append hn hc (.head _)
    have hvalid := Target.defect?_ofDeclaration_eq_none_iff.2 (hv d (.head _))
    obtain ⟨c₁, hd⟩ : ∃ c₁, c.declare (.ofDeclaration d) = .ok c₁ :=
      ⟨_, declare_of_free hvalid hfree⟩
    obtain ⟨c', hrest⟩ := ih (c := c₁) (fun e he => hv e (.tail _ he)) (by
      rw [names, targets_of_declare hd]
      simpa [names] using hn)
    exact ⟨c', bind_eq_ok_iff.2 ⟨c₁, hd, hrest⟩⟩

/-- The targets of the catalog of a manifest are those that are declared there. -/
theorem targets_of_ofManifest (h : ofManifest m = .ok c) :
    c.targets.toList = m.targets.map .ofDeclaration := targets_of_foldlM h

theorem names_of_ofManifest (h : ofManifest m = .ok c) : c.names = m.names := by
  rw [names, targets_of_ofManifest h, List.map_map]
  rfl

/-- **What a catalog takes**: valid declarations under distinct names. -/
theorem exists_ofManifest_iff :
    (∃ c, ofManifest m = .ok c) ↔ (∀ d ∈ m.targets, d.IsValid) ∧ m.names.Nodup := by
  constructor
  · rintro ⟨c, hc⟩
    refine ⟨fun d hd => ?_, names_of_ofManifest hc ▸ c.nodup_names⟩
    have hmem : Target.ofDeclaration d ∈ c.targets := by
      rw [← Array.mem_toList_iff, targets_of_ofManifest hc]
      exact List.mem_map_of_mem hd
    exact Target.defect?_ofDeclaration_eq_none_iff.1 (c.defect?_eq_none _ hmem)
  · rintro ⟨hv, hn⟩
    exact exists_foldlM_declare hv hn

theorem get?_of_ofManifest (h : ofManifest m = .ok c) :
    c.get? a = some t ↔ ∃ d ∈ m.targets, d.name = a ∧ .ofDeclaration d = t := by
  rw [get?_eq_some_iff, ← Array.mem_toList_iff, targets_of_ofManifest h, List.mem_map]
  constructor
  · rintro ⟨⟨d, hd, rfl⟩, rfl⟩
    exact ⟨d, hd, rfl, rfl⟩
  · rintro ⟨d, hd, rfl, rfl⟩
    exact ⟨⟨d, hd, rfl⟩, rfl⟩

/-- In the catalog of a manifest with the harness that is needed, targets need what they do in the
manifest. -/
theorem needs_of_ofManifest (h : ofManifest m = .ok c) :
    (c.withHarness? m.neededHarness?).Needs a b ↔ m.Needs a b := by
  rw [needs_withHarness?_iff, Manifest.neededHarness?_eq_some_iff]
  simp only [Needs, Lacks, get?_of_ofManifest h]
  constructor
  · rintro (⟨_, ⟨d, hd, hname, rfl⟩, hb⟩ | ⟨⟨-, rfl⟩, _, ⟨d, hd, rfl, rfl⟩, hl⟩)
    · exact ⟨d, hd, hname, .inl hb⟩
    · simp only [Target.lacksHarness, Bool.and_eq_true, decide_eq_true_eq] at hl
      exact ⟨d, hd, rfl, .inr ⟨hl.1.1, hl.1.2, rfl⟩⟩
  · rintro ⟨d, hd, rfl, hb | ⟨hk, hne, rfl⟩⟩
    · exact .inl ⟨_, ⟨d, hd, rfl, rfl⟩, hb⟩
    · by_cases hb : m.harness ∈ d.deps
      · exact .inl ⟨_, ⟨d, hd, rfl, rfl⟩, hb⟩
      · refine .inr ⟨⟨.inl ⟨d, hd, hk⟩, rfl⟩, _, ⟨d, hd, rfl, rfl⟩, ?_⟩
        simp [Target.lacksHarness, hk, hne, hb]

theorem names_withHarness? (c : Catalog) (harness? : Option String) :
    (c.withHarness? harness?).names = c.names := by
  cases harness? with
  | none => rfl
  | some harness => simp [withHarness?, withHarness, names]

theorem isClosed_iff_needs : c.IsClosed ↔ ∀ a b, c.Needs a b → c.contains b = true := by
  constructor
  · rintro h a b ⟨t, ht, hb⟩
    exact h t (get?_eq_some_iff.1 ht).1 b hb
  · exact fun h t ht dep hdep => h t.name dep ⟨t, get?_eq_some_iff.2 ⟨ht, rfl⟩, hdep⟩

end Catalog

/-! ### Graphs of manifests -/

namespace Graph

variable {g : Graph} {m : Manifest} {a b : String}

/-- `g.IsOf m`: the graph is made of the targets of the manifest. -/
def IsOf (g : Graph) (m : Manifest) : Prop :=
  ∃ c, Catalog.ofManifest m = .ok c ∧
    ofCatalog c m.neededHarness? m.build.includeDirs = .ok g

namespace IsOf

theorem needs_iff (h : g.IsOf m) : g.Needs a b ↔ m.Needs a b := by
  obtain ⟨c, hc, hg⟩ := h
  rw [← Catalog.needs_of_ofManifest hc, ← (ofCatalog_eq_ok_iff.1 hg).1.2]
  rfl

theorem names_eq (h : g.IsOf m) : g.names = m.names := by
  obtain ⟨c, hc, hg⟩ := h
  rw [(ofCatalog_eq_ok_iff.1 hg).1.2, Catalog.names_withHarness?, Catalog.names_of_ofManifest hc]

/-- A name is declared in the graph exactly if it is in the manifest. -/
theorem contains_iff (h : g.IsOf m) : g.contains a = true ↔ a ∈ m.names := by
  rw [← h.names_eq, Catalog.mem_names_iff]

/-- The graph of a manifest passes the check for circles exactly if there are none in the
manifest. -/
theorem checkAcyclic_iff (h : g.IsOf m) :
    g.checkAcyclic = .ok () ↔ ∀ a, ¬ TransGen m.Needs a a := by
  have hneeds : g.toCatalog.Needs = m.Needs := funext₂ fun _ _ => propext h.needs_iff
  rw [checkAcyclic_eq_ok_iff, Catalog.Acyclic, Catalog.DependsOn, hneeds]

end IsOf

/-- **A graph can be made of a manifest and passes the check for circles** exactly if the manifest
is sound. -/
theorem exists_isOf_iff : (∃ g : Graph, g.IsOf m ∧ g.checkAcyclic = .ok ()) ↔ m.IsSound := by
  constructor
  · rintro ⟨g, hg, hacyclic⟩
    have hiff := Catalog.exists_ofManifest_iff.1 (hg.imp fun c => And.left)
    obtain ⟨c, hc, hg'⟩ := id hg
    refine ⟨hiff.1, hiff.2, fun hw => ?_, fun d hd dep hdep => ?_, hg.checkAcyclic_iff.1 hacyclic⟩
    · have hneeded := Manifest.neededHarness?_eq_some_iff.2 ⟨hw, rfl⟩
      rw [← Catalog.names_of_ofManifest hc, Catalog.mem_names_iff]
      exact (ofCatalog_eq_ok_iff.1 hg').1.1 _ hneeded
    · have hneeds : m.Needs d.name dep := ⟨d, hd, rfl, .inl hdep⟩
      exact hg.contains_iff.1 (hg.needs_iff.2 hneeds).contains_right
  · intro h
    obtain ⟨c, hc⟩ := Catalog.exists_ofManifest_iff.2 ⟨h.valid, h.distinct⟩
    have hcontains {a : String} (ha : a ∈ m.names) :
        (c.withHarness? m.neededHarness?).contains a = true := by
      rwa [← Catalog.mem_names_iff, Catalog.names_withHarness?, Catalog.names_of_ofManifest hc]
    have hclosed : (c.withHarness? m.neededHarness?).IsClosed := by
      refine Catalog.isClosed_iff_needs.2 fun a b hab => hcontains ?_
      obtain ⟨d, hd, -, hb | ⟨hk, -, rfl⟩⟩ := (Catalog.needs_of_ofManifest hc).1 hab
      · exact h.closed d hd b hb
      · exact h.harness (.inl ⟨d, hd, hk⟩)
    let g : Graph :=
      { c.withHarness? m.neededHarness? with
        harness? := m.neededHarness?, includeDirs := m.build.includeDirs, closed := hclosed }
    have hg : g.IsOf m := by
      refine ⟨c, hc, ofCatalog_eq_ok_iff.2 ⟨⟨fun a ha => ?_, rfl⟩, rfl, rfl⟩⟩
      obtain ⟨hw, rfl⟩ := Manifest.neededHarness?_eq_some_iff.1 ha
      rw [← Catalog.mem_names_iff, Catalog.names_of_ofManifest hc]
      exact h.harness hw
    exact ⟨g, hg, hg.checkAcyclic_iff.2 h.acyclic⟩

end Graph

end Buildwright
