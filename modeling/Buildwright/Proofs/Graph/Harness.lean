import Buildwright.Proofs.Graph.Edits
import Buildwright.Proofs.Graph.Plan

/-!
# A harness and circles

A harness is put behind the dependencies of every test that lacks it. All of the new dependencies
lead to the harness, so that a walk which takes some of them goes first from where it begins to a
lacking test, and at last from the harness to where it ends, by dependencies that were there before
(`Catalog.dependsOn_withHarness`). The circles among the new dependencies are thus those of the
tests that the harness needs itself (`Graph.checkAcyclic_harness_iff`).
-/

namespace Buildwright

open Relation

@[simp]
theorem Target.kind_withHarness (harness : String) (t : Target) :
    (t.withHarness harness).kind = t.kind := by
  unfold withHarness; split <;> rfl

/-! ### Dependencies of a catalog -/

namespace Catalog

variable {c : Catalog} {harness a b : String}

/-- `c.Needs a b`: the target `a` lists `b` among its dependencies, which need not be declared. In
the catalog of a graph this is `Graph.Needs`. -/
def Needs (c : Catalog) (a b : String) : Prop := ∃ t, c.get? a = some t ∧ b ∈ t.deps

/-- `c.Reaches a b`: `b` is `a`, or `a` depends on it directly or through others. -/
abbrev Reaches (c : Catalog) : String → String → Prop := ReflTransGen c.Needs

/-- `c.DependsOn a b`: `a` depends on `b` directly or through others. -/
abbrev DependsOn (c : Catalog) : String → String → Prop := TransGen c.Needs

/-- No target depends on itself. -/
def Acyclic (c : Catalog) : Prop := ∀ a, ¬ c.DependsOn a a

/-- `c.Lacks harness a`: the target `a` is a test that should depend on a harness but does not. -/
def Lacks (c : Catalog) (harness a : String) : Prop :=
  ∃ t, c.get? a = some t ∧ t.lacksHarness harness = true

/-- `c.ReachesTest harness`: a test other than the harness can be reached from the harness. -/
def ReachesTest (c : Catalog) (harness : String) : Prop :=
  ∃ t ∈ c.targets, t.kind = .test ∧ t.name ≠ harness ∧ c.Reaches harness t.name

theorem mem_names_iff : a ∈ c.names ↔ c.contains a = true := by
  simp [names, contains_iff_exists]

/-! ### Adding a harness -/

/-- The catalog with a harness, if there is to be one. -/
def withHarness? (c : Catalog) : Option String → Catalog
  | some harness => c.withHarness harness
  | none => c

theorem get?_withHarness (c : Catalog) (harness name : String) :
    (c.withHarness harness).get? name = (c.get? name).map (·.withHarness harness) := by
  change (c.position? name).bind _ = ((c.position? name).bind _).map _
  rw [Option.map_bind]
  congr 1
  funext i
  exact Array.getElem?_map

/-- A harness adds a dependency on itself to each test that lacks it. -/
theorem needs_withHarness_iff :
    (c.withHarness harness).Needs a b ↔ c.Needs a b ∨ c.Lacks harness a ∧ b = harness := by
  simp only [Needs, Lacks, get?_withHarness, Option.map_eq_some_iff]
  constructor
  · rintro ⟨_, ⟨t, ht, rfl⟩, hb⟩
    rcases Target.mem_deps_withHarness.1 hb with hb | ⟨hl, hb⟩
    · exact .inl ⟨t, ht, hb⟩
    · exact .inr ⟨⟨t, ht, hl⟩, hb⟩
  · rintro (⟨t, ht, hb⟩ | ⟨⟨t, ht, hl⟩, hb⟩)
    · exact ⟨_, ⟨t, ht, rfl⟩, Target.mem_deps_withHarness.2 (.inl hb)⟩
    · exact ⟨_, ⟨t, ht, rfl⟩, Target.mem_deps_withHarness.2 (.inr ⟨hl, hb⟩)⟩

theorem needs_withHarness?_iff {harness? : Option String} :
    (c.withHarness? harness?).Needs a b ↔ c.Needs a b ∨ harness? = some b ∧ c.Lacks b a := by
  cases harness? with
  | none => simp [withHarness?]
  | some harness =>
    rw [withHarness?, needs_withHarness_iff, Option.some.injEq]
    refine or_congr_right ⟨?_, ?_⟩
    · rintro ⟨hl, rfl⟩
      exact ⟨rfl, hl⟩
    · rintro ⟨rfl, hl⟩
      exact ⟨hl, rfl⟩

theorem needs_le_withHarness (c : Catalog) (harness : String) :
    c.Needs ≤ (c.withHarness harness).Needs := fun _ _ h => needs_withHarness_iff.2 (.inl h)

/-- **A walk with a harness, cut.** If it is not there without the harness, then without the harness
a lacking test can be reached from its beginning, and its end can be reached from the harness. -/
theorem dependsOn_withHarness (h : (c.withHarness harness).DependsOn a b) :
    c.DependsOn a b ∨ (∃ x, c.Reaches a x ∧ c.Lacks harness x) ∧ c.Reaches harness b := by
  induction h using TransGen.trans_induction_on with
  | single h =>
    rcases needs_withHarness_iff.1 h with h | ⟨hl, rfl⟩
    · exact .inl (.single h)
    · exact .inr ⟨⟨_, .refl, hl⟩, .refl⟩
  | trans _ _ ihl ihr =>
    -- the first cut is kept in front and the last one behind
    rcases ihl with hl | ⟨hx, hl⟩ <;> rcases ihr with hr | ⟨⟨x, hr, hlack⟩, hh⟩
    · exact .inl (hl.trans hr)
    · exact .inr ⟨⟨x, hl.to_reflTransGen.trans hr, hlack⟩, hh⟩
    · exact .inr ⟨hx, hl.trans hr.to_reflTransGen⟩
    · exact .inr ⟨hx, hh⟩

/-- A harness closes circles exactly if it reaches a test that lacks it. -/
theorem acyclic_withHarness_iff : (c.withHarness harness).Acyclic ↔
    c.Acyclic ∧ ¬ ∃ x, c.Reaches harness x ∧ c.Lacks harness x := by
  constructor
  · have hle := needs_le_withHarness c harness
    refine fun h => ⟨fun a ha => h a (TransGen.mono hle _ _ ha), ?_⟩
    rintro ⟨x, hr, hl⟩
    have hback : (c.withHarness harness).Needs x harness := needs_withHarness_iff.2 (.inr ⟨hl, rfl⟩)
    exact h x (.head' hback (ReflTransGen.mono hle _ _ hr))
  · rintro ⟨hc, hn⟩ a ha
    rcases dependsOn_withHarness ha with h | ⟨⟨x, hax, hl⟩, hh⟩
    · exact hc a h
    · exact hn ⟨x, hh.trans hax, hl⟩

/-- Without circles, a test that the harness reaches cannot list the harness. So to reach a test
other than the harness is to reach one that lacks it. -/
theorem Acyclic.reachesTest_iff (hc : c.Acyclic) :
    c.ReachesTest harness ↔ ∃ x, c.Reaches harness x ∧ c.Lacks harness x := by
  simp only [ReachesTest, Lacks, Target.lacksHarness, Bool.and_eq_true, decide_eq_true_eq,
    Bool.not_eq_true', List.contains_eq_mem, decide_eq_false_iff_not]
  constructor
  · rintro ⟨t, ht, hk, hne, hr⟩
    have hget : c.get? t.name = some t := get?_eq_some_iff.2 ⟨ht, rfl⟩
    exact ⟨_, hr, t, hget, ⟨hk, hne⟩, fun hl => hc harness (.tail' hr ⟨t, hget, hl⟩)⟩
  · rintro ⟨x, hr, t, hget, ⟨hk, hne⟩, -⟩
    obtain ⟨ht, rfl⟩ := get?_eq_some_iff.1 hget
    exact ⟨t, ht, hk, hne, hr⟩

/-- With a harness every test but the harness itself depends on it. -/
theorem harness_mem_deps {t : Target} (ht : (c.withHarness harness).get? a = some t)
    (hk : t.kind = .test) (hne : a ≠ harness) : harness ∈ t.deps := by
  obtain ⟨-, rfl⟩ := get?_eq_some_iff.1 ht
  rw [get?_withHarness, Option.map_eq_some_iff] at ht
  obtain ⟨u, -, rfl⟩ := ht
  rw [Target.kind_withHarness] at hk
  rw [Target.name_withHarness] at hne
  rw [Target.mem_deps_withHarness]
  by_cases hu : harness ∈ u.deps
  · exact .inl hu
  · exact .inr ⟨by simp [Target.lacksHarness, hk, hne, hu], rfl⟩

/-- A harness can be added exactly if it is declared. -/
theorem map_addHarness_eq_ok_iff {c' : Catalog} : (c.addHarness harness).map (·.1) = .ok c' ↔
    c.contains harness = true ∧ c' = c.withHarness harness := by
  rw [map_eq_ok_iff]
  cases h : c.contains harness with
  | true => simpa [addHarness_of_contains h] using eq_comm
  | false => simp [addHarness_of_undeclared h]

theorem IsClosed.of_danglingReference? (h : c.danglingReference? = none) : c.IsClosed :=
  danglingReference?_eq_none_iff.1 h

theorem IsClosed.withHarness (h : c.IsClosed) (hd : c.contains harness = true) :
    (c.withHarness harness).IsClosed := by
  intro u hu dep hdep
  obtain ⟨t, ht, rfl⟩ := Array.mem_map.1 hu
  rw [contains_withHarness]
  rcases Target.mem_deps_withHarness.1 hdep with hdep | ⟨-, rfl⟩
  · exact h t ht dep hdep
  · exact hd

end Catalog

namespace Graph

variable {g : Graph} {c : Catalog} {harness : String} {dirs : List String}

/-! ### Checking a graph -/

/-- A graph passes the check exactly if none of its targets depends on itself. -/
theorem checkAcyclic_eq_ok_iff : g.checkAcyclic = .ok () ↔ g.toCatalog.Acyclic := by
  rw [checkAcyclic, map_eq_ok_iff]
  simp only [and_true, planAll, exists_plan_iff, Catalog.mem_names_iff]
  constructor
  · intro h a ha
    obtain ⟨b, ⟨t, ht, -⟩, -⟩ := TransGen.head'_iff.1 ha
    exact h a (Catalog.contains_iff_get?.2 ⟨t, ht⟩) (.inr ⟨a, .refl, ha⟩)
  · rintro h n hn (hf | ⟨m, -, hm⟩)
    · rw [hn] at hf
      cases hf
    · exact h m hm

/-- A graph that does not pass the check is refused with one of its circles. -/
theorem isCircle_of_checkAcyclic {e : BuildError} (h : g.checkAcyclic = .error e) :
    ∃ path, e = .cycle path ∧ g.IsCircle path := by
  obtain ⟨before, root, after, hnames, -, hf⟩ := fault_of_plan (map_eq_error_iff.1 h)
  cases hf with
  | unknown hn =>
    have hroot : root ∈ g.names := hnames ▸ by simp
    rw [Catalog.mem_names_iff.1 hroot] at hn
    cases hn
  | circle _ hc => exact ⟨_, rfl, hc⟩

/-! ### Graphs with a harness -/

/-- The graph of a catalog to which a harness was added already if there is to be one. -/
def freeze (c : Catalog) (harness? : Option String) (dirs : List String) :
    Except BuildError Graph :=
  match dangling : c.danglingReference? with
  | some (dep, referrer) => .error (.unknownTarget dep (some referrer))
  | none => .ok { c with harness?, includeDirs := dirs, closed := .of_danglingReference? dangling }

theorem freeze_eq_ok_iff {harness? : Option String} : freeze c harness? dirs = .ok g ↔
    c = g.toCatalog ∧ g.harness? = harness? ∧ g.includeDirs = dirs := by
  constructor
  · intro h
    rw [freeze] at h
    split at h
    · cases h
    · obtain rfl := Except.ok.inj h
      exact ⟨rfl, rfl, rfl⟩
  · rintro ⟨rfl, rfl, rfl⟩
    rw [freeze]
    split
    · next h =>
      rw [Catalog.danglingReference?_eq_none_iff.2 g.closed] at h
      cases h
    · rfl

theorem ofCatalog_eq_bind_freeze (harness? : Option String) : ofCatalog c harness? dirs =
    harness?.elim (.ok c) (fun harness => (c.addHarness harness).map (·.1)) >>=
      (freeze · harness? dirs) := by
  cases harness? <;> rfl

/-- **The graph of a catalog** has the targets of the catalog, with a harness if there is to be one.
The harness must be declared. -/
theorem ofCatalog_eq_ok_iff {harness? : Option String} : ofCatalog c harness? dirs = .ok g ↔
    ((∀ h, harness? = some h → c.contains h = true) ∧ g.toCatalog = c.withHarness? harness?) ∧
      g.harness? = harness? ∧ g.includeDirs = dirs := by
  rw [ofCatalog_eq_bind_freeze, bind_eq_ok_iff]
  simp only [freeze_eq_ok_iff, ← and_assoc, exists_and_right, exists_eq_right]
  refine and_congr_left' (and_congr_left' ?_)
  cases harness? with
  | none => simpa [Catalog.withHarness?] using eq_comm
  | some harness => simpa [Catalog.withHarness?] using Catalog.map_addHarness_eq_ok_iff

/-- Among closed targets any declared harness can be added. -/
theorem ofCatalog_harness (hc : c.IsClosed) (hd : c.contains harness = true) (dirs : List String) :
    ofCatalog c (some harness) dirs = .ok
      { c.withHarness harness with
        harness? := some harness, includeDirs := dirs, closed := hc.withHarness hd } :=
  ofCatalog_eq_ok_iff.2 ⟨⟨fun _ h => Option.some.inj h ▸ hd, rfl⟩, rfl, rfl⟩

/-- A circle with a harness that is none without it goes through the harness: all of the new
dependencies end there. -/
theorem IsCircle.mem_harness {path : List String} (h : g.IsCircle path)
    (hg : g.toCatalog = c.withHarness harness) (hc : c.Acyclic) : harness ∈ path := by
  by_contra hn
  have hold : path.IsChain c.Needs := by
    refine h.chain.imp_of_mem_imp fun x y _ hy hxy => ?_
    have hxy : (c.withHarness harness).Needs x y := hg ▸ hxy
    rcases Catalog.needs_withHarness_iff.1 hxy with hxy | ⟨-, rfl⟩
    · exact hxy
    · exact absurd hy hn
  obtain ⟨a, rest, rfl, -⟩ := h.closed
  exact hc a (transGen_of_isChain hold)

/-- **When a harness closes a circle.** A declared harness can be added to targets whose
dependencies are declared and without circles. The graph then passes the check for circles exactly
if the harness reaches no test but itself. If the graph does not pass, then the circle that is
reported goes through the harness. -/
theorem checkAcyclic_harness_iff (closed : c.IsClosed) (acyclic : c.Acyclic)
    (declared : c.contains harness = true) (dirs : List String) :
    ∃ g, ofCatalog c (some harness) dirs = .ok g ∧
      (g.checkAcyclic = .ok () ↔ ¬ c.ReachesTest harness) ∧
      ∀ e, g.checkAcyclic = .error e →
        ∃ path, e = .cycle path ∧ g.IsCircle path ∧ harness ∈ path := by
  refine ⟨_, ofCatalog_harness closed declared dirs, ?_, fun e he => ?_⟩
  · rw [checkAcyclic_eq_ok_iff, Catalog.acyclic_withHarness_iff, acyclic.reachesTest_iff,
      and_iff_right acyclic]
  · obtain ⟨path, rfl, hp⟩ := isCircle_of_checkAcyclic he
    exact ⟨path, rfl, hp, hp.mem_harness rfl acyclic⟩

/-- A harness `h` that needs a library `l`, which needs a test `s` of its own; and a test `u` that
lists the harness. -/
def selfTested : Graph where
  toCatalog :=
    ((((default : Catalog).push
      { name := "s", kind := .test, sources := ["s.c"] } (by decide) (by decide)).push
      { name := "l", kind := .library, sources := ["l.c"], deps := ["s"] }
        (by decide) (by decide)).push
      { name := "h", kind := .library, sources := ["h.c"], deps := ["l"] }
        (by decide) (by decide)).push
      { name := "u", kind := .test, sources := ["u.c"], deps := ["h"] } (by decide) (by decide)
  closed := Catalog.danglingReference?_eq_none_iff.1 (by decide)

/-- The test of the library lacks the harness, and closes the circle. -/
theorem checkAcyclic_selfTested :
    selfTested.IsClosed ∧ selfTested.Acyclic ∧ selfTested.contains "h" = true ∧
    selfTested.ReachesTest "h" ∧
    ∃ g, ofCatalog selfTested.toCatalog (some "h") [] = .ok g ∧
      (g.checkAcyclic = .ok () ↔ ¬ selfTested.ReachesTest "h") ∧
      ∀ e, g.checkAcyclic = .error e →
        ∃ path, e = .cycle path ∧ g.IsCircle path ∧ "h" ∈ path := by
  have hacyclic : selfTested.Acyclic := checkAcyclic_eq_ok_iff.1 (by cbv)
  have hharness : selfTested.Needs "h" "l" := ⟨selfTested.targets[2], by cbv, by decide⟩
  have hlib : selfTested.Needs "l" "s" := ⟨selfTested.targets[1], by cbv, by decide⟩
  exact ⟨selfTested.closed, hacyclic, by decide,
    ⟨selfTested.targets[0], Array.getElem_mem _, by decide, by decide,
      .tail (.single hharness) hlib⟩,
    checkAcyclic_harness_iff selfTested.closed hacyclic (by decide) []⟩

end Graph

end Buildwright
