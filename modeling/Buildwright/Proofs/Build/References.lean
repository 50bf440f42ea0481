import Buildwright.Proofs.Build.Beginning
import Buildwright.Proofs.Graph.Catalog
import Buildwright.Proofs.Graph.Environment
import Buildwright.Proofs.Graph.Waves

/-!
# References

Which catalogs become graphs, and what their graphs can rely on. A harness is added before the
dependencies are checked, and to some of the lists that are checked. What it adds is declared and
stands behind everything else, so that it neither brings an undeclared dependency nor comes before
one (`Catalog.danglingReference?_withHarness`): the error is that of the catalog as it was declared.

In a graph every dependency is found (`Graph.Resolves`). Whatever goes from targets to what they
list looks for nothing else, so that it fails only at a circle or at a request for something that is
not declared.
-/

namespace Buildwright

namespace Catalog

variable {c : Catalog} {harness dep referrer : String} {harness? : Option String} {e : BuildError}

/-! ### The first undeclared dependency -/

/-- `c.FirstDangling t dep`: of all dependencies that are not declared, `dep` is the first one, in
the list of the target `t`. Targets are taken in the order of declaration and their dependencies in
the order in which they are listed. -/
def FirstDangling (c : Catalog) (t : Target) (dep : String) : Prop :=
  ∃ before after earlier later, c.targets.toList = before ++ t :: after ∧
    t.deps = earlier ++ dep :: later ∧
    (∀ u ∈ before, ∀ d ∈ u.deps, c.contains d = true) ∧
    (∀ d ∈ earlier, c.contains d = true) ∧ c.contains dep = false

theorem danglingReference?_eq_some_iff : c.danglingReference? = some (dep, referrer) ↔
    ∃ t, c.FirstDangling t dep ∧ t.name = referrer := by
  have hfirst (deps : List String) : deps.find? (!c.contains ·) = some dep ↔
      ∃ earlier later, deps = earlier ++ dep :: later ∧ (∀ d ∈ earlier, c.contains d = true) ∧
        c.contains dep = false := by
    rw [List.find?_eq_some_iff_append]
    simp only [Bool.not_eq_true', Bool.not_not]
    tauto
  have hnone (deps : List String) : deps.find? (!c.contains ·) = none ↔
      ∀ d ∈ deps, c.contains d = true := by simp
  rw [danglingReference?, List.findSome?_eq_some_iff]
  simp only [Option.map_eq_some_iff, Option.map_eq_none_iff, Prod.mk.injEq, hnone]
  constructor
  · rintro ⟨before, t, after, hsplit, ⟨_, hdep, rfl, rfl⟩, hbefore⟩
    obtain ⟨earlier, later, hdeps, hearlier, hd⟩ := (hfirst t.deps).1 hdep
    exact ⟨t, ⟨before, after, earlier, later, hsplit, hdeps, hbefore, hearlier, hd⟩, rfl⟩
  · rintro ⟨t, ⟨before, after, earlier, later, hsplit, hdeps, hbefore, hearlier, hd⟩, rfl⟩
    have hdep := (hfirst t.deps).2 ⟨earlier, later, hdeps, hearlier, hd⟩
    exact ⟨before, t, after, hsplit, ⟨dep, hdep, rfl, rfl⟩, hbefore⟩

/-- Both targets have an undeclared dependency. -/
example : (((default : Catalog).push
      { name := "a", kind := .library, sources := ["a.c"], deps := ["b", "x"] }
        (by decide) (by decide)).push
      { name := "b", kind := .library, sources := ["b.c"], deps := ["y"] }
        (by decide) (by decide)).danglingReference? = some ("x", "a") := by decide

/-- **A declared harness changes nothing about undeclared dependencies.** -/
theorem danglingReference?_withHarness (h : c.contains harness = true) :
    (c.withHarness harness).danglingReference? = c.danglingReference? := by
  have hdeps (t : Target) : (t.withHarness harness).deps.find? (!c.contains ·) =
      t.deps.find? (!c.contains ·) := by
    rcases withHarness_cases t harness with ht | ⟨-, -, -, ht⟩
    · rw [ht]
    · simp [ht, List.find?_append, h]
  rw [danglingReference?, danglingReference?, withHarness, Array.toList_map, List.findSome?_map]
  exact congrArg (List.findSome? · _) (funext fun t => by
    rw [Function.comp_apply, Target.name_withHarness]
    exact congrArg (Option.map _) (hdeps t))

theorem danglingReference?_withHarness? (h : ∀ harness, harness? = some harness →
    c.contains harness = true) :
    (c.withHarness? harness?).danglingReference? = c.danglingReference? := by
  cases harness? with
  | none => rfl
  | some harness => exact danglingReference?_withHarness (h harness rfl)

end Catalog

namespace Graph

variable {g : Graph} {c : Catalog} {harness? : Option String} {dirs names : List String}
  {name : String} {p : Plan} {e : BuildError}

/-! ### Which catalogs become graphs -/

theorem freeze_eq_error_iff : freeze c harness? dirs = .error e ↔
    ∃ dep referrer, c.danglingReference? = some (dep, referrer) ∧
      e = .unknownTarget dep (some referrer) := by
  rw [freeze]
  split
  · next h => simpa [h] using eq_comm
  · next h => simp [h]

theorem exists_freeze_iff : (∃ g, freeze c harness? dirs = .ok g) ↔ c.IsClosed := by
  rw [← Catalog.danglingReference?_eq_none_iff, freeze]
  split
  · next h => simp [h]
  · next h => simp [h]

/-- An undeclared harness is reported before any dependency is looked at. -/
theorem ofCatalog_of_undeclared {harness : String} (h : c.contains harness = false) :
    ofCatalog c (some harness) dirs = .error (.missingHarness harness) := by
  rw [ofCatalog_eq_bind_freeze, Option.elim_some, Catalog.addHarness_of_undeclared h]
  rfl

theorem ofCatalog_of_declared (h : ∀ harness, harness? = some harness →
    c.contains harness = true) :
    ofCatalog c harness? dirs = freeze (c.withHarness? harness?) harness? dirs := by
  rw [ofCatalog_eq_bind_freeze]
  cases harness? with
  | none => rfl
  | some harness =>
    rw [Option.elim_some, Catalog.addHarness_of_contains (h harness rfl)]
    rfl

/-- A catalog has a graph exactly if the harness and all dependencies are declared. -/
theorem exists_ofCatalog_iff : (∃ g, ofCatalog c harness? dirs = .ok g) ↔
    (∀ harness, harness? = some harness → c.contains harness = true) ∧ c.IsClosed := by
  by_cases h : ∀ harness, harness? = some harness → c.contains harness = true
  · rw [ofCatalog_of_declared h, exists_freeze_iff, ← Catalog.danglingReference?_eq_none_iff,
      Catalog.danglingReference?_withHarness? h, Catalog.danglingReference?_eq_none_iff,
      and_iff_right h]
  · refine iff_of_false ?_ fun hc => h hc.1
    rintro ⟨g, hg⟩
    exact h (ofCatalog_eq_ok_iff.1 hg).1.1

/-- **What is wrong with a catalog that has no graph**: the harness is not declared, or otherwise
the first of the undeclared dependencies. -/
theorem ofCatalog_eq_error_iff : ofCatalog c harness? dirs = .error e ↔
    (∃ harness, harness? = some harness ∧ c.contains harness = false ∧
      e = .missingHarness harness) ∨
    ((∀ harness, harness? = some harness → c.contains harness = true) ∧
      ∃ t dep, c.FirstDangling t dep ∧ e = .unknownTarget dep (some t.name)) := by
  by_cases h : ∀ harness, harness? = some harness → c.contains harness = true
  · rw [ofCatalog_of_declared h, freeze_eq_error_iff, Catalog.danglingReference?_withHarness? h,
      and_iff_right h, or_iff_right]
    · simp only [Catalog.danglingReference?_eq_some_iff]
      constructor
      · rintro ⟨dep, _, ⟨t, ht, rfl⟩, he⟩
        exact ⟨t, dep, ht, he⟩
      · rintro ⟨t, dep, ht, he⟩
        exact ⟨dep, t.name, ⟨t, ht, rfl⟩, he⟩
    · rintro ⟨harness, hs, hf, -⟩
      rw [h harness hs] at hf
      cases hf
  · rw [or_iff_left fun hc => h hc.1]
    push Not at h
    obtain ⟨harness, rfl, hf⟩ := h
    have hf : c.contains harness = false := by simpa using hf
    rw [ofCatalog_of_undeclared hf, Except.error.injEq]
    constructor
    · rintro rfl
      exact ⟨harness, rfl, hf, rfl⟩
    · rintro ⟨_, hs, -, rfl⟩
      rw [Option.some.inj hs]

/-! ### What a graph can rely on -/

/-- `g.OnlyCircles names e`: the error `e` of something that was asked for by the names `names`
shows a circle of the graph, or it names a request that is not declared. It never names anything
that was found on the way. -/
def OnlyCircles (g : Graph) (names : List String) (e : BuildError) : Prop :=
  (∃ path, e = .cycle path ∧ g.IsCircle path) ∨
    ∃ n ∈ names, g.contains n = false ∧ e = .unknownTarget n none

/-- `g.Resolves`: everything is found that a target of the graph lists. -/
structure Resolves (g : Graph) : Prop where
  find_dep : ∀ t ∈ g.targets, ∀ d ∈ t.deps, ∃ u ∈ g.targets, u.name = d ∧ g.find d = .ok u
  /-- A walk is stopped by nothing else. -/
  closure_error : ∀ names e, g.closure names = .error e → g.OnlyCircles names e
  plan_error : ∀ names e, g.plan names = .error e → g.OnlyCircles names e
  planAll_error : ∀ e, g.planAll = .error e → g.OnlyCircles [] e
  environment_error : ∀ name e, g.environment name = .error e → g.OnlyCircles [name] e
  /-- A plan holds declared targets only. -/
  contains_of_plan : ∀ names p, g.plan names = .ok p → ∀ n ∈ p.names, g.contains n = true
  /-- Declared targets can be cut into waves, in whatever order they are. -/
  exists_waves : ∀ p : Plan, (∀ n ∈ p.names, g.contains n = true) → ∃ waves, g.waves p = .ok waves
  /-- To build them can always be begun. -/
  exists_progress : ∀ p : Plan, (∀ n ∈ p.names, g.contains n = true) →
    ∃ s, Progress.ofPlan g p = .ok s
  /-- Every planned target is found with its environment, and so are the libraries of that. -/
  find_planned : ∀ names p, g.plan names = .ok p → ∀ n ∈ p.names, ∃ t env, g.find n = .ok t ∧
    g.environment n = .ok env ∧ ∀ a ∈ env.libraries, ∃ u, g.get? a = some u

theorem onlyCircles_of_closure (h : g.closure names = .error e) : g.OnlyCircles names e := by
  obtain ⟨before, root, after, rfl, -, hf⟩ := fault_of_closure h
  cases hf with
  | unknown hn => exact .inr ⟨root, by simp, hn, rfl⟩
  | circle _ hc => exact .inl ⟨_, rfl, hc⟩

theorem onlyCircles_of_planAll (h : g.planAll = .error e) : g.OnlyCircles [] e := by
  rcases onlyCircles_of_closure (plan_eq_error_iff.1 h) with hc | ⟨n, hn, hf, -⟩
  · exact .inl hc
  · rw [Catalog.mem_names_iff.1 hn] at hf
    cases hf

theorem exists_waves_of_contains (h : ∀ n ∈ p.names, g.contains n = true) :
    ∃ waves, g.waves p = .ok waves := by
  obtain ⟨w, hw, -⟩ := exists_foldlM_eq_ok (f := Waves.add g) (P := fun _ => True) (l := p.names)
    (b := {}) (fun n hn w _ => by
      obtain ⟨t, ht⟩ := Catalog.contains_iff_get?.1 (h n hn)
      exact ⟨_, Waves.add_eq ht, trivial⟩) trivial
  exact ⟨_, map_eq_ok_iff.2 ⟨w, hw, rfl⟩⟩

theorem exists_progress_of_contains (h : ∀ n ∈ p.names, g.contains n = true) :
    ∃ s, Progress.ofPlan g p = .ok s := by
  obtain ⟨ts, hts, -⟩ := mapM_find_of_forall h
  exact ⟨_, map_eq_ok_iff.2 ⟨ts, hts, rfl⟩⟩

/-- **In a graph everything resolves.** -/
theorem resolves (g : Graph) : g.Resolves where
  find_dep t ht d hd := by
    obtain ⟨u, hu⟩ := Catalog.contains_iff_get?.1 (g.closed t ht d hd)
    obtain ⟨hmem, hname⟩ := Catalog.get?_eq_some_iff.1 hu
    exact ⟨u, hmem, hname, find_of_get? hu⟩
  closure_error _ _ h := onlyCircles_of_closure h
  plan_error _ _ h := onlyCircles_of_closure (plan_eq_error_iff.1 h)
  planAll_error _ h := onlyCircles_of_planAll h
  environment_error _ _ h := onlyCircles_of_closure (environment_eq_error_iff.1 h)
  contains_of_plan _ _ h n hn := (settled_of_plan h).contains (List.mem_reverse.2 hn)
  exists_waves _ h := exists_waves_of_contains h
  exists_progress _ h := exists_progress_of_contains h
  find_planned names p h n hn := by
    have hdecl : g.contains n = true := (settled_of_plan h).contains (List.mem_reverse.2 hn)
    obtain ⟨t, ht⟩ := Catalog.contains_iff_get?.1 hdecl
    obtain ⟨env, henv⟩ := exists_environment_of_mem_plan h hn
    refine ⟨t, env, find_of_get? ht, henv, fun a ha => ?_⟩
    obtain ⟨-, u, hu, -⟩ := (mem_libraries_iff henv).1 ha
    exact ⟨u, hu⟩

/-- **When a catalog becomes a graph, and what that is good for.** The harness must be declared, if
there is to be one, and so must be every dependency of a declared target. An undeclared harness is
reported first, and otherwise the first undeclared dependency of the catalog as it was declared,
with the target that lists it. In the graph, which has the targets with the harness, everything that
a target lists is found, so that what is done with the graph later fails only where a circle or an
undeclared request is. -/
theorem ofCatalog_resolves (c : Catalog) (harness? : Option String) (dirs : List String) :
    ((∃ g, ofCatalog c harness? dirs = .ok g) ↔
      (∀ harness, harness? = some harness → c.contains harness = true) ∧
        ∀ t ∈ c.targets, ∀ dep ∈ t.deps, c.contains dep = true) ∧
    (∀ e, ofCatalog c harness? dirs = .error e ↔
      (∃ harness, harness? = some harness ∧ c.contains harness = false ∧
        e = .missingHarness harness) ∨
      ((∀ harness, harness? = some harness → c.contains harness = true) ∧
        ∃ t dep, c.FirstDangling t dep ∧ e = .unknownTarget dep (some t.name))) ∧
    ∀ g, ofCatalog c harness? dirs = .ok g →
      g.toCatalog = c.withHarness? harness? ∧ g.Resolves :=
  ⟨exists_ofCatalog_iff, fun _ => ofCatalog_eq_error_iff,
    fun g hg => ⟨(ofCatalog_eq_ok_iff.1 hg).1.2, g.resolves⟩⟩

end Graph

end Buildwright
