import Buildwright.Proofs.Graph.Environment
import Buildwright.Proofs.Graph.Recursion

/-!
# What a plan depends on

To plan some targets is to look at what they reach and at nothing else. Two graphs that agree on the
dependencies of everything that can be reached give the same plan with the same waves, or they fail
with the same error, whatever else they declare and in whichever order (`Graph.plan_local`). The
walk is compared in its form as a recursion (`Graph.search_congr`): each call looks its target up
once, and goes on to what the target lists. An environment takes a little more from each target that
is reached (`Graph.SameShare`), and from its root the local directories.
-/

namespace Buildwright

/-- `t.GivesSame t'`: the two targets give the same to the environments of those that depend on
them. -/
structure Target.GivesSame (t t' : Target) : Prop where
  kind : t.kind = t'.kind
  sources : t.sources = [] ↔ t'.sources = []
  globalIncludeDirs : t.globalIncludeDirs = t'.globalIncludeDirs
  linkFlags : t.linkFlags = t'.linkFlags

instance (t t' : Target) : Decidable (t.GivesSame t') :=
  decidable_of_iff (t.kind = t'.kind ∧ (t.sources = [] ↔ t'.sources = []) ∧
      t.globalIncludeDirs = t'.globalIncludeDirs ∧ t.linkFlags = t'.linkFlags)
    ⟨fun ⟨kind, sources, dirs, flags⟩ => ⟨kind, sources, dirs, flags⟩,
      fun ⟨kind, sources, dirs, flags⟩ => ⟨kind, sources, dirs, flags⟩⟩

/-- Whether a target has an archive can be seen from what it gives. -/
theorem Target.GivesSame.isArchive_eq {t t' : Target} (h : t.GivesSame t') :
    t.isArchive = t'.isArchive := by
  rw [Bool.eq_iff_iff, isArchive_iff, isArchive_iff, h.kind, Ne, Ne, h.sources]

namespace Graph

variable {g g' : Graph} {name root : String} {names : List String}

/-! ### Agreement -/

/-- `g.SameDeps g' name`: the name is declared in both graphs with the same list of dependencies, or
it is declared in neither. -/
def SameDeps (g g' : Graph) (name : String) : Prop :=
  (g.get? name).map (·.deps) = (g'.get? name).map (·.deps)

/-- `g.SameShare g' name`: a target of this name that both graphs declare gives the same to the
environments of those that depend on it. -/
def SameShare (g g' : Graph) (name : String) : Prop :=
  ∀ t ∈ g.get? name, ∀ t' ∈ g'.get? name, t.GivesSame t'

/-- `g.SameLocals g' name`: a target of this name that both graphs declare has the same directories
for itself. -/
def SameLocals (g g' : Graph) (name : String) : Prop :=
  ∀ t ∈ g.get? name, ∀ t' ∈ g'.get? name, t.localIncludeDirs = t'.localIncludeDirs

instance : Decidable (g.SameDeps g' name) := inferInstanceAs (Decidable (_ = _))

instance : Decidable (g.SameLocals g' name) :=
  inferInstanceAs (Decidable (∀ t ∈ g.get? name, ∀ t' ∈ g'.get? name,
    t.localIncludeDirs = t'.localIncludeDirs))

instance : Decidable (g.SameShare g' name) :=
  inferInstanceAs (Decidable (∀ t ∈ g.get? name, ∀ t' ∈ g'.get? name, t.GivesSame t'))

namespace SameDeps

theorem get?_eq_none (h : g.SameDeps g' name) (hn : g.get? name = none) : g'.get? name = none := by
  rw [SameDeps, hn] at h
  exact Option.map_eq_none_iff.1 h.symm

theorem get?_eq_some {t : Target} (h : g.SameDeps g' name) (ht : g.get? name = some t) :
    ∃ t', g'.get? name = some t' ∧ t'.deps = t.deps := by
  rw [SameDeps, ht] at h
  exact Option.map_eq_some_iff.1 h.symm

/-- What two declarations of one name agree in can be looked up in either graph. -/
theorem map_get?_eq {α : Type} {f : Target → α} (h : g.SameDeps g' name)
    (hf : ∀ t ∈ g.get? name, ∀ t' ∈ g'.get? name, f t = f t') :
    (g.get? name).map f = (g'.get? name).map f := by
  cases hg : g.get? name with
  | none => rw [h.get?_eq_none hg]
  | some t =>
    obtain ⟨t', ht', -⟩ := h.get?_eq_some hg
    rw [ht', Option.map_some, Option.map_some, hf t hg t' ht']

end SameDeps

/-! ### The walk -/

/-- A call of the recursion depends on what its target reaches. -/
theorem search_congr (path done : List String) (name : String)
    (same : ∀ n, g.Reaches name n → g.SameDeps g' n) :
    g.search path done name = g'.search path done name := by
  fun_induction Graph.search g path done name with
  | case1 path done name hd => rw [search_of_mem_done hd]
  | case2 path done name hd ho => rw [search_of_mem_path hd ho]
  | case3 path done name hd ho hf =>
    rw [search_of_get?_eq_none hd ho ((same name .refl).get?_eq_none hf)]
  | case4 path done name hd ho t hf ih =>
    obtain ⟨t', hf', hdeps⟩ := (same name .refl).get?_eq_some hf
    rw [search_of_get? hd ho hf', hdeps]
    refine congrArg (· >>= _) (foldlM_congr (fun dep hdep done => ?_) done)
    exact ih done dep fun n hn => same n (.head ⟨t, hf, hdep⟩ hn)

/-- A closure depends on what the requests reach. -/
theorem closure_congr (same : ∀ r ∈ names, ∀ n, g.Reaches r n → g.SameDeps g' n) :
    g.closure names = g'.closure names := by
  rw [closure_eq_foldlM_search, closure_eq_foldlM_search]
  exact foldlM_congr (fun r hr done => search_congr [] done r (same r hr)) []

/-! ### Waves -/

/-- The wave of a target depends on its dependencies. -/
theorem add_congr (same : g.SameDeps g' name) (w : Waves) :
    Waves.add g w name = Waves.add g' w name := by
  unfold Waves.add
  cases hg : g.get? name with
  | none =>
    rw [find_of_contains_eq_false (contains_eq_false_iff.2 hg),
      find_of_contains_eq_false (contains_eq_false_iff.2 (same.get?_eq_none hg))]
  | some t =>
    obtain ⟨t', hg', hdeps⟩ := same.get?_eq_some hg
    rw [find_of_get? hg, find_of_get? hg']
    simp only [bind, Except.bind, hdeps]

theorem waves_congr {p : Plan} (same : ∀ n ∈ p.names, g.SameDeps g' n) : g.waves p = g'.waves p :=
  congrArg (Except.map _) (foldlM_congr (fun n hn w => add_congr (same n hn) w) {})

/-! ### Environments -/

/-- An environment, with everything in it looked up by name. -/
theorem environment_eq {env : BuildEnvironment} (h : g.environment name = .ok env) :
    ∃ root l, g.get? name = some root ∧ g.closure [name] = .ok l ∧ env =
      { includeDirs := Text.distinct <| g.includeDirs ++
          (l.filterMap fun n => (g.get? n).map (·.globalIncludeDirs)).flatten ++
          root.localIncludeDirs
        linkFlags := Text.distinct (l.filterMap fun n => (g.get? n).map (·.linkFlags)).flatten
        libraries := l.reverse.filter (g.isLinkedInto name) } := by
  obtain ⟨l, hc, hlibs⟩ := libraries_eq_filter h
  obtain ⟨root, members, hroot, hget, hc', rfl⟩ := members_of_environment h
  obtain rfl := Except.ok.inj (hc.symm.trans hc')
  have hmembers {α : Type} (f : Target → α) :
      (members.map (·.name)).filterMap (fun n => (g.get? n).map f) = members.map f := by
    rw [List.filterMap_map, ← List.filterMap_eq_map]
    exact List.filterMap_congr fun t ht => by simp [hget t ht]
  refine ⟨root, _, hroot, hc, ?_⟩
  rw [← hlibs, hmembers, hmembers, ← List.flatMap_def, ← List.flatMap_def]
  rfl

/-- Whether a target is linked depends on its kind and on whether it has sources. -/
theorem isLinkedInto_congr (same : g.SameDeps g' name) (share : g.SameShare g' name) :
    g.isLinkedInto root name = g'.isLinkedInto root name := by
  have hany : (g.get? name).map Target.isArchive = (g'.get? name).map Target.isArchive :=
    same.map_get?_eq fun t ht t' ht' => (share t ht t' ht').isArchive_eq
  have hmap (o : Option Target) : o.any Target.isArchive = (o.map Target.isArchive).any id := by
    cases o <;> rfl
  rw [isLinkedInto, isLinkedInto, hmap, hmap, hany]

/-- An environment depends on what its root reaches, on the directories of the project and on the
local directories of the root. -/
theorem environment_congr (same : ∀ n, g.Reaches root n → g.SameDeps g' n)
    (dirs : g.includeDirs = g'.includeDirs)
    (share : ∀ n, g.Reaches root n → g.SameShare g' n)
    (locals : g.SameLocals g' root) :
    g.environment root = g'.environment root := by
  have hclosure : g.closure [root] = g'.closure [root] := by
    refine closure_congr fun r hr n hn => same n ?_
    rwa [List.mem_singleton.1 hr] at hn
  cases he : g.environment root with
  | error e =>
    rw [environment_eq_error_iff, hclosure] at he
    exact (environment_eq_error_iff.2 he).symm
  | ok env =>
    obtain ⟨t, l, ht, hc, rfl⟩ := environment_eq he
    cases he' : g'.environment root with
    | error e =>
      rw [environment_eq_error_iff, ← hclosure, hc] at he'
      cases he'
    | ok env' =>
      obtain ⟨t', l', ht', hc', rfl⟩ := environment_eq he'
      obtain rfl : l = l' := Except.ok.inj (hc.symm.trans (hclosure.trans hc'))
      have hreach : ∀ n ∈ l, g.Reaches root n := fun n hn => by
        simpa using ((settled_of_closure hc).2 n).1 hn
      have hcollect {α : Type} {f : Target → α} (hf : ∀ t t', t.GivesSame t' → f t = f t') :
          (l.filterMap fun n => (g.get? n).map f) = l.filterMap fun n => (g'.get? n).map f := by
        refine List.filterMap_congr fun n hn => (same n (hreach n hn)).map_get?_eq ?_
        exact fun t ht t' ht' => hf t t' (share n (hreach n hn) t ht t' ht')
      have hlinked : l.reverse.filter (g.isLinkedInto root) =
          l.reverse.filter (g'.isLinkedInto root) := by
        refine List.filter_congr fun n hn => ?_
        have hn := hreach n (List.mem_reverse.1 hn)
        exact isLinkedInto_congr (same n hn) (share n hn)
      rw [dirs, locals t ht t' ht', hlinked, hcollect fun _ _ h => h.globalIncludeDirs,
        hcollect fun _ _ h => h.linkFlags]

/-! ### Two graphs -/

/-- **A plan depends on what it reaches.** If two graphs agree on the dependencies of every name
that some requests reach in the first of them, then the requests give the same plan in both or fail
with the same error in both, and a plan has the same waves in both. If furthermore the graphs have
the same directories for every target, the targets that a request reaches give the same to
environments, and the request has the same local directories in both, then it has the same
environment in both, or it has none for the same reason. -/
theorem plan_local (same : ∀ r ∈ names, ∀ n, g.Reaches r n → g.SameDeps g' n) :
    g.plan names = g'.plan names ∧
    (∀ p, g.plan names = .ok p → g.waves p = g'.waves p) ∧
    (g.includeDirs = g'.includeDirs → ∀ root ∈ names,
      (∀ n, g.Reaches root n → g.SameShare g' n) →
      g.SameLocals g' root → g.environment root = g'.environment root) := by
  refine ⟨congrArg _ (closure_congr same), fun p hp => waves_congr fun n hn => ?_,
    fun dirs root hroot share locals => environment_congr (same root hroot) dirs share locals⟩
  obtain ⟨r, hr, hn⟩ := (mem_plan_iff hp).1 hn
  exact same r hr n hn

/-- The targets of `layered` in another order, beside a test of their own. They have other sources,
headers and directories of their own wherever that makes no difference to those above them. -/
def rearranged : Graph where
  toCatalog :=
    ((((((default : Catalog).push
      { name := "a", kind := .program, sources := ["main.c", "a.c"], deps := ["c", "n"] }
        (by decide) (by decide)).push
      { name := "n", kind := .library, sources := ["n.c"], headers := ["n.h"], deps := ["g"],
        localIncludeDirs := ["private"] }
        (by decide) (by decide)).push
      { name := "u", kind := .test, sources := ["u.c"], deps := ["a"] }
        (by decide) (by decide)).push
      { name := "c", kind := .library, sources := ["c.c"], lintExempt := true }
        (by decide) (by decide)).push
      { name := "g", kind := .program, sources := ["main.c", "g.c"], deps := ["h"] }
        (by decide) (by decide)).push
      { name := "h", kind := .library, headers := ["h.hpp"], deps := ["c"] }
        (by decide) (by decide)
  closed := Catalog.danglingReference?_eq_none_iff.1 (by decide)

/-- Neither the order nor the further contents of the targets make a difference to the program. -/
theorem plan_local_layered :
    (∀ n, layered.Reaches "a" n → layered.SameDeps rearranged n) ∧
    (∀ n, layered.Reaches "a" n → layered.SameShare rearranged n) ∧
    layered.plan ["a"] = .ok ⟨["c", "h", "g", "n", "a"]⟩ ∧
    layered.plan ["a"] = rearranged.plan ["a"] ∧
    layered.waves ⟨["c", "h", "g", "n", "a"]⟩ = rearranged.waves ⟨["c", "h", "g", "n", "a"]⟩ ∧
    layered.environment "a" = rearranged.environment "a" := by
  have hplan : layered.plan ["a"] = .ok ⟨["c", "h", "g", "n", "a"]⟩ := by cbv
  have hreach (n : String) (hn : layered.Reaches "a" n) : n ∈ ["c", "h", "g", "n", "a"] :=
    (mem_plan_iff hplan).2 ⟨"a", .head _, hn⟩
  have hagree : ∀ n ∈ ["c", "h", "g", "n", "a"],
      layered.SameDeps rearranged n ∧ layered.SameShare rearranged n := by decide
  have same (n : String) (hn : layered.Reaches "a" n) : layered.SameDeps rearranged n :=
    (hagree n (hreach n hn)).1
  have share (n : String) (hn : layered.Reaches "a" n) : layered.SameShare rearranged n :=
    (hagree n (hreach n hn)).2
  have requested : ∀ r ∈ ["a"], ∀ n, layered.Reaches r n → layered.SameDeps rearranged n :=
    fun r hr n hn => same n (List.mem_singleton.1 hr ▸ hn)
  obtain ⟨hsame, hwaves, henv⟩ := plan_local requested
  exact ⟨same, share, hplan, hsame, hwaves _ hplan, henv rfl "a" (.head _) share (by decide)⟩

end Graph

end Buildwright
