import Buildwright.Proofs.Graph.Environment
import Buildwright.Proofs.Text

/-!
# What a target is compiled with

The include directories and link flags of an environment come from an order of building: each target
adds its own behind those of its dependencies, and what has been added before is not added again. So
the place of a directory or flag is that of the first target that gives it. The directories of the
project stand in front of all others, and those that the root keeps to itself stand behind
(`environment_deps_first`).
-/

namespace Buildwright.Graph

open Relation

variable {g : Graph} {name : String} {env : BuildEnvironment}

/-! ### Who gives what -/

/-- `g.Gives field a x`: the target `a` lists `x` in one of its fields. -/
def Gives (g : Graph) (field : Target → List String) (a x : String) : Prop :=
  ∃ t, g.get? a = some t ∧ x ∈ field t

/-- `g.GivesDir root a dir`: the target `a` gives a directory to the environment of `root`, as one
for its dependents or, if it is the root, as one for itself. -/
def GivesDir (g : Graph) (root a dir : String) : Prop :=
  g.Gives (·.globalIncludeDirs) a dir ∨ a = root ∧ g.Gives (·.localIncludeDirs) a dir

/-- `g.Collects root env`: the environment has the directories and flags that belong to the
environment of `root`, in the order in which they belong there. -/
structure Collects (g : Graph) (root : String) (env : BuildEnvironment) : Prop where
  nodup_dirs : env.includeDirs.Nodup
  nodup_flags : env.linkFlags.Nodup
  mem_dirs_iff : ∀ dir, dir ∈ env.includeDirs ↔
    dir ∈ g.includeDirs ∨ (∃ m, g.Reaches root m ∧ g.Gives (·.globalIncludeDirs) m dir) ∨
      g.Gives (·.localIncludeDirs) root dir
  mem_flags_iff : ∀ flag, flag ∈ env.linkFlags ↔
    ∃ m, g.Reaches root m ∧ g.Gives (·.linkFlags) m flag
  /-- The directories of the project come first, in their order. -/
  project_first : Text.distinct g.includeDirs <+: env.includeDirs
  /-- A directory of a dependency stands before one that only a dependent gives. -/
  dirs_in_order : ∀ m d, g.Reaches root m → g.DependsOn m d →
    ∀ x y, g.GivesDir root d x → g.GivesDir root m y → y ∉ g.includeDirs →
      (∀ n, g.Reaches root n → g.GivesDir root n y → n = m) → [x, y].Sublist env.includeDirs
  /-- A flag of a dependency stands before one that only a dependent gives. -/
  flags_in_order : ∀ m d, g.Reaches root m → g.DependsOn m d →
    ∀ x y, g.Gives (·.linkFlags) d x → g.Gives (·.linkFlags) m y →
      (∀ n, g.Reaches root n → g.Gives (·.linkFlags) n y → n = m) → [x, y].Sublist env.linkFlags
  /-- What the root keeps to itself and nobody else gives comes last, in the order of the root. -/
  locals_last : ∃ t front, g.get? root = some t ∧
    (∀ dir, dir ∈ front ↔ dir ∈ g.includeDirs ∨
      ∃ m, g.Reaches root m ∧ g.Gives (·.globalIncludeDirs) m dir) ∧
    env.includeDirs = front ++ (Text.distinct t.localIncludeDirs).filter (· ∉ front)

/-! ### Members -/

/-- `g.IsMade root members`: the targets `members` are `root` and everything it depends on, in an
order of building. -/
structure IsMade (g : Graph) (root : String) (members : List Target) : Prop where
  get?_eq : ∀ t ∈ members, g.get? t.name = some t
  settled : g.Settled (members.map (·.name)).reverse
  mem_iff : ∀ m, m ∈ members.map (·.name) ↔ g.Reaches root m

namespace IsMade

variable {members : List Target} {field : Target → List String}

/-- What the members list is what they give. -/
theorem mem_flatMap_iff (h : g.IsMade name members) {x : String} :
    x ∈ members.flatMap field ↔ ∃ m, g.Reaches name m ∧ g.Gives field m x := by
  rw [List.mem_flatMap]
  constructor
  · rintro ⟨t, ht, hx⟩
    exact ⟨t.name, (h.mem_iff _).1 (List.mem_map_of_mem ht), t, h.get?_eq t ht, hx⟩
  · rintro ⟨m, hm, t, ht, hx⟩
    obtain ⟨u, hu, rfl⟩ := List.mem_map.1 ((h.mem_iff m).2 hm)
    obtain rfl : u = t := Option.some.inj ((h.get?_eq u hu).symm.trans ht)
    exact ⟨u, hu, hx⟩

/-- **Dependencies come first.** Among the members, whatever a dependency gives stands before what
comes from its dependent or from behind the members, if no other member gives it and it has not come
up in front of them. -/
theorem sublist_distinct (h : g.IsMade name members) {front back : List String} {m d x y : String}
    (hm : g.Reaches name m) (hmd : g.DependsOn m d) (hx : g.Gives field d x)
    (hy : g.Gives field m y ∨ y ∈ back) (hfront : y ∉ front)
    (honly : ∀ n, g.Reaches name n → g.Gives field n y → n = m) :
    [x, y].Sublist (Text.distinct (front ++ members.flatMap field ++ back)) := by
  have hdm : [d, m].Sublist (members.map (·.name)) := by
    have hm' := List.mem_reverse.2 ((h.mem_iff m).2 hm)
    simpa using (h.settled.sublist_of_dependsOn hm' hmd).reverse
  have hnodup := List.nodup_reverse.1 h.settled.nodup
  -- the members are cut in front of the dependent
  obtain ⟨early, late, hcut, hd, hm'⟩ := List.cons_sublist_iff.1 hdm
  obtain ⟨older, newer, rfl, rfl, rfl⟩ := List.map_eq_append_iff.1 hcut
  have hm' := List.singleton_sublist.1 hm'
  rw [List.map_append] at hnodup
  have hearly : y ∉ older.flatMap field := by
    intro hy
    obtain ⟨t, ht, hy⟩ := List.mem_flatMap.1 hy
    have hmem := List.mem_append_left newer ht
    obtain rfl : t.name = m :=
      honly t.name ((h.mem_iff _).1 (List.mem_map_of_mem hmem)) ⟨t, h.get?_eq t hmem, hy⟩
    exact List.disjoint_of_nodup_append hnodup (List.mem_map_of_mem ht) hm'
  have hxs : x ∈ older.flatMap field := by
    obtain ⟨t, ht, rfl⟩ := List.mem_map.1 hd
    obtain ⟨u, hu, hx⟩ := hx
    obtain rfl : t = u := Option.some.inj ((h.get?_eq t (List.mem_append_left _ ht)).symm.trans hu)
    exact List.mem_flatMap.2 ⟨t, ht, hx⟩
  have hys : y ∈ newer.flatMap field ++ back := by
    rcases hy with ⟨u, hu, hy⟩ | hy
    · obtain ⟨t, ht, rfl⟩ := List.mem_map.1 hm'
      obtain rfl : t = u :=
        Option.some.inj ((h.get?_eq t (List.mem_append_right _ ht)).symm.trans hu)
      exact List.mem_append_left _ (List.mem_flatMap.2 ⟨t, ht, hy⟩)
    · exact List.mem_append_right _ hy
  rw [List.flatMap_append, ← List.append_assoc, List.append_assoc]
  refine Text.sublist_distinct_append (List.mem_append_right _ hxs) hys fun hy => ?_
  exact (List.mem_append.1 hy).elim hfront hearly

end IsMade

/-- An environment is made of members. -/
theorem isMade_of_environment (h : g.environment name = .ok env) :
    ∃ root members, g.get? name = some root ∧ g.IsMade name members ∧
      env = g.environmentOf root members := by
  obtain ⟨root, members, hroot, hget, hc, rfl⟩ := members_of_environment h
  obtain ⟨hset, hmem⟩ := settled_of_closure hc
  exact ⟨root, members, hroot, ⟨hget, hset, fun m => (hmem m).trans (by simp)⟩, rfl⟩

/-- **An environment collects what belongs there, dependencies first.** No directory and no flag
stands twice. The directories are those of the project, those that the target and everything it
depends on give to their dependents, and those that the target keeps to itself; the flags are those
of the target and everything it depends on. The directories of the project come first. Of two
targets of which one depends on the other, the dependency has its directories and flags before those
that only the dependent gives. What the target keeps to itself comes last, in the order of its
declaration. -/
theorem environment_deps_first (h : g.environment name = .ok env) : g.Collects name env := by
  obtain ⟨root, members, hroot, hmade, rfl⟩ := isMade_of_environment h
  have hlocal (dir : String) :
      g.Gives (·.localIncludeDirs) name dir ↔ dir ∈ root.localIncludeDirs :=
    ⟨fun ⟨t, ht, hdir⟩ => Option.some.inj (hroot.symm.trans ht) ▸ hdir,
      fun hdir => ⟨root, hroot, hdir⟩⟩
  have hfront (dir : String) :
      dir ∈ g.includeDirs ++ members.flatMap (·.globalIncludeDirs) ↔ dir ∈ g.includeDirs ∨
        ∃ m, g.Reaches name m ∧ g.Gives (·.globalIncludeDirs) m dir := by
    rw [List.mem_append, hmade.mem_flatMap_iff]
  refine ⟨Text.nodup_distinct _, Text.nodup_distinct _, fun dir => ?_, fun flag => ?_, ?_,
    fun m d hm hmd x y hx hy hproject honly => ?_, fun m d hm hmd x y hx hy honly => ?_,
    root, Text.distinct (g.includeDirs ++ members.flatMap (·.globalIncludeDirs)), hroot,
    fun dir => Text.mem_distinct.trans (hfront dir), ?_⟩
  · rw [environmentOf, Text.mem_distinct, List.mem_append, hfront, hlocal, or_assoc]
  · rw [environmentOf, Text.mem_distinct, hmade.mem_flatMap_iff]
  · rw [environmentOf, List.append_assoc, Text.distinct_append]
    exact List.prefix_append _ _
  · -- the root depends on nothing that could be itself
    have hmem : d ∈ (members.map (·.name)).reverse :=
      List.mem_reverse.2 ((hmade.mem_iff d).2 (hm.trans hmd.to_reflTransGen))
    have hdroot : d ≠ name := by
      rintro rfl
      exact hmade.settled.acyclic d hmem (TransGen.trans_right hm hmd)
    have hx := hx.resolve_right fun hx => hdroot hx.1
    refine hmade.sublist_distinct hm hmd hx (hy.imp_right ?_) hproject fun n hn hy =>
      honly n hn (.inl hy)
    rintro ⟨rfl, hlocally⟩
    exact (hlocal y).1 hlocally
  · have hfresh : y ∉ ([] : List String) := List.not_mem_nil
    have hy : g.Gives (·.linkFlags) m y ∨ y ∈ ([] : List String) := .inl hy
    simpa [environmentOf] using hmade.sublist_distinct hm hmd hx hy hfresh honly
  · rw [environmentOf, Text.distinct_append]
    simp

/-- A program that needs a library which needs another one. Some of their directories and flags are
given by more than one of them. -/
def exporting : Graph where
  toCatalog :=
    (((default : Catalog).push
      { name := "a", kind := .program, sources := ["a.c"], deps := ["u"],
        localIncludeDirs := ["app", "util"], linkFlags := ["-s"] } (by decide) (by decide)).push
      { name := "u", kind := .library, sources := ["u.c"], deps := ["b"],
        globalIncludeDirs := ["util", "base"], localIncludeDirs := ["private"],
        linkFlags := ["-lz", "-lm"] } (by decide) (by decide)).push
      { name := "b", kind := .library, headers := ["b.h"],
        globalIncludeDirs := ["base", "include"], linkFlags := ["-lm"] } (by decide) (by decide)
  includeDirs := ["include"]
  closed := Catalog.danglingReference?_eq_none_iff.1 (by decide)

/-- The directory that the library below gives as well stands where that library puts it. -/
theorem environment_exporting :
    exporting.environment "a" = .ok
      { includeDirs := ["include", "base", "util", "app"]
        linkFlags := ["-lm", "-lz", "-s"]
        libraries := ["u"] } ∧
    exporting.Collects "a"
      { includeDirs := ["include", "base", "util", "app"]
        linkFlags := ["-lm", "-lz", "-s"]
        libraries := ["u"] } := by
  have hclosure : exporting.closure ["a"] = .ok ["b", "u", "a"] := by cbv
  have h : exporting.environment "a" = .ok
      { includeDirs := ["include", "base", "util", "app"]
        linkFlags := ["-lm", "-lz", "-s"]
        libraries := ["u"] } := by
    rw [environment, hclosure]
    rfl
  exact ⟨h, environment_deps_first h⟩

end Buildwright.Graph
