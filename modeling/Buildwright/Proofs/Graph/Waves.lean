import Buildwright.Proofs.Graph.Plan
import Mathlib.Order.Bounds.Basic

/-!
# Waves

A plan is cut into waves in one pass: each target goes into the wave after the last of its
dependencies. Since the dependencies come before it, their waves are known by then, and by induction
along the plan the wave of a target is the length of the longest walk along dependencies that begins
at it (`Graph.HasDepth`). That is a property of the graph, so the wave of a target does not depend
on what else is planned, and no other way of numbering the targets could give it a smaller number
(`Graph.waves_layer_plan`). There is no gap between the waves, for a target that is put into a wave
has a dependency in the one before (`Waves.Cuts`).
-/

namespace Buildwright

namespace Graph

open Relation

variable {g : Graph} {a b : String} {m n : Nat}

/-! ### Depth -/

/-- The lengths of the walks along dependencies that begin at a target. -/
def chainLengths (g : Graph) (a : String) : Set Nat :=
  {n | ∃ path, (a :: path).IsChain g.Needs ∧ path.length = n}

/-- `g.HasDepth a n`: the longest walk along dependencies that begins at `a` has the length `n`. -/
def HasDepth (g : Graph) (a : String) (n : Nat) : Prop := IsGreatest (g.chainLengths a) n

namespace HasDepth

theorem unique (h : g.HasDepth a m) (h' : g.HasDepth a n) : m = n := IsGreatest.unique h h'

/-- A target is deeper than everything on which it depends. -/
theorem lt_of_dependsOn (ha : g.HasDepth a m) (hb : g.HasDepth b n) (hab : g.DependsOn a b) :
    n < m := by
  have hlonger : ∃ path, (a :: path).IsChain g.Needs ∧ n < path.length := by
    obtain ⟨path, hpath, rfl⟩ := hb.1
    clear ha
    induction hab using TransGen.head_induction_on with
    | single hab => exact ⟨_, hpath.cons_cons hab, Nat.lt_succ_self _⟩
    | head hac _ ih =>
      obtain ⟨longer, hlonger, hlt⟩ := ih
      exact ⟨_, hlonger.cons_cons hac, Nat.lt_succ_of_lt hlt⟩
  obtain ⟨path, hpath, hlt⟩ := hlonger
  exact hlt.trans_le (ha.2 ⟨path, hpath, rfl⟩)

/-- Depth is the least rank: where every target has a greater number than its dependencies, no
target has a smaller number than its depth. -/
theorem le_rank {l : List String} (hclosed : ∀ a ∈ l, ∀ b, g.Needs a b → b ∈ l)
    {rank : String → Nat} (hrank : ∀ a ∈ l, ∀ b, g.Needs a b → rank b < rank a)
    (h : g.HasDepth a n) (ha : a ∈ l) : n ≤ rank a := by
  obtain ⟨path, hpath, rfl⟩ := h.1
  clear h
  induction path generalizing a with
  | nil => exact Nat.zero_le _
  | cons b path ih =>
    obtain ⟨hab, hpath⟩ := List.isChain_cons_cons.1 hpath
    exact (ih (hclosed a ha b hab) hpath).trans_lt (hrank a ha b hab)

/-- A target is one deeper than the deepest of its dependencies, if it has any. -/
theorem eq_zero_or_exists_needs (h : g.HasDepth a n) :
    n = 0 ∨ ∃ b m, g.Needs a b ∧ g.HasDepth b m ∧ n = m + 1 := by
  obtain ⟨path, hpath, rfl⟩ := h.1
  cases path with
  | nil => exact .inl rfl
  | cons b path =>
    obtain ⟨hab, hpath⟩ := List.isChain_cons_cons.1 hpath
    refine .inr ⟨b, path.length, hab, ⟨⟨path, hpath, rfl⟩, ?_⟩, rfl⟩
    rintro _ ⟨longer, hlonger, rfl⟩
    exact Nat.le_of_succ_le_succ (h.2 ⟨b :: longer, hlonger.cons_cons hab, rfl⟩)

end HasDepth

end Graph

/-! ### Cutting a plan -/

namespace Waves

open Buildwright.Graph

variable {g : Graph} {w : Waves} {names : List String} {a : String} {t : Target}

/-- The wave after some dependencies is the first one, or the one behind the wave of one of them. -/
theorem levelAfter_spec (w : Waves) (deps : List String) :
    (w.levelAfter deps = 0 ∨ ∃ d ∈ deps, ∃ n, w.levels[d]? = some n ∧ w.levelAfter deps = n + 1) ∧
      ∀ d ∈ deps, ∀ n, w.levels[d]? = some n → n < w.levelAfter deps := by
  let after := (deps.filterMap fun dep => w.levels[dep]?).map (· + 1)
  have hafter (k : Nat) :
      k ∈ after ↔ ∃ d ∈ deps, ∃ n, w.levels[d]? = some n ∧ k = n + 1 := by
    rw [List.mem_map]
    constructor
    · rintro ⟨n, hn, rfl⟩
      obtain ⟨d, hd, hn⟩ := List.mem_filterMap.1 hn
      exact ⟨d, hd, n, hn, rfl⟩
    · rintro ⟨d, hd, n, hn, rfl⟩
      exact ⟨n, List.mem_filterMap.2 ⟨d, hd, hn⟩, rfl⟩
  have hmax : (0 :: after).max? = some (w.levelAfter deps) := List.max?_cons'
  obtain ⟨hmem, hle⟩ := List.max?_eq_some_iff.1 hmax
  refine ⟨?_, fun d hd n hn => ?_⟩
  · rw [← hafter]
    exact List.mem_cons.1 hmem
  · exact hle (n + 1) (.tail _ ((hafter _).2 ⟨d, hd, n, hn, rfl⟩))

/-- The targets of a wave, among some targets in their order. -/
def layer (w : Waves) (names : List String) (i : Nat) : List String :=
  names.filter fun a => w.levels[a]? = some i

/-- The waves with one more target in the wave with a given number. -/
def put (w : Waves) (a : String) (level : Nat) : Waves where
  levels := w.levels.insert a level
  waves :=
    if level < w.waves.size then w.waves.modify level (a :: ·)
    else (w.waves ++ Array.replicate (level - w.waves.size) []).push [a]

theorem add_eq (ht : g.get? a = some t) : add g w a = .ok (w.put a (w.levelAfter t.deps)) := by
  rw [add, find_of_get? ht]
  rfl

theorem getElem?_levels_put (w : Waves) (a b : String) (level : Nat) :
    (w.put a level).levels[b]? = if a = b then some level else w.levels[b]? := by
  rw [put, Std.TreeMap.getElem?_insert]
  simp only [Std.compare_eq_iff_eq]

/-- A target that is put behind the last wave makes a new wave. -/
theorem size_put {level : Nat} (h : level ≤ w.waves.size) :
    (w.put a level).waves.size = max w.waves.size (level + 1) := by
  simp only [put]
  split
  · rw [Array.size_modify]
    omega
  · simp
    omega

/-- A target is put behind the others of its wave. -/
theorem getElem?_toLists_put {level : Nat} (h : level ≤ w.waves.size) (i : Nat) :
    (w.put a level).toLists[i]? =
      if i = level then some (w.toLists[level]?.getD [] ++ [a]) else w.toLists[i]? := by
  simp only [put, toLists]
  split
  · next hlt =>
    simp only [List.getElem?_map, Array.getElem?_toList, Array.getElem?_modify]
    by_cases heq : i = level
    · subst heq
      simp [Array.getElem?_eq_getElem hlt]
    · simp [heq, Ne.symm heq]
  · next hlast =>
    obtain rfl : level = w.waves.size := by omega
    rw [Nat.sub_self, Array.replicate_zero, Array.append_empty, Array.toList_push, List.map_append,
      List.getElem?_append]
    simp only [List.length_map, Array.length_toList, List.getElem?_map, Array.getElem?_toList]
    by_cases heq : i = w.waves.size
    · simp [heq]
    · rw [if_neg heq]
      split
      · rfl
      · next hge =>
        have hpast : 1 ≤ i - w.waves.size := by omega
        rw [Array.getElem?_eq_none (by omega), List.getElem?_eq_none hpast]

/-- `w.Cuts g names`: the targets that have been put into waves are `names`, in this order. Each one
is in the wave of its depth, and there is a target in every wave. -/
structure Cuts (w : Waves) (g : Graph) (names : List String) : Prop where
  exists_level : ∀ a ∈ names, ∃ n, w.levels[a]? = some n
  of_level : ∀ (a : String) n, w.levels[a]? = some n → a ∈ names ∧ g.HasDepth a n ∧ n < w.waves.size
  inhabited : ∀ i < w.waves.size, ∃ a : String, w.levels[a]? = some i
  getD_toLists : ∀ i, w.toLists[i]?.getD [] = w.layer names i

namespace Cuts

theorem empty (g : Graph) : Cuts {} g [] where
  exists_level := by simp
  of_level := by simp
  inhabited := by simp
  getD_toLists := by simp [toLists, layer]

/-- The dependencies of a target tell its depth. -/
theorem hasDepth_levelAfter (h : w.Cuts g names) (ht : g.get? a = some t)
    (hdeps : ∀ d ∈ t.deps, d ∈ names) : g.HasDepth a (w.levelAfter t.deps) := by
  obtain ⟨hcases, hlt⟩ := levelAfter_spec w t.deps
  constructor
  · rcases hcases with hzero | ⟨d, hd, n, hn, hsucc⟩
    · exact ⟨[], .singleton a, hzero.symm⟩
    · obtain ⟨path, hpath, rfl⟩ := (h.of_level d n hn).2.1.1
      exact ⟨d :: path, hpath.cons_cons ((needs_iff ht).2 hd), hsucc.symm⟩
  · rintro _ ⟨path, hpath, rfl⟩
    cases path with
    | nil => exact Nat.zero_le _
    | cons d path =>
      obtain ⟨had, hpath⟩ := List.isChain_cons_cons.1 hpath
      have hd := (needs_iff ht).1 had
      obtain ⟨n, hn⟩ := h.exists_level d (hdeps d hd)
      have hle : path.length ≤ n := (h.of_level d n hn).2.1.2 ⟨path, hpath, rfl⟩
      exact hle.trans_lt (hlt d hd n hn)

/-- There is no gap between the waves and the one into which a target is put. -/
theorem levelAfter_le (h : w.Cuts g names) (deps : List String) :
    w.levelAfter deps ≤ w.waves.size := by
  rcases (levelAfter_spec w deps).1 with hzero | ⟨d, -, n, hn, hsucc⟩
  · exact hzero ▸ Nat.zero_le _
  · exact hsucc ▸ (h.of_level d n hn).2.2

/-- **One more target.** A target whose dependencies have been put into waves goes into the wave of
its depth, behind the others. -/
theorem put (h : w.Cuts g names) (ht : g.get? a = some t) (hdeps : ∀ d ∈ t.deps, d ∈ names)
    (hfresh : a ∉ names) : (w.put a (w.levelAfter t.deps)).Cuts g (names ++ [a]) := by
  have hdepth := h.hasDepth_levelAfter ht hdeps
  have hle := h.levelAfter_le t.deps
  generalize w.levelAfter t.deps = level at hdepth hle
  have hlevels (b : String) := getElem?_levels_put w a b level
  have hsize := size_put (a := a) hle
  have hother (b : String) (hb : b ∈ names) : (w.put a level).levels[b]? = w.levels[b]? := by
    have hne : a ≠ b := fun hab => hfresh (hab ▸ hb)
    rw [hlevels, if_neg hne]
  refine ⟨fun b hb => ?_, fun b n hn => ?_, fun i hi => ?_, fun i => ?_⟩
  · rcases List.mem_append.1 hb with hb | hb
    · exact hother b hb ▸ h.exists_level b hb
    · rw [List.mem_singleton.1 hb, hlevels, if_pos rfl]
      exact ⟨level, rfl⟩
  · rw [hlevels] at hn
    split at hn
    · next hab =>
      obtain rfl := Option.some.inj hn
      subst hab
      exact ⟨by simp, hdepth, by omega⟩
    · obtain ⟨hb, hdepth, hlt⟩ := h.of_level b n hn
      exact ⟨List.mem_append_left _ hb, hdepth, by omega⟩
  · by_cases heq : i = level
    · exact ⟨a, by rw [hlevels, if_pos rfl, heq]⟩
    · obtain ⟨b, hb⟩ := h.inhabited i (by omega)
      exact ⟨b, (hother b (h.of_level b i hb).1).trans hb⟩
  · have hlayer : (w.put a level).layer (names ++ [a]) i =
        w.layer names i ++ if i = level then [a] else [] := by
      have hnames : names.filter (fun b => (w.put a level).levels[b]? = some i) =
          w.layer names i := List.filter_congr fun b hb => by rw [hother b hb]
      rw [layer, List.filter_append, hnames]
      simp [hlevels, eq_comm, List.filter_cons]
    rw [getElem?_toLists_put hle, hlayer]
    split
    · next heq =>
      subst heq
      rw [Option.getD_some, h.getD_toLists]
    · rw [h.getD_toLists, List.append_nil]

/-- **A whole plan.** Targets in an order of building can be put into waves, one after another. -/
theorem of_settled {l : List String} (h : g.Settled l) :
    ∃ w, l.reverse.foldlM (add g) {} = .ok w ∧ w.Cuts g l.reverse := by
  induction h with
  | nil => exact ⟨{}, rfl, empty g⟩
  | @cons name t older ht hd hn _ ih =>
    obtain ⟨w, hw, hcuts⟩ := ih
    refine ⟨w.put name (w.levelAfter t.deps), ?_, ?_⟩
    · rw [List.reverse_cons, List.foldlM_append]
      exact bind_eq_ok_iff.2 ⟨w, hw, bind_eq_ok_iff.2 ⟨_, add_eq ht, rfl⟩⟩
    · rw [List.reverse_cons]
      exact hcuts.put ht (fun d hmem => List.mem_reverse.2 (hd d hmem)) (by simpa using hn)

theorem toLists_eq (h : w.Cuts g names) :
    w.toLists = (List.range w.waves.size).map (w.layer names) := by
  refine List.ext_getElem (by simp [toLists]) fun i hi _ => ?_
  have hget := h.getD_toLists i
  rw [List.getElem?_eq_getElem hi, Option.getD_some] at hget
  simpa using hget

theorem mem_layer_iff (h : w.Cuts g names) {i : Nat} :
    a ∈ w.layer names i ↔ w.levels[a]? = some i := by
  rw [layer, List.mem_filter, decide_eq_true_iff]
  exact and_iff_right_of_imp fun hi => (h.of_level a i hi).1

/-- No target is lost, and none is in two waves. -/
theorem flatten_perm (h : w.Cuts g names) (hnodup : names.Nodup) :
    w.toLists.flatten.Perm names := by
  rw [h.toLists_eq, List.perm_ext_iff_of_nodup _ hnodup]
  · intro a
    simp only [List.mem_flatten, List.mem_map, List.mem_range, exists_exists_and_eq_and,
      h.mem_layer_iff]
    constructor
    · rintro ⟨i, -, ha⟩
      exact (h.of_level a i ha).1
    · intro ha
      obtain ⟨i, hi⟩ := h.exists_level a ha
      exact ⟨i, (h.of_level a i hi).2.2, hi⟩
  · rw [List.nodup_flatten]
    refine ⟨fun layer hl => ?_,
      List.pairwise_map.2 (List.pairwise_lt_range.imp fun hij a hi hj => ?_)⟩
    · obtain ⟨i, -, rfl⟩ := List.mem_map.1 hl
      exact hnodup.filter _
    · rw [h.mem_layer_iff] at hi hj
      exact hij.ne (Option.some.inj (hi.symm.trans hj))

end Cuts

end Waves

/-! ### The waves of a plan -/

namespace Graph

open Relation

variable {g : Graph} {names : List String} {p : Plan}

/-- `StandsIn waves i a`: the target `a` is in the wave with the number `i`. -/
def StandsIn (waves : List (List String)) (i : Nat) (a : String) : Prop :=
  ∃ wave, waves[i]? = some wave ∧ a ∈ wave

/-- `g.Layers names waves`: the waves are those of the targets `names`. -/
structure Layers (g : Graph) (names : List String) (waves : List (List String)) : Prop where
  /-- No target is lost or repeated. -/
  perm : waves.flatten.Perm names
  ne_nil : ∀ wave ∈ waves, wave ≠ []
  /-- The targets of a wave keep their order. -/
  sublist : ∀ wave ∈ waves, wave.Sublist names
  /-- The number of a wave is the length of the longest walk from any of its targets. -/
  hasDepth : ∀ i a, StandsIn waves i a → g.HasDepth a i
  /-- Dependencies are in earlier waves. -/
  earlier : ∀ i a b, StandsIn waves i a → g.Needs a b → ∃ j < i, StandsIn waves j b
  /-- No target of a wave depends on another one. -/
  apart : ∀ i a b, StandsIn waves i a → StandsIn waves i b → ¬ g.DependsOn a b
  /-- No other numbers that grow with the dependents are smaller. -/
  least : ∀ rank : String → Nat, (∀ a ∈ names, ∀ b, g.Needs a b → rank b < rank a) →
    ∀ i a, StandsIn waves i a → i ≤ rank a

namespace Layers

variable {waves : List (List String)} {a : String} {i j : Nat}

theorem exists_standsIn (h : g.Layers names waves) (ha : a ∈ names) : ∃ i, StandsIn waves i a := by
  obtain ⟨wave, hw, ha⟩ := List.mem_flatten.1 (h.perm.mem_iff.2 ha)
  obtain ⟨i, hi⟩ := List.mem_iff_getElem?.1 hw
  exact ⟨i, wave, hi, ha⟩

/-- A target is in one wave only. -/
theorem standsIn_iff (h : g.Layers names waves) (hi : StandsIn waves i a) :
    StandsIn waves j a ↔ j = i := by
  refine ⟨fun hj => (h.hasDepth j a hj).unique (h.hasDepth i a hi), ?_⟩
  rintro rfl
  exact hi

end Layers

theorem standsIn_toLists_iff {w : Waves} (h : w.Cuts g names) {i : Nat} {a : String} :
    StandsIn w.toLists i a ↔ w.levels[a]? = some i := by
  have hmem : StandsIn w.toLists i a ↔ a ∈ w.toLists[i]?.getD [] := by
    rw [StandsIn]
    cases w.toLists[i]? <;> simp
  rw [hmem, h.getD_toLists, h.mem_layer_iff]

/-- The waves of an order of building. -/
theorem layers_of_cuts {w : Waves} (h : w.Cuts g names) (hset : g.Settled names.reverse) :
    g.Layers names w.toLists := by
  have hclosed : ∀ a ∈ names, ∀ b, g.Needs a b → b ∈ names := fun a ha b hab =>
    List.mem_reverse.1 (hset.mem_of_needs (List.mem_reverse.2 ha) hab)
  have hdepth (i : Nat) (a : String) (ha : StandsIn w.toLists i a) : a ∈ names ∧ g.HasDepth a i :=
    have hlevel := h.of_level a i ((standsIn_toLists_iff h).1 ha)
    ⟨hlevel.1, hlevel.2.1⟩
  have hwave : ∀ wave ∈ w.toLists, ∃ i < w.waves.size, wave = w.layer names i := by
    rw [h.toLists_eq]
    intro wave hw
    obtain ⟨i, hi, rfl⟩ := List.mem_map.1 hw
    exact ⟨i, List.mem_range.1 hi, rfl⟩
  refine ⟨h.flatten_perm (List.nodup_reverse.1 hset.nodup), fun wave hw => ?_, fun wave hw => ?_,
    fun i a ha => (hdepth i a ha).2, fun i a b ha hab => ?_, fun i a b ha hb hab => ?_,
    fun rank hrank i a ha => ?_⟩
  · obtain ⟨i, hi, rfl⟩ := hwave wave hw
    obtain ⟨a, ha⟩ := h.inhabited i hi
    exact List.ne_nil_of_mem (h.mem_layer_iff.2 ha)
  · obtain ⟨i, -, rfl⟩ := hwave wave hw
    exact List.filter_sublist
  · obtain ⟨hmem, hi⟩ := hdepth i a ha
    obtain ⟨j, hj⟩ := h.exists_level b (hclosed a hmem b hab)
    exact ⟨j, hi.lt_of_dependsOn (h.of_level b j hj).2.1 (.single hab),
      (standsIn_toLists_iff h).2 hj⟩
  · exact Nat.lt_irrefl i ((hdepth i a ha).2.lt_of_dependsOn (hdepth i b hb).2 hab)
  · obtain ⟨hmem, hi⟩ := hdepth i a ha
    exact hi.le_rank hclosed hrank hmem

/-- A plan has waves. -/
theorem exists_waves (h : g.plan names = .ok p) :
    ∃ waves, g.waves p = .ok waves ∧ g.Layers p.names waves := by
  have hset := settled_of_plan h
  obtain ⟨w, hw, hcuts⟩ := Waves.Cuts.of_settled hset
  rw [List.reverse_reverse] at hw hcuts
  exact ⟨w.toLists, map_eq_ok_iff.2 ⟨w, hw, rfl⟩, layers_of_cuts hcuts hset⟩

/-- **A plan is cut into waves by depth.** Every planned target is in exactly one of the waves, none
of which is empty, and the targets of a wave keep their order. The number of its wave is the length
of the longest walk along dependencies that begins at a target; so its dependencies are in earlier
waves, and none of the targets of a wave depends on another one, directly or through others. However
else the planned targets are numbered, such that each one has a greater number than its
dependencies, no number is smaller than that of the wave. A target has the same wave in every plan
that contains it. -/
theorem waves_layer_plan (h : g.plan names = .ok p) :
    ∃ waves, g.waves p = .ok waves ∧ p.names.Nodup ∧ g.Layers p.names waves ∧
      ∀ names' p' waves', g.plan names' = .ok p' → g.waves p' = .ok waves' →
        ∀ a i j, StandsIn waves i a → StandsIn waves' j a → i = j := by
  obtain ⟨waves, hw, hlayers⟩ := exists_waves h
  refine ⟨waves, hw, List.nodup_reverse.1 (settled_of_plan h).nodup, hlayers,
    fun names' p' waves' h' hw' a i j hi hj => ?_⟩
  obtain ⟨other, hother, hlayers'⟩ := exists_waves h'
  obtain rfl := Except.ok.inj (hw'.symm.trans hother)
  exact (hlayers.hasDepth i a hi).unique (hlayers'.hasDepth j a hj)

/-- The two sides of the diamond are in one wave, and one of them has the same wave in a plan of its
own. -/
theorem waves_diamond :
    diamond.waves ⟨["d", "b", "c", "a"]⟩ = .ok [["d"], ["b", "c"], ["a"]] ∧
    diamond.Layers ["d", "b", "c", "a"] [["d"], ["b", "c"], ["a"]] ∧
    diamond.waves ⟨["d", "c"]⟩ = .ok [["d"], ["c"]] ∧
    ∀ a i j, StandsIn [["d"], ["b", "c"], ["a"]] i a → StandsIn [["d"], ["c"]] j a → i = j := by
  have hwaves : diamond.waves ⟨["d", "b", "c", "a"]⟩ = .ok [["d"], ["b", "c"], ["a"]] := rfl
  have hplan' : diamond.plan ["c"] = .ok ⟨["d", "c"]⟩ := by cbv
  have hwaves' : diamond.waves ⟨["d", "c"]⟩ = .ok [["d"], ["c"]] := rfl
  obtain ⟨waves, hw, -, hlayers, hsame⟩ := waves_layer_plan plan_diamond
  obtain rfl := Except.ok.inj (hwaves.symm.trans hw)
  exact ⟨hwaves, hlayers, hwaves', hsame _ _ _ hplan' hwaves'⟩

end Graph

end Buildwright
