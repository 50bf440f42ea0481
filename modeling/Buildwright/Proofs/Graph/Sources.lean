import Buildwright.CommandLine.Commands
import Buildwright.Proofs.Text

/-!
# Sources in their order

The sources to lint are those of the accepted targets, each listed once, where it comes up first:
the targets are gone through in the order of their declaration, and each target in the order of its
sources. So the place of a source is that of the first accepted target that lists it, however many
others list it before or after (`Graph.sourcesOf_selects`). To accept more targets loses no source,
but may move one that a newly accepted target lists earlier.
-/

namespace Buildwright

/-! ### Rows of texts -/

namespace Text

variable {rows : List (List String)} {row : List String} {x y : String} {i j k l : Nat}

/-- `IsLeast place i j`: row `i` and column `j` are a place, and there is none in an earlier row or
farther to the left in the same row. -/
def IsLeast (place : Nat → Nat → Prop) (i j : Nat) : Prop :=
  place i j ∧ ∀ k l, place k l → i < k ∨ i = k ∧ j ≤ l

/-- `StandsAt rows x i j`: the text `x` stands in row `i` at column `j`. -/
def StandsAt (rows : List (List String)) (x : String) (i j : Nat) : Prop :=
  ∃ row, rows[i]? = some row ∧ row[j]? = some x

/-- Nothing stands in front of where it first stands. -/
theorem idxOf_le_of_getElem? (h : row[j]? = some x) : row.idxOf x ≤ j := by
  obtain ⟨hlt, rfl⟩ := List.getElem?_eq_some_iff.1 h
  by_contra hj
  have hne := List.not_of_lt_findIdx (Nat.lt_of_not_le hj)
  simp at hne

theorem standsAt_idxOf (h : x ∈ row) (rows : List (List String)) :
    StandsAt (row :: rows) x 0 (row.idxOf x) :=
  ⟨row, rfl, by rw [List.getElem?_eq_getElem (List.idxOf_lt_length_of_mem h), List.getElem_idxOf]⟩

/-- A text that stands in the first row stands first where it stands first in this row. -/
theorem isLeast_idxOf (h : x ∈ row) (rows : List (List String)) :
    IsLeast (StandsAt (row :: rows) x) 0 (row.idxOf x) := by
  refine ⟨standsAt_idxOf h rows, fun k l hkl => ?_⟩
  cases k with
  | succ k => exact .inl k.succ_pos
  | zero =>
    obtain ⟨_, ⟨⟩, hl⟩ := hkl
    exact .inr ⟨rfl, idxOf_le_of_getElem? hl⟩

/-- A text comes up first either in the first row or, if it does not stand there, in a later one. -/
theorem IsLeast.cases (h : IsLeast (StandsAt (row :: rows) x) i j) :
    (x ∈ row ∧ i = 0 ∧ j = row.idxOf x) ∨
      (x ∉ row ∧ ∃ k, i = k + 1 ∧ IsLeast (StandsAt rows x) k j) := by
  by_cases hx : x ∈ row
  · have hle := h.2 _ _ (standsAt_idxOf hx rows)
    have hge := (isLeast_idxOf hx rows).2 _ _ h.1
    exact .inl ⟨hx, by omega, by omega⟩
  · cases i with
    | zero =>
      obtain ⟨_, ⟨⟩, hj⟩ := h.1
      exact absurd (List.mem_of_getElem? hj) hx
    | succ i =>
      refine .inr ⟨hx, i, rfl, h.1, fun k l hkl => ?_⟩
      have hle := h.2 (k + 1) l hkl
      omega

/-- **The rows one behind the other**: what comes up in an earlier row, or farther to the left in
the same one, comes up first. -/
theorem idxOf_flatten_lt_iff (hx : IsLeast (StandsAt rows x) i j)
    (hy : IsLeast (StandsAt rows y) k l) :
    rows.flatten.idxOf x < rows.flatten.idxOf y ↔ i < k ∨ i = k ∧ j < l := by
  induction rows generalizing i k with
  | nil =>
    obtain ⟨_, ⟨⟩, -⟩ := hx.1
  | cons row rows ih =>
    rw [List.flatten_cons]
    rcases hx.cases with ⟨hxr, rfl, rfl⟩ | ⟨hxr, i, rfl, hx'⟩ <;>
      rcases hy.cases with ⟨hyr, rfl, rfl⟩ | ⟨hyr, k, rfl, hy'⟩
    · rw [List.idxOf_append_of_mem hxr, List.idxOf_append_of_mem hyr]
      omega
    · have hlt := List.idxOf_lt_length_of_mem hxr
      rw [List.idxOf_append_of_mem hxr, List.idxOf_append_of_notMem hyr]
      omega
    · have hlt := List.idxOf_lt_length_of_mem hyr
      rw [List.idxOf_append_of_notMem hxr, List.idxOf_append_of_mem hyr]
      omega
    · have hrest := ih hx' hy'
      rw [List.idxOf_append_of_notMem hxr, List.idxOf_append_of_notMem hyr]
      omega

/-- What stands in some row has a place where it comes up first. -/
theorem exists_isLeast (h : x ∈ rows.flatten) : ∃ i j, IsLeast (StandsAt rows x) i j := by
  induction rows with
  | nil => cases h
  | cons row rows ih =>
    by_cases hx : x ∈ row
    · exact ⟨0, _, isLeast_idxOf hx rows⟩
    · rw [List.flatten_cons, List.mem_append, or_iff_right hx] at h
      obtain ⟨i, j, hat, hle⟩ := ih h
      refine ⟨i + 1, j, hat, fun k l hkl => ?_⟩
      cases k with
      | zero =>
        obtain ⟨_, ⟨⟩, hl⟩ := hkl
        exact absurd (List.mem_of_getElem? hl) hx
      | succ k =>
        have hk := hle k l hkl
        omega

end Text

/-! ### Selected sources -/

namespace Graph

open Text CommandLine

variable {g : Graph} {accept : Target → Bool} {f : String}

/-- `g.ListsAt accept f i j`: the target at position `i` is accepted, and lists the source `f` at
position `j`. -/
def ListsAt (g : Graph) (accept : Target → Bool) (f : String) (i j : Nat) : Prop :=
  ∃ t, g.targets[i]? = some t ∧ accept t = true ∧ t.sources[j]? = some f

/-- `g.Selects accept files`: the list has each source of an accepted target once. Of two of them
the one comes first that comes first in the order of the targets and of the sources of a target. -/
structure Selects (g : Graph) (accept : Target → Bool) (files : List String) : Prop where
  nodup : files.Nodup
  mem_iff : ∀ f, f ∈ files ↔ ∃ t ∈ g.targets, accept t = true ∧ f ∈ t.sources
  exists_first : ∀ f ∈ files, ∃ i j, IsLeast (g.ListsAt accept f) i j
  order : ∀ f h i j k l, IsLeast (g.ListsAt accept f) i j → IsLeast (g.ListsAt accept h) k l →
    (files.idxOf f < files.idxOf h ↔ i < k ∨ i = k ∧ j < l)

/-- The sources of each target, none for those that are not accepted. -/
def rows (g : Graph) (accept : Target → Bool) : List (List String) :=
  g.targets.toList.map fun t => if accept t = true then t.sources else []

theorem sourcesOf_eq (g : Graph) (accept : Target → Bool) :
    g.sourcesOf accept = distinct (g.rows accept).flatten := by
  rw [sourcesOf, rows]
  congr 1
  induction g.targets.toList with
  | nil => rfl
  | cons t ts ih =>
    by_cases ht : accept t = true
    · rw [List.filter_cons_of_pos ht, List.flatMap_cons, ih, List.map_cons, List.flatten_cons,
        if_pos ht]
    · rw [List.filter_cons_of_neg ht, ih, List.map_cons, List.flatten_cons, if_neg ht,
        List.nil_append]

theorem standsAt_rows (g : Graph) (accept : Target → Bool) (f : String) :
    StandsAt (g.rows accept) f = g.ListsAt accept f := by
  funext i j
  refine propext ?_
  simp only [StandsAt, rows, List.getElem?_map, Array.getElem?_toList, Option.map_eq_some_iff,
    exists_exists_and_eq_and, ListsAt]
  refine exists_congr fun t => and_congr_right fun _ => ?_
  by_cases ht : accept t = true <;> simp [ht]

theorem mem_sourcesOf_iff :
    f ∈ g.sourcesOf accept ↔ ∃ t ∈ g.targets, accept t = true ∧ f ∈ t.sources := by
  rw [sourcesOf, mem_distinct, List.mem_flatMap]
  simp [and_assoc]

theorem selects_sourcesOf (g : Graph) (accept : Target → Bool) :
    g.Selects accept (g.sourcesOf accept) where
  nodup := nodup_distinct _
  mem_iff _ := mem_sourcesOf_iff
  exists_first f hf := by
    rw [sourcesOf_eq, mem_distinct] at hf
    rw [← standsAt_rows]
    exact exists_isLeast hf
  order f h i j k l hf hh := by
    rw [← standsAt_rows] at hf hh
    rw [sourcesOf_eq, idxOf_distinct_lt_iff, idxOf_flatten_lt_iff hf hh]

/-- To accept more targets loses no source. -/
theorem sourcesOf_subset {accept' : Target → Bool}
    (h : ∀ t ∈ g.targets, accept t = true → accept' t = true) :
    g.sourcesOf accept ⊆ g.sourcesOf accept' := by
  intro f hf
  obtain ⟨t, ht, ha, hm⟩ := mem_sourcesOf_iff.1 hf
  exact mem_sourcesOf_iff.2 ⟨t, ht, h t ht ha, hm⟩

/-- Two targets with a source in common, of which the first is not linted. -/
def sharing : Graph where
  toCatalog :=
    ((default : Catalog).push
      { name := "gen", kind := .library, sources := ["b.c"], headers := ["a.h"],
        lintExempt := true }
        (by decide) (by decide)).push
      { name := "app", kind := .program, sources := ["a.c", "b.c"], headers := ["b.h"] }
        (by decide) (by decide)
  closed := Catalog.danglingReference?_eq_none_iff.1 (by decide)

/-- The source in common comes last if the first target is left out, and first if it is not. -/
theorem filesToLint_sharing :
    filesToLint sharing [] false = ["a.c", "b.c"] ∧
      filesToLint sharing [] true = ["b.c", "a.c"] := by decide

/-- **Which sources are linted.** The list has no repeats. A path is in it exactly if an accepted
target lists it among its sources; headers do not count. Each path stands where it comes up first,
by the position of the target and then by that among the sources of this target. To accept more
targets loses no path, so that linting all targets covers what is linted otherwise; but there are
graphs in which two paths change places. -/
theorem sourcesOf_selects (g : Graph) (accept : Target → Bool) :
    g.Selects accept (g.sourcesOf accept) ∧
    (∀ accept' : Target → Bool, (∀ t ∈ g.targets, accept t = true → accept' t = true) →
      g.sourcesOf accept ⊆ g.sourcesOf accept') ∧
    filesToLint g [] false ⊆ filesToLint g [] true ∧
    ∃ (g' : Graph) (f h : String), [f, h].Sublist (filesToLint g' [] false) ∧
      [h, f].Sublist (filesToLint g' [] true) := by
  refine ⟨selects_sourcesOf g accept, fun _ => sourcesOf_subset, sourcesOf_subset fun _ _ _ => rfl,
    sharing, "a.c", "b.c", ?_, ?_⟩
  · rw [filesToLint_sharing.1]
  · rw [filesToLint_sharing.2]

/-- The paths of the graph above, by the default and without exceptions. -/
theorem sourcesOf_selects_sharing :
    (∀ t ∈ sharing.targets, Target.isLinted t = true → (fun _ => true) t = true) ∧
    sharing.Selects Target.isLinted ["a.c", "b.c"] ∧
    sharing.Selects (fun _ => true) ["b.c", "a.c"] ∧
    ["a.c", "b.c"] ⊆ ["b.c", "a.c"] := by
  have hlinted : sharing.sourcesOf Target.isLinted = ["a.c", "b.c"] := by decide
  have hall : sharing.sourcesOf (fun _ => true) = ["b.c", "a.c"] := by decide
  have hweaker : ∀ t ∈ sharing.targets, Target.isLinted t = true → (fun _ => true) t = true :=
    fun _ _ _ => rfl
  obtain ⟨hselects, hsubset, -, -⟩ := sourcesOf_selects sharing Target.isLinted
  have hmore := hsubset (fun _ => true) hweaker
  rw [hlinted] at hselects hmore
  rw [hall] at hmore
  exact ⟨hweaker, hselects, hall ▸ (sourcesOf_selects sharing fun _ => true).1, hmore⟩

end Graph

end Buildwright
