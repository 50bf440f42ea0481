import Std.Data.TreeSet

/-!
# Lists without repeats

`distinct` keeps the first occurrence of each text, in the order of the list.
-/

namespace Buildwright.Text

/-- The texts of a list that are neither in `seen` nor earlier in the list. -/
def distinctFrom (seen : Std.TreeSet String) : List String → List String
  | [] => []
  | s :: rest =>
    if seen.contains s then distinctFrom seen rest else s :: distinctFrom (seen.insert s) rest

/-- The first occurrences of the texts of a list. -/
def distinct (items : List String) : List String := distinctFrom ∅ items

theorem mem_distinctFrom {seen : Std.TreeSet String} {items : List String} {s : String} :
    s ∈ distinctFrom seen items ↔ s ∈ items ∧ seen.contains s = false := by
  induction items generalizing seen with
  | nil => simp [distinctFrom]
  | cons t rest ih =>
    rw [distinctFrom]
    split
    · next h =>
      rw [ih, List.mem_cons]
      constructor
      · exact fun ⟨m, n⟩ => ⟨.inr m, n⟩
      · rintro ⟨rfl | m, n⟩
        · simp [h] at n
        · exact ⟨m, n⟩
    · next h =>
      rw [List.mem_cons, ih, List.mem_cons, Std.TreeSet.contains_insert]
      by_cases same : s = t
      · subst same
        exact ⟨fun _ => ⟨.inl rfl, Bool.eq_false_iff.2 h⟩, fun _ => .inl rfl⟩
      · have : (compare t s == .eq) = false := by
          simp only [beq_eq_false_iff_ne, ne_eq, Std.compare_eq_iff_eq]
          exact fun h => same h.symm
        simp [same, this]

/-- `distinct` loses no text and adds none. -/
@[simp]
theorem mem_distinct {items : List String} {s : String} : s ∈ distinct items ↔ s ∈ items := by
  simp [distinct, mem_distinctFrom]

theorem nodup_distinctFrom (seen : Std.TreeSet String) (items : List String) :
    (distinctFrom seen items).Nodup := by
  induction items generalizing seen with
  | nil => simp [distinctFrom]
  | cons t rest ih =>
    rw [distinctFrom]
    split
    · exact ih _
    · refine List.nodup_cons.2 ⟨fun h => ?_, ih _⟩
      have := (mem_distinctFrom.1 h).2
      simp at this

/-- No text is left twice. -/
theorem nodup_distinct (items : List String) : (distinct items).Nodup := nodup_distinctFrom _ _

end Buildwright.Text
