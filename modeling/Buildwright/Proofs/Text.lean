import Buildwright.Text.Distinct
import Mathlib.Data.List.Nodup

/-!
# Texts and lists of texts

What later modules need to know of lists without repeats and of numbers in texts. The first
occurrences in a list are those in its front, and behind them the ones that come up later only
(`distinct_append`); so an item that comes up early stands before one that comes up late
(`sublist_distinct_append`), and the first occurrences stand in the order in which they come up
(`firsts_distinct`). A number in a text ends where its digits end (`toDigits_append_cons_inj`).
-/

namespace Buildwright.Text

/-! ### Lists without repeats -/

theorem compare_beq_eq (t s : String) : (compare t s == .eq) = decide (s = t) := by
  rw [Bool.eq_iff_iff, beq_iff_eq, Std.compare_eq_iff_eq, decide_eq_true_iff]
  exact eq_comm

/-- What has been seen is left out, and nothing else. -/
theorem distinctFrom_eq_filter (seen : Std.TreeSet String) (items : List String) :
    distinctFrom seen items = (distinct items).filter fun s => !seen.contains s := by
  induction items generalizing seen with
  | nil => rfl
  | cons t rest ih =>
    have hcons : distinct (t :: rest) = t :: (distinct rest).filter (· ≠ t) := by
      rw [distinct, distinctFrom, if_neg (by simp), ih]
      simp [compare_beq_eq]
    rw [hcons, distinctFrom]
    split
    · next hseen =>
      rw [ih, List.filter_cons_of_neg (by simp [hseen]), List.filter_filter]
      refine List.filter_congr fun s _ => ?_
      by_cases hs : s = t <;> simp [hs, hseen]
    · next hseen =>
      rw [ih, List.filter_cons_of_pos (by simp [hseen]), List.filter_filter]
      refine congrArg _ (List.filter_congr fun s _ => ?_)
      simp [compare_beq_eq, Bool.and_comm]

theorem distinct_cons (t : String) (rest : List String) :
    distinct (t :: rest) = t :: (distinct rest).filter (· ≠ t) := by
  rw [distinct, distinctFrom, if_neg (by simp), distinctFrom_eq_filter]
  simp [compare_beq_eq]

/-- The first occurrences in two lists, one behind the other. -/
theorem distinct_append (front back : List String) :
    distinct (front ++ back) = distinct front ++ (distinct back).filter (· ∉ front) := by
  induction front with
  | nil => simp [distinct, distinctFrom]
  | cons t front ih =>
    rw [List.cons_append, distinct_cons, distinct_cons, ih, List.filter_append, List.filter_filter,
      List.cons_append]
    simp

/-- An item that does not come up earlier stays where it is among the first occurrences. -/
theorem exists_distinct_append_cons {front : List String} {x : String} (hx : x ∉ front)
    (back : List String) :
    ∃ rest, distinct (front ++ x :: back) = distinct front ++ x :: rest := by
  rw [distinct_append, distinct_cons, List.filter_cons_of_pos (by simpa using hx)]
  exact ⟨_, rfl⟩

/-- What comes up in the front of a list stands before what comes up in its back only. -/
theorem sublist_distinct_append {front back : List String} {x y : String} (hx : x ∈ front)
    (hy : y ∈ back) (hfresh : y ∉ front) : [x, y].Sublist (distinct (front ++ back)) := by
  rw [distinct_append]
  have hx : [x].Sublist (distinct front) := List.singleton_sublist.2 (mem_distinct.2 hx)
  have hy : [y].Sublist ((distinct back).filter (· ∉ front)) :=
    List.singleton_sublist.2 (List.mem_filter.2 ⟨mem_distinct.2 hy, decide_eq_true hfresh⟩)
  exact hx.append hy

/-- Behind a common first item, only the order of other items matters. -/
theorem idxOf_cons_lt_iff {t x y : String} {l l' : List String}
    (h : t ≠ x → t ≠ y → (l.idxOf x < l.idxOf y ↔ l'.idxOf x < l'.idxOf y)) :
    (t :: l).idxOf x < (t :: l).idxOf y ↔ (t :: l').idxOf x < (t :: l').idxOf y := by
  by_cases hx : t = x
  · subst hx
    by_cases hy : t = y
    · simp [hy]
    · simp [List.idxOf_cons_self, List.idxOf_cons_ne _ hy]
  · by_cases hy : t = y
    · simp [hy, List.idxOf_cons_self]
    · rw [List.idxOf_cons_ne _ hx, List.idxOf_cons_ne _ hy, List.idxOf_cons_ne _ hx,
        List.idxOf_cons_ne _ hy, Nat.succ_lt_succ_iff, Nat.succ_lt_succ_iff, h hx hy]

/-- Leaving out other items does not move two items past each other. -/
theorem idxOf_filter_lt_iff {keep : String → Bool} {x y : String} (hx : keep x = true)
    (hy : keep y = true) (items : List String) :
    (items.filter keep).idxOf x < (items.filter keep).idxOf y ↔ items.idxOf x < items.idxOf y := by
  induction items with
  | nil => rfl
  | cons t rest ih =>
    by_cases ht : keep t = true
    · rw [List.filter_cons_of_pos ht]
      exact idxOf_cons_lt_iff fun _ _ => ih
    · have htx : t ≠ x := fun h => ht (h ▸ hx)
      have hty : t ≠ y := fun h => ht (h ▸ hy)
      rw [List.filter_cons_of_neg ht, ih, List.idxOf_cons_ne _ htx, List.idxOf_cons_ne _ hty,
        Nat.succ_lt_succ_iff]

/-- What comes up first stands first. -/
theorem idxOf_distinct_lt_iff (items : List String) (x y : String) :
    (distinct items).idxOf x < (distinct items).idxOf y ↔ items.idxOf x < items.idxOf y := by
  induction items with
  | nil => rfl
  | cons t rest ih =>
    rw [distinct_cons]
    refine idxOf_cons_lt_iff fun hx hy => ?_
    rw [idxOf_filter_lt_iff (decide_eq_true hx.symm) (decide_eq_true hy.symm), ih]

/-- `Firsts items firsts`: the list `firsts` has each of the items once, in the order in which they
come up first. -/
structure Firsts (items firsts : List String) : Prop where
  nodup : firsts.Nodup
  mem_iff : ∀ x, x ∈ firsts ↔ x ∈ items
  order : ∀ x y, firsts.idxOf x < firsts.idxOf y ↔ items.idxOf x < items.idxOf y

theorem firsts_distinct (items : List String) : Firsts items (distinct items) where
  nodup := nodup_distinct items
  mem_iff _ := mem_distinct
  order := idxOf_distinct_lt_iff items

/-! ### Numbers -/

theorem isDigit_of_mem_toDigits {n : Nat} {c : Char} (h : c ∈ Nat.toDigits 10 n) :
    c.isDigit = true := Nat.isDigit_of_mem_toDigits (by decide) (by decide) h

/-- A number ends where its digits end. -/
theorem toDigits_append_cons_inj {m n : Nat} {c d : Char} {xs ys : List Char}
    (hc : c.isDigit = false) (hd : d.isDigit = false)
    (h : Nat.toDigits 10 m ++ c :: xs = Nat.toDigits 10 n ++ d :: ys) :
    m = n ∧ c :: xs = d :: ys := by
  have hdigits (k : Nat) (e : Char) (zs : List Char) (he : e.isDigit = false) :
      (Nat.toDigits 10 k ++ e :: zs).takeWhile Char.isDigit = Nat.toDigits 10 k := by
    rw [List.takeWhile_append_of_pos fun _ => isDigit_of_mem_toDigits,
      List.takeWhile_cons_of_neg (by simp [he]), List.append_nil]
  have heq : Nat.toDigits 10 m = Nat.toDigits 10 n := by
    rw [← hdigits m c xs hc, h, hdigits n d ys hd]
  refine ⟨?_, List.append_cancel_left (heq ▸ h)⟩
  calc
    m = Nat.ofDigitChars 10 (Nat.toDigits 10 m) 0 := Nat.ofDigitChars_ten_toDigits.symm
    _ = Nat.ofDigitChars 10 (Nat.toDigits 10 n) 0 := by rw [heq]
    _ = n := Nat.ofDigitChars_ten_toDigits

end Buildwright.Text
