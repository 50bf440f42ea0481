/-!
# Parts of a text

Cutting a text at a separator and putting it together again. A text with `n` separators has
`n + 1` parts, some of them perhaps empty; joining them gives the text back.
-/

namespace Buildwright.Text

/-- The parts of a text between the separators. -/
def split (sep : Char) : List Char → List (List Char)
  | [] => [[]]
  | c :: cs =>
    if c = sep then [] :: split sep cs
    else match split sep cs with
      | [] => [[c]]
      | part :: parts => (c :: part) :: parts

/-- Parts put together with a separator between any two. -/
def join (sep : Char) : List (List Char) → List Char
  | [] => []
  | [part] => part
  | part :: parts => part ++ sep :: join sep parts

theorem split_ne_nil (sep : Char) (cs : List Char) : split sep cs ≠ [] := by
  cases cs with
  | nil => simp [split]
  | cons c cs =>
    rw [split]
    split
    · simp
    · split <;> simp

/-- Joining the parts of a text gives the text. -/
@[simp]
theorem join_split (sep : Char) (cs : List Char) : join sep (split sep cs) = cs := by
  induction cs with
  | nil => rfl
  | cons c cs ih =>
    rw [split]
    split
    · next h =>
      subst h
      cases parts : split c cs with
      | nil => exact absurd parts (split_ne_nil _ _)
      | cons part rest => rw [← ih, parts]; rfl
    · cases parts : split sep cs with
      | nil => exact absurd parts (split_ne_nil _ _)
      | cons part rest =>
        rw [parts] at ih
        cases rest with
        | nil => simpa [join] using ih
        | cons next rest => simpa [join] using ih

/-- Joined parts become longer with every further part, unless that is the only one and empty. -/
theorem length_join_lt (sep : Char) (parts : List (List Char)) (next : List Char)
    (others : List (List Char)) (h : parts = [] → next ≠ []) :
    (join sep parts).length < (join sep (parts ++ next :: others)).length := by
  induction parts with
  | nil =>
    have := List.length_pos_iff.2 (h rfl)
    cases others with
    | nil => simpa [join] using this
    | cons second others =>
      simp only [List.nil_append, join, List.length_append, List.length_cons, List.length_nil]
      omega
  | cons part parts ih =>
    cases parts with
    | nil => simp [join]
    | cons second parts =>
      have := ih (by simp)
      simp only [List.cons_append, join, List.length_append, List.length_cons] at this ⊢
      omega

/-- Joined parts never become shorter with further parts. -/
theorem length_join_le (sep : Char) (parts others : List (List Char)) :
    (join sep parts).length ≤ (join sep (parts ++ others)).length := by
  cases others with
  | nil => simp
  | cons next others =>
    cases parts with
    | nil => simp [join]
    | cons part parts => exact Nat.le_of_lt (length_join_lt sep _ _ _ (by simp))

/-- No part contains the separator. -/
theorem not_mem_of_mem_split {sep : Char} {cs part : List Char} (h : part ∈ split sep cs) :
    sep ∉ part := by
  induction cs generalizing part with
  | nil => simp_all [split]
  | cons c cs ih =>
    rw [split] at h
    split at h
    · rcases List.mem_cons.1 h with rfl | h
      · simp
      · exact ih h
    · next hc =>
      cases parts : split sep cs with
      | nil => exact absurd parts (split_ne_nil _ _)
      | cons first rest =>
        rw [parts] at h ih
        rcases List.mem_cons.1 h with rfl | h
        · exact fun hm => (List.mem_cons.1 hm).elim (fun e => hc e.symm) (ih (by simp))
        · exact ih (by simp [h])

end Buildwright.Text
