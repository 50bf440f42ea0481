/-!
# Blank characters

The characters that Unicode gives the property `White_Space`, and the trimming of a text at
both ends by that property. A target name that is blank throughout counts as empty, and a
number read from the environment may stand between blanks.
-/

namespace Buildwright.Text

/-- The property `White_Space`, as inclusive ranges of code points. -/
def blankRanges : List (Nat × Nat) :=
  [(0x09, 0x0D), (0x20, 0x20), (0x85, 0x85), (0xA0, 0xA0), (0x1680, 0x1680), (0x2000, 0x200A),
   (0x2028, 0x2029), (0x202F, 0x202F), (0x205F, 0x205F), (0x3000, 0x3000)]

/-- Whether a character has the property `White_Space`. -/
def isBlank (c : Char) : Bool :=
  blankRanges.any fun (low, high) => low ≤ c.toNat && c.toNat ≤ high

/-- Every character that core counts as whitespace is blank. -/
theorem isBlank_of_isWhitespace {c : Char} (h : c.isWhitespace = true) : isBlank c = true := by
  simp only [Char.isWhitespace, Bool.or_eq_true, decide_eq_true_eq] at h
  rcases h with ((h | h) | h) | h <;> subst h <;> decide

/-- A text without the blanks at its two ends. -/
def trim (cs : List Char) : List Char :=
  ((cs.dropWhile isBlank).reverse.dropWhile isBlank).reverse

/-- Whether a text has no character but blanks. -/
def isBlankText (s : String) : Bool :=
  s.toList.all isBlank

@[simp]
theorem trim_nil : trim [] = [] := rfl

/-- Trimming leaves nothing exactly of the texts that are blank throughout. -/
theorem trim_eq_nil_iff (cs : List Char) : trim cs = [] ↔ cs.all isBlank = true := by
  have dropped : ∀ xs : List Char, xs.dropWhile isBlank = [] ↔ xs.all isBlank = true := by
    intro xs
    induction xs with
    | nil => simp
    | cons x xs ih => by_cases h : isBlank x = true <;> simp_all
  simp only [trim, List.reverse_eq_nil_iff, dropped, List.all_reverse]
  constructor
  · intro h
    have := List.takeWhile_append_dropWhile (p := isBlank) (l := cs)
    rw [← this, List.all_append, h, Bool.and_true]
    exact List.all_takeWhile
  · intro h
    rw [(dropped cs).2 h, List.all_nil]

end Buildwright.Text
