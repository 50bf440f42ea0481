import Buildwright.Text.Parts

/-!
# Paths

A path is text with `/` between its components; nothing in it is normalised. `join` puts a path
behind another, `parent?` drops the last component. Both work on the text alone: whether `..`
leads anywhere is for the file tree to say.
-/

namespace Buildwright

/-- A path as it was written. -/
structure Path where
  text : String
  deriving DecidableEq, Repr, Inhabited

namespace Path

/-- The characters of a path. -/
def chars (p : Path) : List Char := p.text.toList

/-- The path with the given characters. -/
def ofChars (cs : List Char) : Path := ⟨String.ofList cs⟩

@[simp]
theorem chars_ofChars (cs : List Char) : (ofChars cs).chars = cs := String.toList_ofList

@[simp]
theorem ofChars_chars (p : Path) : ofChars p.chars = p := by
  simp [ofChars, chars]

/-- Paths with the same characters are equal. -/
theorem ext_chars {p q : Path} (h : p.chars = q.chars) : p = q := by
  rw [← ofChars_chars p, h, ofChars_chars]

/-- Whether a path starts at the root. -/
def isAbsolute (p : Path) : Bool := p.chars.head? = some '/'

/-- Whether a path starts where its reader stands. -/
def isRelative (p : Path) : Bool := !p.isAbsolute

/-! ### Joining -/

/-- The characters of one path behind another. -/
def joinChars (base next : List Char) : List Char :=
  if next.head? = some '/' then next
  else if base = [] ∨ base.getLast? = some '/' then base ++ next
  else base ++ '/' :: next

/-- One path behind another. An absolute path replaces what stands before it; otherwise one `/`
comes between them, unless the first is empty or ends in `/`. -/
def join (base next : Path) : Path := ofChars (joinChars base.chars next.chars)

@[simp]
theorem chars_join (base next : Path) :
    (base.join next).chars = joinChars base.chars next.chars := chars_ofChars _

/-- An absolute path replaces the path before it. -/
theorem join_of_isAbsolute {base next : Path} (h : next.isAbsolute = true) :
    base.join next = next := by
  apply ext_chars
  rw [isAbsolute, decide_eq_true_eq] at h
  rw [chars_join, joinChars, if_pos h]

/-- A relative path behind another keeps both texts. -/
theorem chars_join_of_isRelative {base next : Path} (h : next.isRelative = true) :
    (base.join next).chars = base.chars ++ next.chars ∨
      (base.join next).chars = base.chars ++ '/' :: next.chars := by
  rw [isRelative, isAbsolute, Bool.not_eq_true', decide_eq_false_iff_not] at h
  rw [chars_join, joinChars, if_neg h]
  split
  · exact Or.inl rfl
  · exact Or.inr rfl

/-! ### Parents -/

/-- Whether a component leads nowhere: it is empty or `.`. -/
def isIdle (component : List Char) : Bool := component = [] || component = ['.']

/-- How many characters at the front name the place where a path starts: the `/` of an absolute
path, or the `.` of a path that is `.` or starts with `./`. -/
def startLength (cs : List Char) : Nat :=
  match cs with
  | '/' :: _ => 1
  | ['.'] => 1
  | '.' :: '/' :: _ => 1
  | _ => 0

/-- The path without its last component, where idle components at the end do not count. A path
that names only the place where it starts has no parent, except that the parent of `.` is the
empty path. -/
def parent? (p : Path) : Option Path :=
  let start := startLength p.chars
  let body := Text.split '/' (p.chars.drop start)
  match body.reverse.dropWhile isIdle with
  | _ :: before =>
    some (ofChars (p.chars.take start ++ Text.join '/' (before.dropWhile isIdle).reverse))
  | [] => if p.chars.head? = some '.' then some (ofChars []) else none

theorem length_take_startLength_add (cs : List Char) :
    (cs.take (startLength cs)).length +
      (Text.join '/' (Text.split '/' (cs.drop (startLength cs)))).length = cs.length := by
  rw [Text.join_split, ← List.length_append, List.take_append_drop]

/-- A parent is shorter than its path, so going upwards comes to an end. -/
theorem length_parent?_lt {p q : Path} (h : p.parent? = some q) :
    q.chars.length < p.chars.length := by
  have total := length_take_startLength_add p.chars
  simp only [parent?] at h
  split at h
  · next last before found =>
    obtain rfl := Option.some.inj h
    have shown : ¬ isIdle last = true := by
      have := List.head?_dropWhile_not isIdle
        (Text.split '/' (p.chars.drop (startLength p.chars))).reverse
      simp_all
    have whole := List.takeWhile_append_dropWhile (p := isIdle)
      (l := (Text.split '/' (p.chars.drop (startLength p.chars))).reverse)
    have front := List.takeWhile_append_dropWhile (p := isIdle) (l := before)
    rw [found, ← front] at whole
    have parts := congrArg List.reverse whole
    simp only [List.reverse_append, List.reverse_cons, List.reverse_reverse, List.append_assoc,
      List.cons_append, List.nil_append] at parts
    rw [chars_ofChars, List.length_append, ← total, ← parts]
    refine Nat.add_lt_add_left ?_ _
    rw [← List.append_assoc]
    refine Nat.lt_of_le_of_lt (Text.length_join_le '/' _ (before.takeWhile isIdle).reverse) ?_
    exact Text.length_join_lt _ _ _ _ fun _ empty => shown (by simp [isIdle, empty])
  · split at h
    · next dot =>
      obtain rfl := Option.some.inj h
      rw [chars_ofChars]
      cases chars : p.chars with
      | nil => simp [chars] at dot
      | cons c cs => simp
    · cases h

end Path

end Buildwright
