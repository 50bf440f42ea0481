import Buildwright.Proofs.Build.Outputs
import Mathlib.Data.List.Infix

/-!
# Object files stay in their directory

A source may be named by any text: by an absolute path, by one that leads upwards, or by one that
consists of dots. Its object file lies inside the directory of object files nevertheless
(`Job.objectPath_lies_inside`). The slashes in front of the name are dropped, so that it never takes
the place of the directory; and of two dots in a row nothing is left (`Job.not_infix_withoutDots`).
The ending may put a further dot behind one that is left, but an `o` stands behind that.
-/

namespace Buildwright

namespace Text

variable {sep : Char} {part : List Char}

/-- A part stands in the text to which it is joined. -/
theorem isInfix_join {parts : List (List Char)} (h : part ∈ parts) : part <:+: join sep parts := by
  induction parts with
  | nil => cases h
  | cons first parts ih =>
    cases parts with
    | nil =>
      obtain rfl := List.mem_singleton.1 h
      exact List.infix_rfl
    | cons next parts =>
      rcases List.mem_cons.1 h with rfl | h
      · exact (List.prefix_append part _).isInfix
      · have hrest : join sep (next :: parts) <:+ join sep (first :: next :: parts) :=
          (List.suffix_cons sep _).trans (List.suffix_append first _)
        exact (ih h).trans hrest.isInfix

/-- A part of a text stands in it. -/
theorem isInfix_of_mem_split {cs : List Char} (h : part ∈ split sep cs) : part <:+: cs := by
  have hpart : part <:+: join sep (split sep cs) := isInfix_join h
  rwa [join_split] at hpart

end Text

namespace Path

/-- The component that leads to the parent of a directory. -/
def up : List Char := ['.', '.']

/-- `p.LiesInside dir`: the path `p` is `dir` with further steps behind it. There is at least one of
them, and none leads upwards. -/
structure LiesInside (p dir : Path) : Prop where
  isAbsolute_eq : p.isAbsolute = dir.isAbsolute
  exists_further : ∃ further, p.place.steps = dir.place.steps ++ further ∧ further ≠ [] ∧
    up ∉ further

end Path

namespace Job

variable {cs : List Char}

/-! ### Dots -/

/-- Only underscores come to the front of a text that did not stand there. -/
theorem head?_of_withoutDots {c : Char} (h : (withoutDots cs).head? = some c) (hc : c ≠ '_') :
    cs.head? = some c := by
  fun_cases withoutDots cs with
  | case1 rest =>
    rw [withoutDots] at h
    exact absurd (Option.some.inj h).symm hc
  | case2 d rest hd =>
    rw [withoutDots] at h
    · exact h
    · exact hd
  | case3 => cases h

/-- Two dots in a row are never left. -/
theorem not_infix_withoutDots (cs : List Char) : ¬ Path.up <:+: withoutDots cs := by
  fun_induction withoutDots cs with
  | case1 rest ih =>
    rw [List.infix_cons_iff, List.infix_cons_iff, not_or, not_or]
    exact ⟨by simp [Path.up], by simp [Path.up], ih⟩
  | case2 c rest hc ih =>
    rw [List.infix_cons_iff, not_or]
    refine ⟨fun hp => ?_, ih⟩
    obtain ⟨hfirst, after, hsecond⟩ := List.cons_prefix_cons.1 hp
    -- the second dot has been there before, and both would have been replaced
    have hhead : (withoutDots rest).head? = some '.' := by
      rw [← hsecond]
      rfl
    obtain ⟨behind, hrest⟩ := List.head?_eq_some_iff.1 (head?_of_withoutDots hhead (by decide))
    exact hc behind hfirst.symm hrest
  | case3 => simp [Path.up]

/-! ### The name of an object file -/

/-- The components of the name of an object file: the last one ends in `.o`, and none of those in
front of it holds two dots in a row. -/
theorem exists_split_mirror (source : String) : ∃ front last,
    Text.split '/' (mirror source).chars = front ++ [last ++ ['.', 'o']] ∧
      ∀ part ∈ front, ¬ Path.up <:+: part := by
  let kept := withoutDots (source.toList.dropWhile (· = '/'))
  have hending : '/' ∉ ['.', 'o'] := by decide
  obtain ⟨front, last, hsplit, happ⟩ := Text.exists_split_append kept hending
  rw [mirror, Path.chars_ofChars]
  refine ⟨front, last, happ, fun part hp hup => ?_⟩
  have hpart : part ∈ Text.split '/' kept := hsplit ▸ List.mem_append_left _ hp
  exact not_infix_withoutDots _ (hup.trans (Text.isInfix_of_mem_split hpart))

theorem append_o_ne_up (last : List Char) : last ++ ['.', 'o'] ≠ Path.up := by
  intro h
  have := congrArg List.getLast? h
  simp [Path.up] at this

/-- No component of the name of an object file leads upwards. -/
theorem up_not_mem_split_mirror (source : String) :
    Path.up ∉ Text.split '/' (mirror source).chars := by
  obtain ⟨front, last, hsplit, hfront⟩ := exists_split_mirror source
  rw [hsplit, List.mem_append, List.mem_singleton, not_or]
  exact ⟨fun h => hfront Path.up h List.infix_rfl, (append_o_ne_up last).symm⟩

theorem up_not_mem_steps_mirror (source : String) : Path.up ∉ (mirror source).place.steps := by
  rw [Path.place, Path.stepsOf, List.mem_filter]
  exact fun h => up_not_mem_split_mirror source h.1

/-- The name of an object file has a component that leads somewhere. -/
theorem steps_mirror_ne_nil (source : String) : (mirror source).place.steps ≠ [] := by
  obtain ⟨front, last, hsplit, -⟩ := exists_split_mirror source
  have hlast : last ++ ['.', 'o'] ∈ (mirror source).place.steps := by
    rw [Path.place, Path.stepsOf, hsplit, List.mem_filter]
    refine ⟨by simp, ?_⟩
    cases last <;> simp [Path.isIdle]
  exact List.ne_nil_of_mem hlast

/-- The name of an object file is relative, also if that of its source is not. -/
theorem isAbsolute_mirror (source : String) : (mirror source).isAbsolute = false := by
  rw [Path.isAbsolute_eq, decide_eq_false_iff_not, mirror, Path.chars_ofChars,
    List.head?_append]
  intro h
  have hdrop := List.head?_dropWhile_not (· = '/') source.toList
  cases hhead : (withoutDots (source.toList.dropWhile (· = '/'))).head? with
  | none => simp [hhead] at h
  | some c =>
    obtain rfl : c = '/' := by simpa [hhead] using h
    rw [head?_of_withoutDots hhead (by decide)] at hdrop
    simp at hdrop

/-! ### Where object files lie -/

theorem objectPath_eq_join (dir : Path) (source : String) :
    objectPath dir source = dir.join (mirror source) := rfl

/-- The place of an object file: the steps of its directory, and behind them those of its name. -/
theorem place_objectPath_eq (dir : Path) (source : String) : (objectPath dir source).place =
    ⟨dir.isAbsolute, dir.place.steps ++ (mirror source).place.steps⟩ := by
  rw [objectPath_eq_join, Path.place_join, Place.join, if_neg (by simp [isAbsolute_mirror]),
    Path.rooted_place]

theorem liesInside_objectPath (dir : Path) (source : String) :
    (objectPath dir source).LiesInside dir where
  isAbsolute_eq := by rw [← Path.rooted_place, place_objectPath_eq]
  exists_further := ⟨(mirror source).place.steps, by rw [place_objectPath_eq],
    steps_mirror_ne_nil source, up_not_mem_steps_mirror source⟩

/-- The directory of an object file is the one of all object files, or it lies inside that one. -/
theorem exists_parent_objectPath (dir : Path) (source : String) :
    ∃ parent, (objectPath dir source).parent? = some parent ∧
      (parent.place = dir.place ∨ parent.LiesInside dir) := by
  obtain ⟨habsolute, further, hsteps, hne, hup⟩ := liesInside_objectPath dir source
  cases hp : (objectPath dir source).parent? with
  | none =>
    rw [Path.steps_of_parent?_eq_none hp] at hsteps
    exact absurd (List.append_eq_nil_iff.1 hsteps.symm).2 hne
  | some parent =>
    have hparent := Path.place_parent? hp
    rw [hsteps, List.dropLast_append_of_ne_nil hne, habsolute] at hparent
    refine ⟨parent, rfl, ?_⟩
    by_cases hlast : further.dropLast = []
    · rw [hlast, List.append_nil] at hparent
      exact .inl hparent
    · have hroot : parent.isAbsolute = dir.isAbsolute := by rw [← Path.rooted_place, hparent]
      exact .inr ⟨hroot, further.dropLast, by rw [hparent], hlast,
        fun h => hup (List.mem_of_mem_dropLast h)⟩

/-- The text of an object file begins with that of the directory. -/
theorem chars_prefix_objectPath (dir : Path) (source : String) :
    dir.chars <+: (objectPath dir source).chars := by
  have hrelative : (mirror source).isRelative = true := by
    rw [Path.isRelative, isAbsolute_mirror]
    rfl
  have hjoin : (objectPath dir source).chars = dir.chars ++ (mirror source).chars ∨
      (objectPath dir source).chars = dir.chars ++ '/' :: (mirror source).chars :=
    objectPath_eq_join dir source ▸ Path.chars_join_of_isRelative hrelative
  rcases hjoin with h | h
  · exact ⟨_, h.symm⟩
  · exact ⟨_, h.symm⟩

/-- **Object files stay in their directory.** Whatever the directory and the source, the object file
lies strictly inside the directory: its path is that of the directory with a relative path behind
it, which has a component that leads somewhere and none that leads upwards. The directory that is
created for the object file does not lie elsewhere either. -/
theorem objectPath_lies_inside (dir : Path) (source : String) :
    (objectPath dir source).LiesInside dir ∧
    dir.chars <+: (objectPath dir source).chars ∧
    (∃ further : Path, objectPath dir source = dir.join further ∧ further.isAbsolute = false ∧
      Path.up ∉ Text.split '/' further.chars) ∧
    ∃ parent, (objectPath dir source).parent? = some parent ∧
      (parent.place = dir.place ∨ parent.LiesInside dir) :=
  ⟨liesInside_objectPath dir source, chars_prefix_objectPath dir source,
    ⟨mirror source, objectPath_eq_join dir source, isAbsolute_mirror source,
      up_not_mem_split_mirror source⟩,
    exists_parent_objectPath dir source⟩

-- of three dots one is left, and the ending puts its own behind it
example : objectPath ⟨"objs"⟩ "/x/..." = ⟨"objs/x/__..o"⟩ := by cbv

end Job

end Buildwright
