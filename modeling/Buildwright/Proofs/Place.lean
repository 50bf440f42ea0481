import Buildwright.Path
import Mathlib.Data.List.TakeWhile

/-!
# Places

Where a path leads as far as its text tells. A path may be written in many ways: with several `/`
in a row, with one at the end, with components `.` in between. Its place (`Path.place`) forgets all
of that and keeps whether the path starts at the root, and the components that lead somewhere; `..`
is one of them, since only the file tree can say where it leads.

Places are joined like lists (`Place.join`), and the place of a joined path is the joined place
(`Path.place_join`). So it can be said exactly when two paths under one directory lead to the same
place (`Path.place_join_eq_iff`), and where the parent of a path leads (`Path.place_parent?`). Among
paths that are written plainly, different ones lead to different places
(`Path.IsPlain.place_inj`).
-/

namespace Buildwright

/-! ### Parts of a text -/

namespace Text

variable {sep : Char} {cs ds : List Char}

/-- A text with a separator in it is cut there. -/
theorem split_append_cons (sep : Char) (cs ds : List Char) :
    split sep (cs ++ sep :: ds) = split sep cs ++ split sep ds := by
  induction cs with
  | nil => simp [split]
  | cons c cs ih =>
    rw [List.cons_append, split, split, ih]
    split
    · rfl
    · cases hs : split sep cs with
      | nil => exact absurd hs (split_ne_nil _ _)
      | cons part parts => rfl

/-- A text without a separator has one part. -/
theorem split_of_not_mem (h : sep ∉ cs) : split sep cs = [cs] := by
  induction cs with
  | nil => rfl
  | cons c cs ih =>
    rw [List.mem_cons, not_or] at h
    rw [split, if_neg (Ne.symm h.1), ih h.2]

/-- What stands behind a text without a separator in it belongs to the last part. -/
theorem exists_split_append (cs : List Char) (h : sep ∉ ds) :
    ∃ front last, split sep cs = front ++ [last] ∧
      split sep (cs ++ ds) = front ++ [last ++ ds] := by
  induction cs with
  | nil => exact ⟨[], [], rfl, split_of_not_mem h⟩
  | cons c cs ih =>
    obtain ⟨front, last, hcs, happ⟩ := ih
    rw [List.cons_append, split, split, hcs, happ]
    split
    · exact ⟨[] :: front, last, rfl, rfl⟩
    · cases front with
      | nil => exact ⟨[], c :: last, rfl, rfl⟩
      | cons part front => exact ⟨(c :: part) :: front, last, rfl, rfl⟩

/-- Parts that hold no separator are found again in the text that they are joined to. -/
theorem split_join {parts : List (List Char)} (hp : parts ≠ []) (h : ∀ p ∈ parts, sep ∉ p) :
    split sep (join sep parts) = parts := by
  induction parts with
  | nil => exact absurd rfl hp
  | cons part parts ih =>
    cases parts with
    | nil => exact split_of_not_mem (h part (.head _))
    | cons next parts =>
      have hsplit := split_of_not_mem (h part (.head _))
      have hrest := ih (by simp) fun p hp => h p (.tail _ hp)
      rw [join, split_append_cons, hsplit, hrest, List.singleton_append]
      simp

/-- The text of some parts is the beginning of the text of more. -/
theorem join_prefix (sep : Char) (parts others : List (List Char)) :
    join sep parts <+: join sep (parts ++ others) := by
  induction parts with
  | nil => exact List.nil_prefix
  | cons part parts ih =>
    cases parts with
    | nil =>
      cases others with
      | nil => exact List.prefix_rfl
      | cons next others => exact List.prefix_append _ _
    | cons next parts =>
      exact (List.prefix_append_right_inj part).2 (List.cons_prefix_cons.2 ⟨rfl, ih⟩)

/-- Texts with the same parts are equal. -/
theorem split_inj (sep : Char) (h : split sep cs = split sep ds) : cs = ds := by
  rw [← join_split sep cs, h, join_split]

end Text

/-! ### Places -/

/-- Whether a path starts at the root, and the components that lead somewhere. -/
structure Place where
  rooted : Bool
  steps : List (List Char)
  deriving DecidableEq, Repr

namespace Place

/-- The place where the reader of a path stands. -/
def here : Place := ⟨false, []⟩

/-- A place as seen from another one. -/
def join (base next : Place) : Place :=
  if next.rooted then next else ⟨base.rooted, base.steps ++ next.steps⟩

variable {a b c : Place}

@[simp]
theorem here_join (a : Place) : here.join a = a := by
  obtain ⟨_ | _, steps⟩ := a <;> simp [join, here]

theorem join_assoc (a b c : Place) : (a.join b).join c = a.join (b.join c) := by
  cases hb : b.rooted <;> cases hc : c.rooted <;> simp [join, hb, hc]

theorem join_of_rooted (h : b.rooted = true) : a.join b = b := by
  rw [join, if_pos h]

@[simp]
theorem rooted_join (a b : Place) : (a.join b).rooted = (b.rooted || a.rooted) := by
  cases hb : b.rooted <;> simp [join, hb]

/-- Going on from a place leads to the same place as before only from the root on, or if the place
is the one where the reader stands. -/
theorem join_eq_right_iff : a.join b = b ↔ b.rooted = true ∨ a = here := by
  obtain ⟨ra, sa⟩ := a
  obtain ⟨rb, sb⟩ := b
  cases rb <;> simp [join, here]

/-- Going on twice does not come back either. -/
theorem join_join_eq_right_iff : a.join (a.join b) = b ↔ b.rooted = true ∨ a = here := by
  obtain ⟨ra, sa⟩ := a
  obtain ⟨rb, sb⟩ := b
  cases ra <;> cases rb <;> simp [join, here, ← List.append_assoc]

/-- Two places as seen from one base are the same if they are the same anyway, or if one of them
starts at the root and is where the other one lies below the base. -/
theorem join_eq_join_iff {base : Place} : base.join a = base.join b ↔
    a = b ∨ (a.rooted = true ∧ b.rooted = false ∧ a = base.join b) ∨
      b.rooted = true ∧ a.rooted = false ∧ base.join a = b := by
  obtain ⟨ra, sa⟩ := a
  obtain ⟨rb, sb⟩ := b
  cases ra <;> cases rb <;> simp [join]

end Place

/-! ### The place of a path -/

namespace Path

/-- The components of a text that lead somewhere. -/
def stepsOf (cs : List Char) : List (List Char) := (Text.split '/' cs).filter (!isIdle ·)

/-- The place to which a path leads. -/
def place (p : Path) : Place := ⟨p.isAbsolute, stepsOf p.chars⟩

@[simp]
theorem stepsOf_nil : stepsOf [] = [] := by decide

theorem stepsOf_append_cons (cs ds : List Char) :
    stepsOf (cs ++ '/' :: ds) = stepsOf cs ++ stepsOf ds := by
  rw [stepsOf, Text.split_append_cons, List.filter_append]
  rfl

@[simp]
theorem stepsOf_cons (cs : List Char) : stepsOf ('/' :: cs) = stepsOf cs := by
  simpa using stepsOf_append_cons [] cs

/-- The steps of joined parts are the parts that lead somewhere. -/
theorem stepsOf_join {parts : List (List Char)} (h : ∀ p ∈ parts, '/' ∉ p) :
    stepsOf (Text.join '/' parts) = parts.filter (!isIdle ·) := by
  cases parts with
  | nil => rfl
  | cons part parts => rw [stepsOf, Text.split_join (by simp) h]

variable {p q base next : Path}

@[simp]
theorem rooted_place (p : Path) : p.place.rooted = p.isAbsolute := rfl

/-- The path `.` leads to where its reader stands. -/
@[simp]
theorem place_dot : (⟨"."⟩ : Path).place = .here := by decide

theorem isAbsolute_eq (p : Path) : p.isAbsolute = decide (p.chars.head? = some '/') := rfl

/-- **The place of a joined path** is the joined place. -/
@[simp]
theorem place_join (base next : Path) : (base.join next).place = base.place.join next.place := by
  by_cases ha : next.isAbsolute = true
  · rw [join_of_isAbsolute ha, Place.join_of_rooted ha]
  have hhead : ¬ next.chars.head? = some '/' := by simpa [isAbsolute_eq] using ha
  have hnext : next.place.rooted = false := by simpa [place] using ha
  rw [place, Place.join, if_neg (by rw [hnext]; decide), isAbsolute_eq, chars_join, joinChars,
    if_neg hhead]
  cases hb : base.chars with
  | nil => simp [place, isAbsolute_eq, hb, hhead]
  | cons c cs =>
    split
    · -- the base ends in the separator
      next h =>
      have hlast : (c :: cs).getLast? = some '/' := by simpa using h
      obtain ⟨front, hfront⟩ := List.getLast?_eq_some_iff.1 hlast
      have hsteps : stepsOf (c :: cs ++ next.chars) = stepsOf (c :: cs) ++ stepsOf next.chars := by
        rw [hfront, List.append_assoc, List.singleton_append, stepsOf_append_cons,
          stepsOf_append_cons, stepsOf_nil, List.append_nil]
      simp [place, isAbsolute_eq, hb, ← hsteps]
    · have hsteps := stepsOf_append_cons (c :: cs) next.chars
      simp [place, isAbsolute_eq, hb, ← hsteps]

/-- `base.Meet p q`: the paths lead to the same place under `base`. They do so anyway, or one of
them is absolute and leads to where the other one lies in `base`. -/
def Meet (base p q : Path) : Prop :=
  p.place = q.place ∨
    (p.isAbsolute = true ∧ q.isAbsolute = false ∧ p.place = (base.join q).place) ∨
    q.isAbsolute = true ∧ p.isAbsolute = false ∧ (base.join p).place = q.place

/-- When paths under one directory lead to the same place. -/
theorem place_join_eq_iff : (base.join p).place = (base.join q).place ↔ base.Meet p q := by
  simp only [Meet, place_join]
  exact Place.join_eq_join_iff

/-! ### The place of a parent -/

/-- What stands before the components of a path: nothing, the root, or a `.` with its `/`. -/
theorem start_cases (cs : List Char) :
    (startLength cs = 0 ∧ cs.head? ≠ some '/') ∨
      (startLength cs = 1 ∧ ∃ rest, cs = '/' :: rest) ∨
      startLength cs = 1 ∧ ∃ rest, cs = '.' :: rest ∧ (rest = [] ∨ rest.head? = some '/') := by
  fun_cases startLength cs with
  | case1 rest => exact .inr (.inl ⟨rfl, rest, rfl⟩)
  | case2 => exact .inr (.inr ⟨rfl, [], rfl, .inl rfl⟩)
  | case3 rest => exact .inr (.inr ⟨rfl, '/' :: rest, rfl, .inr rfl⟩)
  | case4 =>
    next h _ _ =>
    refine .inl ⟨rfl, fun hs => ?_⟩
    obtain ⟨rest, hr⟩ := List.head?_eq_some_iff.1 hs
    exact h rest hr

/-- A `.` in front of a text that is empty or begins with `/` leads nowhere. -/
theorem stepsOf_dot_cons {cs : List Char} (h : cs = [] ∨ cs.head? = some '/') :
    stepsOf ('.' :: cs) = stepsOf cs := by
  rcases h with rfl | h
  · decide
  · obtain ⟨rest, rfl⟩ := List.head?_eq_some_iff.1 h
    have := stepsOf_append_cons ['.'] rest
    simpa [show stepsOf ['.'] = [] by decide] using this

/-- The steps of a path are those behind its start, also of a path that breaks off earlier. -/
theorem place_ofChars_start (cs : List Char) {text : List Char}
    (h : text <+: cs.drop (startLength cs)) :
    (ofChars (cs.take (startLength cs) ++ text)).place =
      ⟨decide (cs.head? = some '/'), stepsOf text⟩ := by
  have hhead : text = [] ∨ text.head? = (cs.drop (startLength cs)).head? := by
    obtain ⟨rest, hrest⟩ := h
    rw [← hrest]
    cases text with
    | nil => exact .inl rfl
    | cons c text => exact .inr rfl
  rcases start_cases cs with ⟨hs, hc⟩ | ⟨hs, rest, rfl⟩ | ⟨hs, rest, rfl, hr⟩
  · rw [hs, List.drop_zero] at hhead
    have : text.head? ≠ some '/' := by
      rcases hhead with rfl | hhead
      · simp
      · rwa [hhead]
    simp [hs, place, isAbsolute_eq, hc, this]
  · simp [hs, place, isAbsolute_eq]
  · rw [hs, List.drop_one, List.tail_cons] at hhead
    have : text = [] ∨ text.head? = some '/' := by
      rcases hhead with rfl | hhead
      · exact .inl rfl
      · rcases hr with rfl | hr
        · exact .inl (by simpa using hhead)
        · exact .inr (hhead.trans hr)
    simp [hs, place, isAbsolute_eq, stepsOf_dot_cons this]

/-- The parent of a path keeps the text up to a gap of idle components, behind which stand the last
step and idle components only. A `.` without a step has the empty path as its parent. -/
theorem parent?_cases (h : p.parent? = some q) :
    (∃ kept gap last trail,
      Text.split '/' (p.chars.drop (startLength p.chars)) = kept ++ (gap ++ last :: trail) ∧
      (∀ part ∈ gap, isIdle part = true) ∧ isIdle last = false ∧
      (∀ part ∈ trail, isIdle part = true) ∧
      q = ofChars (p.chars.take (startLength p.chars) ++ Text.join '/' kept)) ∨
    (∀ part ∈ Text.split '/' (p.chars.drop (startLength p.chars)), isIdle part = true) ∧
      p.chars.head? = some '.' ∧ q = ofChars [] := by
  have hidle (parts : List (List Char)) : ∀ part ∈ (parts.takeWhile isIdle).reverse,
      isIdle part = true := fun part hp => List.mem_takeWhile_imp (List.mem_reverse.1 hp)
  simp only [parent?] at h
  generalize Text.split '/' (p.chars.drop (startLength p.chars)) = body at h ⊢
  have hbody := List.takeWhile_append_dropWhile (p := isIdle) (l := body.reverse)
  split at h
  · next last before found =>
    refine .inl ⟨(before.dropWhile isIdle).reverse, (before.takeWhile isIdle).reverse, last,
      (body.reverse.takeWhile isIdle).reverse, ?_, hidle _, ?_, hidle _,
      (Option.some.inj h).symm⟩
    · have hbefore := List.takeWhile_append_dropWhile (p := isIdle) (l := before)
      rw [found, ← hbefore] at hbody
      have := congrArg List.reverse hbody.symm
      rwa [List.reverse_reverse, List.reverse_append, List.reverse_cons, List.reverse_append,
        List.append_assoc, List.append_assoc] at this
    · have := List.head?_dropWhile_not isIdle body.reverse
      simp_all
  · next found =>
    split at h
    · next hdot =>
      rw [found, List.append_nil] at hbody
      refine .inr ⟨fun part hp => hidle body.reverse part ?_, hdot, (Option.some.inj h).symm⟩
      rwa [hbody, List.reverse_reverse]
    · cases h

theorem filter_idle {parts : List (List Char)} (h : ∀ part ∈ parts, isIdle part = true) :
    parts.filter (!isIdle ·) = [] :=
  List.filter_eq_nil_iff.2 fun part hp => by simp [h part hp]

/-- **The place of a parent** is that of the path without its last step. -/
theorem place_parent? (h : p.parent? = some q) :
    q.place = ⟨p.isAbsolute, p.place.steps.dropLast⟩ := by
  have hself := place_ofChars_start p.chars List.prefix_rfl
  rw [List.take_append_drop, ofChars_chars] at hself
  rw [hself, isAbsolute_eq]
  rcases parent?_cases h with ⟨kept, gap, last, trail, hsplit, hgap, hlast, htrail, rfl⟩ |
    ⟨hall, hdot, rfl⟩
  · have hpre := Text.join_prefix '/' kept (gap ++ last :: trail)
    rw [← hsplit, Text.join_split] at hpre
    have hsep : ∀ part ∈ kept, '/' ∉ part := fun part hp =>
      Text.not_mem_of_mem_split (hsplit ▸ List.mem_append_left _ hp)
    rw [place_ofChars_start p.chars hpre, stepsOf_join hsep, stepsOf, hsplit]
    simp [filter_idle hgap, filter_idle htrail, hlast]
  · rw [stepsOf, filter_idle hall]
    simp [hdot, place, isAbsolute_eq]

/-- A path without a parent has no steps. -/
theorem steps_of_parent?_eq_none (h : p.parent? = none) : p.place.steps = [] := by
  have hself := place_ofChars_start p.chars List.prefix_rfl
  rw [List.take_append_drop, ofChars_chars] at hself
  simp only [parent?] at h
  split at h
  · cases h
  · next found =>
    have hidle := List.dropWhile_eq_nil_iff.1 found
    rw [hself]
    exact filter_idle fun part hp => hidle part (List.mem_reverse.2 hp)

/-! ### Plain paths -/

/-- A path is written plainly if every component leads somewhere. Such a path is relative. -/
def IsPlain (p : Path) : Prop := ∀ part ∈ Text.split '/' p.chars, isIdle part = false

instance (p : Path) : Decidable p.IsPlain := inferInstanceAs (Decidable (∀ _ ∈ _, _))

namespace IsPlain

theorem isAbsolute_eq_false (h : p.IsPlain) : p.isAbsolute = false := by
  rw [isAbsolute_eq, decide_eq_false_iff_not]
  cases hc : p.chars with
  | nil => simp
  | cons c cs =>
    intro hs
    obtain rfl : c = '/' := by simpa using hs
    have := h [] (by simp [hc, Text.split])
    cases this

theorem steps_eq (h : p.IsPlain) : p.place.steps = Text.split '/' p.chars :=
  List.filter_eq_self.2 fun part hp => by simp [h part hp]

/-- Plain paths that lead to the same place are equal. -/
theorem place_inj (hp : p.IsPlain) (hq : q.IsPlain) : p.place = q.place ↔ p = q := by
  refine ⟨fun h => ext_chars (Text.split_inj '/' ?_), fun h => h ▸ rfl⟩
  rw [← hp.steps_eq, ← hq.steps_eq, h]

/-- Plain paths under one directory lead to the same place only if they are equal. -/
theorem place_join_inj (hp : p.IsPlain) (hq : q.IsPlain) :
    (base.join p).place = (base.join q).place ↔ p = q := by
  rw [place_join_eq_iff, Meet, hp.isAbsolute_eq_false, hq.isAbsolute_eq_false, hp.place_inj hq]
  simp

theorem chars_ne_nil (h : p.IsPlain) : p.chars ≠ [] := by
  intro hn
  have := h [] (by rw [hn]; exact List.mem_singleton_self _)
  cases this

/-- The last component of a plain path is not empty. -/
theorem getLast?_ne (h : p.IsPlain) : p.chars.getLast? ≠ some '/' := by
  intro hl
  obtain ⟨front, hf⟩ := List.getLast?_eq_some_iff.1 hl
  have := h [] (by rw [hf, Text.split_append_cons]; simp [Text.split])
  cases this

/-- The characters of a plain path under a plain one. -/
theorem chars_join (hb : base.IsPlain) (hn : next.IsPlain) :
    (base.join next).chars = base.chars ++ '/' :: next.chars := by
  have ha : ¬ next.chars.head? = some '/' := by simpa [isAbsolute_eq] using hn.isAbsolute_eq_false
  rw [Path.chars_join, joinChars, if_neg ha, if_neg (not_or.2 ⟨hb.chars_ne_nil, hb.getLast?_ne⟩)]

theorem join (hb : base.IsPlain) (hn : next.IsPlain) : (base.join next).IsPlain := by
  intro part hp
  rw [hb.chars_join hn, Text.split_append_cons, List.mem_append] at hp
  exact hp.elim (hb part) (hn part)

/-- A plain path stays plain with an ending that is no component of its own. -/
theorem append (h : p.IsPlain) {ending : List Char} (hs : '/' ∉ ending) (hl : 2 ≤ ending.length) :
    (ofChars (p.chars ++ ending)).IsPlain := by
  obtain ⟨front, last, hp, happ⟩ := Text.exists_split_append p.chars hs
  intro part hpart
  rw [chars_ofChars, happ, List.mem_append, List.mem_singleton] at hpart
  rcases hpart with hpart | rfl
  · exact h part (hp ▸ List.mem_append_left _ hpart)
  · have hlong : 2 ≤ (last ++ ending).length := by
      rw [List.length_append]
      omega
    rw [isIdle, Bool.or_eq_false_iff, decide_eq_false_iff_not, decide_eq_false_iff_not]
    constructor <;> intro he <;> rw [he] at hlong <;> simp at hlong

end IsPlain

end Path

end Buildwright
