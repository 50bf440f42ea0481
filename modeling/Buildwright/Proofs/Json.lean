import Buildwright.Json
import Buildwright.Proofs.Text
import Mathlib.Logic.Function.Basic

/-!
# The text of JSON values

Two values with the same indented text are equal (`Json.pretty_injective`), so whatever is written
as JSON can be found again in the text. The reason is that the text of a value shows where it ends
(`Json.Legible`): a string at its second quote that is not escaped, a number at the first character
that is no digit, an array or object at the bracket that stands alone. This is proved for each kind
of value and carried through the lines of a block (`Json.block_append_inj`).
-/

namespace Buildwright.Json

/-! ### Characters -/

/-- The value of a hexadecimal digit. -/
def hexValue (c : Char) : Nat :=
  if c.isDigit then c.toNat - '0'.toNat else c.toNat - 'a'.toNat + 10

theorem hexValue_digitChar : ∀ n < 16, hexValue (Nat.digitChar n) = n := by decide

/-- The character for which a letter behind a backslash stands. -/
def unescaped : Char → Char
  | 'b' => '\x08'
  | 'f' => '\x0c'
  | 'n' => '\n'
  | 'r' => '\r'
  | 't' => '\t'
  | c => c

/-- Reads one character inside a string. -/
def unescape : List Char → Option (Char × List Char)
  | '\\' :: 'u' :: '0' :: '0' :: x :: y :: rest =>
    some (Char.ofNat (16 * hexValue x + hexValue y), rest)
  | '\\' :: c :: rest => some (unescaped c, rest)
  | c :: rest => some (c, rest)
  | [] => none

/-- A character is read back from the way it is escaped. -/
theorem unescape_escaped_append (c : Char) (rest : List Char) :
    unescape (escaped c ++ rest) = some (c, rest) := by
  unfold escaped
  split_ifs with hquote hback hb hf hn hr ht hcontrol
  all_goals try subst c
  all_goals try rfl
  · have hhigh := hexValue_digitChar (c.toNat / 16) (by omega)
    have hlow := hexValue_digitChar (c.toNat % 16) (by omega)
    have hsum : 16 * (c.toNat / 16) + c.toNat % 16 = c.toNat := by omega
    simp only [controlDigits, List.cons_append, List.nil_append, unescape, hhigh, hlow, hsum,
      Char.ofNat_toNat]
  · rw [List.singleton_append, unescape]
    · exact fun _ _ _ hc _ => hback hc
    · exact fun _ _ hc _ => hback hc

theorem escaped_append_inj {c d : Char} {xs ys : List Char}
    (h : escaped c ++ xs = escaped d ++ ys) : c = d ∧ xs = ys := by
  have h := congrArg unescape h
  rw [unescape_escaped_append, unescape_escaped_append, Option.some.injEq, Prod.mk.injEq] at h
  exact h

/-- No character is escaped by a quote in front. -/
theorem escaped_append_ne (c : Char) (xs ys : List Char) : escaped c ++ xs ≠ '"' :: ys := by
  unfold escaped
  split_ifs with hquote
  all_goals simp
  exact fun h => absurd h hquote

/-! ### Strings and numbers -/

/-- What is between the quotes ends at the second quote. -/
theorem flatMap_escaped_append_inj {cs ds xs ys : List Char}
    (h : cs.flatMap escaped ++ '"' :: xs = ds.flatMap escaped ++ '"' :: ys) :
    cs = ds ∧ xs = ys := by
  induction cs generalizing ds with
  | nil =>
    cases ds with
    | nil => exact ⟨rfl, (List.cons.inj h).2⟩
    | cons d ds =>
      rw [List.flatMap_cons, List.append_assoc] at h
      exact absurd h.symm (escaped_append_ne d _ _)
  | cons c cs ih =>
    rw [List.flatMap_cons, List.append_assoc] at h
    cases ds with
    | nil => exact absurd h (escaped_append_ne c _ _)
    | cons d ds =>
      rw [List.flatMap_cons, List.append_assoc] at h
      obtain ⟨rfl, hrest⟩ := escaped_append_inj h
      obtain ⟨rfl, hend⟩ := ih hrest
      exact ⟨rfl, hend⟩

theorem quote_append_inj {s t : String} {xs ys : List Char}
    (h : quote s ++ xs = quote t ++ ys) : s = t ∧ xs = ys := by
  simp only [quote, List.cons_append, List.append_assoc, List.nil_append, List.cons.injEq,
    true_and] at h
  obtain ⟨hs, h⟩ := flatMap_escaped_append_inj h
  exact ⟨String.toList_inj.1 hs, h⟩

theorem toList_toString_ofNat (k : Nat) : (toString (Int.ofNat k)).toList = Nat.toDigits 10 k :=
  Nat.toList_repr

theorem toList_toString_negSucc (k : Nat) :
    (toString (Int.negSucc k)).toList = '-' :: Nat.toDigits 10 (k + 1) := by
  rw [← Nat.toList_repr]
  exact String.toList_append

/-- A whole number ends where its digits end. -/
theorem toString_append_cons_inj {m n : Int} {c d : Char} {xs ys : List Char}
    (hc : c.isDigit = false) (hd : d.isDigit = false)
    (h : (toString m).toList ++ c :: xs = (toString n).toList ++ d :: ys) :
    m = n ∧ c :: xs = d :: ys := by
  have hsign (k l : Nat) (xs ys : List Char) :
      Nat.toDigits 10 k ++ xs ≠ '-' :: Nat.toDigits 10 l ++ ys := by
    intro h
    rcases List.append_eq_cons_iff.1 h with ⟨hnil, -⟩ | ⟨digits, hcons, -⟩
    · exact Nat.toDigits_ne_nil hnil
    · cases Text.isDigit_of_mem_toDigits (hcons ▸ List.mem_cons_self)
  cases m with
  | ofNat k =>
    cases n with
    | ofNat l =>
      rw [toList_toString_ofNat, toList_toString_ofNat] at h
      exact (Text.toDigits_append_cons_inj hc hd h).imp_left fun h => congrArg Int.ofNat h
    | negSucc l =>
      rw [toList_toString_ofNat, toList_toString_negSucc] at h
      exact absurd h (hsign _ _ _ _)
  | negSucc k =>
    cases n with
    | ofNat l =>
      rw [toList_toString_ofNat, toList_toString_negSucc] at h
      exact absurd h.symm (hsign _ _ _ _)
    | negSucc l =>
      rw [toList_toString_negSucc, toList_toString_negSucc] at h
      obtain ⟨hkl, h⟩ := Text.toDigits_append_cons_inj hc hd (List.cons.inj h).2
      exact ⟨congrArg Int.negSucc (Nat.succ.inj hkl), h⟩

/-! ### Blocks -/

/-- `Legible f a`: the text that `f` gives to `a` belongs to nothing else and shows where it ends,
if no digit follows. -/
def Legible {α : Type} (f : α → List Char) (a : α) : Prop :=
  ∀ (b : α) (c d : Char) (xs ys : List Char), c.isDigit = false → d.isDigit = false →
    f a ++ c :: xs = f b ++ d :: ys → a = b ∧ c :: xs = d :: ys

section Block

variable {α : Type} {f : α → List Char} {level : Nat} {as bs : List α} {xs ys : List Char}

/-- What comes behind an entry of a block: the other entries, each after a comma and on a line of
its own, and the line of the closing bracket. -/
def behind (f : α → List Char) (level : Nat) (last : List Char) : List α → List Char
  | [] => '\n' :: last
  | a :: as => ',' :: '\n' :: (indent level ++ (f a ++ behind f level last as))

/-- The lines of a block with an entry. -/
theorem block_cons_append (opening closing : Char) (a : α) :
    block level opening closing ((a :: as).map f) ++ xs =
      opening :: '\n' :: (indent (level + 1) ++
        (f a ++ behind f (level + 1) (indent level ++ closing :: xs) as)) := by
  have hlines : [',', '\n'].intercalate (((a :: as).map f).map (indent (level + 1) ++ ·)) ++
      ('\n' :: (indent level ++ closing :: xs)) = indent (level + 1) ++
        (f a ++ behind f (level + 1) (indent level ++ closing :: xs) as) := by
    induction as generalizing a with
    | nil => simp [behind]
    | cons b as ih =>
      simp only [List.map_cons] at ih ⊢
      rw [List.intercalate_cons_cons, List.append_assoc, ih]
      simp [behind]
  rw [← hlines]
  simp [block]

theorem exists_behind_eq_cons (f : α → List Char) (level : Nat) (last : List Char) (as : List α) :
    ∃ c rest, behind f level last as = c :: rest ∧ c.isDigit = false := by
  cases as with
  | nil => exact ⟨_, _, rfl, by decide⟩
  | cons a as => exact ⟨_, _, rfl, by decide⟩

/-- The entries of a block end where no comma follows. -/
theorem behind_inj (hf : ∀ a ∈ as, Legible f a) (h : behind f level xs as = behind f level ys bs) :
    as = bs ∧ xs = ys := by
  induction as generalizing bs with
  | nil =>
    cases bs with
    | nil => exact ⟨rfl, (List.cons.inj h).2⟩
    | cons b bs => cases (List.cons.inj h).1
  | cons a as ih =>
    cases bs with
    | nil => cases (List.cons.inj h).1
    | cons b bs =>
      have h := List.append_cancel_left (List.cons.inj (List.cons.inj h).2).2
      obtain ⟨c, cs, hc, hcdigit⟩ := exists_behind_eq_cons f level xs as
      obtain ⟨d, ds, hd, hddigit⟩ := exists_behind_eq_cons f level ys bs
      rw [hc, hd] at h
      obtain ⟨rfl, hrest⟩ := hf a (.head _) b c d cs ds hcdigit hddigit h
      rw [← hc, ← hd] at hrest
      obtain ⟨rfl, hlast⟩ := ih (fun a ha => hf a (.tail _ ha)) hrest
      exact ⟨rfl, hlast⟩

/-- **Blocks are legible**: if each entry is, then the entries can be read off a block, and where it
ends. -/
theorem block_append_inj {opening closing : Char} (hclosing : closing ≠ '\n')
    (hf : ∀ a ∈ as, Legible f a)
    (h : block level opening closing (as.map f) ++ xs =
      block level opening closing (bs.map f) ++ ys) : as = bs ∧ xs = ys := by
  cases as with
  | nil =>
    cases bs with
    | nil => exact ⟨rfl, List.append_cancel_left h⟩
    | cons b bs =>
      rw [block_cons_append] at h
      exact absurd (List.cons.inj (List.cons.inj h).2).1 hclosing
  | cons a as =>
    cases bs with
    | nil =>
      rw [block_cons_append] at h
      exact absurd (List.cons.inj (List.cons.inj h).2).1.symm hclosing
    | cons b bs =>
      rw [block_cons_append, block_cons_append] at h
      have h := (List.cons.inj h).2
      -- the first entry is like the others, with a comma in front of its line
      have hbehind : behind f (level + 1) (indent level ++ closing :: xs) (a :: as) =
          behind f (level + 1) (indent level ++ closing :: ys) (b :: bs) := congrArg (',' :: ·) h
      obtain ⟨heq, hlast⟩ := behind_inj hf hbehind
      exact ⟨heq, (List.cons.inj (List.append_cancel_left hlast)).2⟩

end Block

/-! ### Values -/

/-- **Induction on a value**: the items of an array and the values in an object come first. -/
theorem induction {motive : Json → Prop} (null : motive null)
    (bool : ∀ value, motive (bool value)) (number : ∀ value, motive (number value))
    (text : ∀ value, motive (text value))
    (array : ∀ items, (∀ item ∈ items, motive item) → motive (array items))
    (object : ∀ members, (∀ member ∈ members, motive member.2) → motive (object members))
    (v : Json) : motive v :=
  match v with
  | .null => null
  | .bool value => bool value
  | .number value => number value
  | .text value => text value
  | .array items => array items fun item hitem =>
    have := List.sizeOf_lt_of_mem hitem
    induction null bool number text array object item
  | .object members => object members fun member hmember =>
    have := List.sizeOf_lt_of_mem hmember
    have : sizeOf member.2 < sizeOf member := by
      rw [Prod.mk.sizeOf_spec]
      omega
    induction null bool number text array object member.2
  termination_by v

theorem renderItems_eq_map (level : Nat) (items : List Json) :
    renderItems level items = items.map (render level) := by
  induction items with
  | nil => rfl
  | cons item items ih => rw [renderItems, ih, List.map_cons]

/-- The text of a member of an object. -/
def renderMember (level : Nat) (member : String × Json) : List Char :=
  quote member.1 ++ ':' :: ' ' :: render level member.2

theorem renderMembers_eq_map (level : Nat) (members : List (String × Json)) :
    renderMembers level members = members.map (renderMember level) := by
  induction members with
  | nil => rfl
  | cons member members ih => rw [renderMembers, ih, List.map_cons, renderMember]

/-- What kind of value begins with a character; for numbers, the digit 0. -/
def kindOf (c : Char) : Char := if c.isDigit ∨ c = '-' then '0' else c

/-- The kind of a value. -/
def kind : Json → Char
  | null => 'n'
  | bool value => if value then 't' else 'f'
  | number _ => '0'
  | text _ => '"'
  | array _ => '['
  | object _ => '\x7b'

/-- The text of a value shows its kind. -/
theorem exists_render_eq_cons (level : Nat) (v : Json) :
    ∃ c cs, render level v = c :: cs ∧ kindOf c = v.kind := by
  have hblock (opening closing : Char) (entries : List (List Char)) :
      ∃ cs, block level opening closing entries = opening :: cs := by
    cases entries <;> exact ⟨_, rfl⟩
  cases v with
  | null => exact ⟨_, _, rfl, by decide⟩
  | bool value => cases value <;> exact ⟨_, _, rfl, by decide⟩
  | number value =>
    cases value with
    | ofNat k =>
      obtain ⟨c, cs, hk⟩ := List.exists_cons_of_ne_nil (Nat.toDigits_ne_nil (n := k) (b := 10))
      have hdigit := Text.isDigit_of_mem_toDigits (hk ▸ List.mem_cons_self)
      exact ⟨c, cs, (toList_toString_ofNat k).trans hk, if_pos (.inl hdigit)⟩
    | negSucc k => exact ⟨_, _, toList_toString_negSucc k, rfl⟩
  | text value => exact ⟨_, _, rfl, rfl⟩
  | array items =>
    obtain ⟨cs, hcs⟩ := hblock '[' ']' (renderItems (level + 1) items)
    exact ⟨_, cs, hcs, rfl⟩
  | object members =>
    obtain ⟨cs, hcs⟩ := hblock '\x7b' '\x7d' (renderMembers (level + 1) members)
    exact ⟨_, cs, hcs, rfl⟩

theorem kind_eq_of_render_append_eq {level : Nat} {v w : Json} {xs ys : List Char}
    (h : render level v ++ xs = render level w ++ ys) : v.kind = w.kind := by
  obtain ⟨c, cs, hv, hc⟩ := exists_render_eq_cons level v
  obtain ⟨d, ds, hw, hd⟩ := exists_render_eq_cons level w
  rw [hv, hw] at h
  rw [← hc, ← hd, (List.cons.inj h).1]

/-- A member is legible if its value is. -/
theorem legible_renderMember {level : Nat} {member : String × Json}
    (h : Legible (render level) member.2) : Legible (renderMember level) member := by
  intro other c d xs ys hc hd heq
  simp only [renderMember, List.append_assoc, List.cons_append] at heq
  obtain ⟨hkey, hrest⟩ := quote_append_inj heq
  obtain ⟨hvalue, hend⟩ := h other.2 c d xs ys hc hd (List.cons.inj (List.cons.inj hrest).2).2
  exact ⟨Prod.ext hkey hvalue, hend⟩

/-- **Values are legible.** -/
theorem legible_render (level : Nat) (v : Json) : Legible (render level) v := by
  induction v using Json.induction generalizing level <;> intro w c d xs ys hc hd h <;>
    have hkind := kind_eq_of_render_append_eq h
  case null =>
    cases w with
    | null => exact ⟨rfl, List.append_cancel_left h⟩
    | _ => grind [kind]
  case bool value =>
    cases w with
    | bool value' =>
      obtain rfl : value = value' := by grind [kind]
      exact ⟨rfl, List.append_cancel_left h⟩
    | _ => grind [kind]
  case number value =>
    cases w with
    | number value' => exact (toString_append_cons_inj hc hd h).imp_left (congrArg number)
    | _ => grind [kind]
  case text value =>
    cases w with
    | text value' => exact (quote_append_inj h).imp_left (congrArg text)
    | _ => grind [kind]
  case array items ih =>
    cases w with
    | array items' =>
      simp only [render, renderItems_eq_map] at h
      have hitems := block_append_inj (by decide) (fun item hitem => ih item hitem (level + 1)) h
      exact hitems.imp_left (congrArg array)
    | _ => grind [kind]
  case object members ih =>
    cases w with
    | object members' =>
      simp only [render, renderMembers_eq_map] at h
      have hmembers := block_append_inj (by decide)
        (fun member hmember => legible_renderMember (ih member hmember (level + 1))) h
      exact hmembers.imp_left (congrArg object)
    | _ => grind [kind]

/-- **The text of a value belongs to no other value.** -/
theorem pretty_injective : Function.Injective pretty := by
  intro v w h
  have h := congrArg (· ++ ['\n']) (String.ofList_injective h)
  exact (legible_render 0 v w '\n' '\n' [] [] (by decide) (by decide) h).1

end Buildwright.Json
