import Buildwright.Manifest.Schema
import Buildwright.Manifest.Tree
import Buildwright.Proofs.Fallible
import Mathlib.Data.List.Forall2
import Mathlib.Data.List.Nodup
import Mathlib.Data.List.Pairwise

/-!
# Records whose keys stand in any order

A table says the same however its keys are ordered, in itself and in the tables within it
(`Data.Rearranged`). What is read from it need not be the same: the entries are read from front to
back, each changing the record. It is the same if no key comes up twice and any two fields can be
set in either order (`Record.IsIndependent.readTable_eq_ok_iff_of_perm`).

How a record is written is followed field by field (`Record.Written`): each of the fields is either
left out, which a required one is not, or has an entry that says what it changes. A record that is
written so is read back, in whatever order (`Record.Written.readTable_eq`, `Record.Writes.read_eq`).
-/

namespace Buildwright

/-! ### The order of keys -/

mutual

/-- `d.Rearranged d'`: the same data, with the entries of its tables in some other order. -/
inductive Data.Rearranged : Data → Data → Prop where
  | same (d : Data) : Rearranged d d
  | list {items items' : List Data} (h : List.Forall₂ Data.Rearranged items items') :
    Rearranged (.list items) (.list items')
  | table {entries entries' others : List (String × Data)}
    (h : List.Forall₂ Data.SameEntry entries entries') (horder : entries'.Perm others) :
    Rearranged (.table entries) (.table others)

/-- The same key with the same data, rearranged. -/
inductive Data.SameEntry : String × Data → String × Data → Prop where
  | under (key : String) {d d' : Data} (h : d.Rearranged d') : SameEntry (key, d) (key, d')

end

/-- The same entries in another order, with the data under their keys rearranged as well. -/
def DataEntries.Rearranged (entries others : DataEntries) : Prop :=
  ∃ entries', List.Forall₂ Data.SameEntry entries entries' ∧ entries'.Perm others

namespace Data

variable {entries entries' : DataEntries} {key : String} {d d' : Data}

theorem SameEntry.refl (e : String × Data) : SameEntry e e := .under e.1 (.same e.2)

theorem Rearranged.eq_text {s : String} (h : (text s).Rearranged d) : d = .text s := by
  cases h
  rfl

theorem Rearranged.eq_boolean {b : Bool} (h : (boolean b).Rearranged d) : d = .boolean b := by
  cases h
  rfl

theorem Rearranged.eq_integer {n : Int} (h : (integer n).Rearranged d) : d = .integer n := by
  cases h
  rfl

theorem Rearranged.exists_list {items : List Data} (h : (Data.list items).Rearranged d) :
    ∃ items', d = .list items' ∧ List.Forall₂ Data.Rearranged items items' := by
  obtain _ | h := h
  · exact ⟨items, rfl, List.forall₂_same.2 fun d _ => .same d⟩
  · exact ⟨_, rfl, h⟩

theorem Rearranged.exists_table (h : (Data.table entries).Rearranged d) :
    ∃ others, d = .table others ∧ entries.Rearranged others := by
  obtain _ | _ | ⟨h, horder⟩ := h
  · exact ⟨entries, rfl, entries, List.forall₂_same.2 fun e _ => .refl e, .refl entries⟩
  · exact ⟨_, rfl, _, h, horder⟩

/-- A list is read back if its items are. -/
theorem asList_of_rearranged {α : Type} {read : Data → Except Mismatch α} {write : α → Data}
    (hread : ∀ a d, (write a).Rearranged d → read d = .ok a) {as : List α}
    (h : (Data.list (as.map write)).Rearranged d) : d.asList read = .ok as := by
  obtain ⟨items, rfl, hitems⟩ := h.exists_list
  clear h
  rw [asList]
  induction as generalizing items with
  | nil =>
    rw [List.forall₂_nil_left_iff.1 hitems]
    rfl
  | cons a as ih =>
    obtain _ | ⟨ha, has⟩ := hitems
    rw [List.mapM_cons, hread a _ ha, ih _ has]
    rfl

theorem asTexts_of_rearranged {ss : List String} (h : (texts ss).Rearranged d) :
    d.asTexts = .ok ss :=
  asList_of_rearranged (fun _ _ hs => hs.eq_text ▸ rfl) h

theorem keys_eq_of_sameEntry (h : List.Forall₂ SameEntry entries entries') :
    entries'.map Prod.fst = entries.map Prod.fst := by
  induction h with
  | nil => rfl
  | cons h _ ih =>
    obtain ⟨key, _⟩ := h
    rw [List.map_cons, List.map_cons, ih]

end Data

/-- An entry whose key comes up once is found under it, and the other entries are rearranged among
themselves. -/
theorem DataEntries.Rearranged.exists_lookup {entries others : DataEntries} {key : String}
    {d : Data} (h : DataEntries.Rearranged ((key, d) :: entries) others)
    (hkey : key ∉ entries.map Prod.fst) :
    ∃ d', d.Rearranged d' ∧ others.lookup key = some d' ∧
      entries.Rearranged (others.filter fun e => e.1 ≠ key) := by
  obtain ⟨_, hsame, horder⟩ := h
  obtain _ | @⟨_, _, _, entries', @⟨_, _, d', hd⟩, hsame⟩ := hsame
  rw [← Data.keys_eq_of_sameEntry hsame] at hkey
  refine ⟨d', hd, ?_, entries', hsame, ?_⟩
  · have hmem {x : Data} (hx : (key, x) ∈ others) : x = d' := by
      obtain h | h := List.mem_cons.1 (horder.mem_iff.2 hx)
      · exact congrArg Prod.snd h
      · exact absurd (List.mem_map_of_mem h) hkey
    have hfound : (others.lookup key).isSome :=
      List.lookup_isSome_iff.2 ⟨_, horder.mem_iff.1 (.head _), beq_self_eq_true key⟩
    obtain ⟨x, hx⟩ := Option.isSome_iff_exists.1 hfound
    obtain ⟨front, back, rfl, -⟩ := List.lookup_eq_some_iff.1 hx
    rw [hx, hmem (List.mem_append_right _ (.head _))]
  · have hrest : entries'.filter (fun e => e.1 ≠ key) = entries' :=
      List.filter_eq_self.2 fun e he =>
        decide_eq_true fun h => hkey (List.mem_map.2 ⟨e, he, h⟩)
    have h := horder.filter fun e => e.1 ≠ key
    rwa [List.filter_cons_of_neg (by simp), hrest] at h

/-! ### Fields that do not get in each other's way -/

namespace Record

variable {α β : Type}

/-- Two fields that can be set in either order. -/
def Field.Commutes (f f' : Field α) : Prop :=
  ∀ d d' a c, (f.set d a >>= f'.set d') = .ok c ↔ (f'.set d' a >>= f.set d) = .ok c

instance : Std.Symm (Field.Commutes (α := α)) where
  symm _ _ h d d' a c := (h d' d a c).symm

theorem Field.set_reading {key : String} {presence : Presence} {read : Data → Except Mismatch β}
    {put : β → α → α} {d : Data} {x : β} (h : read d = .ok x) (a : α) :
    (reading key presence read put).set d a = .ok (put x a) := map_eq_ok_iff.2 ⟨x, h, rfl⟩

theorem Field.commutes_reading {γ : Type} {key key' : String} {presence presence' : Presence}
    {read : Data → Except Mismatch β} {read' : Data → Except Mismatch γ} {put : β → α → α}
    {put' : γ → α → α} (h : ∀ x y a, put' y (put x a) = put x (put' y a)) :
    (reading key presence read put).Commutes (reading key' presence' read' put') := by
  intro d d' a c
  simp only [reading, bind_eq_ok_iff, map_eq_ok_iff]
  constructor
  · rintro ⟨_, ⟨x, hx, rfl⟩, y, hy, rfl⟩
    exact ⟨_, ⟨y, hy, rfl⟩, x, hx, (h x y a).symm⟩
  · rintro ⟨_, ⟨y, hy, rfl⟩, x, hx, rfl⟩
    exact ⟨_, ⟨x, hx, rfl⟩, y, hy, h x y a⟩

theorem Field.onFirst_set_eq_ok_iff {f : Field α} {d : Data} {a c : α × β} :
    f.onFirst.set d a = .ok c ↔ f.set d a.1 = .ok c.1 ∧ a.2 = c.2 := by
  rw [onFirst, map_eq_ok_iff]
  constructor
  · rintro ⟨x, hx, rfl⟩
    exact ⟨hx, rfl⟩
  · rintro ⟨hx, hc⟩
    exact ⟨c.1, hx, Prod.ext rfl hc⟩

theorem Field.Commutes.onFirst {f f' : Field α} (h : f.Commutes f') :
    (f.onFirst (β := β)).Commutes f'.onFirst := by
  have hboth (f f' : Field α) (d d' : Data) (a c : α × β) :
      (f.onFirst.set d a >>= f'.onFirst.set d') = .ok c ↔
        (f.set d a.1 >>= f'.set d') = .ok c.1 ∧ a.2 = c.2 := by
    simp only [bind_eq_ok_iff, onFirst_set_eq_ok_iff]
    constructor
    · rintro ⟨b, ⟨hb, hab⟩, hc, hbc⟩
      exact ⟨⟨b.1, hb, hc⟩, hab.trans hbc⟩
    · rintro ⟨⟨b, hb, hc⟩, hac⟩
      exact ⟨(b, a.2), ⟨hb, rfl⟩, hc, hac⟩
  intro d d' a c
  rw [hboth, hboth, h]

theorem Field.commutes_onFirst {key : String} {presence : Presence}
    {read : Data → Except Mismatch β} (f : Field α) :
    (reading key presence read fun x r => (r.1, x)).Commutes f.onFirst := by
  intro d d' a c
  simp only [reading, bind_eq_ok_iff, map_eq_ok_iff, onFirst_set_eq_ok_iff]
  constructor
  · rintro ⟨_, ⟨x, hx, rfl⟩, hf, hc⟩
    exact ⟨(c.1, a.2), ⟨hf, rfl⟩, x, hx, Prod.ext rfl hc⟩
  · rintro ⟨b, ⟨hf, hb⟩, x, hx, rfl⟩
    exact ⟨(a.1, x), ⟨x, hx, rfl⟩, hf, rfl⟩

/-- A record whose fields have keys of their own and can be set in any order. -/
structure IsIndependent (r : Record α) : Prop where
  nodup_keys : r.keys.Nodup
  commutes : r.fields.Pairwise Field.Commutes

variable {r : Record α} {f : Field α} {entries others : DataEntries} {a c : α}

theorem find?_field_eq_some_iff (hr : r.keys.Nodup) {key : String} :
    r.fields.find? (fun f => f.key = key) = some f ↔ f ∈ r.fields ∧ f.key = key := by
  constructor
  · intro h
    exact ⟨List.mem_of_find?_eq_some h, by simpa using List.find?_some h⟩
  · rintro ⟨hf, rfl⟩
    obtain ⟨g, hg⟩ : ∃ g, r.fields.find? (fun g => g.key = f.key) = some g := by
      rw [← Option.isSome_iff_exists, List.find?_isSome]
      exact ⟨f, hf, by simp⟩
    have hkey : g.key = f.key := by simpa using List.find?_some hg
    rw [hg, List.inj_on_of_nodup_map hr (List.mem_of_find?_eq_some hg) hf hkey]

/-- An entry that is read is that of a field. -/
theorem readEntry_eq_ok_iff (hr : r.keys.Nodup) {e : String × Data} :
    r.readEntry a e = .ok c ↔ ∃ f ∈ r.fields, f.key = e.1 ∧ f.set e.2 a = .ok c := by
  unfold readEntry
  split
  · next f hf =>
    obtain ⟨hmem, hkey⟩ := (find?_field_eq_some_iff hr).1 hf
    refine ⟨fun h => ⟨f, hmem, hkey, h⟩, ?_⟩
    rintro ⟨g, hg, hgkey, h⟩
    rwa [List.inj_on_of_nodup_map hr hmem hg (hkey.trans hgkey.symm)]
  · next hnone =>
    refine ⟨nofun, ?_⟩
    rintro ⟨g, hg, hgkey, -⟩
    exact absurd (List.find?_eq_none.1 hnone g hg) (by simp [hgkey])

theorem IsIndependent.readEntry_comm (hr : r.IsIndependent) {e e' : String × Data}
    (hne : e.1 ≠ e'.1) (a c : α) :
    r.readEntry a e >>= (r.readEntry · e') = .ok c ↔
      r.readEntry a e' >>= (r.readEntry · e) = .ok c := by
  have hswap {e e' : String × Data} (hne : e.1 ≠ e'.1)
      (h : r.readEntry a e >>= (r.readEntry · e') = .ok c) :
      r.readEntry a e' >>= (r.readEntry · e) = .ok c := by
    simp only [bind_eq_ok_iff, readEntry_eq_ok_iff hr.nodup_keys] at h ⊢
    obtain ⟨b, ⟨f, hf, hfe, hb⟩, f', hf', hfe', hc⟩ := h
    have hcomm : f.Commutes f' := hr.commutes.forall hf hf' fun h => hne (hfe ▸ hfe' ▸ h ▸ rfl)
    obtain ⟨b', hb', hc'⟩ := bind_eq_ok_iff.1 ((hcomm _ _ a c).1 (bind_eq_ok_iff.2 ⟨b, hb, hc⟩))
    exact ⟨b', ⟨f', hf', hfe', hb'⟩, f, hf, hfe, hc'⟩
  exact ⟨hswap hne, hswap hne.symm⟩

theorem missing?_eq_none_iff : r.missing? entries = none ↔
    ∀ f ∈ r.fields, f.presence = .required → f.key ∈ entries.map Prod.fst := by
  have hlookup (key : String) : (entries.lookup key).isNone ↔ key ∉ entries.map Prod.fst := by
    rw [Option.isNone_iff_eq_none, List.lookup_eq_none_iff, List.mem_map, not_exists]
    exact forall_congr' fun e => by simp [eq_comm (a := key)]
  simp only [missing?, List.findSome?_eq_none_iff, ite_eq_right_iff, reduceCtorEq, hlookup]
  simp only [imp_false, not_and, not_not]

theorem readTable_eq_ok_iff : r.readTable entries = .ok c ↔
    entries.foldlM r.readEntry r.blank = .ok c ∧ r.missing? entries = none := by
  rw [readTable, bind_eq_ok_iff]
  constructor
  · rintro ⟨b, hb, h⟩
    split at h
    · contradiction
    · next hmissing =>
      obtain rfl := Except.ok.inj h
      exact ⟨hb, hmissing⟩
  · rintro ⟨hc, hmissing⟩
    exact ⟨c, hc, by rw [hmissing]⟩

/-- **The order of the entries of a table does not matter**, if no key comes up twice and the fields
of the record are independent. -/
theorem IsIndependent.readTable_eq_ok_iff_of_perm (hr : r.IsIndependent)
    (hkeys : (entries.map Prod.fst).Nodup) (h : entries.Perm others) :
    r.readTable entries = .ok c ↔ r.readTable others = .ok c := by
  have hmissing : r.missing? entries = none ↔ r.missing? others = none := by
    simp only [missing?_eq_none_iff, (h.map Prod.fst).mem_iff]
  rw [readTable_eq_ok_iff, readTable_eq_ok_iff, hmissing, foldlM_eq_ok_iff_of_perm h]
  intro e he e' he' a b
  by_cases hkey : e.1 = e'.1
  · rw [List.inj_on_of_nodup_map hkeys he he' hkey]
  · exact hr.readEntry_comm hkey a b

/-! ### Records field by field -/

/-- `Written fields a entries c`: the fields are written as `entries`, in their order. What is
written of a field turns the record as it is before, at first `a`, into the record behind it, at
last `c`, however it is rearranged; and no required field is left out. -/
inductive Written : List (Field α) → α → DataEntries → α → Prop where
  | nil (a : α) : Written [] a [] a
  | leftOut {f : Field α} {fields : List (Field α)} {a c : α} {entries : DataEntries}
    (hf : f.presence ≠ .required) (h : Written fields a entries c) :
    Written (f :: fields) a entries c
  | entry {f : Field α} {fields : List (Field α)} {a b c : α} {entries : DataEntries} {d : Data}
    (hf : ∀ d', d.Rearranged d' → f.set d' a = .ok b) (h : Written fields b entries c) :
    Written (f :: fields) a ((f.key, d) :: entries) c

namespace Written

variable {fields fields' : List (Field α)} {entries' : DataEntries} {b : α}

theorem append (h : Written fields a entries b) (h' : Written fields' b entries' c) :
    Written (fields ++ fields') a (entries ++ entries') c := by
  induction h with
  | nil => exact h'
  | leftOut hf _ ih => exact .leftOut hf (ih h')
  | entry hf _ ih => exact .entry hf (ih h')

theorem cons {f : Field α} (h : Written [f] a entries b) (h' : Written fields b entries' c) :
    Written (f :: fields) a (entries ++ entries') c :=
  h.append h'

theorem onFirst (h : Written fields a entries c) (x : β) :
    Written (fields.map Field.onFirst) (a, x) entries (c, x) := by
  induction h with
  | nil a => exact .nil (a, x)
  | leftOut hf _ ih => exact .leftOut hf ih
  | entry hf _ ih =>
    refine .entry (fun d' hd => ?_) ih
    exact Field.onFirst_set_eq_ok_iff.2 ⟨hf d' hd, rfl⟩

theorem keys_sublist (h : Written fields a entries c) :
    (entries.map Prod.fst).Sublist (fields.map (·.key)) := by
  induction h with
  | nil => exact .slnil
  | leftOut _ _ ih => exact ih.cons _
  | entry _ _ ih => exact ih.cons_cons _

theorem mem_keys (h : Written fields a entries c) {f : Field α} (hf : f ∈ fields)
    (hrequired : f.presence = .required) : f.key ∈ entries.map Prod.fst := by
  induction h with
  | nil => contradiction
  | leftOut hg _ ih =>
    obtain rfl | hf := List.mem_cons.1 hf
    · contradiction
    · exact ih hf
  | entry _ _ ih =>
    obtain rfl | hf := List.mem_cons.1 hf
    · exact .head _
    · exact .tail _ (ih hf)

/-- What is written of some of the fields of a record is read back in the order of the fields. -/
theorem foldlM_readEntry (h : Written fields a entries c) (hr : r.keys.Nodup)
    (hfields : fields ⊆ r.fields) (hsame : List.Forall₂ Data.SameEntry entries entries') :
    entries'.foldlM r.readEntry a = .ok c := by
  induction h generalizing entries' with
  | nil =>
    rw [List.forall₂_nil_left_iff.1 hsame]
    rfl
  | leftOut _ _ ih => exact ih (List.subset_of_cons_subset hfields) hsame
  | entry hf _ ih =>
    obtain _ | ⟨⟨_, hd⟩, hsame⟩ := hsame
    rw [List.foldlM_cons, bind_eq_ok_iff]
    refine ⟨_, (readEntry_eq_ok_iff hr).2 ⟨_, hfields (.head _), rfl, hf _ hd⟩, ?_⟩
    exact ih (List.subset_of_cons_subset hfields) hsame

/-- **A record that is written field by field is read back**, whatever the order of its keys. -/
theorem readTable_eq (h : Written r.fields r.blank entries c) (hr : r.IsIndependent)
    (hothers : entries.Rearranged others) : r.readTable others = .ok c := by
  obtain ⟨entries', hsame, horder⟩ := hothers
  have hkeys : (entries'.map Prod.fst).Nodup := by
    rw [Data.keys_eq_of_sameEntry hsame]
    exact h.keys_sublist.nodup hr.nodup_keys
  rw [← hr.readTable_eq_ok_iff_of_perm hkeys horder, readTable_eq_ok_iff, missing?_eq_none_iff,
    Data.keys_eq_of_sameEntry hsame]
  exact ⟨h.foldlM_readEntry hr.nodup_keys (List.Subset.refl _) hsame, fun f hf => h.mem_keys hf⟩

/-! ### Single fields -/

variable {f : Field α}

/-- A field that is left out under a condition, under which it would change nothing. -/
theorem ifNot {p : Prop} [Decidable p] {d : Data} (hpresence : f.presence ≠ .required)
    (hp : p → b = a) (hf : ∀ d', d.Rearranged d' → f.set d' a = .ok b) :
    Written [f] a (if p then [] else [(f.key, d)]) b := by
  split
  · next h =>
    rw [hp h]
    exact .leftOut hpresence (.nil a)
  · exact .entry hf (.nil b)

/-- A field that is written if it has a value; `fill` says what the record is then and otherwise. -/
theorem ifSome (write : β → Data) (x? : Option β) (fill : Option β → α)
    (hpresence : f.presence ≠ .required) (hnone : fill none = a)
    (hsome : ∀ x d, (write x).Rearranged d → f.set d a = .ok (fill (some x))) :
    Written [f] a (x?.map fun x => (f.key, write x)).toList (fill x?) := by
  cases x? with
  | none =>
    rw [hnone]
    exact .leftOut hpresence (.nil a)
  | some x => exact .entry (hsome x) (.nil _)

theorem requiredText {key : String} {put : String → α → α} (s : String) :
    Written [Field.requiredText key put] a [(key, .text s)] (put s a) :=
  .entry (f := Field.requiredText key put) (fun _ hd => hd.eq_text ▸ rfl) (.nil _)

theorem optionalText {key : String} {put : String → α → α} (s? : Option String)
    (fill : Option String → α) (hnone : fill none = a) (hsome : ∀ s, fill (some s) = put s a) :
    Written [Field.optionalText key put] a (DataEntries.optional key s?) (fill s?) :=
  ifSome .text s? fill nofun hnone fun s _ hd => hd.eq_text ▸ hsome s ▸ rfl

theorem allTexts {key : String} {put : List String → α → α} (ss : List String) :
    Written [Field.texts key put] a [(key, Data.texts ss)] (put ss a) :=
  .entry (f := Field.texts key put)
    (fun _ hd => Field.set_reading (Data.asTexts_of_rearranged hd) a) (.nil _)

theorem texts {key : String} {put : List String → α → α} {ss : List String} (h : put [] a = a) :
    Written [Field.texts key put] a (DataEntries.nonempty key ss) (put ss a) :=
  ifNot nofun (fun hss => hss ▸ h) fun _ hd =>
    Field.set_reading (Data.asTexts_of_rearranged hd) a

end Written

/-- `r.Writes c d`: the data says, field by field, that the record is `c`. -/
def Writes (r : Record α) (c : α) (d : Data) : Prop :=
  ∃ entries, d = .table entries ∧ Written r.fields r.blank entries c

theorem Writes.read_eq {d d' : Data} (h : r.Writes c d) (hr : r.IsIndependent)
    (hd : d.Rearranged d') : r.read d' = .ok c := by
  obtain ⟨entries, rfl, hwritten⟩ := h
  obtain ⟨others, rfl, hothers⟩ := hd.exists_table
  exact hwritten.readTable_eq hr hothers

end Record

end Buildwright
