import Buildwright.Manifest.Rules
import Buildwright.Proofs.Fallible
import Buildwright.Proofs.Toml.Integers

/-!
# The number of jobs in a manifest

A record is read field by field, from a table or from a list, so that it has whatever property the
blank record has and each field keeps (`Record.read_keeps`). For a manifest that is a bound on the
number of jobs: there are no greater integers in a document. That the number is not zero is one of
the rules of a manifest (`Manifest.jobs_of_ofText`).
-/

namespace Buildwright

/-! ### What reading keeps -/

theorem Data.Fits.of_entries? {d : Data} {entries : List (String × Data)} (h : d.Fits)
    (hentries : d.entries? = some entries) : ∀ e ∈ entries, e.2.Fits := by
  cases h with
  | table h => exact Option.some.inj hentries ▸ h
  | moment written =>
    obtain rfl := Option.some.inj hentries
    exact List.forall_mem_singleton.2 (.text written)
  | null | boolean | integer | float | text | list => cases hentries

namespace Record

variable {α β : Type} {P : α → Prop} {r : Record α} {a c : α}

/-- `f.Keeps P`: setting the field from data with integers of 64 bits keeps the property `P` of a
record. -/
def Field.Keeps (f : Field α) (P : α → Prop) : Prop :=
  ∀ ⦃d a c⦄, d.Fits → P a → f.set d a = .ok c → P c

/-- A field keeps a property if it does so for every value that can be read. -/
theorem Field.Keeps.reading {key : String} {presence : Presence} {read : Data → Except Mismatch β}
    {put : β → α → α} (h : ∀ d x a, d.Fits → read d = .ok x → P a → P (put x a)) :
    (reading key presence read put).Keeps P := by
  intro d a c hd ha hset
  obtain ⟨x, hx, rfl⟩ := map_eq_ok_iff.1 hset
  exact h d x a hd hx ha

/-- A field that changes something else keeps a property. -/
theorem Field.Keeps.beside {key : String} {presence : Presence} {read : Data → Except Mismatch β}
    {put : β → α → α} (h : ∀ x a, P a → P (put x a)) :
    (Field.reading key presence read put).Keeps P :=
  .reading fun _ x a _ _ => h x a

theorem readEntry_keeps (hr : ∀ f ∈ r.fields, f.Keeps P) {e : String × Data} (he : e.2.Fits)
    (ha : P a) (h : r.readEntry a e = .ok c) : P c := by
  unfold readEntry at h
  split at h
  · next f hf => exact hr f (List.mem_of_find?_eq_some hf) he ha h
  · cases h

theorem readTable_keeps (hr : ∀ f ∈ r.fields, f.Keeps P) (hblank : P r.blank)
    {entries : List (String × Data)} (hentries : ∀ e ∈ entries, e.2.Fits)
    (h : r.readTable entries = .ok c) : P c := by
  obtain ⟨a, ha, h⟩ := bind_eq_ok_iff.1 h
  have hP := foldlM_keeps (fun e he b b' => readEntry_keeps hr (hentries e he)) hblank ha
  split at h
  · cases h
  · exact Except.ok.inj h ▸ hP

theorem readFields_keeps {fields : List (Field α)} (hfields : ∀ f ∈ fields, f.Keeps P)
    {items rest : List Data} (hitems : ∀ d ∈ items, d.Fits) {position : Nat} (ha : P a)
    (h : r.readFields position fields items a = .ok (c, rest)) : P c := by
  induction fields generalizing position items a with
  | nil =>
    obtain ⟨rfl, -⟩ := Prod.mk.inj (Except.ok.inj h)
    exact ha
  | cons f fields ih =>
    obtain ⟨hf, hfields⟩ := List.forall_mem_cons.1 hfields
    cases items with
    | nil =>
      rw [readFields] at h
      split at h
      · exact ih hfields hitems ha h
      · cases h
    | cons d items =>
      obtain ⟨hd, hitems⟩ := List.forall_mem_cons.1 hitems
      obtain ⟨b, hb, h⟩ := bind_eq_ok_iff.1 h
      exact ih hfields hitems (hf hd ha hb) h

/-- **A record that is read keeps what its fields keep**, whether it is written as a table or as a
list. -/
theorem read_keeps (hr : ∀ f ∈ r.fields, f.Keeps P) (hblank : P r.blank) {d : Data} (hd : d.Fits)
    (h : r.read d = .ok c) : P c := by
  unfold read at h
  split at h
  · obtain ⟨⟨c', rest⟩, hread, rfl⟩ := map_eq_ok_iff.1 h
    cases hd with
    | list hitems => exact readFields_keeps hr hitems hblank hread
  · next entries _ hentries => exact readTable_keeps hr hblank (hd.of_entries? hentries) h
  · cases h

end Record

/-! ### Manifests -/

theorem Data.Fits.asCount {d : Data} {n : Nat} (h : d.Fits) (hn : d.asCount = .ok n) :
    Is64Bit n := by
  cases h with
  | @integer value hvalue =>
    rw [Data.asCount] at hn
    split at hn
    · next hnonneg =>
      obtain rfl := Except.ok.inj hn
      rwa [Int.toNat_of_nonneg hnonneg]
    · cases hn
  | null | boolean | float | text | moment | list | table => cases hn

open Record

/-- The number of jobs that the settings ask for, if any, has 64 bits. -/
def BuildSettings.HasSmallJobs (b : BuildSettings) : Prop :=
  ∀ n : Nat, b.jobs? = some n → Is64Bit n

theorem BuildSettings.hasSmallJobs_default : HasSmallJobs {} := nofun

theorem BuildSettings.hasSmallJobs_of_read {d : Data} {b : BuildSettings} (hd : d.Fits)
    (h : record.read d = .ok b) : b.HasSmallJobs := by
  refine read_keeps ?_ hasSmallJobs_default hd h
  simp only [record, List.forall_mem_cons]
  refine ⟨.beside fun _ _ h => h, .reading ?_, .beside fun _ _ h => h, .beside fun _ _ h => h,
    .beside fun _ _ h => h, nofun⟩
  rintro d n b hd hn - n' hn'
  obtain rfl := Option.some.inj hn'
  exact hd.asCount hn

namespace Manifest

theorem hasSmallJobs_of_ofData {d : Data} {m : Manifest} (hd : d.Fits) (h : ofData d = .ok m) :
    m.build.HasSmallJobs := by
  refine read_keeps (P := fun m => m.build.HasSmallJobs) ?_ BuildSettings.hasSmallJobs_default hd h
  simp only [record, List.forall_mem_cons]
  exact ⟨.beside fun _ _ h => h,
    .reading fun _ _ _ hd hb _ => BuildSettings.hasSmallJobs_of_read hd hb,
    .beside fun _ _ h => h, .beside fun _ _ h => h, nofun⟩

/-- **The number of jobs in a manifest that is accepted** is not zero and has 64 bits. -/
theorem jobs_of_ofText {text : String} {file : Path} {m : Manifest} (h : ofText text file = .ok m)
    {n : Nat} (hn : m.build.jobs? = some n) : 1 ≤ n ∧ Is64Bit n := by
  unfold ofText at h
  split at h
  · cases h
  next d hd =>
  split at h
  · cases h
  next m' hm =>
  split at h
  · cases h
  next hvalid =>
  obtain rfl := Except.ok.inj h
  refine ⟨Nat.one_le_iff_ne_zero.2 ?_, hasSmallJobs_of_ofData (Toml.fits_of_read? hd) hm n hn⟩
  rintro rfl
  rw [violation?, Option.or_eq_none_iff, Option.or_eq_none_iff, if_pos hn] at hvalid
  cases hvalid.2.1

end Manifest

end Buildwright
