import Buildwright.Text.Bytes
import Mathlib.Tactic.IntervalCases

/-!
# Reading UTF-8

A character is written as one byte below `0x80`, or as a lead with the bytes that it announces; the
bounds of the second byte exclude forms that are longer than needed, and surrogates. What is read
with replacement is cut into pieces: each is a character, or a run of bytes in which no character
begins and for which one U+FFFD stands (`decodeLossy_reads`). So nothing is passed over, and a text
is read back as it was written (`reads_utf8_iff`).
-/

namespace Buildwright.Text

/-! ### Bytes of a text -/

theorem toList_loop (bs : ByteArray) (i : Nat) (r : Bytes) :
    ByteArray.toList.loop bs i r = r.reverse ++ bs.data.toList.drop i := by
  fun_induction ByteArray.toList.loop bs i r with
  | case1 i r hlt ih =>
    have hlt' : i < bs.data.toList.length := by simpa using hlt
    have hget : bs.get! i = bs.data.toList[i] := by
      change bs.data[i]! = _
      rw [getElem!_pos bs.data i hlt, Array.getElem_toList]
    rw [ih, List.drop_eq_getElem_cons hlt', hget]
    simp
  | case2 i r hge =>
    have hge' : bs.data.toList.length ≤ i := by simpa using hge
    rw [List.drop_eq_nil_of_le hge', List.append_nil]

/-- A text is written character by character. -/
theorem utf8_eq_flatMap (s : String) : utf8 s = s.toList.flatMap String.utf8EncodeChar := by
  have hbytes : s.toByteArray = (s.toList.flatMap String.utf8EncodeChar).toByteArray := by
    conv_lhs => rw [← String.ofList_toList (s := s)]
    exact String.toByteArray_ofList
  rw [utf8, String.toUTF8_eq_toByteArray, hbytes, ByteArray.toList, toList_loop]
  simp

/-! ### Leads -/

theorem eq_ofNat_of_toNat {b : UInt8} {n : Nat} (h : b.toNat = n) : b = UInt8.ofNat n := by
  rw [← h, UInt8.ofNat_toNat]

theorem toNat_ofNat_of_lt {n : Nat} (h : n < 256) : (UInt8.ofNat n).toNat = n := by
  rw [UInt8.toNat_ofNat', Nat.mod_eq_of_lt h]

/-- `Leads b lead`: the byte announces one, two or three others. -/
inductive Leads : UInt8 → Lead → Prop
  | two {b : UInt8} {n : Nat} : b.toNat = n + 0xC0 → 2 ≤ n → n < 32 →
      Leads b { following := 1, bits := n }
  | three {b : UInt8} {n : Nat} : b.toNat = n + 0xE0 → n < 16 →
      Leads b { following := 2, bits := n, low := if n = 0 then 0xA0 else 0x80,
                high := if n = 13 then 0x9F else 0xBF }
  | four {b : UInt8} {n : Nat} : b.toNat = n + 0xF0 → n < 5 →
      Leads b { following := 3, bits := n, low := if n = 0 then 0x90 else 0x80,
                high := if n = 4 then 0x8F else 0xBF }

theorem ofByte?_eq_some_iff {b : UInt8} {lead : Lead} :
    Lead.ofByte? b = some lead ↔ Leads b lead := by
  constructor
  · intro h
    simp only [Lead.ofByte?, Bool.and_eq_true, decide_eq_true_eq, UInt8.le_iff_toNat_le,
      ← UInt8.toNat_inj, UInt8.reduceToNat] at h
    split_ifs at h with h2 hE0 hED h3 hF0 h4 hF4 <;> obtain rfl := Option.some.inj h
    · exact .two (by omega) (by omega) (by omega)
    · exact .three (n := 0) hE0 (by decide)
    · exact .three (n := 13) hED (by decide)
    · have hlead := Leads.three (b := b) (n := b.toNat - 0xE0) (by omega) (by omega)
      rwa [if_neg (by omega), if_neg (by omega)] at hlead
    · exact .four (n := 0) hF0 (by decide)
    · have hlead := Leads.four (b := b) (n := b.toNat - 0xF0) (by omega) (by omega)
      rwa [if_neg (by omega), if_neg (by omega)] at hlead
    · exact .four (n := 4) hF4 (by decide)
  · rintro (⟨h, h1, h2⟩ | ⟨h, h2⟩ | ⟨h, h2⟩)
    all_goals
      obtain rfl := eq_ofNat_of_toNat h
      clear h
      rename_i n
      interval_cases n <;> rfl

variable {low high b : UInt8} {bits count code : Nat} {bs rest : Bytes} {lead : Lead} {c : Char}

theorem Leads.le (h : Leads b lead) : 0xC0 ≤ b.toNat := by cases h <;> omega

theorem Leads.bounds (h : Leads b lead) : 0x80 ≤ lead.low.toNat ∧ lead.high.toNat < 0xC0 := by
  cases h <;> constructor <;> simp only [apply_ite UInt8.toNat, UInt8.reduceToNat] <;>
    (try split_ifs) <;> omega

/-! ### Following bytes -/

/-- Whether a byte can only follow others. -/
def Follows (b : UInt8) : Prop := 0x80 ≤ b.toNat ∧ b.toNat < 0xC0

/-- `Takes low high bits count bs code rest`: all the bytes that are to follow are there, and they
give a code. -/
def Takes (low high : UInt8) (bits count : Nat) (bs : Bytes) (code : Nat) (rest : Bytes) : Prop :=
  (takeFollowing low high bits count bs).1 = some code ∧
    (takeFollowing low high bits count bs).2.val = rest

theorem takes_zero : Takes low high bits 0 bs code rest ↔ bits = code ∧ bs = rest := by
  simp [Takes, takeFollowing]

theorem takes_succ : Takes low high bits (count + 1) bs code rest ↔
    ∃ b bs', bs = b :: bs' ∧ low.toNat ≤ b.toNat ∧ b.toNat ≤ high.toNat ∧
      Takes 0x80 0xBF (bits * 64 + (b.toNat - 0x80)) count bs' code rest := by
  cases bs with
  | nil => simp [Takes, takeFollowing]
  | cons b bs =>
    rw [Takes, takeFollowing]
    split
    all_goals
      rename_i h
      simp only [Bool.and_eq_true, decide_eq_true_eq, UInt8.le_iff_toNat_le] at h
      constructor
    · exact fun ht => ⟨b, bs, rfl, h.1, h.2, ht⟩
    · rintro ⟨b', bs', heq, -, -, ht⟩
      obtain ⟨rfl, rfl⟩ := List.cons.inj heq
      exact ht
    · exact fun ht => nomatch ht.1
    · rintro ⟨b', bs', heq, hlow, hhigh, -⟩
      obtain ⟨rfl, rfl⟩ := List.cons.inj heq
      exact absurd ⟨hlow, hhigh⟩ h

/-- Whether or not all are there, those that are taken can only follow others. -/
theorem takeFollowing_split (bits count : Nat) (bs : Bytes) (hlow : 0x80 ≤ low.toNat)
    (hhigh : high.toNat < 0xC0) :
    ∃ p, bs = p ++ (takeFollowing low high bits count bs).2.val ∧ ∀ b ∈ p, Follows b := by
  induction count generalizing low high bits bs with
  | zero => exact ⟨[], by simp [takeFollowing]⟩
  | succ count ih =>
    cases bs with
    | nil => exact ⟨[], by simp [takeFollowing]⟩
    | cons b bs =>
      rw [takeFollowing]
      split
      · next h =>
        simp only [Bool.and_eq_true, decide_eq_true_eq, UInt8.le_iff_toNat_le] at h
        have hfirst : 0x80 ≤ (0x80 : UInt8).toNat := by decide
        have hlast : (0xBF : UInt8).toNat < 0xC0 := by decide
        obtain ⟨p, hp, hfollow⟩ := ih (bits * 64 + (b.toNat - 0x80)) bs hfirst hlast
        exact ⟨b :: p, congrArg (b :: ·) hp,
          List.forall_mem_cons.2 ⟨⟨hlow.trans h.1, h.2.trans_lt hhigh⟩, hfollow⟩⟩
      · exact ⟨[], by simp⟩

/-! ### Characters of several bytes -/

/-- `lead.Takes bs code rest`: what a lead announces is there. -/
def Lead.Takes (lead : Lead) : Bytes → Nat → Bytes → Prop :=
  Text.Takes lead.low lead.high lead.bits lead.following

theorem val_ofNat {n : Nat} (h : n.isValidChar) : (Char.ofNat n).val.toNat = n := by
  rw [Char.ofNat, dif_pos h]
  rfl

/-- A lead with what it announces is a character. -/
theorem encode_of_takes (hb : Leads b lead) (h : lead.Takes bs code rest) :
    b :: bs = String.utf8EncodeChar (Char.ofNat code) ++ rest := by
  cases hb with
  | two hb hleast hmost =>
    simp only [Lead.Takes, takes_succ, takes_zero, UInt8.reduceToNat] at h
    obtain ⟨b₁, _, rfl, hlow₁, hhigh₁, hcode, rfl⟩ := h
    have h₀ : code / 64 % 32 + 192 = b.toNat := by omega
    have h₁ : code % 64 + 128 = b₁.toNat := by omega
    rw [String.utf8EncodeChar, val_ofNat (by omega), if_neg (by omega), if_pos (by omega), h₀, h₁]
    simp only [UInt8.ofNat_toNat]
    rfl
  | three hb hmost =>
    simp only [Lead.Takes, takes_succ, takes_zero, apply_ite UInt8.toNat, UInt8.reduceToNat] at h
    obtain ⟨b₁, _, rfl, hlow₁, hhigh₁, b₂, _, rfl, hlow₂, hhigh₂, hcode, rfl⟩ := h
    have hfollows : 0x80 ≤ b₁.toNat ∧ b₁.toNat < 0xC0 := by
      constructor <;> split_ifs at hlow₁ hhigh₁ <;> omega
    have hleast : 2048 ≤ code := by split_ifs at hlow₁ <;> omega
    have hvalid : code.isValidChar := by split_ifs at hhigh₁ <;> omega
    have h₀ : code / 4096 % 16 + 224 = b.toNat := by omega
    have h₁ : code / 64 % 64 + 128 = b₁.toNat := by omega
    have h₂ : code % 64 + 128 = b₂.toNat := by omega
    rw [String.utf8EncodeChar, val_ofNat hvalid, if_neg (by omega), if_neg (by omega),
      if_pos (by omega), h₀, h₁, h₂]
    simp only [UInt8.ofNat_toNat]
    rfl
  | four hb hmost =>
    simp only [Lead.Takes, takes_succ, takes_zero, apply_ite UInt8.toNat, UInt8.reduceToNat] at h
    obtain ⟨b₁, _, rfl, hlow₁, hhigh₁, b₂, _, rfl, hlow₂, hhigh₂, b₃, _, rfl, hlow₃, hhigh₃,
      hcode, rfl⟩ := h
    have hfollows : 0x80 ≤ b₁.toNat ∧ b₁.toNat < 0xC0 := by
      constructor <;> split_ifs at hlow₁ hhigh₁ <;> omega
    have hleast : 65536 ≤ code := by split_ifs at hlow₁ <;> omega
    have hvalid : code.isValidChar := by split_ifs at hhigh₁ <;> omega
    have h₀ : code / 262144 % 8 + 240 = b.toNat := by omega
    have h₁ : code / 4096 % 64 + 128 = b₁.toNat := by omega
    have h₂ : code / 64 % 64 + 128 = b₂.toNat := by omega
    have h₃ : code % 64 + 128 = b₃.toNat := by omega
    rw [String.utf8EncodeChar, val_ofNat hvalid, if_neg (by omega), if_neg (by omega),
      if_neg (by omega), h₀, h₁, h₂, h₃]
    simp only [UInt8.ofNat_toNat]
    rfl

/-- A character of several bytes is a lead with what it announces. -/
theorem exists_takes_of_encode (hc : 128 ≤ c.toNat)
    (h : b :: bs = String.utf8EncodeChar c ++ rest) :
    ∃ lead, Leads b lead ∧ lead.Takes bs c.toNat rest := by
  have hvalid : c.val.toNat.isValidChar := c.valid
  change 128 ≤ c.val.toNat at hc
  change ∃ lead, Leads b lead ∧ lead.Takes bs c.val.toNat rest
  rw [String.utf8EncodeChar] at h
  generalize c.val.toNat = v at *
  have hfollowing (m : Nat) : (UInt8.ofNat (m % 64 + 128)).toNat = m % 64 + 128 :=
    toNat_ofNat_of_lt (by omega)
  split_ifs at h with h1 h2 h3
  · omega
  · obtain ⟨rfl, rfl⟩ := List.cons.inj h
    refine ⟨_, .two (toNat_ofNat_of_lt (by omega)) (by omega) (by omega), ?_⟩
    simp only [Lead.Takes, takes_succ, takes_zero, UInt8.reduceToNat]
    refine ⟨_, _, rfl, ?_, ?_, ?_, rfl⟩ <;> simp only [hfollowing] <;> omega
  · obtain ⟨rfl, rfl⟩ := List.cons.inj h
    refine ⟨_, .three (toNat_ofNat_of_lt (by omega)) (by omega), ?_⟩
    simp only [Lead.Takes, takes_succ, takes_zero, apply_ite UInt8.toNat, UInt8.reduceToNat]
    refine ⟨_, _, rfl, ?_, ?_, _, _, rfl, ?_, ?_, ?_, rfl⟩ <;> simp only [hfollowing]
    iterate 2 split_ifs <;> omega
    all_goals omega
  · obtain ⟨rfl, rfl⟩ := List.cons.inj h
    refine ⟨_, .four (toNat_ofNat_of_lt (by omega)) (by omega), ?_⟩
    simp only [Lead.Takes, takes_succ, takes_zero, apply_ite UInt8.toNat, UInt8.reduceToNat]
    refine ⟨_, _, rfl, ?_, ?_, _, _, rfl, ?_, ?_, _, _, rfl, ?_, ?_, ?_, rfl⟩ <;>
      simp only [hfollowing]
    iterate 2 split_ifs <;> omega
    all_goals omega

/-! ### Where characters begin -/

/-- Whether a character stands at the beginning. -/
def StartsCharacter (bs : Bytes) : Prop := ∃ c : Char, String.utf8EncodeChar c <+: bs

theorem encode_of_lt (h : c.toNat < 128) : String.utf8EncodeChar c = [UInt8.ofNat c.toNat] := by
  rw [String.utf8EncodeChar, if_pos (show c.val.toNat ≤ 127 from Nat.le_of_lt_succ h)]
  rfl

/-- No character begins another. -/
theorem encode_append_inj {c c' : Char} {bs bs' : Bytes}
    (h : String.utf8EncodeChar c ++ bs = String.utf8EncodeChar c' ++ bs') : c = c' ∧ bs = bs' := by
  have hdecode (c : Char) (bs : Bytes) :
      (String.utf8EncodeChar c ++ bs).toByteArray.utf8DecodeChar? 0 = some c := by
    rw [List.toByteArray_append]
    exact ByteArray.utf8DecodeChar?_utf8EncodeChar_append
  obtain rfl : c = c' := Option.some.inj ((hdecode c bs).symm.trans (h ▸ hdecode c' bs'))
  exact ⟨rfl, List.append_cancel_left h⟩

/-- A byte that begins a character is one, or a lead with what it announces. -/
theorem StartsCharacter.first (h : StartsCharacter (b :: bs)) :
    b.toNat < 0x80 ∨ ∃ lead code rest, Leads b lead ∧ lead.Takes bs code rest := by
  obtain ⟨c, rest, h⟩ := h
  by_cases hc : c.toNat < 128
  · rw [encode_of_lt hc] at h
    obtain ⟨rfl, -⟩ := List.cons.inj h
    exact .inl (by rwa [toNat_ofNat_of_lt (by omega)])
  · obtain ⟨lead, hlead, htakes⟩ := exists_takes_of_encode (Nat.le_of_not_lt hc) h.symm
    exact .inr ⟨lead, c.toNat, rest, hlead, htakes⟩

theorem not_starts (hb : ¬ b < 0x80)
    (h : ∀ lead, Leads b lead → ¬ ∃ code rest, lead.Takes bs code rest) :
    ¬ StartsCharacter (b :: bs) := fun hstarts => by
  rcases hstarts.first with hlt | ⟨lead, code, rest, hleads, htakes⟩
  · exact hb (UInt8.lt_iff_toNat_lt.2 hlt)
  · exact h lead hleads ⟨code, rest, htakes⟩

theorem Follows.not_starts (h : Follows b) : ¬ StartsCharacter (b :: bs) := fun hstarts => by
  rcases hstarts.first with hlt | ⟨lead, _, _, hleads, -⟩
  · exact absurd h.1 (by omega)
  · exact absurd h.2 (by have := hleads.le; omega)

/-! ### Reading with replacement -/

/-- `Reads bs cs`: the characters are read from the bytes piece by piece. -/
inductive Reads : Bytes → List Char → Prop
  | nil : Reads [] []
  | character (c : Char) {bs cs} : Reads bs cs → Reads (String.utf8EncodeChar c ++ bs) (c :: cs)
  /-- Nowhere in a piece that is replaced begins a character. -/
  | replaced {p bs cs} : p ≠ [] → (∀ q, q ≠ [] → q <:+ p → ¬ StartsCharacter (q ++ bs)) →
      Reads bs cs → Reads (p ++ bs) ('\uFFFD' :: cs)

/-- A piece in which no character begins: its first byte begins none, and the others can only
follow. -/
theorem Reads.replaced_of_follows {p : Bytes} {cs : List Char}
    (hfirst : ¬ StartsCharacter (b :: (p ++ bs))) (hp : ∀ x ∈ p, Follows x) (h : Reads bs cs) :
    Reads (b :: (p ++ bs)) ('\uFFFD' :: cs) := by
  refine Reads.replaced (p := b :: p) (List.cons_ne_nil b p) (fun q hq hsuffix => ?_) h
  rcases List.suffix_cons_iff.1 hsuffix with rfl | hsuffix
  · exact hfirst
  · cases q with
    | nil => exact absurd rfl hq
    | cons x q => exact (hp x (hsuffix.subset List.mem_cons_self)).not_starts

/-- **Reading with replacement.** Characters are read as such, and only that is replaced in which
none begins. -/
theorem decodeLossy_reads (bs : Bytes) : Reads bs (decodeLossy bs) := by
  fun_induction decodeLossy bs with
  | case1 => exact .nil
  | case2 b bs hb ih =>
    have hb : b.toNat < 128 := UInt8.lt_iff_toNat_lt.1 hb
    have hval : (Char.ofNat b.toNat).toNat = b.toNat := val_ofNat (by omega)
    have h := Reads.character (Char.ofNat b.toNat) ih
    rwa [encode_of_lt (by omega), hval, UInt8.ofNat_toNat] at h
  | case3 b bs hb hlead ih =>
    have hstarts : ¬ StartsCharacter (b :: bs) := not_starts hb fun lead hleads => by
      simp [ofByte?_eq_some_iff.2 hleads] at hlead
    exact .replaced_of_follows (p := []) hstarts (by simp) ih
  | case4 b bs hb lead hlead code rest hlength htake ih =>
    have hleads := ofByte?_eq_some_iff.1 hlead
    have hcode : (takeFollowing lead.low lead.high lead.bits lead.following bs).1 = code := by
      rw [htake]
    have hrest : (takeFollowing lead.low lead.high lead.bits lead.following bs).2.val = rest := by
      rw [htake]
    cases code with
    | some code =>
      rw [encode_of_takes hleads ⟨hcode, hrest⟩]
      exact .character _ ih
    | none =>
      have hstarts : ¬ StartsCharacter (b :: bs) := not_starts hb fun lead' hleads' => by
        obtain rfl := Option.some.inj (hlead.symm.trans (ofByte?_eq_some_iff.2 hleads'))
        simp [Lead.Takes, Takes, hcode]
      obtain ⟨p, hp, hfollows⟩ := takeFollowing_split lead.bits lead.following bs
        hleads.bounds.1 hleads.bounds.2
      rw [hrest] at hp
      rw [hp] at hstarts ⊢
      exact .replaced_of_follows hstarts hfollows ih

/-! ### Texts are read as they are written -/

theorem reads_nil_iff {cs : List Char} : Reads [] cs ↔ cs = [] := by
  constructor
  · generalize hx : ([] : Bytes) = x
    rintro (_ | ⟨c, -⟩ | ⟨hp, -, -⟩)
    · rfl
    · exact absurd (List.append_eq_nil_iff.1 hx.symm).1 String.utf8EncodeChar_ne_nil
    · exact absurd (List.append_eq_nil_iff.1 hx.symm).1 hp
  · rintro rfl
    exact .nil

theorem reads_encode_append_iff {cs : List Char} :
    Reads (String.utf8EncodeChar c ++ bs) cs ↔ ∃ cs', cs = c :: cs' ∧ Reads bs cs' := by
  constructor
  · generalize hx : String.utf8EncodeChar c ++ bs = x
    rintro (_ | ⟨c', hreads⟩ | ⟨hp, hstarts, -⟩)
    · exact absurd (List.append_eq_nil_iff.1 hx).1 String.utf8EncodeChar_ne_nil
    · obtain ⟨rfl, rfl⟩ := encode_append_inj hx
      exact ⟨_, rfl, hreads⟩
    · exact absurd ⟨c, bs, hx⟩ (hstarts _ hp (List.suffix_refl _))
  · rintro ⟨cs', rfl, hreads⟩
    exact .character c hreads

/-- From a text nothing is read but the text. -/
theorem reads_utf8_iff {s : String} {cs : List Char} : Reads (utf8 s) cs ↔ cs = s.toList := by
  rw [utf8_eq_flatMap]
  generalize s.toList = l
  induction l generalizing cs with
  | nil => exact reads_nil_iff
  | cons c l ih => simp [reads_encode_append_iff, ih]

end Buildwright.Text
