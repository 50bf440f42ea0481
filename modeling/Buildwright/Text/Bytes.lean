/-!
# Bytes and text

Files, environment variables and the output of a process are bytes. `text?` reads them as UTF-8
and refuses anything else; `decodeLossy` reads whatever a process printed and puts U+FFFD in
the place of each part that is no UTF-8. Such a part is as long as possible: the longest
beginning of a well-formed sequence, or one byte.
-/

namespace Buildwright.Text

/-- A sequence of bytes. -/
abbrev Bytes := List UInt8

/-- The UTF-8 form of a text. -/
def utf8 (s : String) : Bytes := s.toUTF8.toList

/-- The text whose UTF-8 form is `bs`, if there is one. -/
def text? (bs : Bytes) : Option String := String.fromUTF8? ⟨bs.toArray⟩

/-! ### Bytes as characters -/

/-- Each byte as the character with its number. -/
def byteCharacters (bs : Bytes) : List Char := bs.map fun b => Char.ofNat b.toNat

/-- The bytes of a text, each as the character with its number. -/
def byteText (s : String) : List Char := byteCharacters (utf8 s)

/-- The bytes with the numbers of characters. -/
def bytesOf (cs : List Char) : Bytes := cs.map fun c => c.toNat.toUInt8

/-- Bytes that were made characters are the bytes of these. -/
theorem bytesOf_byteCharacters (bs : Bytes) : bytesOf (byteCharacters bs) = bs := by
  induction bs with
  | nil => rfl
  | cons b bs ih =>
    have small : b.toNat.isValidChar := .inl (by have := b.toNat_lt; omega)
    have same : (Char.ofNat b.toNat).toNat = b.toNat := by
      rw [Char.ofNat, dif_pos small]
      rfl
    simp only [byteCharacters, bytesOf, List.map_cons, same] at ih ⊢
    simp [ih]

/-! ### Reading with replacement -/

/-- What a first byte of a longer sequence announces. -/
structure Lead where
  /-- How many bytes follow. -/
  following : Nat
  /-- The bits of the code point in the first byte. -/
  bits : Nat
  /-- Least second byte. -/
  low : UInt8 := 0x80
  /-- Greatest second byte. -/
  high : UInt8 := 0xBF

/-- The sequence that a byte at or above `0x80` begins. The bounds on the second byte exclude
overlong forms, surrogates and code points above U+10FFFF. -/
def Lead.ofByte? (b : UInt8) : Option Lead :=
  if 0xC2 ≤ b && b ≤ 0xDF then some { following := 1, bits := b.toNat - 0xC0 }
  else if b = 0xE0 then some { following := 2, bits := 0, low := 0xA0 }
  else if b = 0xED then some { following := 2, bits := 0xD, high := 0x9F }
  else if 0xE1 ≤ b && b ≤ 0xEF then some { following := 2, bits := b.toNat - 0xE0 }
  else if b = 0xF0 then some { following := 3, bits := 0, low := 0x90 }
  else if 0xF1 ≤ b && b ≤ 0xF3 then some { following := 3, bits := b.toNat - 0xF0 }
  else if b = 0xF4 then some { following := 3, bits := 4, high := 0x8F }
  else none

/-- Reads `count` further bytes of a sequence, the first of them between `low` and `high`, and
gives the code point if all are there, and the bytes after those that were. -/
def takeFollowing (low high : UInt8) (bits : Nat) :
    (count : Nat) → (bs : Bytes) → Option Nat × { rest : Bytes // rest.length ≤ bs.length }
  | 0, bs => (some bits, ⟨bs, Nat.le_refl _⟩)
  | _ + 1, [] => (none, ⟨[], Nat.le_refl _⟩)
  | count + 1, b :: bs =>
    if low ≤ b && b ≤ high then
      let (code, ⟨rest, h⟩) := takeFollowing 0x80 0xBF (bits * 64 + (b.toNat - 0x80)) count bs
      (code, ⟨rest, Nat.le_succ_of_le h⟩)
    else (none, ⟨b :: bs, Nat.le_refl _⟩)

/-- Reads bytes as UTF-8, with U+FFFD for each part that is not. -/
def decodeLossy : Bytes → List Char
  | [] => []
  | b :: bs =>
    if b < 0x80 then Char.ofNat b.toNat :: decodeLossy bs
    else match Lead.ofByte? b with
      | none => '\uFFFD' :: decodeLossy bs
      | some lead =>
        let (code, ⟨rest, _⟩) := takeFollowing lead.low lead.high lead.bits lead.following bs
        ((code.map Char.ofNat).getD '\uFFFD') :: decodeLossy rest
  termination_by bs => bs.length
  decreasing_by all_goals simp_wf; try omega

end Buildwright.Text
