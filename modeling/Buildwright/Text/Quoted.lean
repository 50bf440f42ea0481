import Buildwright.Text.Visible

/-!
# Quoted text

How a message shows a text that was found where it does not belong: between double quotes, with
a backslash before a quote or a backslash, the short escapes `\0`, `\t`, `\n`, `\r`, and the code
point in hexadecimal for every other character that does not show by itself.
-/

namespace Buildwright.Text

/-- The code point of a character in lower-case hexadecimal, without leading zeros. -/
def hexCode (c : Char) : List Char := Nat.toDigits 16 c.toNat

/-- One character as it stands inside quotes. -/
def quotedChar (c : Char) : List Char :=
  if c = '\x00' then ['\\', '0']
  else if c = '\t' then ['\\', 't']
  else if c = '\n' then ['\\', 'n']
  else if c = '\r' then ['\\', 'r']
  else if c = '"' then ['\\', '"']
  else if c = '\\' then ['\\', '\\']
  else if isVisible c then [c]
  else ['\\', 'u', '\x7b'] ++ hexCode c ++ ['\x7d']

/-- A text between quotes. -/
def quoted (s : String) : String :=
  String.ofList ('"' :: s.toList.flatMap quotedChar ++ ['"'])

/-- A text of visible characters without quotes and backslashes is quoted as it stands. -/
theorem quoted_eq_of_plain {s : String}
    (plain : ∀ c ∈ s.toList, quotedChar c = [c]) :
    quoted s = String.ofList ('"' :: s.toList ++ ['"']) := by
  have flat : ∀ cs : List Char, (∀ c ∈ cs, quotedChar c = [c]) → cs.flatMap quotedChar = cs := by
    intro cs
    induction cs with
    | nil => simp
    | cons c cs ih =>
      intro h
      rw [List.flatMap_cons, h c (by simp), ih fun d hd => h d (by simp [hd])]
      rfl
  rw [quoted, flat _ plain]

end Buildwright.Text
