import Buildwright.Text.Bytes

/-!
# Octets

The programs of the sandbox know bytes only. A text that they handle is a `String` in which each
character stands for the byte with its number, so that nothing is lost where bytes are no UTF-8.
-/

namespace Buildwright.Sandbox

open Text (Bytes)

/-- The text of some bytes. -/
def octetText (bytes : ByteArray) : String :=
  bytes.foldl (fun text b => text.push (Char.ofNat b.toNat)) ""

/-- The bytes of a text. -/
def octetsOf (text : String) : ByteArray :=
  text.foldl (fun bytes c => bytes.push c.toNat.toUInt8) ByteArray.empty

/-- The text of the UTF-8 form of a text. -/
def octetsOfUnicode (text : String) : String := octetText text.toUTF8

/-- What a text says as UTF-8, with U+FFFD for each part that is none. -/
def unicodeOf (text : String) : String :=
  if text.all (· < '\x80') then text
  else String.ofList (Text.decodeLossy (octetsOf text).toList)

/-- A list of bytes as an array. -/
def byteArrayOf (bytes : Bytes) : ByteArray := ⟨bytes.toArray⟩

end Buildwright.Sandbox
