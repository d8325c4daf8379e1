/-!
# Bytes as text

Bytes are text when they are well-formed UTF-8. To show other bytes, every longest part that could
have begun a character and does not becomes one U+FFFD. Text shows as itself.
-/

namespace EnvSeed

/-- Bytes are equal when they are the same one by one. -/
instance decidableEqByteArray : DecidableEq ByteArray := ByteArray.instDecidableEq

end EnvSeed

namespace EnvSeed.Text

/-- Where the reader stands inside a character: `need` more bytes, the next in `low` to `high`. -/
structure Partial where
  need : Nat
  value : Nat
  low : UInt8
  high : UInt8

/-- The characters read so far, last first, and the one begun. -/
structure Decoder where
  done : List Char
  pending : Option Partial

/-- What a byte begins: a whole character, a longer one, or nothing. -/
def Decoder.start (done : List Char) (byte : UInt8) : Decoder :=
  if byte < 0x80 then ⟨Char.ofNat byte.toNat :: done, none⟩
  else if byte < 0xc2 then ⟨'\ufffd' :: done, none⟩
  else if byte < 0xe0 then ⟨done, some ⟨1, byte.toNat - 0xc0, 0x80, 0xbf⟩⟩
  else if byte < 0xf0 then
    ⟨done, some ⟨2, byte.toNat - 0xe0, if byte = 0xe0 then 0xa0 else 0x80, if byte = 0xed then 0x9f else 0xbf⟩⟩
  else if byte < 0xf5 then
    ⟨done, some ⟨3, byte.toNat - 0xf0, if byte = 0xf0 then 0x90 else 0x80, if byte = 0xf4 then 0x8f else 0xbf⟩⟩
  else ⟨'\ufffd' :: done, none⟩

/-- Read one byte. A byte that does not continue the character begun starts anew. -/
def Decoder.step (decoder : Decoder) (byte : UInt8) : Decoder :=
  match decoder.pending with
  | none => .start decoder.done byte
  | some begun =>
    if begun.low ≤ byte && byte ≤ begun.high then
      let value := begun.value * 64 + byte.toNat % 64
      if begun.need = 1 then ⟨Char.ofNat value :: decoder.done, none⟩
      else ⟨decoder.done, some ⟨begun.need - 1, value, 0x80, 0xbf⟩⟩
    else .start ('\ufffd' :: decoder.done) byte

/-- The characters read; one that was only begun shows as U+FFFD. -/
def Decoder.finish (decoder : Decoder) : String :=
  match decoder.pending with
  | none => String.ofList decoder.done.reverse
  | some _ => String.ofList ('\ufffd' :: decoder.done).reverse

/-- The text that `bytes` are, or else the text they show as. -/
def display (bytes : ByteArray) : String :=
  match String.fromUTF8? bytes with
  | some text => text
  | none => (bytes.data.foldl Decoder.step ⟨[], none⟩).finish

/-- Text shows as itself. -/
theorem display_toUTF8 (text : String) : display text.toUTF8 = text := by
  have h : String.fromUTF8? text.toUTF8 = some text := by
    simp [String.fromUTF8?, String.fromUTF8, text.isValidUTF8]
  rw [display, h]

end EnvSeed.Text
