/-!
# The bytes of a text

A text is written as the bytes of its characters one after the other, and a byte below 128 is written for
one character only. So a text can be cut at such a character before it is decoded or after.
-/

namespace EnvSeed.Text

/-- The bytes of a text are those of its characters. -/
theorem toList_toUTF8 (text : List Char) :
    (String.ofList text).toUTF8.data.toList = text.flatMap String.utf8EncodeChar := by
  simp [List.utf8Encode]

/-- Texts one after the other are written one after the other. -/
theorem toUTF8_ofList_append (text more : List Char) :
    (String.ofList (text ++ more)).toUTF8 = (String.ofList text).toUTF8 ++ (String.ofList more).toUTF8 := by
  simp

/-- Bytes that were written for a text are read as that text. -/
theorem fromUTF8?_toUTF8 (text : String) : String.fromUTF8? text.toUTF8 = some text := by
  simp [String.fromUTF8?, String.fromUTF8, text.isValidUTF8]

/-- Bytes that were written for a text are read as that text when they are put together one by one. -/
theorem fromUTF8?_toArray (text : String) : String.fromUTF8? ⟨text.toUTF8.data.toList.toArray⟩ = some text := by
  rw [Array.toArray_toList]
  exact fromUTF8?_toUTF8 text

/-- Bytes that are read as a text were written for it. -/
theorem eq_toUTF8_of_fromUTF8? {bytes : ByteArray} {text : String} (h : String.fromUTF8? bytes = some text) :
    bytes = text.toUTF8 := by
  unfold String.fromUTF8? at h
  split at h
  · obtain rfl := Option.some.inj h
    rfl
  · cases h

/-- A byte below 128 is written for the character of that code and no other. -/
theorem toNat_of_mem_utf8EncodeChar {c : Char} {byte : UInt8} (hbyte : byte.toNat < 128)
    (h : byte ∈ String.utf8EncodeChar c) : c.toNat = byte.toNat := by
  have hvalue (n : Nat) : (byte = UInt8.ofNat n) ↔ n % 256 = byte.toNat := by
    rw [eq_comm, ← UInt8.toNat_inj, UInt8.toNat_ofNat']
  unfold String.utf8EncodeChar at h
  simp only at h
  split at h
  · next hone =>
    rw [List.mem_singleton, hvalue] at h
    have hcode : c.val.toNat = byte.toNat := by omega
    exact hcode
  -- Every byte of a longer character is at least 128.
  · split at h
    · simp only [List.mem_cons, List.not_mem_nil, or_false, hvalue] at h
      omega
    · split at h
      · simp only [List.mem_cons, List.not_mem_nil, or_false, hvalue] at h
        omega
      · simp only [List.mem_cons, List.not_mem_nil, or_false, hvalue] at h
        omega

/-- Of the characters with a code below 128 only those in a text are written with the byte of that code. -/
theorem mem_of_mem_toUTF8 {text : List Char} {c : Char} (hc : c.toNat < 128)
    (h : UInt8.ofNat c.toNat ∈ (String.ofList text).toUTF8.data.toList) : c ∈ text := by
  have hbyte : (UInt8.ofNat c.toNat).toNat = c.toNat := by
    rw [UInt8.toNat_ofNat']
    omega
  rw [toList_toUTF8] at h
  obtain ⟨d, hd, hmem⟩ := List.mem_flatMap.mp h
  have hcode : d.toNat = c.toNat := (toNat_of_mem_utf8EncodeChar (by omega) hmem).trans hbyte
  exact Char.toNat_inj.mp hcode ▸ hd

/-- A character with a code below 128 that is in a text is written with the byte of its code. -/
theorem mem_toUTF8_of_mem {text : List Char} {c : Char} (hc : c.toNat < 128) (h : c ∈ text) :
    UInt8.ofNat c.toNat ∈ (String.ofList text).toUTF8.data.toList := by
  have hcode : c.val.toNat ≤ 127 := Nat.le_of_lt_succ hc
  have hbytes : String.utf8EncodeChar c = [UInt8.ofNat c.toNat] := by
    unfold String.utf8EncodeChar
    simp only
    rw [if_pos hcode]
    rfl
  rw [toList_toUTF8]
  exact List.mem_flatMap.mpr ⟨c, h, hbytes ▸ List.mem_singleton_self _⟩

end EnvSeed.Text
