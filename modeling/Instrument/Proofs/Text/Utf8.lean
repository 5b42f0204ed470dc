import Instrument.Text.Utf8

/-!
Text as UTF-8 bytes. Main statements: text is read back from its bytes, and the byte of an
ASCII character stands in them just where the character stands in the text.
-/

namespace Instrument.Text

theorem toByteArray_utf8 (s : String) : (utf8 s).toByteArray = s.toByteArray :=
  String.utf8Encode_toList

theorem ofUtf8?_utf8 (s : String) : ofUtf8? (utf8 s) = some s := by
  rw [ofUtf8?, toByteArray_utf8, String.fromUTF8?, dif_pos s.isValidUTF8]
  rfl

theorem utf8_ofList (cs : List Char) :
    utf8 (String.ofList cs) = cs.flatMap String.utf8EncodeChar := by
  rw [utf8, String.toList_ofList]

/-- The bytes of a character of several bytes have their highest bit set. -/
theorem mem_utf8EncodeChar_iff {c : Char} {b : UInt8} (hb : b.toNat < 128) :
    b ∈ String.utf8EncodeChar c ↔ c.toNat = b.toNat := by
  have hbyte (n : Nat) : b = UInt8.ofNat n ↔ n % 256 = b.toNat := by
    rw [← UInt8.toNat_inj, eq_comm]
    rfl
  rw [← Char.toNat_val]
  simp only [String.utf8EncodeChar]
  generalize c.val.toNat = v
  split
  · simp only [List.mem_singleton, hbyte]
    omega
  split
  · simp only [List.mem_cons, List.not_mem_nil, or_false, hbyte]
    omega
  split
  · simp only [List.mem_cons, List.not_mem_nil, or_false, hbyte]
    omega
  · simp only [List.mem_cons, List.not_mem_nil, or_false, hbyte]
    omega

/-- The byte of an ASCII character stands in the bytes of a text just where the character stands in
the text. -/
theorem mem_utf8_iff {s : String} {d : Char} (hd : d.toNat < 128) :
    UInt8.ofNat d.toNat ∈ utf8 s ↔ d ∈ s.toList := by
  have hbyte : (UInt8.ofNat d.toNat).toNat = d.toNat :=
    UInt8.toNat_ofNat_of_lt' (Nat.lt_trans hd (by decide))
  have hchar (c : Char) : UInt8.ofNat d.toNat ∈ String.utf8EncodeChar c ↔ c = d := by
    rw [mem_utf8EncodeChar_iff (hbyte.symm ▸ hd), hbyte, Char.toNat_inj]
  simp only [utf8, List.mem_flatMap, hchar, exists_eq_right]

theorem zero_mem_utf8_iff {s : String} : 0 ∈ utf8 s ↔ '\x00' ∈ s.toList :=
  mem_utf8_iff (d := '\x00') (by decide)

theorem utf8_inj {s t : String} (h : utf8 s = utf8 t) : s = t :=
  Option.some.inj (by rw [← ofUtf8?_utf8, h, ofUtf8?_utf8])

end Instrument.Text
