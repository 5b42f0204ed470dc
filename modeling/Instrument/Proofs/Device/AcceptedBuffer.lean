import Instrument.Device.Registers
import Instrument.Proofs.Device.WordArray

/-!
Blocks of words that the register device says it takes. What it takes is the room from the offset to
the end of the window; what it writes also has to start at a whole word and inside the window. Main
statement: a block that is not taken is never written, and one that is taken is written, and read
back, just if its offset is the one of a word or the end of the window.
-/

namespace Instrument

open Wire (Elements Scalar)
open Window (wordSize headerSize bytesOf)

/-! ### Words that are written are read -/

namespace Window

theorem take_drop_overwrite (bytes : Bytes) (offset : Nat) (new : Bytes) :
    ((overwrite bytes offset new).drop offset).take new.length = new := by
  by_cases hnew : new = []
  · rw [hnew, List.length_nil, List.take_zero]
  · have hbefore : offset = (resize bytes offset).length := (length_resize bytes offset).symm
    rw [overwrite, if_neg (by simpa using hnew), List.append_assoc]
    conv_lhs => enter [2, 1]; rw [hbefore]
    rw [List.drop_left, List.take_left]

/-- The words that a window gives back are those that were written. -/
theorem readWords?_of_writeWords? {w w' : Window} {offset : Nat} {words : List UInt32}
    (h : w.writeWords? offset words = some w') :
    w'.readWords? offset words.length = some words := by
  rw [writeWords?] at h
  split at h
  · next hholds =>
    obtain rfl := Option.some.inj h
    have hsize : words.length * wordSize = (bytesOf words).length := by
      rw [length_bytesOf, Nat.mul_comm]
    have hagain : (w.poke (headerSize + offset) (bytesOf words)).holds offset words.length = true :=
      hholds
    rw [readWords?, if_pos hagain, hsize, poke, take_drop_overwrite, wordsOf_bytesOf]
  · cases h

end Window

namespace Registers

/-! ### Calls for blocks -/

/-- The arguments of a call that asks for a block of words. -/
def blockArguments (offset count : UInt32) : Arguments :=
  [("offset", .scalar (Scalar.ofUInt32 offset)), ("len", .scalar (Scalar.ofUInt32 count))]

/-- The arguments of a call that writes a block of words. -/
def dataArguments (offset count : UInt32) (words : List UInt32) : Arguments :=
  blockArguments offset count ++
    [("data", .buffer (Elements.ofList .u32 (words.map Scalar.ofUInt32)))]

variable (r : Registers) {writer reader : Interface.Operation} {offset count : UInt32}
  {words : List UInt32}

theorem ofNat_bits_ofUInt32 (word : UInt32) : UInt32.ofNat (Scalar.ofUInt32 word).bits = word := by
  have hbits : (Scalar.ofUInt32 word).bits = word.toNat := Nat.mod_eq_of_lt word.toNat_lt
  rw [hbits, UInt32.ofNat_toNat]

theorem word_offset_blockArguments :
    (blockArguments offset count).word "offset" = .ok offset :=
  congrArg Except.ok (ofNat_bits_ofUInt32 offset)

theorem word_offset_dataArguments :
    (dataArguments offset count words).word "offset" = .ok offset :=
  congrArg Except.ok (ofNat_bits_ofUInt32 offset)

theorem word_len_blockArguments : (blockArguments offset count).word "len" = .ok count :=
  congrArg Except.ok (ofNat_bits_ofUInt32 count)

theorem values_data_dataArguments :
    (dataArguments offset count words).values .u32 "data" =
      .ok (words.map Scalar.ofUInt32) := by
  have hlist : (Elements.ofList .u32 (words.map Scalar.ofUInt32)).toList =
      words.map Scalar.ofUInt32 :=
    Elements.toList_ofList fun value hvalue => by
      obtain ⟨word, -, rfl⟩ := List.mem_map.1 hvalue
      rfl
  have hfound : (dataArguments offset count words).elements "data" =
      .ok (Elements.ofList .u32 (words.map Scalar.ofUInt32)) := rfl
  rw [Arguments.values, hfound]
  exact congrArg Except.ok hlist

theorem answer_dataArguments (hwriter : writer.name = "write_buffer") :
    r.answer writer (dataArguments offset count words) = r.writeWords writer offset words := by
  have hwords : (words.map Scalar.ofUInt32).map (fun s => UInt32.ofNat s.bits) = words := by
    rw [List.map_map]
    exact (List.map_congr_left fun word _ => ofNat_bits_ofUInt32 word).trans (List.map_id words)
  simp only [answer, hwriter, word_offset_dataArguments, values_data_dataArguments, bind,
    Except.bind, hwords]

theorem answer_blockArguments (hreader : reader.name = "read_buffer") :
    r.answer reader (blockArguments offset count) =
      (r.readWords reader offset count.toNat).map fun words =>
        (.elements (Elements.ofList .u32 (words.map Scalar.ofUInt32)), r) := by
  simp only [answer, hreader, word_offset_blockArguments, word_len_blockArguments, bind,
    Except.bind]
  cases r.readWords reader offset count.toNat <;> rfl

/-! ### Blocks that are written, and blocks that are refused -/

/-- Whether words are written, and are then read from the same place. -/
def Keeps (writer reader : Interface.Operation) (offset count : UInt32) (words : List UInt32) :
    Prop :=
  ∃ r', r.execute writer (dataArguments offset count words) = (.ok .none, r') ∧
    r'.execute reader (blockArguments offset count) =
      (.ok (.elements (Elements.ofList .u32 (words.map Scalar.ofUInt32))), r')

/-- Whether words are refused, and the window is left as it is. -/
def Refuses (writer : Interface.Operation) (offset count : UInt32) (words : List UInt32) : Prop :=
  r.execute writer (dataArguments offset count words) =
    (.error (r.outside writer offset count.toNat), r)

theorem keeps_of_holds (hwriter : writer.name = "write_buffer")
    (hreader : reader.name = "read_buffer") (hwords : words.length = count.toNat)
    (h : r.window.holds offset.toNat count.toNat = true) :
    r.Keeps writer reader offset count words := by
  obtain ⟨w, hw⟩ : ∃ w, r.window.writeWords? offset.toNat words = some w :=
    ⟨_, by rw [Window.writeWords?, hwords, if_pos h]⟩
  have hread : w.readWords? offset.toNat count.toNat = some words :=
    hwords ▸ Window.readWords?_of_writeWords? hw
  refine ⟨⟨w⟩, ?_, ?_⟩
  · rw [execute, answer_dataArguments r hwriter, writeWords, hw]
  · rw [execute, answer_blockArguments _ hreader, readWords, hread]
    rfl

theorem refuses_of_not_holds (hwriter : writer.name = "write_buffer")
    (hwords : words.length = count.toNat) (h : r.window.holds offset.toNat count.toNat = false) :
    r.Refuses writer offset count words := by
  have hw : r.window.writeWords? offset.toNat words = none := by
    rw [Window.writeWords?, hwords, h]
    rfl
  rw [Refuses, execute, answer_dataArguments r hwriter, writeWords, hw, hwords]

/-! ### Blocks that are taken -/

theorem acceptBuffer_blockArguments (n : Nat) :
    r.acceptBuffer (blockArguments offset count) n =
      min n ((r.window.size - offset.toNat) / wordSize) := by
  rw [acceptBuffer, word_offset_blockArguments]

/-- What becomes of words that a call is to write, by what the device takes of them: words that are
taken are written just if the place is one of a word or the end of the window, and words that are
not taken are never written. -/
theorem writes_of_acceptBuffer (hwriter : writer.name = "write_buffer")
    (hreader : reader.name = "read_buffer") (hwords : words.length = count.toNat) :
    (r.acceptBuffer (blockArguments offset count) count.toNat = count.toNat →
      offset.toNat % wordSize = 0 ∧ offset.toNat ≤ r.window.size →
        r.Keeps writer reader offset count words) ∧
    (r.acceptBuffer (blockArguments offset count) count.toNat = count.toNat →
      ¬(offset.toNat % wordSize = 0 ∧ offset.toNat ≤ r.window.size) →
        r.Refuses writer offset count words) ∧
    (r.acceptBuffer (blockArguments offset count) count.toNat < count.toNat →
      r.Refuses writer offset count words) := by
  have hholds : r.window.holds offset.toNat count.toNat = true ↔
      offset.toNat % wordSize = 0 ∧ offset.toNat + count.toNat * wordSize ≤ r.window.size := by
    rw [Window.holds, Bool.and_eq_true, beq_iff_eq, decide_eq_true_eq]
  rw [acceptBuffer_blockArguments]
  refine ⟨fun hall hplace => ?_, fun _ hplace => ?_, fun hfewer => ?_⟩
  · refine r.keeps_of_holds hwriter hreader hwords (hholds.2 ⟨hplace.1, ?_⟩)
    rw [wordSize] at hall ⊢
    omega
  · refine r.refuses_of_not_holds hwriter hwords (Bool.not_eq_true _ ▸ fun h => hplace ?_)
    exact ⟨(hholds.1 h).1, Nat.le_trans (Nat.le_add_right ..) (hholds.1 h).2⟩
  · refine r.refuses_of_not_holds hwriter hwords (Bool.not_eq_true _ ▸ fun h => ?_)
    have hfits := (hholds.1 h).2
    rw [wordSize] at hfewer hfits
    omega

/-- The operation that writes a block of words. -/
def blockWriter : Interface.Operation :=
  ⟨"write_buffer", "WRITE_BUFFER", 5, "void", .void, .write,
    [⟨"offset", "uint32_t", false, false, .scalar .u32⟩,
      ⟨"len", "uint32_t", false, false, .scalar .u32⟩],
    some ⟨"data", 1, "len", .u32, true⟩, none, 10⟩

/-- The operation that reads a block of words. -/
def blockReader : Interface.Operation :=
  ⟨"read_buffer", "READ_BUFFER", 6, "const uint32_t*", .pointer .u32, .readArray,
    [⟨"offset", "uint32_t", false, false, .scalar .u32⟩,
      ⟨"len", "uint32_t", false, false, .scalar .u32⟩], none, some "arg\x7blen\x7d", 13⟩

/-- A new window of sixteen words. -/
def sixteenWords : Registers := ⟨(WordArray.zeros 16 (by decide)).window⟩

theorem writes_of_acceptBuffer_sixteenWords :
    sixteenWords.acceptBuffer (blockArguments 56 2) 2 = 2 ∧
      sixteenWords.Keeps blockWriter blockReader 56 2 [7, 9] ∧
      sixteenWords.acceptBuffer (blockArguments 60 2) 2 = 1 ∧
      sixteenWords.Refuses blockWriter 60 2 [7, 9] :=
  ⟨by decide, (writes_of_acceptBuffer _ rfl rfl rfl).1 (by decide) (by decide), by decide,
    (@writes_of_acceptBuffer _ _ blockReader _ _ _ rfl rfl rfl).2.2 (by decide)⟩

/-- A word at an offset that is not the one of a word is taken, and then not written. -/
theorem refuses_accepted_word :
    sixteenWords.acceptBuffer (blockArguments 2 1) 1 = 1 ∧
      sixteenWords.execute blockWriter (dataArguments 2 1 [1]) =
        (.error (.device "Registers" "write_buffer" (.outsideWindow 1 2 64)), sixteenWords) ∧
      ¬sixteenWords.Keeps blockWriter blockReader 2 1 [1] := by
  have hrefused : sixteenWords.execute blockWriter (dataArguments 2 1 [1]) =
      (.error (.device "Registers" "write_buffer" (.outsideWindow 1 2 64)), sixteenWords) :=
    refuses_of_not_holds sixteenWords rfl rfl (by decide)
  refine ⟨by decide, hrefused, ?_⟩
  rintro ⟨r', hwrite, -⟩
  rw [hrefused] at hwrite
  cases hwrite

end Registers

end Instrument
