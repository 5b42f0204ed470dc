import Instrument.Device.Window
import Mathlib.Data.Nat.Bitwise

/-!
A register window as an array of words. The file of an array is its header and the bytes of its
words, and nothing else. Main statements: through the window on that file words are read from the
array and written into it, and opening the file again with the same size gives the same array.
-/

namespace Instrument

open Wire (bytesLE valueLE)

namespace Window

/-! ### Words and their bytes -/

@[simp] theorem bytesOf_nil : bytesOf [] = [] := rfl

@[simp] theorem bytesOf_cons (word : UInt32) (words : List UInt32) :
    bytesOf (word :: words) = bytesLE wordSize word.toNat ++ bytesOf words := rfl

@[simp] theorem bytesOf_append (words others : List UInt32) :
    bytesOf (words ++ others) = bytesOf words ++ bytesOf others :=
  List.flatMap_append

@[simp] theorem length_bytesOf (words : List UInt32) :
    (bytesOf words).length = wordSize * words.length := by
  induction words with
  | nil => rfl
  | cons word words ih =>
    rw [bytesOf_cons, List.length_append, Wire.length_bytesLE, ih, List.length_cons, Nat.mul_succ,
      Nat.add_comm]

@[simp] theorem bytesOf_replicate_zero (count : Nat) :
    bytesOf (List.replicate count 0) = List.replicate (wordSize * count) 0 := by
  induction count with
  | zero => rfl
  | succ count ih =>
    rw [List.replicate_succ, bytesOf_cons, ih, Nat.mul_succ, Nat.add_comm,
      ← List.replicate_append_replicate]
    rfl

@[simp] theorem wordsOf_bytesOf (words : List UInt32) : wordsOf (bytesOf words) = words := by
  induction words with
  | nil => rfl
  | cons word words ih =>
    have hvalue : valueLE (bytesLE wordSize word.toNat) = word.toNat :=
      Wire.valueLE_bytesLE_of_lt word.toNat_lt
    calc wordsOf (bytesOf (word :: words))
        = UInt32.ofNat (valueLE (bytesLE wordSize word.toNat)) :: wordsOf (bytesOf words) := rfl
      _ = word :: words := by rw [hvalue, ih, UInt32.ofNat_toNat]

theorem drop_bytesOf (words : List UInt32) (place : Nat) :
    (bytesOf words).drop (wordSize * place) = bytesOf (words.drop place) := by
  by_cases h : place ≤ words.length
  · have hlength : (bytesOf (words.take place)).length = wordSize * place := by
      rw [length_bytesOf, List.length_take, Nat.min_eq_left h]
    conv_lhs => rw [← List.take_append_drop place words, bytesOf_append, ← hlength]
    exact List.drop_left
  · have hplace : words.length ≤ place := by omega
    rw [List.drop_eq_nil_of_le hplace, bytesOf_nil, List.drop_eq_nil_of_le]
    rw [length_bytesOf]
    exact Nat.mul_le_mul_left _ hplace

theorem take_bytesOf (words : List UInt32) (count : Nat) :
    (bytesOf words).take (wordSize * count) = bytesOf (words.take count) := by
  have h : (bytesOf words).take (wordSize * count) ++ bytesOf (words.drop count) =
      bytesOf (words.take count) ++ bytesOf (words.drop count) := by
    rw [← drop_bytesOf, List.take_append_drop, drop_bytesOf, ← bytesOf_append,
      List.take_append_drop]
  exact List.append_cancel_right h

/-! ### Bytes in the place of others -/

theorem resize_length (bytes : Bytes) : resize bytes bytes.length = bytes := by
  simp [resize]

theorem resize_append (before after : Bytes) : resize (before ++ after) before.length = before := by
  simp [resize]

theorem overwrite_append (before after : Bytes) {old new : Bytes} (h : new.length = old.length) :
    overwrite (before ++ old ++ after) before.length new = before ++ new ++ after := by
  by_cases hnew : new = []
  · have hold : old = [] := List.eq_nil_of_length_eq_zero (by rw [← h, hnew]; rfl)
    rw [hnew, hold, overwrite_nil]
  · have hbefore : resize (before ++ old ++ after) before.length = before := by
      rw [List.append_assoc, resize_append]
    have hafter : (before ++ old ++ after).drop (before.length + new.length) = after := by
      rw [h, ← List.length_append, List.drop_left]
    rw [overwrite, if_neg (by simpa using hnew), hbefore, hafter]

/-! ### Headers -/

theorem isMarked_header (size : Nat) (rest : Bytes) (other : Nat) (h : size < UInt32.size) :
    isMarked (header size ++ rest) other = decide (size = other) := by
  have hmagic : (header size ++ rest).take 8 = magic := rfl
  have hfield : ((header size ++ rest).drop 12).take 4 = bytesLE 4 size := rfl
  rw [isMarked, hmagic, hfield, Wire.valueLE_bytesLE_of_lt h, beq_self_eq_true, Bool.true_and,
    Bool.beq_eq_decide_eq]

theorem not_isMarked_zeros (length size : Nat) :
    isMarked (List.replicate (headerSize + length) 0) size = false := by
  have hzeros : (List.replicate (headerSize + length) (0 : UInt8)).take 8 = List.replicate 8 0 := by
    rw [List.take_replicate, Nat.min_eq_left (by rw [headerSize]; omega)]
  rw [isMarked, hzeros]
  rfl

end Window

/-- An array of words that a register window can hold. -/
structure WordArray where
  words : List UInt32
  fits : Window.wordSize * words.length < UInt32.size
deriving DecidableEq, Repr

namespace WordArray

open Window (wordSize headerSize header bytesOf)

/-! ### Arrays -/

/-- An array of zeros. -/
def zeros (count : Nat) (h : wordSize * count < UInt32.size) : WordArray :=
  ⟨List.replicate count 0, by rwa [List.length_replicate]⟩

/-- The size in bytes. -/
def size (a : WordArray) : Nat := wordSize * a.words.length

/-- The place of the word at an offset, from where on there are `count` words in the array. -/
def place? (a : WordArray) (offset count : Nat) : Option Nat :=
  if offset % wordSize = 0 ∧ offset / wordSize + count ≤ a.words.length then
    some (offset / wordSize)
  else none

/-- The words from a place on. -/
def load (a : WordArray) (place count : Nat) : List UInt32 := (a.words.drop place).take count

/-- The array with other words from a place on. Every word that none of them meets stays. -/
def store (a : WordArray) (place : Nat) (new : List UInt32) : WordArray where
  words := a.words.mapIdx fun i word =>
    if place ≤ i then (new[i - place]?).getD word else word
  fits := by rw [List.length_mapIdx]; exact a.fits

/-- What opening a window of a given size makes of the array that is there. -/
def reopen (old : Option WordArray) (size : Nat) : Except SystemError WordArray :=
  if h : size ≠ 0 ∧ size % wordSize = 0 ∧ size < UInt32.size then
    .ok ((old.filter (·.size = size)).getD
      (zeros (size / wordSize) (Nat.lt_of_le_of_lt (Nat.mul_div_le ..) h.2.2)))
  else .error (.windowSize size)

@[simp] theorem size_zeros {count : Nat} (h : wordSize * count < UInt32.size) :
    (zeros count h).size = wordSize * count := by
  rw [size, zeros, List.length_replicate]

@[simp] theorem size_store (a : WordArray) (place : Nat) (new : List UInt32) :
    (a.store place new).size = a.size := by
  rw [size, store, List.length_mapIdx, size]

theorem place?_eq_some_iff {a : WordArray} {offset count place : Nat} :
    a.place? offset count = some place ↔
      offset = wordSize * place ∧ place + count ≤ a.words.length := by
  rw [place?, wordSize]
  split
  · next h =>
    rw [Option.some.injEq]
    constructor
    · rintro rfl
      omega
    · rintro ⟨rfl, -⟩
      omega
  · next h =>
    simp only [reduceCtorEq, false_iff, not_and]
    intro hoffset
    omega

theorem place?_eq_none_iff {a : WordArray} {offset count : Nat} :
    a.place? offset count = none ↔
      ¬(offset % wordSize = 0 ∧ offset + count * wordSize ≤ a.size) := by
  rw [place?, size, wordSize]
  split <;> simp only [reduceCtorEq, false_iff, true_iff] <;> omega

theorem words_store {a : WordArray} {place : Nat} {new : List UInt32}
    (h : place + new.length ≤ a.words.length) :
    (a.store place new).words =
      a.words.take place ++ new ++ a.words.drop (place + new.length) := by
  apply List.ext_getElem
  · simp only [store, List.length_mapIdx, List.length_append, List.length_take, List.length_drop]
    omega
  · intro i hi hi'
    have hlength : i < a.words.length := by simpa [store] using hi
    simp only [store, List.getElem_mapIdx, List.getElem_append, List.length_append,
      List.length_take, List.getElem_take, List.getElem_drop]
    -- before the new words, among them, and after them
    rcases (by omega : i < place ∨ place ≤ i ∧ i < place + new.length ∨ place + new.length ≤ i) with
      hbefore | ⟨hfrom, hto⟩ | hafter
    · rw [if_neg (by omega), dif_pos (by omega), dif_pos (by omega)]
    · rw [if_pos hfrom, dif_pos (by omega), dif_neg (by omega),
        List.getElem?_eq_getElem (by omega), Option.getD_some]
      congr 1
      omega
    · rw [if_pos (by omega), dif_neg (by omega), List.getElem?_eq_none (by omega),
        Option.getD_none]
      congr 1
      omega

/-! ### The file of an array -/

/-- The file of an array. -/
def file (a : WordArray) : Bytes := header a.size ++ bytesOf a.words

theorem length_file (a : WordArray) : a.file.length = headerSize + a.size := by
  rw [file, List.length_append, Window.length_header, Window.length_bytesOf, size]

/-- The window on the file of an array. -/
def window (a : WordArray) : Window := ⟨a.size, a.file, Nat.le_of_eq a.length_file.symm⟩

@[simp] theorem size_window (a : WordArray) : a.window.size = a.size := rfl

@[simp] theorem file_window (a : WordArray) : a.window.file = a.file := rfl

theorem isValid_window (a : WordArray) : a.window.isValid := by
  rw [Window.isValid, size_window, file_window, file,
    Window.isMarked_header a.size (bytesOf a.words) a.size a.fits]
  exact decide_eq_true rfl

theorem take_file (a : WordArray) : a.file.take headerSize = header a.size := by
  rw [file, ← Window.length_header a.size, List.take_left]

theorem drop_file (a : WordArray) (place : Nat) :
    a.file.drop (headerSize + wordSize * place) = bytesOf (a.words.drop place) := by
  have hheader : a.file.drop headerSize = bytesOf a.words := by
    rw [file, ← Window.length_header a.size, List.drop_left]
  rw [← List.drop_drop, hheader, Window.drop_bytesOf]

theorem holds_window (a : WordArray) (offset count : Nat) :
    a.window.holds offset count = (a.place? offset count).isSome := by
  rw [Bool.eq_iff_iff, Option.isSome_iff_ne_none, ne_eq, place?_eq_none_iff, not_not, Window.holds,
    Bool.and_eq_true, beq_iff_eq, decide_eq_true_eq, size_window]

theorem readWords?_window (a : WordArray) (offset count : Nat) :
    a.window.readWords? offset count = (a.place? offset count).map (a.load · count) := by
  rw [Window.readWords?, holds_window]
  cases hplace : a.place? offset count with
  | none => rfl
  | some place =>
    obtain ⟨rfl, -⟩ := place?_eq_some_iff.1 hplace
    have hbytes : (a.window.file.drop (headerSize + wordSize * place)).take (count * wordSize) =
        bytesOf (a.load place count) := by
      rw [file_window, drop_file, Nat.mul_comm, Window.take_bytesOf, load]
    rw [hbytes, Window.wordsOf_bytesOf]
    rfl

theorem file_store {a : WordArray} {place : Nat} {new : List UInt32}
    (h : place + new.length ≤ a.words.length) :
    (a.store place new).file =
      Window.overwrite a.file (headerSize + wordSize * place) (bytesOf new) := by
  -- the words before, in and after the range that is written
  have hwords : a.words =
      a.words.take place ++ (a.words.drop place).take new.length ++
        a.words.drop (place + new.length) := by
    rw [List.append_assoc, ← List.drop_drop, List.take_append_drop, List.take_append_drop]
  have hfile : a.file = header a.size ++ bytesOf (a.words.take place) ++
      bytesOf ((a.words.drop place).take new.length) ++
        bytesOf (a.words.drop (place + new.length)) := by
    conv_lhs => rw [file, hwords]
    simp only [Window.bytesOf_append, List.append_assoc]
  have hplace : headerSize + wordSize * place =
      (header a.size ++ bytesOf (a.words.take place)).length := by
    rw [List.length_append, Window.length_header, Window.length_bytesOf, List.length_take,
      Nat.min_eq_left (by omega)]
  have hlength :
      (bytesOf new).length = (bytesOf ((a.words.drop place).take new.length)).length := by
    rw [Window.length_bytesOf, Window.length_bytesOf, List.length_take, List.length_drop,
      Nat.min_eq_left (by omega)]
  rw [hfile, hplace, Window.overwrite_append _ _ hlength, file, size_store, words_store h]
  simp only [Window.bytesOf_append, List.append_assoc]

theorem writeWords?_window (a : WordArray) (offset : Nat) (new : List UInt32) :
    a.window.writeWords? offset new =
      (a.place? offset new.length).map fun place => (a.store place new).window := by
  rw [Window.writeWords?, holds_window]
  cases hplace : a.place? offset new.length with
  | none => rfl
  | some place =>
    obtain ⟨rfl, hfits⟩ := place?_eq_some_iff.1 hplace
    simp only [Option.isSome_some, if_true, Option.map_some, Option.some.injEq, Window.poke, window,
      Window.mk.injEq]
    exact ⟨(size_store ..).symm, (file_store hfits).symm⟩

theorem file_zeros {count : Nat} (h : wordSize * count < UInt32.size) :
    (zeros count h).file =
      header (wordSize * count) ++ List.replicate (wordSize * count) 0 := by
  rw [file, size_zeros, zeros, Window.bytesOf_replicate_zero]

/-! ### Opening a window -/

/-- What is in the file, if an array is there. -/
def fileOf : Option WordArray → Bytes
  | some a => a.file
  | none => []

theorem isMarked_fileOf (old : Option WordArray) (size : Nat) :
    Window.isMarked (Window.resize (fileOf old) (headerSize + size)) size =
      (old.filter (·.size = size)).isSome := by
  cases old with
  | none =>
    have hzeros : Window.resize [] (headerSize + size) = List.replicate (headerSize + size) 0 := by
      simp [Window.resize]
    rw [fileOf, hzeros, Window.not_isMarked_zeros]
    rfl
  | some a =>
    -- however short the file is cut, it keeps its header
    have hheader : ∃ rest, Window.resize a.file (headerSize + size) = header a.size ++ rest := by
      refine ⟨(bytesOf a.words).take size ++
        List.replicate (headerSize + size - a.file.length) 0, ?_⟩
      rw [Window.resize, ← List.append_assoc]
      congr 1
      rw [file, List.take_append, Window.length_header, Nat.add_sub_cancel_left,
        List.take_of_length_le (by rw [Window.length_header]; omega)]
    obtain ⟨rest, hrest⟩ := hheader
    rw [fileOf, hrest, Window.isMarked_header a.size rest size a.fits]
    by_cases hsize : a.size = size <;> simp [Option.filter, hsize]

theorem open_fileOf (old : Option WordArray) (size : Nat) :
    Window.open (fileOf old) size = (reopen old size).map window := by
  rw [Window.open, reopen]
  by_cases h : size ≠ 0 ∧ size % wordSize = 0 ∧ size < UInt32.size
  · rw [if_neg (by omega), dif_pos h, isMarked_fileOf]
    cases hold : old.filter (·.size = size) with
    | some a =>
      obtain ⟨rfl, hsize⟩ := Option.filter_eq_some_iff.1 hold
      obtain rfl : a.size = size := by simpa using hsize
      have hfile : Window.resize a.file (headerSize + a.size) = a.file := by
        rw [← length_file, Window.resize_length]
      simp only [fileOf, hfile]
      rfl
    | none =>
      have hsize : wordSize * (size / wordSize) = size :=
        Nat.mul_div_cancel' (Nat.dvd_of_mod_eq_zero h.2.1)
      simp only [Option.isSome_none, Bool.false_eq_true, if_false, Option.getD_none, Except.map,
        window, size_zeros, file_zeros, hsize]
  · rw [if_pos (by omega), dif_neg h]
    rfl

end WordArray

end Instrument
