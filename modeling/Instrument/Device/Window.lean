import Instrument.SystemError
import Instrument.Wire.Bytes

/-!
Register windows: words of 32 bits in a file, behind a header that tells the size of the window.
The window is always the beginning of the file, so that what others write into the file is seen
through it. An access is refused if it is not aligned or leaves the window.
-/

namespace Instrument

open Wire (bytesLE valueLE)

namespace Window

/-- The size of the header in bytes. -/
def headerSize : Nat := 64

/-- The size of a word in bytes. -/
def wordSize : Nat := 4

/-- The first bytes of a file that holds a window. -/
def magic : Bytes := [0x44, 0x45, 0x56, 0x4c, 0x49, 0x4e, 0x4b, 0]

/-- The version in the header. -/
def version : Nat := 1

/-- The header of a window of a given size. -/
def header (size : Nat) : Bytes :=
  magic ++ bytesLE 4 version ++ bytesLE 4 size ++ List.replicate 48 0

/-- Whether the bytes of a file begin with the marks of a window of a given size. -/
def isMarked (file : Bytes) (size : Nat) : Bool :=
  file.take 8 == magic && valueLE ((file.drop 12).take 4) == size

/-- Bytes cut or filled up with zeros to a given length. -/
def resize (bs : Bytes) (length : Nat) : Bytes :=
  bs.take length ++ List.replicate (length - bs.length) 0

/-- Bytes with others written over them from an offset on; they grow as far as that needs, and not
at all if nothing is written. -/
def overwrite (bs : Bytes) (offset : Nat) (new : Bytes) : Bytes :=
  if new.isEmpty then bs else resize bs offset ++ new ++ bs.drop (offset + new.length)

@[simp] theorem length_resize (bs : Bytes) (length : Nat) : (resize bs length).length = length := by
  simp only [resize, List.length_append, List.length_take, List.length_replicate]
  omega

@[simp] theorem overwrite_nil (bs : Bytes) (offset : Nat) : overwrite bs offset [] = bs := rfl

theorem length_overwrite (bs : Bytes) (offset : Nat) {new : Bytes} (h : new ≠ []) :
    (overwrite bs offset new).length = max bs.length (offset + new.length) := by
  rw [overwrite, if_neg (by simpa using h)]
  simp only [List.length_append, length_resize, List.length_drop]
  omega

theorem le_length_overwrite (bs : Bytes) (offset : Nat) (new : Bytes) :
    bs.length ≤ (overwrite bs offset new).length := by
  by_cases h : new = []
  · subst h
    exact Nat.le_refl _
  · rw [length_overwrite bs offset h]
    exact Nat.le_max_left ..

@[simp] theorem length_header (size : Nat) : (header size).length = headerSize := by
  simp [header, magic, headerSize]

end Window

/-- An open window: its file, which holds at least the header and the words. -/
structure Window where
  size : Nat
  file : Bytes
  covers : Window.headerSize + size ≤ file.length
deriving DecidableEq, Repr

namespace Window

/-- Opens a window on a file. A file that is not marked as a window of this size is cleared. -/
def «open» (file : Bytes) (size : Nat) : Except SystemError Window :=
  if size = 0 ∨ size % wordSize ≠ 0 ∨ UInt32.size ≤ size then .error (.windowSize size)
  else if isMarked (resize file (headerSize + size)) size then
    .ok ⟨size, resize file (headerSize + size), by simp⟩
  else .ok ⟨size, header size ++ List.replicate size 0, by simp⟩

/-- Whether the header is intact. -/
def isValid (w : Window) : Bool := isMarked w.file w.size

/-- The window after others wrote into its file. -/
def poke (w : Window) (offset : Nat) (new : Bytes) : Window :=
  ⟨w.size, overwrite w.file offset new, Nat.le_trans w.covers (le_length_overwrite ..)⟩

/-- Whether `count` words from an offset on lie in the window. -/
def holds (w : Window) (offset count : Nat) : Bool :=
  offset % wordSize == 0 && offset + count * wordSize ≤ w.size

/-- The words that some bytes hold. -/
def wordsOf : Bytes → List UInt32
  | a :: b :: c :: d :: rest => UInt32.ofNat (valueLE [a, b, c, d]) :: wordsOf rest
  | _ => []

/-- The bytes of some words. -/
def bytesOf (words : List UInt32) : Bytes := words.flatMap fun w => bytesLE wordSize w.toNat

/-- Reads words. -/
def readWords? (w : Window) (offset count : Nat) : Option (List UInt32) :=
  if w.holds offset count then
    some (wordsOf ((w.file.drop (headerSize + offset)).take (count * wordSize)))
  else none

/-- Writes words. -/
def writeWords? (w : Window) (offset : Nat) (words : List UInt32) : Option Window :=
  if w.holds offset words.length then some (w.poke (headerSize + offset) (bytesOf words)) else none

/-- Reads one word. -/
def read? (w : Window) (offset : Nat) : Option UInt32 :=
  (w.readWords? offset 1).bind List.head?

/-- Writes one word. -/
def write? (w : Window) (offset : Nat) (word : UInt32) : Option Window :=
  w.writeWords? offset [word]

/-- All words. -/
def words (w : Window) : List UInt32 := wordsOf ((w.file.drop headerSize).take w.size)

end Window

end Instrument
