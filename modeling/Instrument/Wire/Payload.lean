import Instrument.Text.Number
import Instrument.Wire.Elements

/-!
Payloads are written at their end and read by a reader that never leaves them. Main statement: a
reader that takes bytes advances by just those bytes.
-/

namespace Instrument.Wire

/-- What is put into a payload at once, and read from one. -/
inductive PayloadItem where
  | scalar (value : Scalar)
  | elements (values : Elements)
deriving DecidableEq, Repr

/-- A payload that is being written. -/
structure Payload where
  bytes : Bytes := []
deriving DecidableEq, Repr

namespace Payload

/-- Appends a value, the highest byte first. -/
def putScalar (p : Payload) (s : Scalar) : Payload := ⟨p.bytes ++ s.encodeBE⟩

/-- Appends the bytes of elements without their number. -/
def putElements (p : Payload) (e : Elements) : Payload := ⟨p.bytes ++ e.raw⟩

/-- The size in bytes. -/
def size (p : Payload) : Nat := p.bytes.length

/-- What is done to a payload that is being written. -/
inductive Step where
  | put (item : PayloadItem)
  /-- All bytes are taken out again. -/
  | reset
deriving DecidableEq, Repr

/-- The payload after a step. -/
def step (p : Payload) : Step → Payload
  | .put (.scalar value) => p.putScalar value
  | .put (.elements values) => p.putElements values
  | .reset => {}

end Payload

/-- What a reader is asked for. -/
inductive PayloadRequest where
  | scalar (type : ScalarType)
  | elements (type : ScalarType) (count : Nat)
deriving DecidableEq, Repr

/-- A position in a received payload. -/
structure PayloadReader where
  buffer : Bytes
  position : Nat
  position_le : position ≤ buffer.length
deriving DecidableEq, Repr

namespace PayloadReader

/-- A reader at the beginning. -/
def ofBytes (buffer : Bytes) : PayloadReader := ⟨buffer, 0, Nat.zero_le _⟩

/-- A reader at an offset, or at the end if the offset lies beyond it. -/
def ofOffset (buffer : Bytes) (offset : Nat) : PayloadReader :=
  ⟨buffer, min offset buffer.length, Nat.min_le_right ..⟩

/-- The number of bytes that are left. -/
def remaining (r : PayloadReader) : Nat := r.buffer.length - r.position

/-- Takes the next `n` bytes, if that many are left. -/
def take? (r : PayloadReader) (n : Nat) : Option (Bytes × PayloadReader) :=
  if h : r.position + n ≤ r.buffer.length then
    some ((r.buffer.drop r.position).take n, ⟨r.buffer, r.position + n, h⟩)
  else none

/-- Reads a value, the highest byte first. -/
def readScalar? (r : PayloadReader) (type : ScalarType) : Option (Scalar × PayloadReader) := do
  let (field, r) ← r.take? type.width
  return (← Scalar.decodeBE? type field, r)

/-- Reads a number of elements. -/
def readElements? (r : PayloadReader) (type : ScalarType) (count : Nat) :
    Option (Elements × PayloadReader) := do
  let (field, r) ← r.take? (count * type.width)
  return (← Elements.ofBytes? type field, r)

/-- Moves the reader behind the next `n` bytes and gives them out, if that many are left. Positions
are numbers of 64 bits. -/
def advance (r : PayloadReader) (n : Nat) : Option Bytes × PayloadReader :=
  if h : r.position + n < Text.limit64 ∧ r.position + n ≤ r.buffer.length then
    (some ((r.buffer.drop r.position).take n), ⟨r.buffer, r.position + n, h.2⟩)
  else (none, r)

/-- Serves a request. Bytes that the reader has moved behind are gone, whether they can be read or
not; sizes are numbers of 64 bits. -/
def serve (r : PayloadReader) : PayloadRequest → Option PayloadItem × PayloadReader
  | .scalar type =>
    let (field, r) := r.advance type.width
    (field.bind fun field => (Scalar.decodeBE? type field).map .scalar, r)
  | .elements type count =>
    if count * type.width < Text.limit64 then
      let (field, r) := r.advance (count * type.width)
      (field.bind fun field => (Elements.ofBytes? type field).map .elements, r)
    else (none, r)

theorem take?_isSome_iff (r : PayloadReader) (n : Nat) :
    (r.take? n).isSome ↔ n ≤ r.remaining := by
  have := r.position_le
  simp only [take?, remaining]
  split <;> simp <;> omega

theorem position_of_take? {r r' : PayloadReader} {n : Nat} {field : Bytes}
    (h : r.take? n = some (field, r')) :
    r'.position = r.position + n ∧ field.length = n ∧ r'.buffer = r.buffer := by
  simp only [take?] at h
  split at h
  · cases h
    simp
    omega
  · simp at h

end PayloadReader

end Instrument.Wire
