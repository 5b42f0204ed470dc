import Instrument.Decimal.FloatText
import Instrument.Wire.Bytes
import Instrument.Wire.ScalarType

/-!
Scalar values as types with bit patterns, and their two encodings. A truth value travels as one
byte that counts as true only if it is 1. Main statement: a value is read back from either of its
encodings, whatever bytes follow it.
-/

namespace Instrument.Wire

/-- A value of a wire type: the type, and a bit pattern that the type has. -/
structure Scalar where
  type : ScalarType
  bits : Nat
  bits_lt : bits < type.cardinality
deriving DecidableEq, Repr

namespace Scalar

/-- The value that the number in the bytes of a type stands for. -/
def ofBits (type : ScalarType) (n : Nat) : Scalar where
  type := type
  bits := if type = .bool then (if n = 1 then 1 else 0) else n % type.cardinality
  bits_lt := by
    split
    · next h => subst h; split <;> decide
    · exact Nat.mod_lt _ type.cardinality_pos

/-- A 32-bit unsigned value. -/
def ofUInt32 (n : UInt32) : Scalar := ofBits .u32 n.toNat

/-- A truth value. -/
def ofBool (b : Bool) : Scalar := ofBits .bool (if b then 1 else 0)

/-- The bytes of a value, the highest first. -/
def encodeBE (s : Scalar) : Bytes := bytesBE s.type.width s.bits

/-- The bytes of a value, the lowest first. -/
def encodeLE (s : Scalar) : Bytes := bytesLE s.type.width s.bits

/-- The value at the beginning of some bytes, the highest first; `none` if they are too few. -/
def decodeBE? (type : ScalarType) (bytes : Bytes) : Option Scalar :=
  (split? type.width bytes).map fun (field, _) => ofBits type (valueBE field)

/-- The value at the beginning of some bytes, the lowest first; `none` if they are too few. -/
def decodeLE? (type : ScalarType) (bytes : Bytes) : Option Scalar :=
  (split? type.width bytes).map fun (field, _) => ofBits type (valueLE field)

/-- The value of an integer pattern, in two's complement if the type has a sign. -/
def signed (s : Scalar) : Int :=
  if 2 * s.bits < s.type.cardinality then s.bits else (s.bits : Int) - s.type.cardinality

/-- The text of a value, floating-point values in a given style. -/
def textWith (style : Decimal.FloatStyle) (s : Scalar) : String :=
  match s.type with
  | .u8 | .u16 | .u32 | .u64 => toString s.bits
  | .i8 | .i16 | .i32 | .i64 => toString s.signed
  | .f32 => Decimal.single.text style s.bits
  | .f64 => Decimal.double.text style s.bits
  | .bool => if s.bits = 1 then "true" else "false"

/-- The text of a value. -/
def text (s : Scalar) : String := s.textWith .plain

/-- The text of a value with its type, for diagnostics. -/
def diagnostic (s : Scalar) : String :=
  s.type.shortName ++ "(" ++ s.textWith .exact ++ ")"

/-- The value as a length: integers that are not negative have one. -/
def length? (s : Scalar) : Option Nat :=
  match s.type with
  | .u8 | .u16 | .u32 | .u64 => some s.bits
  | .i8 | .i16 | .i32 | .i64 => if 0 ≤ s.signed then some s.bits else none
  | .f32 | .f64 | .bool => none

theorem bits_lt_patterns (s : Scalar) : s.bits < patterns s.type.width :=
  Nat.lt_of_lt_of_le s.bits_lt s.type.cardinality_le

@[simp] theorem length_encodeBE (s : Scalar) : s.encodeBE.length = s.type.width := by
  simp [encodeBE]

@[simp] theorem length_encodeLE (s : Scalar) : s.encodeLE.length = s.type.width := by
  simp [encodeLE]

@[simp] theorem type_ofBits (type : ScalarType) (n : Nat) : (ofBits type n).type = type := rfl

@[simp] theorem ofBits_bits (s : Scalar) : ofBits s.type s.bits = s := by
  obtain ⟨type, bits, h⟩ := s
  simp only [ofBits, Scalar.mk.injEq, true_and]
  split
  · next hb =>
    subst hb
    have : bits < 2 := h
    split <;> omega
  · exact Nat.mod_eq_of_lt h

theorem valueBE_encodeBE (s : Scalar) : valueBE s.encodeBE = s.bits :=
  valueBE_bytesBE_of_lt s.bits_lt_patterns

theorem valueLE_encodeLE (s : Scalar) : valueLE s.encodeLE = s.bits :=
  valueLE_bytesLE_of_lt s.bits_lt_patterns

theorem decodeBE?_encodeBE (s : Scalar) (rest : Bytes) :
    decodeBE? s.type (s.encodeBE ++ rest) = some s := by
  have h : split? s.type.width (s.encodeBE ++ rest) = some (s.encodeBE, rest) :=
    split?_eq_some_iff.2 ⟨by simp, rfl⟩
  rw [decodeBE?, h]
  simp [valueBE_encodeBE]

theorem decodeLE?_encodeLE (s : Scalar) (rest : Bytes) :
    decodeLE? s.type (s.encodeLE ++ rest) = some s := by
  have h : split? s.type.width (s.encodeLE ++ rest) = some (s.encodeLE, rest) :=
    split?_eq_some_iff.2 ⟨by simp, rfl⟩
  rw [decodeLE?, h]
  simp [valueLE_encodeLE]

end Scalar

end Instrument.Wire
