import Instrument.Text.Blank
import Instrument.Wire.Bytes

/-!
The scalar types that travel on the wire: their widths and the three families of names for them,
the tags of tuple formats, the spelling in declarations, and the names of element types.
-/

namespace Instrument.Wire

/-- A type of fixed width. -/
inductive ScalarType where
  | u8 | i8 | u16 | i16 | u32 | i32 | u64 | i64 | f32 | f64 | bool
deriving DecidableEq, Repr

namespace ScalarType

/-- Every scalar type. -/
def all : List ScalarType := [u8, i8, u16, i16, u32, i32, u64, i64, f32, f64, bool]

/-- Encoded width in bytes. -/
def width : ScalarType → Nat
  | u8 | i8 | bool => 1
  | u16 | i16 => 2
  | u32 | i32 | f32 => 4
  | u64 | i64 | f64 => 8

/-- The number of bit patterns: a truth value has two, every other type has one for each value of
its bytes. -/
def cardinality : ScalarType → Nat
  | bool => 2
  | type => patterns type.width

/-- The tag of the type in tuple formats. -/
def tag : ScalarType → Char
  | u8 => 'B'
  | i8 => 'b'
  | u16 => 'H'
  | i16 => 'h'
  | u32 => 'I'
  | i32 => 'i'
  | u64 => 'Q'
  | i64 => 'q'
  | f32 => 'f'
  | f64 => 'd'
  | bool => '?'

/-- The spelling of the type in declarations. -/
def cppName : ScalarType → String
  | u8 => "uint8_t"
  | i8 => "int8_t"
  | u16 => "uint16_t"
  | i16 => "int16_t"
  | u32 => "uint32_t"
  | i32 => "int32_t"
  | u64 => "uint64_t"
  | i64 => "int64_t"
  | f32 => "float"
  | f64 => "double"
  | bool => "bool"

/-- The name of the type as a type of elements. -/
def elementName : ScalarType → String
  | u8 => "uint8"
  | i8 => "int8"
  | u16 => "uint16"
  | i16 => "int16"
  | u32 => "uint32"
  | i32 => "int32"
  | u64 => "uint64"
  | i64 => "int64"
  | f32 => "float32"
  | f64 => "float64"
  | bool => "bool"

/-- The short name of the type in diagnostics. -/
def shortName : ScalarType → String
  | u8 => "U8"
  | i8 => "I8"
  | u16 => "U16"
  | i16 => "I16"
  | u32 => "U32"
  | i32 => "I32"
  | u64 => "U64"
  | i64 => "I64"
  | f32 => "F32"
  | f64 => "F64"
  | bool => "Bool"

/-- The type with a given tag. -/
def ofTag? (c : Char) : Option ScalarType := all.find? (·.tag == c)

/-- The type with a given spelling, blanks around it and a leading `std::` aside. -/
def ofCpp? (text : List Char) : Option ScalarType :=
  let name := Text.trim text
  let name := (Text.after? "std::".toList name).getD name
  all.find? (·.cppName.toList == name)

/-- The type with a given name as a type of elements. -/
def ofElementName? (name : String) : Option ScalarType := all.find? (·.elementName == name)

theorem mem_all (type : ScalarType) : type ∈ all := by cases type <;> decide

theorem width_pos (type : ScalarType) : 0 < type.width := by cases type <;> decide

theorem cardinality_pos (type : ScalarType) : 0 < type.cardinality := by cases type <;> decide

theorem cardinality_le (type : ScalarType) : type.cardinality ≤ patterns type.width := by
  cases type <;> decide

theorem cardinality_of_ne_bool {type : ScalarType} (h : type ≠ bool) :
    type.cardinality = patterns type.width := by
  cases type <;> simp_all [cardinality]

theorem ofTag?_tag (type : ScalarType) : ofTag? type.tag = some type := by cases type <;> rfl

theorem ofElementName?_elementName (type : ScalarType) :
    ofElementName? type.elementName = some type := by
  cases type <;> decide

end ScalarType

end Instrument.Wire
