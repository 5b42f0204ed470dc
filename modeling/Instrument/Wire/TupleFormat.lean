import Instrument.Wire.Scalar

/-!
Tuple formats: fields of fixed types in a row, in one byte order and without gaps. A format is
written as one tag for each field, after a mark for the order. Main statement: the values of a
tuple are read back from its bytes.
-/

namespace Instrument.Wire

/-- Which byte of a number travels first. -/
inductive ByteOrder where
  | big | little
deriving DecidableEq, Repr

/-- The fields of a tuple and their byte order. -/
structure TupleFormat where
  order : ByteOrder
  fields : List ScalarType
deriving DecidableEq, Repr

/-- Why some values are no tuple of a format. -/
inductive PackFault where
  | fieldCount (expected found : Nat)
  | fieldType (index : Nat) (expected found : ScalarType)
deriving DecidableEq, Repr

namespace TupleFormat

/-- The size of a tuple in bytes. -/
def size (format : TupleFormat) : Nat := format.fields.foldr (fun type n => type.width + n) 0

/-- The text of a format; the mark of the usual order is left out. -/
def text (format : TupleFormat) : String :=
  String.ofList ((if format.order = .little then ['<'] else []) ++ format.fields.map ScalarType.tag)

/-- The types that some tags stand for, or the first character that is no tag. -/
def fieldsOf : List Char → Except Char (List ScalarType)
  | [] => .ok []
  | c :: cs =>
    match ScalarType.ofTag? c with
    | none => .error c
    | some type => (fieldsOf cs).map (type :: ·)

/-- The format that a text stands for, or the first character that is neither a tag nor blank. -/
def ofText (text : List Char) : Except Char TupleFormat :=
  let (order, tags) := match text with
    | '>' :: tags | '!' :: tags => (ByteOrder.big, tags)
    | '<' :: tags => (.little, tags)
    | tags => (.big, tags)
  (fieldsOf (tags.filter fun c => !Text.isBlank c)).map fun fields => ⟨order, fields⟩

/-- The bytes of one field. -/
def encodeField (order : ByteOrder) (s : Scalar) : Bytes :=
  match order with
  | .big => s.encodeBE
  | .little => s.encodeLE

/-- One field from the beginning of some bytes. -/
def decodeField? (order : ByteOrder) (type : ScalarType) (bytes : Bytes) : Option Scalar :=
  match order with
  | .big => Scalar.decodeBE? type bytes
  | .little => Scalar.decodeLE? type bytes

/-- Fields from the beginning of some bytes; `none` if the bytes are too few. -/
def unpackFields? (order : ByteOrder) : List ScalarType → Bytes → Option (List Scalar)
  | [], _ => some []
  | type :: types, bytes => do
    let value ← decodeField? order type bytes
    let values ← unpackFields? order types (bytes.drop type.width)
    return value :: values

/-- The values of the tuple at the beginning of some bytes; `none` if the bytes are too few. -/
def unpack? (format : TupleFormat) (bytes : Bytes) : Option (List Scalar) :=
  unpackFields? format.order format.fields bytes

/-- The bytes of values of given types, which begin with the field `index`. -/
def packFields (order : ByteOrder) (index : Nat) :
    List ScalarType → List Scalar → Except PackFault Bytes
  | type :: types, value :: values =>
    if value.type = type then
      (packFields order (index + 1) types values).map (encodeField order value ++ ·)
    else .error (.fieldType index type value.type)
  | _, _ => .ok []

/-- The bytes of a tuple. -/
def pack (format : TupleFormat) (values : List Scalar) : Except PackFault Bytes :=
  if values.length = format.fields.length then packFields format.order 0 format.fields values
  else .error (.fieldCount format.fields.length values.length)

theorem decodeField?_encodeField (order : ByteOrder) (s : Scalar) (rest : Bytes) :
    decodeField? order s.type (encodeField order s ++ rest) = some s := by
  cases order
  · exact s.decodeBE?_encodeBE rest
  · exact s.decodeLE?_encodeLE rest

@[simp] theorem length_encodeField (order : ByteOrder) (s : Scalar) :
    (encodeField order s).length = s.type.width := by
  cases order <;> simp [encodeField]

theorem unpackFields?_of_packFields {order : ByteOrder} {index : Nat} {types : List ScalarType}
    {values : List Scalar} {bytes : Bytes} (hlen : values.length = types.length)
    (h : packFields order index types values = .ok bytes) (rest : Bytes) :
    unpackFields? order types (bytes ++ rest) = some values := by
  induction types generalizing index values bytes with
  | nil => cases values <;> simp_all [unpackFields?]
  | cons type types ih =>
    cases values with
    | nil => simp at hlen
    | cons value values =>
      simp only [packFields] at h
      split at h
      · next htype =>
        subst htype
        cases hrest : packFields order (index + 1) types values with
        | error e => rw [hrest] at h; simp [Except.map] at h
        | ok bytes' =>
          rw [hrest] at h
          simp only [Except.map, Except.ok.injEq] at h
          subst h
          have hdrop : (encodeField order value ++ bytes' ++ rest).drop value.type.width =
              bytes' ++ rest := by
            rw [List.append_assoc, ← length_encodeField order value, List.drop_left]
          have hfirst : decodeField? order value.type (encodeField order value ++ bytes' ++ rest) =
              some value := by
            rw [List.append_assoc]
            exact decodeField?_encodeField order value _
          simp only [unpackFields?, hdrop, hfirst, ih (by simpa using hlen) hrest]
          rfl
      · simp at h

end TupleFormat

end Instrument.Wire
