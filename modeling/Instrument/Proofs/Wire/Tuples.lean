import Instrument.Proofs.Call.Conforming
import Instrument.Proofs.Text.Pieces

/-!
Tuples and element buffers lose nothing. Main statement: the text of a format is read as the format,
and a text is a format just if it has nothing but tags and blanks behind the mark of the order;
values of the right types become bytes of the right number and are read back from them, whatever
follows; and any bytes that are enough are read as values that become the same bytes again, but for
truth values, where a byte other than 1 becomes 0.
-/

namespace Instrument.Wire

/-! ### Texts of formats -/

namespace TupleFormat

/-- The text of a format without the mark of its order, if there is one. -/
def unmarked : List Char → List Char
  | '>' :: cs | '!' :: cs | '<' :: cs => cs
  | cs => cs

/-- The order that the mark of a text stands for. -/
def orderOf : List Char → ByteOrder
  | '<' :: _ => .little
  | _ => .big

/-- Characters that a format can have behind the mark. -/
def IsAllowed (c : Char) : Prop := Text.isBlank c = true ∨ ∃ type : ScalarType, type.tag = c

theorem ofTag?_eq_some_iff {c : Char} {type : ScalarType} :
    ScalarType.ofTag? c = some type ↔ type.tag = c := by
  constructor
  · intro h
    simpa using List.find?_some h
  · rintro rfl
    exact type.ofTag?_tag

theorem isBlank_tag (type : ScalarType) : Text.isBlank type.tag = false := by
  cases type <;> decide

theorem visible_tags (fields : List ScalarType) :
    Text.visible (fields.map ScalarType.tag) = fields.map ScalarType.tag := by
  refine Text.visible_of_forall fun c hc => ?_
  obtain ⟨type, -, rfl⟩ := List.mem_map.1 hc
  exact isBlank_tag type

theorem fieldsOf_tags (fields : List ScalarType) :
    fieldsOf (fields.map ScalarType.tag) = .ok fields := by
  induction fields with
  | nil => rfl
  | cons type fields ih =>
    rw [List.map_cons, fieldsOf, ScalarType.ofTag?_tag, ih]
    rfl

/-- The first character that is not allowed. -/
inductive StopsAt (c : Char) : List Char → Prop where
  | here (hc : ¬IsAllowed c) (cs : List Char) : StopsAt c (c :: cs)
  | later {b : Char} {cs : List Char} (hb : IsAllowed b) (h : StopsAt c cs) : StopsAt c (b :: cs)

theorem StopsAt.not_forall {c : Char} {cs : List Char} (h : StopsAt c cs) :
    ¬∀ d ∈ cs, IsAllowed d := by
  induction h with
  | here hc cs => exact fun hall => hc (hall c (List.mem_cons_self ..))
  | later _ _ ih => exact fun hall => ih fun d hd => hall d (List.mem_cons_of_mem _ hd)

theorem StopsAt.eq {c d : Char} {cs : List Char} (hc : StopsAt c cs) (hd : StopsAt d cs) :
    c = d := by
  induction hc with
  | here hc =>
    cases hd with
    | here => rfl
    | later hallowed => exact absurd hallowed hc
  | later hallowed _ ih =>
    cases hd with
    | here hd => exact absurd hallowed hd
    | later _ hd => exact ih hd

/-- What becomes of some tags: either they are those of some fields, or one is none. -/
theorem fieldsOf_visible (cs : List Char) :
    (∃ fields, fieldsOf (Text.visible cs) = .ok fields ∧
      Text.visible cs = fields.map ScalarType.tag ∧ ∀ c ∈ cs, IsAllowed c) ∨
    ∃ c, fieldsOf (Text.visible cs) = .error c ∧ StopsAt c cs := by
  induction cs with
  | nil => exact .inl ⟨[], rfl, rfl, by simp⟩
  | cons c cs ih =>
    by_cases hblank : Text.isBlank c = true
    · rw [Text.visible_cons_of_isBlank hblank]
      refine ih.imp ?_ ?_
      · rintro ⟨fields, hfields, htags, hall⟩
        exact ⟨fields, hfields, htags, List.forall_mem_cons.2 ⟨.inl hblank, hall⟩⟩
      · rintro ⟨d, herror, hstops⟩
        exact ⟨d, herror, hstops.later (.inl hblank)⟩
    · rw [Text.visible_cons_of_not_isBlank (by simpa using hblank), fieldsOf]
      cases htag : ScalarType.ofTag? c with
      | none =>
        refine .inr ⟨c, rfl, .here ?_ cs⟩
        rintro (h | ⟨type, htype⟩)
        · exact hblank h
        · rw [ofTag?_eq_some_iff.2 htype] at htag
          cases htag
      | some type =>
        have hc := ofTag?_eq_some_iff.1 htag
        refine ih.imp ?_ ?_
        · rintro ⟨fields, hfields, htags, hall⟩
          refine ⟨type :: fields, by simp [hfields, Except.map], by simp [hc, htags], ?_⟩
          exact List.forall_mem_cons.2 ⟨.inr ⟨type, hc⟩, hall⟩
        · rintro ⟨d, herror, hstops⟩
          exact ⟨d, by simp [herror, Except.map], hstops.later (.inr ⟨type, hc⟩)⟩

theorem ofText_eq (text : List Char) :
    ofText text = (fieldsOf (Text.visible (unmarked text))).map (⟨orderOf text, ·⟩) := by
  unfold ofText
  split
  next order tags hmark =>
  obtain ⟨rfl, rfl⟩ : order = orderOf text ∧ tags = unmarked text := by
    split at hmark <;> cases hmark <;> simp_all [orderOf, unmarked]
  rfl

/-- What becomes of a text: a format with the fields of its tags, or an error that names the first
character that is not allowed. -/
theorem read_cases (text : String) :
    (∃ format, read text = .ok format ∧ format.order = orderOf text.toList ∧
      Text.visible (unmarked text.toList) = format.fields.map ScalarType.tag ∧
      ∀ c ∈ unmarked text.toList, IsAllowed c) ∨
    ∃ c, read text = .error (.invalidFormat c) ∧ StopsAt c (unmarked text.toList) := by
  refine (fieldsOf_visible (unmarked text.toList)).imp ?_ ?_
  · rintro ⟨fields, hfields, htags, hall⟩
    refine ⟨⟨orderOf text.toList, fields⟩, ?_, rfl, htags, hall⟩
    rw [read, ofText_eq, hfields]
    rfl
  · rintro ⟨c, herror, hstops⟩
    refine ⟨c, ?_, hstops⟩
    rw [read, ofText_eq, herror]
    rfl

/-- A text is a format just if all its characters behind the mark are tags or blank. -/
theorem read_isOk_iff {text : String} :
    (∃ format, read text = .ok format) ↔ ∀ c ∈ unmarked text.toList, IsAllowed c := by
  obtain ⟨format, hread, -, -, hall⟩ | ⟨c, hread, hstops⟩ := read_cases text
  · exact ⟨fun _ => hall, fun _ => ⟨format, hread⟩⟩
  · refine ⟨?_, fun hall => absurd hall hstops.not_forall⟩
    rintro ⟨format, h⟩
    rw [hread] at h
    cases h

theorem of_read {text : String} {format : TupleFormat} (h : read text = .ok format) :
    format.order = orderOf text.toList ∧
      Text.visible (unmarked text.toList) = format.fields.map ScalarType.tag := by
  obtain ⟨_, hread, horder, htags, -⟩ | ⟨c, hread, -⟩ := read_cases text
  · rw [hread] at h
    cases h
    exact ⟨horder, htags⟩
  · rw [hread] at h
    cases h

theorem read_eq_error_iff {text : String} {e : Error} :
    read text = .error e ↔ ∃ c, StopsAt c (unmarked text.toList) ∧ e = .invalidFormat c := by
  obtain ⟨format, hread, -, -, hall⟩ | ⟨c, hread, hstops⟩ := read_cases text
  · constructor
    · rw [hread]
      intro h
      cases h
    · rintro ⟨c, hstops, -⟩
      exact absurd hall hstops.not_forall
  · constructor
    · rw [hread]
      intro h
      cases h
      exact ⟨c, hstops, rfl⟩
    · rintro ⟨d, hstops', rfl⟩
      rw [hread, hstops.eq hstops']

theorem toList_text (format : TupleFormat) :
    format.text.toList = (if format.order = .little then ['<'] else []) ++
      format.fields.map ScalarType.tag :=
  String.toList_ofList

theorem unmarked_text (format : TupleFormat) :
    unmarked format.text.toList = format.fields.map ScalarType.tag ∧
      orderOf format.text.toList = format.order := by
  rw [toList_text]
  obtain ⟨order, fields⟩ := format
  cases order with
  | little => exact ⟨rfl, rfl⟩
  | big =>
    cases fields with
    | nil => exact ⟨rfl, rfl⟩
    | cons type fields => cases type <;> exact ⟨rfl, rfl⟩

theorem ofText_text (format : TupleFormat) : ofText format.text.toList = .ok format := by
  obtain ⟨htags, horder⟩ := unmarked_text format
  rw [ofText_eq, htags, horder, visible_tags, fieldsOf_tags]
  rfl

/-- The text of a format is read as the format. -/
theorem read_text (format : TupleFormat) : read format.text = .ok format := by
  rw [read, ofText_text]
  rfl

/-- The tags of some fields are the format of these fields. -/
theorem ofText_tags (fields : List ScalarType) :
    ofText (fields.map ScalarType.tag) = .ok ⟨.big, fields⟩ := by
  have h := ofText_text ⟨.big, fields⟩
  rwa [toList_text, if_neg (by simp), List.nil_append] at h

theorem read_tags (fields : List ScalarType) :
    read (String.ofList (fields.map ScalarType.tag)) = .ok ⟨.big, fields⟩ :=
  read_text ⟨.big, fields⟩

end TupleFormat

/-! ### Fields -/

/-- Bytes of a type as the type writes them: a truth value counts as true only if it is 1. -/
def normalField (type : ScalarType) (bytes : Bytes) : Bytes :=
  if type = .bool then bytes.map fun b => if b = 1 then 1 else 0 else bytes

theorem normalField_append (type : ScalarType) (bytes rest : Bytes) :
    normalField type (bytes ++ rest) = normalField type bytes ++ normalField type rest := by
  rw [normalField, normalField, normalField]
  split
  · exact List.map_append
  · rfl

theorem length_normalField (type : ScalarType) (bytes : Bytes) :
    (normalField type bytes).length = bytes.length := by
  rw [normalField]
  split
  · exact List.length_map ..
  · rfl

/-- The bit pattern of a field is the number of its bytes as the type writes them, in whichever
order the number is made of them. -/
theorem Scalar.bits_ofBits {value : Bytes → Nat} (hlt : ∀ bs, value bs < patterns bs.length)
    (hone : ∀ b, value [b] = b.toNat) {type : ScalarType} {field : Bytes}
    (h : field.length = type.width) :
    (Scalar.ofBits type (value field)).bits = value (normalField type field) := by
  by_cases htype : type = .bool
  · subst htype
    obtain ⟨b, rfl⟩ := List.length_eq_one_iff.1 h
    have hiff : b.toNat = 1 ↔ b = 1 := UInt8.toNat_inj (b := 1)
    simp only [ofBits, normalField, if_true, hone, hiff, List.map_cons, List.map_nil]
    split <;> rfl
  · have hfield : value field < type.cardinality := by
      rw [ScalarType.cardinality_of_ne_bool htype, ← h]
      exact hlt field
    simp only [ofBits, normalField, if_neg htype, Nat.mod_eq_of_lt hfield]

theorem Scalar.encodeBE_ofBits {type : ScalarType} {field : Bytes}
    (h : field.length = type.width) :
    (Scalar.ofBits type (valueBE field)).encodeBE = normalField type field := by
  have hbits := Scalar.bits_ofBits valueBE_lt (fun _ => Nat.add_zero _) h
  rw [encodeBE, hbits]
  exact bytesBE_valueBE_of_length ((length_normalField type field).trans h)

theorem Scalar.encodeLE_ofBits {type : ScalarType} {field : Bytes}
    (h : field.length = type.width) :
    (Scalar.ofBits type (valueLE field)).encodeLE = normalField type field := by
  have hbits := Scalar.bits_ofBits valueLE_lt (fun _ => Nat.add_zero _) h
  have hlen := (length_normalField type field).trans h
  rw [encodeLE, hbits, type_ofBits, ← hlen]
  exact bytesLE_valueLE _

namespace TupleFormat

/-- The first bytes of a tuple as the types of its fields write them. -/
def normalFields : List ScalarType → Bytes → Bytes
  | [], _ => []
  | type :: types, bytes =>
    normalField type (bytes.take type.width) ++ normalFields types (bytes.drop type.width)

theorem size_cons (order : ByteOrder) (type : ScalarType) (types : List ScalarType) :
    size ⟨order, type :: types⟩ = type.width + size ⟨order, types⟩ := rfl

theorem decodeField?_of_le {type : ScalarType} {bytes : Bytes} (order : ByteOrder)
    (h : type.width ≤ bytes.length) :
    ∃ value, decodeField? order type bytes = some value ∧ value.type = type ∧
      encodeField order value = normalField type (bytes.take type.width) := by
  have hlen : (bytes.take type.width).length = type.width := List.length_take_of_le h
  have hsplit : split? type.width bytes = some (bytes.take type.width, bytes.drop type.width) :=
    split?_eq_some_iff.2 ⟨hlen, (List.take_append_drop ..).symm⟩
  cases order with
  | big =>
    refine ⟨_, ?_, rfl, Scalar.encodeBE_ofBits hlen⟩
    rw [decodeField?, Scalar.decodeBE?, hsplit]
    rfl
  | little =>
    refine ⟨_, ?_, rfl, Scalar.encodeLE_ofBits hlen⟩
    rw [decodeField?, Scalar.decodeLE?, hsplit]
    rfl

theorem decodeField?_eq_none {type : ScalarType} {bytes : Bytes} (order : ByteOrder)
    (h : bytes.length < type.width) : decodeField? order type bytes = none := by
  have hsplit := split?_eq_none_iff.2 h
  cases order <;> simp [decodeField?, Scalar.decodeBE?, Scalar.decodeLE?, hsplit]

/-- Bytes that are enough are values, which become the same bytes again as the types write them. -/
theorem unpackFields?_of_le {order : ByteOrder} {types : List ScalarType} {bytes : Bytes}
    (h : size ⟨order, types⟩ ≤ bytes.length) (index : Nat) :
    ∃ values, unpackFields? order types bytes = some values ∧ values.map (·.type) = types ∧
      packFields order index types values = .ok (normalFields types bytes) := by
  induction types generalizing bytes index with
  | nil => exact ⟨[], rfl, rfl, rfl⟩
  | cons type types ih =>
    rw [size_cons] at h
    obtain ⟨value, hfirst, htype, hencode⟩ :=
      decodeField?_of_le order (Nat.le_trans (Nat.le_add_right ..) h)
    have hdrop : size ⟨order, types⟩ ≤ (bytes.drop type.width).length := by
      rw [List.length_drop]
      omega
    obtain ⟨values, hrest, htypes, hpack⟩ := ih hdrop (index + 1)
    refine ⟨value :: values, ?_, by rw [List.map_cons, htype, htypes], ?_⟩
    · rw [unpackFields?, hfirst, hrest]
      rfl
    · rw [packFields, if_pos htype, hpack, hencode]
      rfl

theorem unpackFields?_of_lt {order : ByteOrder} {types : List ScalarType} {bytes : Bytes}
    (h : bytes.length < size ⟨order, types⟩) : unpackFields? order types bytes = none := by
  induction types generalizing bytes with
  | nil => exact absurd h (Nat.not_lt_zero _)
  | cons type types ih =>
    rw [size_cons] at h
    by_cases hfirst : type.width ≤ bytes.length
    · have hdrop : (bytes.drop type.width).length < size ⟨order, types⟩ := by
        rw [List.length_drop]
        omega
      obtain ⟨value, hvalue, -⟩ := decodeField?_of_le order hfirst
      rw [unpackFields?, hvalue, ih hdrop]
      rfl
    · rw [unpackFields?, decodeField?_eq_none order (Nat.lt_of_not_le hfirst)]
      rfl

variable {format : TupleFormat} {bytes : Bytes}

theorem unpack_of_le (h : format.size ≤ bytes.length) :
    ∃ values, format.unpack bytes = .ok values ∧
      write format values = .ok (normalFields format.fields bytes) := by
  obtain ⟨order, fields⟩ := format
  obtain ⟨values, hunpack, htypes, hpack⟩ := unpackFields?_of_le h 0
  have hlen : values.length = fields.length := by rw [← htypes, List.length_map]
  refine ⟨values, ?_, ?_⟩
  · rw [unpack, unpack?, hunpack]
  · rw [write, pack, if_pos hlen, hpack]
    rfl

theorem unpack_of_lt (h : bytes.length < format.size) :
    format.unpack bytes =
      .error (.lengthMismatch ("tuple " ++ format.text) format.size bytes.length) := by
  rw [unpack, unpack?, unpackFields?_of_lt h]

end TupleFormat

/-! ### Elements -/

namespace Elements

theorem type_readAll (type : ScalarType) (bytes : Bytes) :
    ∀ value ∈ readAll type bytes, value.type = type := by
  fun_induction readAll type bytes with
  | case1 => simp
  | case2 bytes field rest h ih => exact List.forall_mem_cons.2 ⟨rfl, ih⟩

theorem writeAll_readAll {type : ScalarType} {bytes : Bytes} (h : bytes.length % type.width = 0) :
    writeAll (readAll type bytes) = normalField type bytes := by
  fun_induction readAll type bytes with
  | case1 bytes hsplit =>
    rw [Nat.mod_eq_of_lt (split?_eq_none_iff.1 hsplit)] at h
    obtain rfl := List.length_eq_zero_iff.1 h
    rw [normalField]
    split <;> rfl
  | case2 bytes field rest hsplit ih =>
    obtain ⟨hlen, rfl⟩ := split?_eq_some_iff.1 hsplit
    rw [List.length_append, hlen, Nat.add_mod_left] at h
    rw [normalField_append, ← ih h, ← Scalar.encodeLE_ofBits hlen]
    rfl

/-- The elements of a buffer make up the buffer again, as its type writes them. -/
theorem raw_normalized (e : Elements) : e.normalized.raw = normalField e.type e.raw :=
  (raw_ofList (type_readAll e.type e.raw)).trans (writeAll_readAll e.whole)

theorem size_ofList (type : ScalarType) (values : List Scalar) :
    (ofList type values).size = values.length := by
  have hlen : (ofList type values).raw.length = values.length * type.width := by
    rw [ofList, @length_writeAll type _ (by simp), List.length_map]
  rw [size, hlen]
  exact Nat.mul_div_cancel _ type.width_pos

theorem toListOf?_type (e : Elements) : e.toListOf? e.type = some e.toList := if_pos rfl

theorem toListOf?_of_ne {e : Elements} {type : ScalarType} (h : type ≠ e.type) :
    e.toListOf? type = none :=
  if_neg h.symm

end Elements

/-- Tuples and buffers of elements are read as what they were written from, whatever the values are
and whatever follows a tuple; and what is written for the values that are read is what was read, but
for truth values, where a byte other than 1 becomes 0. -/
theorem tuples_and_elements_are_exact :
    (∀ format : TupleFormat, TupleFormat.read format.text = .ok format) ∧
    (∀ text : String,
      ((∃ format, TupleFormat.read text = .ok format) ↔
        ∀ c ∈ TupleFormat.unmarked text.toList, TupleFormat.IsAllowed c) ∧
      (∀ format, TupleFormat.read text = .ok format →
        format.order = TupleFormat.orderOf text.toList ∧
          Text.visible (TupleFormat.unmarked text.toList) = format.fields.map ScalarType.tag) ∧
      ∀ e, TupleFormat.read text = .error e ↔
        ∃ c, TupleFormat.StopsAt c (TupleFormat.unmarked text.toList) ∧ e = .invalidFormat c) ∧
    (∀ (format : TupleFormat) (values : List Scalar),
      ((∃ bytes, format.write values = .ok bytes) ↔ values.map (·.type) = format.fields) ∧
      ∀ bytes, format.write values = .ok bytes →
        bytes = values.flatMap (TupleFormat.encodeField format.order) ∧
          bytes.length = format.size ∧ ∀ rest, format.unpack (bytes ++ rest) = .ok values) ∧
    (∀ (format : TupleFormat) (bytes : Bytes),
      (format.size ≤ bytes.length → ∃ values, format.unpack bytes = .ok values ∧
        format.write values = .ok (TupleFormat.normalFields format.fields bytes)) ∧
      (bytes.length < format.size → format.unpack bytes =
        .error (.lengthMismatch ("tuple " ++ format.text) format.size bytes.length))) ∧
    (∀ (type : ScalarType) (values : List Scalar), (∀ value ∈ values, value.type = type) →
      (Elements.ofList type values).size = values.length ∧
        (Elements.ofList type values).toListOf? type = some values) ∧
    ∀ e : Elements,
      (∃ values, e.toListOf? e.type = some values ∧ (∀ value ∈ values, value.type = e.type) ∧
        (Elements.ofList e.type values).raw = normalField e.type e.raw) ∧
      ∀ type, type ≠ e.type → e.toListOf? type = none := by
  refine ⟨TupleFormat.read_text, fun text => ⟨TupleFormat.read_isOk_iff, fun format =>
    TupleFormat.of_read, fun e => TupleFormat.read_eq_error_iff⟩, fun format values => ⟨?_, ?_⟩,
    fun format bytes => ⟨TupleFormat.unpack_of_le, TupleFormat.unpack_of_lt⟩,
    fun type values h => ⟨Elements.size_ofList type values, ?_⟩, fun e =>
    ⟨⟨e.toList, e.toListOf?_type, Elements.type_readAll e.type e.raw, e.raw_normalized⟩,
      fun type => Elements.toListOf?_of_ne⟩⟩
  · exact TupleFormat.write_eq_ok_iff.trans eq_comm
  · intro bytes hbytes
    exact ⟨TupleFormat.eq_flatMap_of_write hbytes, (TupleFormat.unpack_of_write hbytes).1,
      fun rest => (TupleFormat.unpack_append_of_write hbytes rest).2⟩
  · exact (Elements.toListOf?_type _).trans (congrArg some (Elements.toList_ofList h))

/-- A measured number, whether it is valid, and a level. -/
def readings : TupleFormat := ⟨.little, [.f64, .bool, .i16]⟩

/-- A number that is none, with a mark of where it comes from. -/
def unmeasured : List Scalar :=
  [.ofBits .f64 0x7FF8000000000123, .ofBool true, .ofBits .i16 0xFFFE]

/-- The format is read from a text with blanks; values that are not valid are read with a byte that
is neither 0 nor 1, and become the byte 0. -/
theorem tuples_and_elements_are_exact_readings :
    (TupleFormat.read (String.ofList ['<', 'd', '?', ' ', 'h']) = .ok readings ∧
      Text.visible ['d', '?', ' ', 'h'] = readings.fields.map ScalarType.tag) ∧
    (readings.write unmeasured = .ok [0x23, 1, 0, 0, 0, 0, 0xF8, 0x7F, 1, 0xFE, 0xFF] ∧
      readings.unpack ([0x23, 1, 0, 0, 0, 0, 0xF8, 0x7F, 1, 0xFE, 0xFF] ++ [7]) =
        .ok unmeasured) ∧
    (readings.size ≤ [0x23, 1, 0, 0, 0, 0, 0xF8, 0x7F, 2, 0xFE, 0xFF, 7].length ∧
      ∃ values, readings.unpack [0x23, 1, 0, 0, 0, 0, 0xF8, 0x7F, 2, 0xFE, 0xFF, 7] = .ok values ∧
        readings.write values = .ok [0x23, 1, 0, 0, 0, 0, 0xF8, 0x7F, 0, 0xFE, 0xFF]) ∧
    ([1, 2].length < readings.size ∧
      readings.unpack [1, 2] = .error (.lengthMismatch ("tuple " ++ readings.text) 11 2)) ∧
    ((∀ value ∈ [Scalar.ofBool true, .ofBool false], value.type = .bool) ∧
      (Elements.ofList .bool [.ofBool true, .ofBool false]).toListOf? .bool =
        some [.ofBool true, .ofBool false]) ∧
    (ScalarType.u8 ≠ .bool ∧
      (Elements.ofList .bool [.ofBool true]).toListOf? .u8 = none) := by
  obtain ⟨-, htexts, hvalues, hbytes, hlists, helements⟩ := tuples_and_elements_are_exact
  have hread : TupleFormat.read (String.ofList ['<', 'd', '?', ' ', 'h']) = .ok readings := by
    rw [TupleFormat.read, String.toList_ofList]
    rfl
  have hwrite : readings.write unmeasured =
      .ok [0x23, 1, 0, 0, 0, 0, 0xF8, 0x7F, 1, 0xFE, 0xFF] := rfl
  have hlong : readings.size ≤ [0x23, 1, 0, 0, 0, 0, 0xF8, 0x7F, 2, 0xFE, 0xFF, 7].length := by
    decide
  have htypes : ∀ value ∈ [Scalar.ofBool true, .ofBool false], value.type = .bool := by decide
  refine ⟨⟨hread, ?_⟩, ⟨hwrite, ((hvalues readings unmeasured).2 _ hwrite).2.2 [7]⟩,
    ⟨hlong, (hbytes readings _).1 hlong⟩, ⟨by decide, (hbytes readings [1, 2]).2 (by decide)⟩,
    ⟨htypes, (hlists .bool _ htypes).2⟩, by decide, (helements _).2 .u8 (by decide)⟩
  simpa [TupleFormat.unmarked] using ((htexts _).2.1 readings hread).2

end Instrument.Wire
