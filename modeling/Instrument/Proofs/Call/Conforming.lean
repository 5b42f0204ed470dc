import Instrument.Call.Encode
import Instrument.Proofs.Success

/-!
Which replies are sent. Main statement: a reply is encoded just if it conforms to what the operation
declares: nothing, a value of the declared type, or elements of the declared type, of which there
are as many as an array has and no more than a count can tell.
-/

namespace Instrument

open Interface (Operation)
open Success
open Wire (Elements Scalar ScalarType TupleFormat bytesBE bytesLE)

/-- Whether a reply is one that an operation declares, text aside. -/
inductive Reply.Conforms (op : Operation) : Reply → Prop
  | none (hmode : op.mode = .write) : Conforms op .none
  | scalar {value : Scalar} (hmode : op.mode = .read) (hresult : op.result = .scalar value.type) :
      Conforms op (.scalar value)
  | array {values : Elements} (hmode : op.mode = .read)
      (hresult : op.result = .array values.type values.size) : Conforms op (.elements values)
  | vector {values : Elements} (hmode : op.mode = .read) (hresult : op.result = .vector values.type)
      (hsize : values.size < UInt32.size) : Conforms op (.elements values)
  | tuple {values : List Scalar} (hmode : op.mode = .read)
      (hresult : op.result = .tuple (values.map (·.type))) : Conforms op (.tuple values)
  | transfer {values : Elements} (hmode : op.mode = .readArray)
      (hresult : op.result.element? = some values.type) (hsize : values.size < UInt32.size) :
      Conforms op (.elements values)

/-- The bytes that an operation sends for a reply, text aside. -/
inductive Reply.IsSent (op : Operation) : Reply → Option Bytes → Prop
  | none (hmode : op.mode = .write) : IsSent op .none Option.none
  | bool {value : Scalar} (hmode : op.mode = .read) (hresult : op.result = .scalar value.type)
      (htype : value.type = .bool) : IsSent op (.scalar value) (some (bytesLE 4 value.bits))
  | scalar {value : Scalar} (hmode : op.mode = .read) (hresult : op.result = .scalar value.type)
      (htype : value.type ≠ .bool) : IsSent op (.scalar value) (some value.encodeLE)
  | array {values : Elements} (hmode : op.mode = .read)
      (hresult : op.result = .array values.type values.size) :
      IsSent op (.elements values) (some values.raw)
  | vector {values : Elements} (hmode : op.mode = .read) (hresult : op.result = .vector values.type)
      (hsize : values.size < UInt32.size) :
      IsSent op (.elements values) (some (bytesBE 4 values.size ++ values.raw))
  | tuple {fields : List ScalarType} {values : List Scalar} {bytes : Bytes} (hmode : op.mode = .read)
      (hresult : op.result = .tuple fields)
      (hbytes : TupleFormat.write ⟨.big, fields⟩ values = .ok bytes) :
      IsSent op (.tuple values) (some bytes)
  | transfer {values : Elements} (hmode : op.mode = .readArray)
      (hresult : op.result.element? = some values.type) (hsize : values.size < UInt32.size) :
      IsSent op (.elements values) (some (bytesBE 4 values.size ++ values.raw))

/-! ### Tuples -/

namespace Wire.TupleFormat

/-- The fields of a tuple follow one another without gaps. -/
theorem packFields_types (order : ByteOrder) (index : Nat) (values : List Scalar) :
    packFields order index (values.map (·.type)) values =
      .ok (values.flatMap (encodeField order)) := by
  induction values generalizing index with
  | nil => rfl
  | cons value values ih =>
    rw [List.map_cons, packFields, if_pos rfl, ih]
    rfl

theorem length_flatMap_encodeField (order : ByteOrder) (values : List Scalar) :
    (values.flatMap (encodeField order)).length = size ⟨order, values.map (·.type)⟩ := by
  induction values with
  | nil => rfl
  | cons value values ih =>
    rw [List.flatMap_cons, List.length_append, length_encodeField, ih]
    rfl

theorem write_types (order : ByteOrder) (values : List Scalar) :
    write ⟨order, values.map (·.type)⟩ values = .ok (values.flatMap (encodeField order)) := by
  rw [write, pack, if_pos (List.length_map ..).symm, packFields_types]
  rfl

theorem types_of_packFields {order : ByteOrder} {index : Nat} {types : List ScalarType}
    {values : List Scalar} {bytes : Bytes} (hlen : values.length = types.length)
    (h : packFields order index types values = .ok bytes) : values.map (·.type) = types := by
  induction types generalizing index values bytes with
  | nil => rw [List.length_eq_zero_iff.1 hlen, List.map_nil]
  | cons type types ih =>
    cases values with
    | nil => cases hlen
    | cons value values =>
      rw [packFields] at h
      split at h
      · next htype =>
        obtain ⟨more, hmore, -⟩ := map_eq_ok_iff.1 h
        rw [List.map_cons, htype, ih (Nat.succ.inj hlen) hmore]
      · cases h

/-- The values of a tuple are written if they have the types of its fields. -/
theorem write_eq_ok_iff {order : ByteOrder} {fields : List ScalarType} {values : List Scalar} :
    (∃ bytes, write ⟨order, fields⟩ values = .ok bytes) ↔ fields = values.map (·.type) := by
  constructor
  · rintro ⟨bytes, h⟩
    rw [write, pack] at h
    split at h
    · next hlen =>
      cases hpack : packFields order 0 fields values with
      | error fault => rw [hpack] at h; cases h
      | ok packed => exact (types_of_packFields hlen hpack).symm
    · cases h
  · rintro rfl
    exact ⟨_, write_types order values⟩

section

variable {format : TupleFormat} {values : List Scalar} {bytes : Bytes}

theorem eq_flatMap_of_write (h : write format values = .ok bytes) :
    bytes = values.flatMap (encodeField format.order) := by
  obtain ⟨order, fields⟩ := format
  obtain rfl := write_eq_ok_iff.1 ⟨bytes, h⟩
  rw [write_types] at h
  exact (Except.ok.inj h).symm

/-- A tuple that is written has the size of its format, and is read back, whatever follows it. -/
theorem unpack_append_of_write (h : write format values = .ok bytes) (rest : Bytes) :
    bytes.length = format.size ∧ format.unpack (bytes ++ rest) = .ok values := by
  obtain ⟨order, fields⟩ := format
  obtain rfl := write_eq_ok_iff.1 ⟨bytes, h⟩
  obtain rfl := eq_flatMap_of_write h
  refine ⟨length_flatMap_encodeField order values, ?_⟩
  have hlen : values.length = (values.map (·.type)).length := (List.length_map ..).symm
  have hread := unpackFields?_of_packFields hlen (packFields_types order 0 values) rest
  rw [unpack, unpack?, hread]

theorem unpack_of_write (h : write format values = .ok bytes) :
    bytes.length = format.size ∧ format.unpack bytes = .ok values := by
  simpa using unpack_append_of_write h []

end

end Wire.TupleFormat

/-! ### Encoding -/

theorem counted_eq_ok_iff {values : Elements} {out : Bytes} :
    counted values = .ok out ↔
      values.size < UInt32.size ∧ out = bytesBE 4 values.size ++ values.raw := by
  rw [counted]
  split
  · next h => simp [h, eq_comm]
  · next h => simp [h]

theorem isFatal_of_counted {values : Elements} {e : Error} (h : counted values = .error e) :
    e.isFatal = false := by
  rw [counted] at h
  split at h
  · cases h
  · cases h
    rfl

theorem Wire.TupleFormat.isFatal_of_write {format : TupleFormat} {values : List Scalar} {e : Error}
    (h : format.write values = .error e) : e.isFatal = false := by
  rw [write] at h
  cases hpack : format.pack values with
  | ok bytes => rw [hpack] at h; cases h
  | error fault =>
    rw [hpack] at h
    cases h
    cases fault <;> rfl

namespace CallSite

variable {site : CallSite}

theorem isSent_of_encodeValue? {op : Operation} {reply : Reply} {out : Bytes}
    (hmode : op.mode = .read) (h : encodeValue? op.result reply = some (.ok out)) :
    reply.IsSent op (some out) := by
  unfold encodeValue? at h
  -- only a reply of the declared result is encoded
  split at h
  · next type value hresult =>
    split at h
    · cases h
    next htype =>
    obtain rfl := Decidable.not_not.1 htype
    split at h
    · next hbool =>
      cases h
      exact .bool hmode hresult hbool
    · next hne =>
      cases h
      exact .scalar hmode hresult hne
  · next element length values hresult =>
    split at h
    · next hfits =>
      obtain ⟨rfl, rfl⟩ := hfits
      cases h
      exact .array hmode hresult
    · cases h
  · next element values hresult =>
    split at h
    · next htype =>
      subst htype
      obtain ⟨hsize, rfl⟩ := counted_eq_ok_iff.1 (Option.some.inj h)
      exact .vector hmode hresult hsize
    · cases h
  · next fields values hresult => exact .tuple hmode hresult (Option.some.inj h)
  · cases h

/-- What is sent is what the operation declares. -/
theorem isSent_of_encode (hmode : site.operation.mode ≠ .readText) {reply : Reply}
    {out : Option Bytes} (h : site.encode reply = .ok out) : reply.IsSent site.operation out := by
  cases hop : site.operation.mode with
  | write =>
    cases reply <;> simp [encode, hop] at h
    subst h
    exact .none hop
  | read =>
    simp only [encode, hop] at h
    rcases hvalue : encodeValue? site.operation.result reply with _ | (e | bytes)
    · rw [hvalue] at h
      cases h
    · rw [hvalue] at h
      cases h
    · rw [hvalue] at h
      cases h
      exact isSent_of_encodeValue? hop hvalue
  | readText => exact absurd hop hmode
  | readArray =>
    cases reply with
    | elements values =>
      simp only [encode, hop] at h
      split at h
      · next hresult =>
        rw [Option.getD_some] at h
        obtain ⟨bytes, hcounted, rfl⟩ := map_eq_ok_iff.1 h
        obtain ⟨hsize, rfl⟩ := counted_eq_ok_iff.1 hcounted
        exact .transfer hop hresult hsize
      · cases h
    | _ => simp [encode, hop] at h

theorem conforms_of_isSent {op : Operation} {reply : Reply} {out : Option Bytes}
    (h : reply.IsSent op out) : reply.Conforms op := by
  cases h with
  | none hmode => exact .none hmode
  | bool hmode hresult | scalar hmode hresult => exact .scalar hmode hresult
  | array hmode hresult => exact .array hmode hresult
  | vector hmode hresult hsize => exact .vector hmode hresult hsize
  | tuple hmode hresult hbytes =>
    exact .tuple hmode (by rw [hresult, Wire.TupleFormat.write_eq_ok_iff.1 ⟨_, hbytes⟩])
  | transfer hmode hresult hsize => exact .transfer hmode hresult hsize

theorem encode_of_encodeValue? (hmode : site.operation.mode = .read) {reply : Reply} {bytes : Bytes}
    (h : encodeValue? site.operation.result reply = some (.ok bytes)) :
    site.encode reply = .ok (some bytes) := by
  simp only [encode, hmode, h]
  rfl

theorem exists_encode_of_conforms {reply : Reply} (h : reply.Conforms site.operation) :
    ∃ out, site.encode reply = .ok out := by
  cases h with
  | none hmode => exact ⟨none, by simp [encode, hmode]⟩
  | @scalar value hmode hresult =>
    by_cases hbool : value.type = .bool
    · exact ⟨_, encode_of_encodeValue? hmode (by simp only [hresult, encodeValue?, hbool]; rfl)⟩
    · exact ⟨_, encode_of_encodeValue? hmode (by simp [hresult, encodeValue?, hbool]; rfl)⟩
  | array hmode hresult =>
    exact ⟨_, encode_of_encodeValue? hmode (by simp [hresult, encodeValue?]; rfl)⟩
  | vector hmode hresult hsize =>
    have hcounted := counted_eq_ok_iff.2 ⟨hsize, rfl⟩
    exact ⟨_, encode_of_encodeValue? hmode (by simp [hresult, encodeValue?, hcounted]; rfl)⟩
  | @tuple values hmode hresult =>
    obtain ⟨bytes, hbytes⟩ : ∃ bytes,
        TupleFormat.write ⟨.big, values.map (·.type)⟩ values = .ok bytes :=
      Wire.TupleFormat.write_eq_ok_iff.2 rfl
    exact ⟨_, encode_of_encodeValue? hmode (by simp [hresult, encodeValue?, hbytes]; rfl)⟩
  | transfer hmode hresult hsize =>
    exact ⟨_, by simp [encode, hmode, hresult, counted_eq_ok_iff.2 ⟨hsize, rfl⟩, Except.map]; rfl⟩

/-- A reply is sent just if it conforms to the operation. -/
theorem exists_encode_iff (hmode : site.operation.mode ≠ .readText) {reply : Reply} :
    (∃ out, site.encode reply = .ok out) ↔ reply.Conforms site.operation := by
  constructor
  · rintro ⟨out, h⟩
    exact conforms_of_isSent (isSent_of_encode hmode h)
  · exact exists_encode_of_conforms

theorem isFatal_of_encodeValue? {declared : WireType} {reply : Reply} {e : Error}
    (h : encodeValue? declared reply = some (.error e)) : e.isFatal = false := by
  unfold encodeValue? at h
  split at h
  · split at h
    · cases h
    · split at h <;> cases h
  · split at h <;> cases h
  · split at h
    · exact isFatal_of_counted (Option.some.inj h)
    · cases h
  · exact Wire.TupleFormat.isFatal_of_write (Option.some.inj h)
  · cases h

/-- A reply that is refused leaves the stream as it is. -/
theorem isFatal_of_encode {reply : Reply} {e : Error} (h : site.encode reply = .error e) :
    e.isFatal = false := by
  unfold encode at h
  extract_lets op encoded? at h
  cases hencoded : encoded? with
  | none =>
    rw [hencoded] at h
    cases h
    rfl
  | some result =>
    rw [hencoded] at h
    obtain rfl : result = .error e := h
    simp only [encoded?] at hencoded
    split at hencoded
    · cases hencoded
    · obtain ⟨value, hvalue, hmap⟩ := Option.map_eq_some_iff.1 hencoded
      exact isFatal_of_encodeValue? (map_eq_error_iff.1 hmap ▸ hvalue)
    · cases hencoded
    · split at hencoded
      · exact isFatal_of_counted (map_eq_error_iff.1 (Option.some.inj hencoded))
      · cases hencoded
    · cases hencoded

end CallSite

end Instrument
