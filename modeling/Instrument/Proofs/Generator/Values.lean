import Instrument.Proofs.Call.Receiving
import Instrument.Proofs.Generator.Running
import Instrument.Proofs.Interface.Described

/-!
The values in a pack, as the function that rebuilds arguments reads them. Main statements: it gets
the bytes of a pack from where decoding gets them; and scalars in a row, an array and a vector are
read from these bytes and set as decoding does.
-/

namespace Instrument.Generator

open Interface (Argument ArgumentKind Operation PlacedPack extents)
open Wire (Elements PayloadReader Scalar ScalarType TupleFormat)

variable {payload bytes tail : Bytes} {k : Nat} {f : Frame} {found : Arguments} {site : CallSite}
  {fields : Fields}

theorem runAll_append (xs ys : List Instruction) :
    runAll fields (xs ++ ys) f = runAll fields xs f >>= runAll fields ys := List.foldlM_append

theorem runAll_cons (x : Instruction) (xs : List Instruction) :
    runAll fields (x :: xs) f = x.run fields f >>= runAll fields xs := List.foldlM_cons

theorem runAll_nil : runAll fields [] f = pure f := rfl

theorem runAll_singleton (x : Instruction) : runAll fields [x] f = x.run fields f := by
  rw [runAll_cons]
  exact bind_pure _

theorem need_some {α : Type} (a : α) : Script.need (some a) = pure a := rfl

/-! ### The bytes of a pack -/

/-- Where the bytes of a pack are once they are at hand. -/
def placeOf (k : Nat) (p : PlacedPack) : Place :=
  match p.region with
  | .envelope offset => .envelope offset
  | .reload => .loaded k

/-- The instructions that get the bytes of a pack. -/
def loading (k : Nat) (p : PlacedPack) : List Instruction :=
  match p.region with
  | .envelope _ => []
  | .reload => [.load (Role.buffer.name k) p.size]

/-- The instructions that read the arguments of a pack. -/
def reading (op : Operation) (k : Nat) (p : PlacedPack) : List Instruction :=
  match p.category with
  | .scalar => Statement.instructions
      (.unpack k (placeOf k p) ((members op p).map fun a => (a.name, a.kind.element)))
  | .array | .vector =>
    (members op p).flatMap fun a => (readSingle k (placeOf k p) a).instructions

theorem instructions_packStatements (op : Operation) (k : Nat) (p : PlacedPack) :
    (packStatements op k p).flatMap Statement.instructions = loading k p ++ reading op k p := by
  obtain ⟨category, members, region, size⟩ := p
  cases region <;> cases category <;>
    simp [packStatements, loading, reading, placeOf, Statement.instructions, List.flatMap_map]

/-- Whether the bytes of a pack are in a frame, in which some fields are set. -/
structure HasBytes (payload : Bytes) (k : Nat) (found : Arguments) (place : Place) (bytes : Bytes)
    (f : Frame) : Prop where
  ready : IsReady payload (k + 1) k f
  assigned : f.assigned = found
  bytesAt : ∃ tail, f.bytesAt? place.buffer place.offset = some (bytes ++ tail)

/-- Whether a frame is ready for the next pack, with more fields set after those that were. -/
structure HasRead (payload : Bytes) (k : Nat) (found more : Arguments) (f : Frame) : Prop where
  ready : IsReady payload (k + 1) (k + 1) f
  assigned : f.assigned = found ++ more

/-- Whether a pack that travels in the envelope lies in a payload. -/
def IsInside (payload : Bytes) (p : PlacedPack) : Prop :=
  ∀ offset, p.region = .envelope offset → offset + p.size ≤ payload.length

theorem agrees_loading {p : PlacedPack} (hready : IsReady payload k k f)
    (hassigned : f.assigned = found) (hinside : IsInside payload p)
    (hheld : payload.length < UInt64.size) :
    Agrees (fun f' bytes => bytes.length = p.size ∧ HasBytes payload k found (placeOf k p) bytes f')
      (runAll fields (loading k p) f) (site.packBytes payload p) := by
  unfold loading CallSite.packBytes placeOf
  cases hregion : p.region with
  | envelope offset =>
    -- inside the payload the end does not wrap, so that the slice is taken
    have hlength := hinside offset hregion
    simp only [Interface.wrap_of_lt (Nat.lt_of_le_of_lt hlength hheld)]
    rw [if_pos ⟨Nat.le_add_right _ _, hlength⟩, Nat.add_sub_cancel_left]
    refine agrees_pure ⟨?_, hready.mono (Nat.le_succ k) (Nat.le_refl k), hassigned,
      (payload.drop offset).drop p.size, ?_⟩
    · rw [List.length_take, List.length_drop]
      omega
    · have hoffset : offset ≤ payload.length := by omega
      simp only [Frame.bytesAt?, Place.buffer, Place.offset, hready.payload,
        List.take_append_drop]
      exact if_pos hoffset
  | reload =>
    simp only [runAll_cons, Instruction.run, bind_assoc]
    rw [← bind_pure (Exchange.load _ _)]
    refine agrees_bind (agrees_load _ _) ?_
    rintro bs _ ⟨rfl, hlength⟩
    obtain ⟨f', hdeclare, hlocal, hsame, hready'⟩ := hready.declare .buffer (Nat.le_refl k)
      (Nat.lt_succ_self k) (Nat.le_succ k) (Nat.le_refl k) (.bytes bs)
    rw [hdeclare]
    refine agrees_pure ⟨hlength, hready', hsame.trans hassigned, [], ?_⟩
    simp only [Frame.bytesAt?, Place.buffer, Place.offset, hlocal, Nat.zero_le, if_true,
      List.drop_zero, List.append_nil]

/-! ### Scalars -/

theorem decodeBE?_of_le {type : ScalarType} (h : type.width ≤ bytes.length) (tail : Bytes) :
    ∃ value : Scalar, Scalar.decodeBE? type (bytes ++ tail) = some value ∧
      Scalar.decodeBE? type (bytes.take type.width) = some value ∧ value.type = type := by
  have hlength : (bytes.take type.width).length = type.width := by
    rw [List.length_take, Nat.min_eq_left h]
  have hsplit (rest : Bytes) : Wire.split? type.width (bytes.take type.width ++ rest) =
      some (bytes.take type.width, rest) := Wire.split?_eq_some_iff.2 ⟨hlength, rfl⟩
  refine ⟨.ofBits type (Wire.valueBE (bytes.take type.width)), ?_, ?_, rfl⟩
  · have happend : bytes ++ tail = bytes.take type.width ++ (bytes.drop type.width ++ tail) := by
      rw [← List.append_assoc, List.take_append_drop]
    rw [Scalar.decodeBE?, happend, hsplit]
    rfl
  · have hnil := hsplit []
    rw [List.append_nil] at hnil
    rw [Scalar.decodeBE?, hnil]
    rfl

theorem drop_ofBytes (bytes : Bytes) :
    (PayloadReader.ofBytes bytes).buffer.drop (PayloadReader.ofBytes bytes).position = bytes :=
  List.drop_zero

/-- A scalar in front is read alike from a buffer that goes on and by a reader. -/
theorem readScalar?_of_le {r : PayloadReader} (hr : r.buffer.drop r.position = bytes)
    (type : ScalarType) (h : type.width ≤ bytes.length) (tail : Bytes) :
    ∃ value r', Scalar.decodeBE? type (bytes ++ tail) = some value ∧
      r.readScalar? type = some (value, r') ∧ value.type = type ∧
      r'.buffer.drop r'.position = bytes.drop type.width := by
  obtain ⟨value, hbuffer, hfield, htype⟩ := decodeBE?_of_le h tail
  have hlength : (bytes.take type.width).length = type.width := by
    rw [List.length_take, Nat.min_eq_left h]
  obtain ⟨r', htake, hrest⟩ := PayloadReader.take?_of_drop
    (hr.trans (List.take_append_drop type.width bytes).symm)
  rw [hlength] at htake
  refine ⟨value, r', hbuffer, ?_, htype, hrest⟩
  rw [PayloadReader.readScalar?, htake]
  simp [hfield]

theorem eq_scalar_of_category {kind : ArgumentKind} (h : kind.category = .scalar) :
    kind = .scalar kind.element := by
  cases kind with
  | scalar => rfl
  | array | vector => cases h

/-- The names of some arguments with scalar values. -/
def namedScalars (arguments : List Argument) (values : List Scalar) : Arguments :=
  (arguments.map (·.name)).zip (values.map .scalar)

/-- Scalars in a row are read alike from a buffer that goes on and by a reader. -/
theorem readScalars_of_extents (site : CallSite) (size : Nat) {arguments : List Argument}
    (hscalar : ∀ a ∈ arguments, a.kind.category = .scalar) {r : PayloadReader}
    (hr : r.buffer.drop r.position = bytes) (hsize : bytes.length = extents (arguments.map (·.kind)))
    (tail : Bytes) :
    ∃ values : List Scalar,
      TupleFormat.unpackFields? .big (arguments.map (·.kind.element)) (bytes ++ tail) =
        some values ∧
      site.readScalars size r arguments = .ok (namedScalars arguments values) ∧
      values.map (·.type) = arguments.map (·.kind.element) := by
  induction arguments generalizing r bytes with
  | nil => exact ⟨[], rfl, rfl, rfl⟩
  | cons a rest ih =>
    obtain ⟨ha, hrest⟩ := List.forall_mem_cons.1 hscalar
    have hwidth : a.kind.extent = a.kind.element.width := by
      rw [eq_scalar_of_category ha]
      rfl
    -- the bytes are those of the first scalar and those of the others
    have hlength : bytes.length = a.kind.element.width + extents (rest.map (·.kind)) := by
      rw [← hwidth, ← Interface.extents_cons, ← List.map_cons, hsize]
    obtain ⟨value, r', hbuffer, hread, htype, hr'⟩ :=
      readScalar?_of_le hr a.kind.element (by omega) tail
    obtain ⟨values, hunpack, hreads, htypes⟩ :=
      ih hrest hr' (by rw [List.length_drop]; omega)
    refine ⟨value :: values, ?_, ?_, ?_⟩
    · have hdrop : (bytes ++ tail).drop a.kind.element.width =
          bytes.drop a.kind.element.width ++ tail := List.drop_append_of_le_length (by omega)
      simp only [List.map_cons, TupleFormat.unpackFields?, TupleFormat.decodeField?, hbuffer,
        hdrop, hunpack]
      rfl
    · rw [CallSite.readScalars, hread]
      simp only [hreads]
      rfl
    · rw [List.map_cons, List.map_cons, htype, htypes]

/-- Whether the fields of some arguments have their types. -/
def HasFields (fields : Fields) (arguments : List Argument) : Prop :=
  ∀ a ∈ arguments, fields.type? a.name = some a.kind.type

/-- The components of a tuple are set one after the other. -/
theorem runAll_assign {tuple : String} {arguments : List Argument}
    (hscalar : ∀ a ∈ arguments, a.kind.category = .scalar) (hfields : HasFields fields arguments)
    (before : List Scalar) {values : List Scalar}
    (hlocal : f.local? tuple = some (.scalars (before ++ values)))
    (htypes : values.map (·.type) = arguments.map (·.kind.element)) :
    runAll fields (((arguments.map fun a => (a.name, a.kind.element)).zipIdx before.length).map
        fun (field, i) => .assign field.1 i tuple) f =
      pure { f with assigned := f.assigned ++ namedScalars arguments values } := by
  -- the components are taken at their places, so that those before them stay in the tuple
  induction arguments generalizing before values f with
  | nil =>
    obtain rfl := List.map_eq_nil_iff.1 htypes
    simp [runAll_nil, namedScalars]
  | cons a rest ih =>
    obtain ⟨value, values, rfl, htype, hrest⟩ := List.map_eq_cons_iff.1 htypes
    obtain ⟨ha, hscalars⟩ := List.forall_mem_cons.1 hscalar
    obtain ⟨hfield, hfields⟩ := List.forall_mem_cons.1 hfields
    have hkind : a.kind.type = .scalar value.type := by
      rw [htype, eq_scalar_of_category ha]
      rfl
    rw [hkind] at hfield
    have hcomponent : f.component? tuple before.length = some value := by
      simp [Frame.component?, hlocal]
    have hassign : Instruction.run fields f (.assign a.name before.length tuple) =
        pure { f with assigned := f.assigned ++ [(a.name, .scalar value)] } := by
      simp [Instruction.run, hcomponent, Frame.assign?_eq_some hfield, need_some]
    have hlocal' : Frame.local? { f with assigned := f.assigned ++ [(a.name, .scalar value)] }
        tuple = some (.scalars (before ++ [value] ++ values)) := by
      rw [List.append_assoc]
      exact hlocal
    have hlater := ih hscalars hfields (before ++ [value]) hlocal' hrest
    rw [List.length_append, List.length_singleton] at hlater
    simp only [List.map_cons, List.zipIdx_cons, runAll_cons, hassign, pure_bind]
    rw [hlater, List.append_assoc]
    rfl

/-- The scalars of a pack are read and set as decoding does. -/
theorem agrees_unpack {place : Place} {arguments : List Argument} {size : Nat}
    (hscalar : ∀ a ∈ arguments, a.kind.category = .scalar) (hfields : HasFields fields arguments)
    (hbytes : HasBytes payload k found place bytes f)
    (hsize : bytes.length = extents (arguments.map (·.kind))) :
    Agrees (fun f' more => HasRead payload k found more f')
      (runAll fields (Statement.instructions
        (.unpack k place (arguments.map fun a => (a.name, a.kind.element)))) f)
      (.lift (site.readScalars size (.ofBytes bytes) arguments)) := by
  obtain ⟨tail, htail⟩ := hbytes.bytesAt
  obtain ⟨values, hunpack, hreads, htypes⟩ :=
    readScalars_of_extents site size hscalar (drop_ofBytes bytes) hsize tail
  obtain ⟨f', hdeclare, hlocal, hsame, hready⟩ := hbytes.ready.declare .tuple (Nat.le_refl k)
    (Nat.lt_succ_self k) (Nat.le_refl _) (Nat.le_succ k) (.scalars values)
  have hinstruction : Instruction.run fields f (.deserialize (Role.tuple.name k)
      (arguments.map (·.kind.element)) place.buffer place.offset) = pure f' := by
    simp [Instruction.run, htail, hunpack, hdeclare, need_some]
  have hassign := runAll_assign hscalar hfields [] hlocal htypes
  rw [Statement.instructions, List.map_map, runAll_cons, hreads]
  simp only [Function.comp_def, hinstruction, pure_bind]
  rw [List.length_nil] at hassign
  rw [hassign, hsame, hbytes.assigned]
  exact agrees_pure ⟨hready.assign _, rfl⟩

/-! ### Arrays and vectors -/

/-- An array is read and set as decoding does. -/
theorem agrees_extract (site : CallSite) {place : Place} {a : Argument} {element : ScalarType}
    {length : Nat} (hkind : a.kind = .array element length)
    (hfield : fields.type? a.name = some a.kind.type)
    (hbytes : HasBytes payload k found place bytes f) (hsize : bytes.length = a.kind.extent) :
    Agrees (fun f' value => HasRead payload k found [(a.name, value)] f')
      ((Instruction.extract element length place.buffer place.offset a.name).run fields f)
      (site.readSingle bytes.length (.ofBytes bytes) a) := by
  obtain ⟨tail, htail⟩ := hbytes.bytesAt
  rw [hkind] at hfield hsize
  rw [ArgumentKind.type] at hfield
  have hlength : bytes.length = length * element.width := hsize.trans (Nat.mul_comm _ _)
  have hcount : bytes.length / element.width = length := by
    rw [hlength, Nat.mul_div_cancel _ element.width_pos]
  have hwhole : bytes.length % element.width = 0 := by rw [hlength, Nat.mul_mod_left]
  have hvalues : Elements.ofBytes? element bytes = some ⟨element, bytes, hwhole⟩ := dif_pos hwhole
  have hsplit : Wire.split? (length * element.width) (bytes ++ tail) = some (bytes, tail) :=
    Wire.split?_eq_some_iff.2 ⟨hlength, rfl⟩
  have hdrop : (PayloadReader.ofBytes bytes).buffer.drop (PayloadReader.ofBytes bytes).position =
      bytes ++ [] := by rw [List.append_nil, drop_ofBytes]
  obtain ⟨r, htake, -⟩ := PayloadReader.take?_of_drop hdrop
  rw [hlength] at htake
  -- both sides take the same bytes for the elements
  have hread : site.readSingle bytes.length (.ofBytes bytes) a =
      pure (.array ⟨element, bytes, hwhole⟩) := by
    simp only [CallSite.readSingle, hkind, hcount, PayloadReader.readElements?, htake,
      Option.bind_eq_bind, Option.bind_some, hvalues]
    rfl
  have hrun : (Instruction.extract element length place.buffer place.offset a.name).run fields f =
      pure { f with assigned := f.assigned ++ [(a.name, .array ⟨element, bytes, hwhole⟩)] } := by
    simp [Instruction.run, htail, hsplit, hvalues, Frame.assign?_eq_some hfield, need_some]
  rw [hread, hrun, hbytes.assigned]
  exact agrees_pure ⟨(hbytes.ready.mono (Nat.le_refl _) (Nat.le_succ k)).assign _, rfl⟩

/-- The elements of a vector are taken and set as decoding does. -/
theorem agrees_count_receive (site : CallSite) {place : Place} {a : Argument} {element : ScalarType}
    (hkind : a.kind = .vector element) (hfield : fields.type? a.name = some a.kind.type)
    (hbytes : HasBytes payload k found place bytes f) (hsize : bytes.length = a.kind.extent) :
    Agrees (fun f' value => HasRead payload k found [(a.name, value)] f')
      (runAll fields [.count (Role.count.name k) place.buffer place.offset,
        .receive a.name (Role.count.name k)] f)
      (site.readSingle bytes.length (.ofBytes bytes) a) := by
  obtain ⟨tail, htail⟩ := hbytes.bytesAt
  rw [hkind] at hfield hsize
  rw [ArgumentKind.type] at hfield
  obtain ⟨count, r, hbuffer, hread, -, -⟩ :=
    readScalar?_of_le (drop_ofBytes bytes) .u64 (Nat.le_of_eq hsize.symm) tail
  obtain ⟨f', hdeclare, hlocal, hsame, hready⟩ := hbytes.ready.declare .count (Nat.le_refl k)
    (Nat.lt_succ_self k) (Nat.le_refl _) (Nat.le_succ k) (.count count.bits)
  have hrun : (Instruction.count (Role.count.name k) place.buffer place.offset).run fields f =
      pure f' := by
    simp [Instruction.run, htail, hbuffer, hdeclare, need_some]
  have hcount : f'.count? (Role.count.name k) = some count.bits := by simp [Frame.count?, hlocal]
  rw [runAll_cons, hrun, pure_bind, runAll_singleton]
  simp only [CallSite.readSingle, hkind]
  simp only [Instruction.run, hfield, hcount]
  refine agrees_bind (agrees_receive site element hread) ?_
  rintro values _ rfl
  rw [Frame.assign?_eq_some hfield]
  refine agrees_pure ⟨hready.assign _, ?_⟩
  simp only [hsame, hbytes.assigned]

/-- The argument with a pack of its own is read and set as decoding does. -/
theorem agrees_readSingle (site : CallSite) {place : Place} {a : Argument}
    (hne : a.kind.category ≠ .scalar)
    (hfield : fields.type? a.name = some a.kind.type)
    (hbytes : HasBytes payload k found place bytes f) (hsize : bytes.length = a.kind.extent) :
    Agrees (fun f' value => HasRead payload k found [(a.name, value)] f')
      (runAll fields (readSingle k place a).instructions f)
      (site.readSingle bytes.length (.ofBytes bytes) a) := by
  cases hkind : a.kind with
  | scalar => exact absurd (by rw [hkind]; rfl) hne
  | array element length =>
    have hextract := agrees_extract site hkind hfield hbytes hsize
    simpa only [readSingle, hkind, Statement.instructions, runAll_singleton] using hextract
  | vector element =>
    have hreceive := agrees_count_receive site hkind hfield hbytes hsize
    simpa only [readSingle, hkind, Statement.instructions] using hreceive

end Instrument.Generator
