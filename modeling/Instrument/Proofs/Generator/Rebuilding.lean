import Instrument.Proofs.Generator.Values
import Mathlib.Data.List.Nodup

/-!
The function that rebuilds the arguments of an operation does what decoding them does. Main
statement: from every payload and every stream, the program of an operation makes the test, takes
the bytes and sets the fields as decoding does, reads nothing beyond its buffers, and sets each field
once, just if no two arguments of the operation have the same name and its sizes fit.
-/

namespace Instrument.Generator

open Interface (Argument ArgumentKind Description Operation Pack PlacedPack TakesUp TakeUp extents
  kindsAt)
open Wire (ScalarType TupleFormat)

variable {payload : Bytes} {k : Nat} {f : Frame} {found : Arguments} {fields : Fields}

/-! ### Packs -/

/-- Whether a pack is one of those of an operation, in its place in a payload. -/
structure IsPlaced (op : Operation) (payload : Bytes) (p : PlacedPack) (taken : List Argument) :
    Prop where
  takes : TakesUp op.arguments ⟨p.category, p.members⟩ taken
  size : p.size = extents (taken.map (·.kind))
  inside : IsInside payload p
  held : payload.length < UInt64.size

variable {op : Operation} {device : String} {p : PlacedPack} {taken : List Argument}

theorem IsPlaced.members_eq (h : IsPlaced op payload p taken) : members op p = taken :=
  h.takes.members_eq

theorem subset_of_takesUp {arguments : List Argument} {pack : Pack}
    (h : TakesUp arguments pack taken) : taken ⊆ arguments := by
  intro a ha
  rw [← h.members_eq] at ha
  obtain ⟨i, -, hi⟩ := List.mem_filterMap.1 ha
  exact List.mem_of_getElem? hi

/-- A pack is read as decoding does. -/
theorem agrees_readPack (hplaced : IsPlaced op payload p taken)
    (hfields : HasFields fields op.arguments) (hready : IsReady payload k k f)
    (hassigned : f.assigned = found) :
    Agrees (fun f' more => HasRead payload k found more f')
      (runAll fields ((packStatements op k p).flatMap Statement.instructions) f)
      ((CallSite.mk device op).readPack payload p) := by
  have hmembers : members op p = taken := hplaced.members_eq
  have harguments : (CallSite.mk device op).arguments p.members = taken := hplaced.members_eq
  have htaken : HasFields fields taken := fun a ha =>
    hfields a (subset_of_takesUp hplaced.takes ha)
  rw [instructions_packStatements, runAll_append, CallSite.readPack]
  refine agrees_bind (agrees_loading hready hassigned hplaced.inside hplaced.held) ?_
  rintro f' bytes ⟨hlength, hbytes⟩
  rw [hplaced.size] at hlength
  have htakes := hplaced.takes
  simp only [reading, hmembers, harguments]
  generalize p.category = category at htakes
  cases htakes with
  | scalars _ hscalar => exact agrees_unpack hscalar htaken hbytes hlength
  | @single _ a _ hne =>
    have hsize : bytes.length = a.kind.extent := hlength
    have hread := agrees_readSingle ⟨device, op⟩ hne (htaken a (List.mem_singleton_self a))
      hbytes hsize
    -- A pack of one argument is read in a loop that is made once.
    have hloop : Agrees (fun f' more => HasRead payload k found more f')
        (runAll fields ([a].flatMap fun a => (readSingle k (placeOf k p) a).instructions) f')
        ([a].mapM fun a => return (a.name, ← (CallSite.mk device op).readSingle p.size
          (.ofBytes bytes) a) : Exchange Arguments) := by
      rw [List.flatMap_singleton, List.mapM_cons, List.mapM_nil, ← bind_pure (runAll _ _ _),
        hplaced.size, ← hlength]
      simp only [pure_bind, bind_assoc]
      exact agrees_bind hread fun _ _ h => agrees_pure h
    cases hkind : a.kind.category with
    | scalar => exact absurd hkind hne
    | array => exact hloop
    | vector => exact hloop

/-- Packs in a row, in their places in a payload, and the arguments that they take up. -/
inductive ArePlaced (op : Operation) (payload : Bytes) : List PlacedPack → List Argument → Prop
  | nil : ArePlaced op payload [] []
  | cons {p : PlacedPack} {ps : List PlacedPack} {taken rest : List Argument}
      (hfirst : IsPlaced op payload p taken) (hrest : ArePlaced op payload ps rest) :
      ArePlaced op payload (p :: ps) (taken ++ rest)

variable {ps : List PlacedPack} {rest : List Argument}

/-- Packs that take up arguments are placed with them if each has its size and lies in the payload. -/
theorem arePlaced_of_takeUp (h : TakeUp op.arguments (ps.map PlacedPack.pack) rest)
    (hsize : ∀ p ∈ ps, p.size = extents (kindsAt (op.arguments.map (·.kind)) p.members))
    (hinside : ∀ p ∈ ps, IsInside payload p) (hheld : payload.length < UInt64.size) :
    ArePlaced op payload ps rest := by
  induction ps generalizing rest with
  | nil =>
    cases h
    exact .nil
  | cons p ps ih =>
    obtain ⟨hfirst, hrest⟩ := List.forall_mem_cons.1 hsize
    obtain ⟨hin, hins⟩ := List.forall_mem_cons.1 hinside
    cases h with
    | cons htakes htake =>
      refine .cons ⟨htakes, ?_, hin, hheld⟩ (ih htake hrest hins)
      rw [hfirst, ← htakes.kinds_eq]
      rfl

theorem arePlaced_layout (hfits : op.Fits) (hlength : payload.length = op.layout.payloadSize) :
    ArePlaced op payload op.layout.packs op.arguments :=
  arePlaced_of_takeUp (Interface.takeUp_layout op) (fun _ hp => hfits.size_eq hp)
    (fun _ hp _ hregion => hlength ▸ hfits.end_le hp hregion)
    (hlength ▸ Interface.payloadSize_lt _)

/-- Packs in a row are read as decoding does. -/
theorem agrees_readPacks (hplaced : ArePlaced op payload ps rest)
    (hfields : HasFields fields op.arguments) (hready : IsReady payload k k f)
    (hassigned : f.assigned = found) :
    Agrees (fun f' found' => f'.assigned = found')
      (runAll fields ((ps.zipIdx k).flatMap fun (p, i) =>
        (packStatements op i p).flatMap Statement.instructions) f)
      ((CallSite.mk device op).readPacks payload found ps) := by
  induction hplaced generalizing k f found with
  | nil => exact agrees_pure hassigned
  | cons hfirst _ ih =>
    rw [List.zipIdx_cons, List.flatMap_cons, runAll_append, CallSite.readPacks]
    refine agrees_bind (agrees_readPack hfirst hfields hready hassigned) ?_
    rintro f' more hread
    exact ih hread.ready hread.assigned

/-! ### Fields -/

theorem filterMap_field?_unpack (k : Nat) (place : Place) (fields : List (String × ScalarType)) :
    (Statement.instructions (.unpack k place fields)).filterMap Instruction.field? =
      fields.map (·.1) := by
  calc (Statement.instructions (.unpack k place fields)).filterMap Instruction.field?
      = (fields.zipIdx.map fun x => Instruction.assign x.1.1 x.2 (Role.tuple.name k)).filterMap
          Instruction.field? := rfl
    _ = fields.zipIdx.map (·.1.1) := by
        rw [List.filterMap_map, ← List.filterMap_eq_map]
        rfl
    _ = (fields.zipIdx.map (·.1)).map (·.1) := (List.map_map ..).symm
    _ = fields.map (·.1) := by rw [List.zipIdx_map_fst]

theorem filterMap_field?_readSingle (k : Nat) (place : Place) (a : Argument) :
    (readSingle k place a).instructions.filterMap Instruction.field? = [a.name] := by
  cases hkind : a.kind with
  | scalar => simp [readSingle, hkind, filterMap_field?_unpack]
  | array | vector =>
    simp only [readSingle, hkind]
    rfl

/-- The fields that a pack sets are its arguments. -/
theorem filterMap_field?_packStatements (op : Operation) (k : Nat) (p : PlacedPack) :
    ((packStatements op k p).flatMap Statement.instructions).filterMap Instruction.field? =
      (members op p).map (·.name) := by
  have hloading : (loading k p).filterMap Instruction.field? = [] := by
    unfold loading
    split <;> rfl
  have hsingles : ((members op p).flatMap fun a =>
      (readSingle k (placeOf k p) a).instructions).filterMap Instruction.field? =
        (members op p).map (·.name) := by
    simp [List.filterMap_flatMap, filterMap_field?_readSingle, List.map_eq_flatMap]
  rw [instructions_packStatements, List.filterMap_append, hloading, List.nil_append]
  unfold reading
  split
  · rw [filterMap_field?_unpack, List.map_map]
    rfl
  · exact hsingles
  · exact hsingles

theorem flatMap_members (op : Operation) : op.layout.packs.flatMap (members op) = op.arguments := by
  have hall := (Interface.takeUp_layout op).flatMap_members
  rwa [List.flatMap_map] at hall

/-- The instructions of a program are the test of the size, and those of each pack. -/
theorem flatten_program (op : Operation) :
    (program op).flatten =
      Statement.instructions (.checkSize op.layout.payloadSize (!op.layout.hasVector)) ++
        op.layout.packs.zipIdx.flatMap fun (p, i) =>
          (packStatements op i p).flatMap Statement.instructions := by
  simp [program, statements, List.flatMap_def, Function.comp_def]

/-- A program sets the fields of the arguments, in their order. -/
theorem filterMap_field?_program (op : Operation) :
    (program op).flatten.filterMap Instruction.field? = op.arguments.map (·.name) := by
  have hcheck (size : Nat) (bounded : Bool) :
      (Statement.instructions (.checkSize size bounded)).filterMap Instruction.field? = [] := by
    cases bounded <;> rfl
  rw [flatten_program, List.filterMap_append, hcheck, List.nil_append, List.filterMap_flatMap]
  simp only [filterMap_field?_packStatements]
  rw [← List.map_flatMap, ← List.flatMap_map (f := Prod.fst) (g := members op),
    List.zipIdx_map_fst, flatMap_members]

/-! ### Reads -/

theorem filterMap_read?_unpack (k : Nat) (place : Place) (fields : List (String × ScalarType)) :
    (Statement.instructions (.unpack k place fields)).filterMap Instruction.read? =
      [⟨place.buffer, place.offset, TupleFormat.size ⟨.big, fields.map (·.2)⟩⟩] := by
  have hnone : (fields.zipIdx.map fun x => Instruction.assign x.1.1 x.2
      (Role.tuple.name k)).filterMap Instruction.read? = [] := by
    rw [List.filterMap_map]
    exact List.filterMap_eq_nil_iff.2 fun _ _ => rfl
  calc (Statement.instructions (.unpack k place fields)).filterMap Instruction.read?
      = ⟨place.buffer, place.offset, TupleFormat.size ⟨.big, fields.map (·.2)⟩⟩ ::
          (fields.zipIdx.map fun x => Instruction.assign x.1.1 x.2
            (Role.tuple.name k)).filterMap Instruction.read? := rfl
    _ = [⟨place.buffer, place.offset, TupleFormat.size ⟨.big, fields.map (·.2)⟩⟩] := by rw [hnone]

/-- Scalars take as many bytes as the tuple of their types. -/
theorem size_of_scalar {arguments : List Argument}
    (hscalar : ∀ a ∈ arguments, a.kind.category = .scalar) :
    TupleFormat.size ⟨.big, arguments.map (·.kind.element)⟩ = extents (arguments.map (·.kind)) := by
  induction arguments with
  | nil => rfl
  | cons a arguments ih =>
    obtain ⟨ha, hrest⟩ := List.forall_mem_cons.1 hscalar
    have hextent : a.kind.element.width = a.kind.extent := by
      rw [eq_scalar_of_category ha]
      rfl
    calc TupleFormat.size ⟨.big, (a :: arguments).map (·.kind.element)⟩
        = a.kind.element.width + TupleFormat.size ⟨.big, arguments.map (·.kind.element)⟩ := rfl
      _ = extents ((a :: arguments).map (·.kind)) := by
        rw [hextent, ih hrest, List.map_cons, Interface.extents_cons]

theorem filterMap_read?_readSingle (k : Nat) (place : Place) (a : Argument) :
    (readSingle k place a).instructions.filterMap Instruction.read? =
      [⟨place.buffer, place.offset, a.kind.extent⟩] := by
  cases hkind : a.kind with
  | scalar type =>
    rw [readSingle, hkind]
    exact filterMap_read?_unpack k place [(a.name, type)]
  | array | vector =>
    simp only [readSingle, hkind]
    rfl

/-- A pack is read once, and whole. -/
theorem filterMap_read?_packStatements (htakes : TakesUp op.arguments p.pack taken) (k : Nat) :
    ((packStatements op k p).flatMap Statement.instructions).filterMap Instruction.read? =
      [⟨(placeOf k p).buffer, (placeOf k p).offset, extents (taken.map (·.kind))⟩] := by
  have hloading : (loading k p).filterMap Instruction.read? = [] := by
    unfold loading
    split <;> rfl
  have hmembers : members op p = taken := htakes.members_eq
  rw [instructions_packStatements, List.filterMap_append, hloading, List.nil_append, reading,
    hmembers]
  rw [PlacedPack.pack] at htakes
  generalize p.category = category at htakes
  cases htakes with
  | scalars _ hscalar =>
    simp only [filterMap_read?_unpack, List.map_map, Function.comp_def, size_of_scalar hscalar]
  | @single _ a _ hne =>
    have hsingle : ([a].flatMap fun a =>
        (readSingle k (placeOf k p) a).instructions).filterMap Instruction.read? =
          [⟨(placeOf k p).buffer, (placeOf k p).offset, extents ([a].map (·.kind))⟩] := by
      rw [List.flatMap_singleton, filterMap_read?_readSingle]
      rfl
    cases hkind : a.kind.category with
    | scalar => exact absurd hkind hne
    | array => exact hsingle
    | vector => exact hsingle

/-- The buffer that is declared for a pack. -/
def loadedSizes (k : Nat) (p : PlacedPack) : List (String × Nat) :=
  match p.region with
  | .envelope _ => []
  | .reload => [(Role.buffer.name k, p.size)]

theorem filterMap_size?_packStatements (op : Operation) (k : Nat) (p : PlacedPack) :
    ((packStatements op k p).flatMap Statement.instructions).filterMap Instruction.size? =
      loadedSizes k p := by
  have hunpack (place : Place) (fields : List (String × ScalarType)) :
      (Statement.instructions (.unpack k place fields)).filterMap Instruction.size? = [] := by
    rw [List.filterMap_eq_nil_iff]
    intro x hx
    rcases List.mem_cons.1 hx with rfl | hx
    · rfl
    · obtain ⟨_, -, rfl⟩ := List.mem_map.1 hx
      rfl
  have hsingle (place : Place) (a : Argument) :
      (readSingle k place a).instructions.filterMap Instruction.size? = [] := by
    cases hkind : a.kind with
    | scalar => simp [readSingle, hkind, hunpack]
    | array | vector =>
      simp only [readSingle, hkind]
      rfl
  have hreading : (reading op k p).filterMap Instruction.size? = [] := by
    unfold reading
    split
    · exact hunpack _ _
    · simp [List.filterMap_flatMap, hsingle]
    · simp [List.filterMap_flatMap, hsingle]
  rw [instructions_packStatements, List.filterMap_append, hreading, List.append_nil, loading,
    loadedSizes]
  cases p.region <;> rfl

theorem mem_filterMap_size?_program {buffer : String} {size : Nat} :
    (buffer, size) ∈ (program op).flatten.filterMap Instruction.size? ↔
      (buffer = payloadName ∧ size = op.layout.payloadSize) ∨
        ∃ p k, (p, k) ∈ op.layout.packs.zipIdx ∧ (buffer, size) ∈ loadedSizes k p := by
  have hcheck (size : Nat) (bounded : Bool) :
      (Statement.instructions (.checkSize size bounded)).filterMap Instruction.size? =
        [(payloadName, size)] := by
    cases bounded <;> rfl
  rw [flatten_program, List.filterMap_append, hcheck, List.filterMap_flatMap, List.mem_append,
    List.mem_singleton, Prod.mk.injEq, List.mem_flatMap, Prod.exists]
  simp only [filterMap_size?_packStatements]

theorem mem_filterMap_read?_program {span : Span} :
    span ∈ (program op).flatten.filterMap Instruction.read? ↔
      ∃ p k, (p, k) ∈ op.layout.packs.zipIdx ∧ span = ⟨(placeOf k p).buffer, (placeOf k p).offset,
        extents (kindsAt (op.arguments.map (·.kind)) p.members)⟩ := by
  have hcheck (size : Nat) (bounded : Bool) :
      (Statement.instructions (.checkSize size bounded)).filterMap Instruction.read? = [] := by
    cases bounded <;> rfl
  rw [flatten_program, List.filterMap_append, hcheck, List.nil_append, List.filterMap_flatMap,
    List.mem_flatMap, Prod.exists]
  refine exists₂_congr fun p k => and_congr_right fun hp => ?_
  obtain ⟨taken, htakes⟩ := (Interface.takeUp_layout op).exists_takesUp
    (List.mem_map_of_mem (List.fst_mem_of_mem_zipIdx hp))
  simp only [filterMap_read?_packStatements htakes, List.mem_singleton]
  rw [← htakes.kinds_eq]
  rfl

theorem lt_of_mem_filterMap_size? {buffer : String} {size : Nat}
    (h : (buffer, size) ∈ (program op).flatten.filterMap Instruction.size?) :
    size < UInt64.size := by
  rcases mem_filterMap_size?_program.1 h with ⟨-, rfl⟩ | ⟨p, k, hp, hmem⟩
  · exact Interface.payloadSize_lt _
  · unfold loadedSizes at hmem
    split at hmem
    · cases hmem
    · cases List.mem_singleton.1 hmem
      exact Interface.size_lt_of_mem_layout (List.fst_mem_of_mem_zipIdx hp)

theorem eq_payloadSize_of_mem_filterMap_size? {size : Nat}
    (h : (payloadName, size) ∈ (program op).flatten.filterMap Instruction.size?) :
    size = op.layout.payloadSize := by
  rcases mem_filterMap_size?_program.1 h with ⟨-, hsize⟩ | ⟨p, k, -, hmem⟩
  · exact hsize
  · unfold loadedSizes at hmem
    split at hmem
    · cases hmem
    · have hname := congrArg Prod.fst (List.mem_singleton.1 hmem)
      exact absurd hname.symm (name_ne_payloadName .buffer k)

/-- All that a program reads lies in its buffers just if the sizes of the operation fit. -/
theorem readsInside_program_iff : ReadsInside (program op).flatten ↔ op.Fits := by
  constructor
  · intro h
    have hread {p : PlacedPack} (hp : p ∈ op.layout.packs) : ∃ k size,
        ((placeOf k p).buffer, size) ∈ (program op).flatten.filterMap Instruction.size? ∧
          (placeOf k p).offset + extents (kindsAt (op.arguments.map (·.kind)) p.members) ≤ size := by
      obtain ⟨k, hk, rfl⟩ := List.mem_iff_getElem.1 hp
      obtain ⟨size, hsize⟩ := h _ (mem_filterMap_read?_program.2
        ⟨_, k, List.mk_mem_zipIdx_iff_getElem?.2 (List.getElem?_eq_getElem hk), rfl⟩)
      exact ⟨k, size, hsize⟩
    -- a size that is written in the program is below the limit, and an end inside it too
    refine Interface.fits_of_packs (fun p hp => ?_) fun p hp start hregion => ?_
    · obtain ⟨k, size, hsize, hle⟩ := hread hp
      have hlt := lt_of_mem_filterMap_size? hsize
      omega
    · obtain ⟨k, size, hsize, hle⟩ := hread hp
      simp only [placeOf, hregion, Place.buffer, Place.offset] at hsize hle
      rwa [eq_payloadSize_of_mem_filterMap_size? hsize] at hle
  · intro hfits span hspan
    obtain ⟨p, k, hp, rfl⟩ := mem_filterMap_read?_program.1 hspan
    have hmem : p ∈ op.layout.packs := List.fst_mem_of_mem_zipIdx hp
    simp only [mem_filterMap_size?_program, ← hfits.size_eq hmem]
    cases hregion : p.region with
    | envelope start =>
      refine ⟨op.layout.payloadSize, .inl ⟨?_, rfl⟩, ?_⟩
      · rw [placeOf, hregion, Place.buffer]
      · rw [placeOf, hregion, Place.offset]
        exact hfits.end_le hmem hregion
    | reload =>
      refine ⟨p.size, .inr ⟨p, k, hp, ?_⟩, ?_⟩
      · simp only [placeOf, loadedSizes, hregion, Place.buffer, List.mem_singleton]
      · simp only [placeOf, hregion, Place.offset, Nat.zero_add, Nat.le_refl]

theorem hasFields_argumentFields (h : op.IsDescribed) (hnodup : (op.arguments.map (·.name)).Nodup) :
    HasFields (argumentFields op) op.arguments := by
  intro a ha
  have hsame : op.arguments.filter (·.name == a.name) = [a] := by
    have hcongr : op.arguments.filter (·.name == a.name) = op.arguments.filter (· == a) :=
      List.filter_congr fun b hb => by
        rw [Bool.eq_iff_iff, beq_iff_eq, beq_iff_eq]
        exact ⟨fun heq => List.inj_on_of_nodup_map hnodup hb ha heq, fun heq => heq ▸ rfl⟩
    rw [hcongr, List.filter_beq, List.count_eq_one_of_mem (hnodup.of_map _) ha]
    rfl
  have hfilter : (argumentFields op).filter (·.1 == a.name) =
      [(a.name, WireType.classify a.type.toList)] := by
    rw [argumentFields, List.filter_map]
    exact congrArg _ hsame
  rw [Fields.type?, hfilter]
  exact congrArg some (h.classify_type a ha)

/-! ### The whole function -/

/-- The fields of a call: what is decoded before the elements of a buffer, if there is one. -/
def decodeFields (site : CallSite) (payload : Bytes) : Exchange Arguments := do
  let layout := site.operation.layout
  if payload.length ≠ layout.payloadSize then
    throw (.invalidPayloadSize site.device site.operation.name layout.payloadSize payload.length)
  site.readPacks payload [] layout.packs

/-- What is decoded after the fields of a call. -/
def decodeBuffer (site : CallSite) (found : Arguments) : Exchange Arguments := do
  match site.operation.buffer? with
  | none => return found
  | some b => return found ++ [(b.pointer, .buffer (← site.receiveBuffer found b))]

theorem decode_eq (site : CallSite) (payload : Bytes) :
    site.decode site.operation.layout payload =
      decodeFields site payload >>= decodeBuffer site := by
  unfold CallSite.decode decodeFields
  by_cases hlength : payload.length = site.operation.layout.payloadSize
  · simp only [hlength, ne_eq, not_true_eq_false, if_false]
    rfl
  · simp only [hlength, ne_eq, not_false_eq_true, if_true]
    rfl

/-- Whether the program of an operation does what decoding its fields does, from any payload and
with any caller, reads nothing beyond its buffers, and sets every field once. -/
structure Rebuilds (op : Operation) : Prop where
  agrees : ∀ (device : String) (payload : Bytes),
    Agrees (fun f found => f.assigned = found) (rebuild op payload)
      (decodeFields ⟨device, op⟩ payload)
  inside : ReadsInside (program op).flatten
  once : ∀ a ∈ op.arguments,
    ((program op).flatten.filterMap Instruction.field?).count a.name = 1

theorem agrees_rebuild (hfields : HasFields (argumentFields op) op.arguments) (hfits : op.Fits)
    (device : String) (payload : Bytes) :
    Agrees (fun f found => f.assigned = found) (rebuild op payload)
      (decodeFields ⟨device, op⟩ payload) := by
  have hcheck : runAll (argumentFields op) (Statement.instructions
      (.checkSize op.layout.payloadSize (!op.layout.hasVector))) (.ofPayload payload) =
      if payload.length ≠ op.layout.payloadSize then throw .refused
      else pure (.ofPayload payload) := by
    cases !op.layout.hasVector with
    | false => exact runAll_singleton _
    | true => exact runAll_singleton _
  rw [rebuild, flatten_program, runAll_append, hcheck]
  simp only [decodeFields]
  by_cases hlength : payload.length = op.layout.payloadSize
  · simp only [hlength, ne_eq, not_true_eq_false, if_false, pure_bind]
    exact agrees_readPacks (arePlaced_layout hfits hlength) hfields (.ofPayload payload) rfl
  · simp only [ne_eq, hlength, not_false_eq_true, if_true]
    exact agrees_refused _

example : ((rebuild Operation.sweep [1, 2, 3, 0, 4, 0, 0, 0, 0, 0, 0, 0, 0, 1]).run.run
    (fun _ n => n) ⟨[5, 0, 0, 0, 1], true, [], []⟩).1.map (·.assigned) = .ok [
      ("gain", .scalar (.ofBits .u16 258)), ("window", .array ⟨.i16, [3, 0, 4, 0], rfl⟩),
      ("taps", .vector ⟨.u32, [5, 0, 0, 0], rfl⟩), ("last", .scalar (.ofBits .bool 1))] := by
  rfl

/-- What a program and decoding the fields do leaves every caller in the same state. -/
theorem Rebuilds.run (h : Rebuilds op) (device : String) (payload : Bytes)
    (accept : Arguments → Nat → Nat) (c : Dialogue.Channel) :
    Settles (fun f found => f.assigned = found) ((rebuild op payload).run.run accept c).1
        ((decodeFields ⟨device, op⟩ payload).run.run accept c).1 ∧
      ((rebuild op payload).run.run accept c).2 =
        ((decodeFields ⟨device, op⟩ payload).run.run accept c).2 :=
  (h.agrees device payload).run accept c

/-- The text of the function that rebuilds the arguments is that of a program, and decoding a call
is decoding its fields and then its buffer. The program does what decoding the fields does, reads
nothing beyond its buffers, and sets each field once, just if their names differ and no size of the
operation loses anything. -/
theorem rebuilds_iff (h : op.IsDescribed) :
    (∀ d : Description, parseFunction d op = functionText d op (program op)) ∧
      (∀ (device : String) (payload : Bytes), CallSite.decode ⟨device, op⟩ op.layout payload =
        decodeFields ⟨device, op⟩ payload >>= decodeBuffer ⟨device, op⟩) ∧
      (Rebuilds op ↔ (op.arguments.map (·.name)).Nodup ∧ op.Fits) := by
  refine ⟨fun d => parseFunction_eq d op, fun device payload => decode_eq ⟨device, op⟩ payload, ?_⟩
  constructor
  · intro hrebuilds
    refine ⟨List.nodup_iff_count_le_one.2 fun name => ?_,
      readsInside_program_iff.1 hrebuilds.inside⟩
    by_cases hname : name ∈ op.arguments.map (·.name)
    · obtain ⟨a, ha, rfl⟩ := List.mem_map.1 hname
      exact Nat.le_of_eq (filterMap_field?_program op ▸ hrebuilds.once a ha)
    · rw [List.count_eq_zero_of_not_mem hname]
      exact Nat.zero_le 1
  · rintro ⟨hnodup, hfits⟩
    refine ⟨agrees_rebuild (hasFields_argumentFields h hnodup) hfits,
      readsInside_program_iff.2 hfits, fun a ha => ?_⟩
    rw [filterMap_field?_program]
    exact List.count_eq_one_of_mem hnodup (List.mem_map_of_mem ha)

theorem rebuilds_sweep : Operation.sweep.IsDescribed ∧ Rebuilds Operation.sweep :=
  ⟨Operation.isDescribed_sweep, (rebuilds_iff Operation.isDescribed_sweep).2.2.2 ⟨by decide, by decide⟩⟩

/-! ### Names that are given -/

/-- An operation with a parameter that has no name and one that has the name which the first is
given. -/
def pumpSet : Operation where
  name := "set"
  tag := "SET"
  id := 0
  resultType := "void"
  result := .void
  mode := .write
  arguments := [
    ⟨"arg0", "uint8_t", false, false, .scalar .u8⟩,
    ⟨"arg0", "uint32_t", false, false, .scalar .u32⟩]
  buffer? := none
  lengthExpression? := none
  line := 3

/-- The class declares this operation, whose program sets one field twice and has no meaning, while
both values are decoded, and the second is not found under its name. -/
theorem not_rebuilds_pumpSet :
    Interface.Description.ofClass []
        ⟨"Pump", 1, [⟨"set", 3, "void", [⟨none, "uint8_t"⟩, ⟨some "arg0", "uint32_t"⟩], true⟩]⟩ =
      .ok ⟨"Pump", "PUMP", 0, [pumpSet], none⟩ ∧
    ((program pumpSet).flatten.filterMap Instruction.field? = ["arg0", "arg0"]) ∧
    ((decodeFields ⟨"Pump", pumpSet⟩ [7, 0, 0, 0, 9]).run.run (fun _ n => n) ⟨[], true, [], []⟩).1 =
      .ok [("arg0", .scalar (.ofBits .u8 7)), ("arg0", .scalar (.ofBits .u32 9))] ∧
    Arguments.find? [("arg0", .scalar (.ofBits .u8 7)), ("arg0", .scalar (.ofBits .u32 9))] "arg0" =
      some (.scalar (.ofBits .u8 7)) ∧
    ¬ Rebuilds pumpSet := by
  refine ⟨rfl, by decide, by rfl, by decide, fun h => ?_⟩
  have honce := h.once _ (List.mem_cons_self ..)
  revert honce
  decide

end Instrument.Generator
