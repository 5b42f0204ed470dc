import Instrument.Proofs.Call.ParameterNames
import Instrument.Proofs.Network.Request

/-!
Buffers in the order of the declaration. The pointer of a buffer may stand anywhere among the
parameters, and the number of its elements travels where the buffer is added to the request, while
the receiver reads it as the last argument. Main statement: a call whose values are added in the
order in which the parameters are declared is decoded to just these values if no parameter but the
length stands behind the pointer and the sizes of the operation fit, and only then.
-/

namespace Instrument

open Dialogue (Answers Channel)
open Exchange (Ends)
open Interface (Argument ArgumentKind ArePassed Buffer Description IsSource Operation)
open Network.Client (Part Request)
open Wire (Elements Scalar ScalarType)

/-! ### Values for any bytes -/

namespace Wire.Scalar

/-- Bytes are those of a value of any type that takes as many, if each is 0 or 1: a truth value has
no others. -/
theorem encodeBE_ofBits_valueBE {type : ScalarType} {bytes : Bytes}
    (hlength : bytes.length = type.width) (hsmall : ∀ x ∈ bytes, x = 0 ∨ x = 1) :
    (ofBits type (valueBE bytes)).encodeBE = bytes := by
  by_cases hbool : type = .bool
  · subst hbool
    obtain ⟨x, rfl⟩ := List.length_eq_one_iff.1 hlength
    rcases hsmall x (List.mem_singleton_self x) with rfl | rfl <;> decide
  · have hlt := hlength ▸ valueBE_lt bytes
    rw [← ScalarType.cardinality_of_ne_bool hbool] at hlt
    have hbits : (ofBits type (valueBE bytes)).bits = valueBE bytes := by
      simp only [ofBits, if_neg hbool, Nat.mod_eq_of_lt hlt]
    rw [encodeBE, hbits]
    exact bytesBE_valueBE_of_length hlength

end Wire.Scalar

namespace Network.Client.Part

theorem value_injective : Function.Injective value := by
  intro p q h
  cases p <;> cases q <;> cases h <;> rfl

/-- As many bytes as a part has, each 0 or 1, are those of a part of the same kind. -/
theorem exists_isOf_of_length {kind : ArgumentKind} {p : Part} (h : IsOf kind p)
    (hvector : kind.category ≠ .vector) {bytes : Bytes} (hlength : bytes.length = p.packed.length)
    (hsmall : ∀ x ∈ bytes, x = 0 ∨ x = 1) : ∃ q, IsOf kind q ∧ q.packed = bytes := by
  cases h with
  | scalar value =>
    rw [packed, value.length_encodeBE] at hlength
    exact ⟨.scalar (.ofBits value.type (Wire.valueBE bytes)), .scalar (.ofBits value.type _),
      Wire.Scalar.encodeBE_ofBits_valueBE hlength hsmall⟩
  | array values =>
    let others : Elements := ⟨values.type, bytes, by rw [hlength]; exact values.whole⟩
    have hsize : others.size = values.size := by rw [Elements.size, hlength]; rfl
    exact ⟨.array others, hsize ▸ IsOf.array others, rfl⟩
  | vector => exact absurd rfl hvector

end Network.Client.Part

namespace Interface

/-- As many bytes as the values of some arguments have, each 0 or 1, are those of such values. -/
theorem exists_arePassed_of_length {arguments : List Argument} {parts : List Part}
    (h : ArePassed arguments parts) (hvector : ∀ a ∈ arguments, a.kind.category ≠ .vector)
    {bytes : Bytes} (hlength : bytes.length = (parts.flatMap Part.packed).length)
    (hsmall : ∀ x ∈ bytes, x = 0 ∨ x = 1) :
    ∃ parts', ArePassed arguments parts' ∧ parts'.flatMap Part.packed = bytes := by
  induction h generalizing bytes with
  | nil => exact ⟨[], .nil, (List.length_eq_zero_iff.1 hlength).symm⟩
  | @cons a p arguments parts hp _ ih =>
    obtain ⟨hfirst, hrest⟩ := List.forall_mem_cons.1 hvector
    rw [List.flatMap_cons, List.length_append] at hlength
    have htake : (bytes.take p.packed.length).length = p.packed.length := by
      rw [List.length_take]
      omega
    have hdrop : (bytes.drop p.packed.length).length = (parts.flatMap Part.packed).length := by
      rw [List.length_drop]
      omega
    obtain ⟨q, hq, hbytes⟩ := Part.exists_isOf_of_length hp hfirst htake
      fun x hx => hsmall x (List.mem_of_mem_take hx)
    obtain ⟨parts', hparts', hbytes'⟩ := ih hrest hdrop
      fun x hx => hsmall x (List.mem_of_mem_drop hx)
    refine ⟨q :: parts', .cons hq hparts', ?_⟩
    rw [List.flatMap_cons, hbytes, hbytes', List.take_append_drop]

theorem length_packed_pos {arguments : List Argument} {parts : List Part}
    (h : ArePassed arguments parts) (hfilled : ∀ a ∈ arguments, a.kind.type.IsFilled) :
    ∀ p ∈ parts, 0 < p.packed.length := by
  induction h with
  | nil => simp
  | cons hp _ ih =>
    obtain ⟨hfirst, hrest⟩ := List.forall_mem_cons.1 hfilled
    refine List.forall_mem_cons.2 ⟨?_, ih hrest⟩
    rw [Part.length_packed_of_isOf hp]
    generalize Argument.kind _ = kind at hfirst
    cases kind with
    | scalar type => exact type.width_pos
    | array element length => exact Nat.mul_pos element.width_pos hfirst
    | vector element => exact Nat.succ_pos 7

theorem transferable_of_arePassed {arguments : List Argument} {parts : List Part}
    (h : ArePassed arguments parts) (hvector : ∀ a ∈ arguments, a.kind.category ≠ .vector) :
    ∀ p ∈ parts, p.IsTransferable := by
  induction h with
  | nil => simp
  | cons hp _ ih =>
    obtain ⟨hfirst, hrest⟩ := List.forall_mem_cons.1 hvector
    refine List.forall_mem_cons.2 ⟨?_, ih hrest⟩
    generalize hkind : Argument.kind _ = kind at hp hfirst
    cases hp with
    | scalar | array => trivial
    | vector => exact absurd rfl hfirst

/-- Arguments without vectors have values each byte of which is 1. -/
theorem exists_arePassed_ones {arguments : List Argument}
    (hfilled : ∀ a ∈ arguments, a.kind.type.IsFilled)
    (hvector : ∀ a ∈ arguments, a.kind.category ≠ .vector) :
    ∃ parts, ArePassed arguments parts ∧ (∀ x ∈ parts.flatMap Part.packed, x = 1) ∧
      ∀ p ∈ parts, ∃ more, p.packed = 1 :: more := by
  obtain ⟨passed, hpassed, -⟩ := exists_arePassed hfilled
  obtain ⟨parts, hparts, hbytes⟩ : ∃ parts, ArePassed arguments parts ∧
      parts.flatMap Part.packed = List.replicate (passed.flatMap Part.packed).length 1 :=
    exists_arePassed_of_length hpassed hvector List.length_replicate
      fun x hx => .inr (List.eq_of_mem_replicate hx)
  have hones : ∀ x ∈ parts.flatMap Part.packed, x = 1 := fun x hx =>
    List.eq_of_mem_replicate (hbytes ▸ hx)
  refine ⟨parts, hparts, hones, fun p hp => ?_⟩
  obtain ⟨x, more, hx⟩ := List.exists_cons_of_length_pos (length_packed_pos hparts hfilled p hp)
  have hmem : x ∈ parts.flatMap Part.packed :=
    List.mem_flatMap.2 ⟨p, hp, hx ▸ List.mem_cons_self ..⟩
  exact ⟨more, hones x hmem ▸ hx⟩

end Interface

/-! ### What is received -/

/-- Whatever is decoded begins with the values of the arguments whose bytes are in the envelope. -/
theorem CallSite.exists_eq_named_of_run {site : CallSite} {accept : Arguments → Nat → Nat}
    {parts : List Part} {c c' : Channel} {found : Arguments}
    (hrun : (site.decode site.operation.layout (parts.flatMap Part.packed)).run.run accept c =
      (.ok found, c')) (hwritable : c.writable = true) {b : Buffer}
    (hbuffer : site.operation.buffer? = some b) (hfits : site.operation.Fits)
    (hparts : ArePassed site.operation.arguments parts)
    (hvector : ∀ a ∈ site.operation.arguments, a.kind.category ≠ .vector) :
    ∃ values, found = named site.operation.arguments parts ++ [(b.pointer, .buffer values)] := by
  have hnone := flatMap_transfer_of_arePassed hparts hvector
  have henvelope : Part.inEnvelope parts = parts.flatMap Part.packed := by
    simpa [Part.inEnvelope] using Part.inEnvelope_append hnone []
  have hafter : Part.afterEnvelope parts = [] := by
    simpa [Part.afterEnvelope] using Part.afterEnvelope_append hnone []
  have hpacks := completes_readPacks_layout accept hparts hfits
    (Interface.transferable_of_arePassed hparts hvector)
  rw [hafter] at hpacks
  have hreaches := reaches_decode_of_readPacks (payloadSize_layout hparts hfits) hpacks (.refl _)
  have hincoming : c.incoming = ([] ++ [] : Transcript).bytes ++ c.incoming := rfl
  obtain ⟨asked, hrest⟩ := Dialogue.run_of_reaches hreaches hwritable hincoming
  rw [henvelope, hrun, Dialogue.run_eq_runWith, hbuffer] at hrest
  have hends := hrest.trans (Exchange.ends_bind_pure (w := ⟨accept, _⟩) rfl _)
  obtain ⟨values, -, rfl⟩ := Success.map_eq_ok_iff.1 (Prod.mk.inj hends).1.symm
  exact ⟨values, rfl⟩

/-! ### What is sent -/

namespace Network.Client

/-- Some parts and a buffer, which is added after so many of them. -/
def withBuffer (place : Nat) (values : Elements) (parts : List Part) : List Part :=
  parts.take place ++ .buffer values :: parts.drop place

theorem withBuffer_of_le {place : Nat} {parts : List Part} (h : parts.length ≤ place)
    (values : Elements) : withBuffer place values parts = parts ++ [.buffer values] := by
  rw [withBuffer, List.take_of_length_le h, List.drop_of_length_le h]

theorem withBuffer_perm (place : Nat) (values : Elements) (parts : List Part) :
    (withBuffer place values parts).Perm (parts ++ [.buffer values]) :=
  take_append_cons_drop_perm ..

/-- The number of elements travels where the buffer is added, and the elements after all else. -/
theorem Request.ofParts_withBuffer {parts : List Part} (h : parts.flatMap Part.transfer = [])
    (place : Nat) (values : Elements) :
    (Request.ofParts (withBuffer place values parts)).envelope.bytes =
        (withBuffer place values parts).flatMap Part.packed ∧
      (Request.ofParts (withBuffer place values parts)).transcript = .transfer values := by
  rw [← List.take_append_drop place parts, List.flatMap_append, List.append_eq_nil_iff] at h
  rw [withBuffer, Request.ofParts, List.foldl_append, List.foldl_cons,
    Request.foldl_add_of_transfer_nil (r := {}) h.1 rfl,
    Request.foldl_add_of_transfer_nil h.2 rfl, Request.transcript_eq]
  constructor
  · simp [Request.add, Request.put, Wire.Payload.putScalar, Part.packed]
  · simp [Request.add, Request.put, Request.progress]

end Network.Client

namespace Interface.Operation

open Network.Client (withBuffer)

variable {op : Operation} {b : Buffer}

/-- Whether the values of every call with a buffer are decoded to themselves if the buffer is added
after so many of the arguments and nothing is added for its length. The device takes as many
elements as there are. -/
def DeliversAfter (op : Operation) (b : Buffer) (place : Nat) : Prop :=
  ∀ (device : String) (accept : Arguments → Nat → Nat) (parts : List Part) (values : Elements)
    (rest : Bytes), ArePassed op.arguments.dropLast parts → values.type = b.element →
    values.size ≤ transferLimit b.element →
    accept (op.received (parts ++ [.buffer values])).dropLast values.size = values.size →
    let request := Request.ofParts (withBuffer place values parts)
    ∃ asked, (CallSite.decode ⟨device, op⟩ op.layout request.envelope.bytes).run.run accept
        { incoming := request.transcript.bytes ++ rest } =
      (.ok (op.received (parts ++ [.buffer values])),
        { incoming := rest, acknowledged := request.transcript.counts, asked := asked })

/-- A buffer that is added after all arguments is the last part of a call. -/
theorem deliversAfter_of_le (h : op.IsDescribed) (hfits : op.Fits)
    (hbuffer : op.buffer? = some b) {place : Nat} (hplace : op.arguments.length ≤ place + 1) :
    op.DeliversAfter b place := by
  intro device accept parts values rest hparts htype hready haccept
  obtain ⟨others, length, harguments, hlength⟩ := h.exists_isLengthOf hbuffer
  have hcount : parts.length ≤ place := by
    rw [← hparts.length_eq, List.length_dropLast]
    omega
  rw [Network.Client.withBuffer_of_le hcount]
  have hcall : op.IsCall (parts ++ [.buffer values]) := .buffered hbuffer hparts htype hfits
  have hothers : ArePassed others parts := by rwa [harguments, List.dropLast_concat] at hparts
  have htransferable : ∀ p ∈ parts ++ [.buffer values], p.IsTransferable := by
    refine List.forall_mem_append.2 ⟨transferable_of_arePassed hothers hlength.noVector, ?_⟩
    rw [← htype] at hready
    exact List.forall_mem_singleton.2 hready
  obtain ⟨henvelope, htranscript⟩ := Request.ofParts_eq h hcall
  simp only [henvelope, htranscript]
  refine Dialogue.run_of_completes (CallSite.completes_decode h hcall htransferable ?_) rest
  intro values' hmem
  obtain rfl : values' = values := by
    rcases List.mem_append.1 hmem with hmem | hmem
    · obtain ⟨kind, hkind⟩ := isOf_of_arePassed hparts _ hmem
      cases hkind
    · exact Part.buffer.inj (List.mem_singleton.1 hmem)
  exact haccept

/-- What is received tells which values were passed. -/
theorem eq_of_named_eq {arguments : List Argument} {parts parts' : List Part}
    (hparts : ArePassed arguments parts) (hparts' : ArePassed arguments parts')
    (h : CallSite.named arguments parts = CallSite.named arguments parts') : parts = parts' := by
  have hsnd {passed : List Part} (hpassed : ArePassed arguments passed) :
      (CallSite.named arguments passed).map (·.2) = passed.map Part.value :=
    List.map_snd_zip (by simpa using Nat.le_of_eq hpassed.length_eq.symm)
  have hvalues := congrArg (List.map (·.2)) h
  rw [hsnd hparts, hsnd hparts'] at hvalues
  exact List.map_injective_iff.2 Part.value_injective hvalues

section

variable {others : List Argument} {length : Argument}

/-- Wherever the buffer is added, a call has the bytes of all arguments. -/
theorem length_flatMap_withBuffer (harguments : op.arguments = others ++ [length])
    (hlength : IsLengthOf length b others) {parts : List Part} (hparts : ArePassed others parts)
    (place : Nat) (values : Elements) :
    ((withBuffer place values parts).flatMap Part.packed).length =
      extents (op.arguments.map (·.kind)) := by
  have hperm := (Network.Client.withBuffer_perm place values parts).flatMap_right Part.packed
  have hcounted := @CallSite.arePassed_counted ⟨"", op⟩ _ _ _ _ values harguments hlength hparts
  rw [hperm.length_eq, ← length_flatMap_packed hcounted, CallSite.counted, List.flatMap_append,
    List.flatMap_append]
  rfl

/-- A call that is delivered has as many bytes as its size tells. -/
theorem fits_of_deliversAfter (h : op.IsDescribed) (hbuffer : op.buffer? = some b) {place : Nat}
    (hdelivers : op.DeliversAfter b place) : op.Fits := by
  obtain ⟨others, length, harguments, hlength⟩ := h.exists_isLengthOf hbuffer
  have hfilled : ∀ a ∈ others, a.kind.type.IsFilled := fun a ha =>
    h.isFilled_kind a (harguments ▸ List.mem_append_left _ ha)
  obtain ⟨parts, hparts, -⟩ := exists_arePassed hfilled
  have hready : (Elements.uniform b.element 0 0).size ≤ transferLimit b.element := by
    rw [Elements.size_uniform]
    exact Nat.zero_le _
  have hothers : ArePassed op.arguments.dropLast parts := by
    rwa [harguments, List.dropLast_concat]
  obtain ⟨asked, hrun⟩ := hdelivers "" (fun _ n => n) parts (.uniform b.element 0 0) [] hothers rfl
    hready rfl
  obtain ⟨hbytes, -⟩ := Request.ofParts_withBuffer
    (CallSite.flatMap_transfer_of_arePassed hparts hlength.noVector) place
    (.uniform b.element 0 0)
  have hsize := length_flatMap_withBuffer harguments hlength hparts place
    (.uniform b.element 0 0)
  rw [← hbytes] at hsize
  refine fits_of_extents_lt (hsize ▸ ?_)
  by_contra hlarge
  have hne : (Request.ofParts (withBuffer place (.uniform b.element 0 0) parts)).envelope.bytes.length
      ≠ op.layout.payloadSize := fun heq => hlarge (heq ▸ payloadSize_lt _)
  simp only [CallSite.decode, if_pos hne] at hrun
  cases hrun

/-- A call that is delivered has the bytes that it has with the buffer behind the other
arguments. -/
theorem flatMap_packed_of_deliversAfter (hfits : op.Fits) (hbuffer : op.buffer? = some b)
    (harguments : op.arguments = others ++ [length]) (hlength : IsLengthOf length b others)
    {place : Nat} (hdelivers : op.DeliversAfter b place) {parts : List Part}
    (hparts : ArePassed others parts) {values : Elements} (htype : values.type = b.element)
    (hready : values.size ≤ transferLimit b.element)
    (hsmall : ∀ x ∈ (parts ++ [Part.buffer values]).flatMap Part.packed, x = 0 ∨ x = 1) :
    (withBuffer place values parts).flatMap Part.packed =
      (parts ++ [Part.buffer values]).flatMap Part.packed := by
  have hvector : ∀ a ∈ op.arguments, a.kind.category ≠ .vector := by
    rw [harguments]
    refine List.forall_mem_append.2 ⟨hlength.noVector, List.forall_mem_singleton.2 ?_⟩
    rw [hlength.kind]
    decide
  have hperm := (Network.Client.withBuffer_perm place values parts).flatMap_right Part.packed
  have hcounted := @CallSite.arePassed_counted ⟨"", op⟩ _ _ _ _ values harguments hlength hparts
  have hpacked : (CallSite.counted parts values).flatMap Part.packed =
      (parts ++ [Part.buffer values]).flatMap Part.packed := by
    rw [CallSite.counted, List.flatMap_append, List.flatMap_append]
    rfl
  -- the values that the receiver reads from these bytes, whatever they are
  obtain ⟨read, hread, henvelope⟩ := exists_arePassed_of_length hcounted hvector
    (hperm.length_eq.trans (congrArg List.length hpacked).symm)
    fun x hx => hsmall x (hperm.mem_iff.1 hx)
  obtain ⟨hbytes, -⟩ := Request.ofParts_withBuffer
    (CallSite.flatMap_transfer_of_arePassed hparts hlength.noVector) place values
  have hothers : ArePassed op.arguments.dropLast parts := by
    rwa [harguments, List.dropLast_concat]
  obtain ⟨asked, hrun⟩ := hdelivers "" (fun _ n => n) parts values [] hothers htype hready rfl
  simp only [hbytes, ← henvelope] at hrun
  obtain ⟨values', hfound⟩ := CallSite.exists_eq_named_of_run hrun rfl hbuffer hfits hread hvector
  rw [(@CallSite.dropLast_received ⟨"", op⟩ _ _ _ _ values hbuffer harguments hparts).1] at hfound
  have hsame := eq_of_named_eq hcounted hread (List.append_inj' hfound rfl).1
  rw [← henvelope, ← hsame, hpacked]

end

/-- A buffer without elements in front of arguments each byte of which is 1 is not delivered: the
bytes of its length, which are 0, are read before theirs. -/
theorem le_of_deliversAfter (h : op.IsDescribed) (hbuffer : op.buffer? = some b) {place : Nat}
    (hdelivers : op.DeliversAfter b place) : op.arguments.length ≤ place + 1 := by
  by_contra hplace
  obtain ⟨others, length, harguments, hlength⟩ := h.exists_isLengthOf hbuffer
  have hfilled : ∀ a ∈ others, a.kind.type.IsFilled := fun a ha =>
    h.isFilled_kind a (harguments ▸ List.mem_append_left _ ha)
  -- arguments whose bytes are ones, and an empty buffer: its zeros tell where its length went
  obtain ⟨parts, hparts, hones, hfirst⟩ := exists_arePassed_ones hfilled hlength.noVector
  let values : Elements := .uniform b.element 0 0
  have hnone : values.size = 0 := Elements.size_uniform ..
  have hzeros : (Part.buffer values).packed = [0, 0, 0, 0] := by
    rw [Part.packed, hnone]
    rfl
  have hsmall : ∀ x ∈ (parts ++ [Part.buffer values]).flatMap Part.packed, x = 0 ∨ x = 1 := by
    intro x hx
    rw [List.flatMap_append, List.flatMap_singleton, hzeros] at hx
    rcases List.mem_append.1 hx with hx | hx
    · exact .inr (hones x hx)
    · exact .inl (List.eq_of_mem_replicate (n := 4) hx)
  have hfits := fits_of_deliversAfter h hbuffer hdelivers
  have hbytes := flatMap_packed_of_deliversAfter hfits hbuffer harguments hlength hdelivers hparts rfl
    (hnone ▸ Nat.zero_le _) hsmall
  have hcount : place < parts.length := by
    rw [harguments, List.length_append, hparts.length_eq, List.length_singleton] at hplace
    omega
  obtain ⟨p, behind, hbehind⟩ : ∃ p behind, parts.drop place = p :: behind :=
    ⟨_, _, List.drop_eq_getElem_cons hcount⟩
  have hsplit : parts = parts.take place ++ p :: behind := by
    rw [← hbehind, List.take_append_drop]
  obtain ⟨more, hmore⟩ := hfirst p (hsplit ▸ List.mem_append_right _ (List.mem_cons_self ..))
  have hwhole : parts.flatMap Part.packed =
      (parts.take place).flatMap Part.packed ++ (1 :: more ++ behind.flatMap Part.packed) := by
    rw [← hmore, ← List.flatMap_cons, ← List.flatMap_append, ← hsplit]
  rw [withBuffer, hbehind, List.flatMap_append, List.flatMap_cons, List.flatMap_cons,
    List.flatMap_append, List.flatMap_singleton, hwhole, hzeros, hmore, List.append_assoc,
    List.append_cancel_left_eq] at hbytes
  exact absurd (List.cons.inj hbytes).1 (by decide)

/-- Whether the values of every call with a buffer are decoded to themselves if they are added in
the order in which the parameters are declared. -/
def DeliversInOrder (op : Operation) (b : Buffer) (ps : List Header.Parameter) : Prop :=
  op.DeliversAfter b ((ps.take b.position).countP isArgument)

end Interface.Operation

namespace Interface

/-- Calls of an operation with a buffer are delivered in the order of the declaration just if no
argument but the length is declared behind the pointer and no size of the operation loses
anything. -/
theorem deliversInOrder_iff {all : List Pragma} {c : Header.Class} {d : Description}
    (h : Description.ofClass all c = .ok d) {op : Operation} (hop : op ∈ d.operations) {b : Buffer}
    (hbuffer : op.buffer? = some b) :
    ∃ method directive?, IsSource all c method directive? ∧
      operation method op.id directive? = .ok op ∧
      (∃ p, method.parameters[b.position]? = some p ∧ effectiveName b.position p = b.pointer) ∧
      (∃ others length, op.arguments = others ++ [length] ∧ IsLengthOf length b others) ∧
      (op.DeliversInOrder b method.parameters ↔
        (method.parameters.drop b.position).countP isArgument ≤ 1 ∧ op.Fits) := by
  have hdescribed : op.IsDescribed := ⟨all, c, d, h, hop⟩
  obtain ⟨method, directive?, hsource, hdeclared⟩ := exists_isSource h hop
  obtain ⟨before, after, haround⟩ := exists_isAround hdeclared hbuffer
  obtain ⟨p, hp, hname, -⟩ := haround.exists_pointer
  obtain ⟨hbefore, hafter⟩ := haround.countP_isArgument
  have hcount : op.arguments.length = (argumentsOf before).length + (argumentsOf after).length := by
    rw [haround.arguments, List.length_append]
  refine ⟨method, directive?, hsource, hdeclared, ⟨p, hp, hname⟩,
    hdescribed.exists_isLengthOf hbuffer, ?_⟩
  rw [Operation.DeliversInOrder, hbefore, hafter]
  constructor
  · intro hdelivers
    have hle := Operation.le_of_deliversAfter hdescribed hbuffer hdelivers
    exact ⟨by omega, Operation.fits_of_deliversAfter hdescribed hbuffer hdelivers⟩
  · rintro ⟨hone, hfits⟩
    exact Operation.deliversAfter_of_le hdescribed hfits hbuffer (by omega)

theorem deliversInOrder_gaugeLoad :
    gaugeLoad.DeliversInOrder ⟨"marks", 1, "count", .u16, true⟩
      [⟨none, "uint8_t"⟩, ⟨some "marks", "const uint16_t*"⟩, ⟨some "count", "uint32_t"⟩] := by
  obtain ⟨method, directive?, hsource, -, -, -, hdelivers⟩ :=
    deliversInOrder_iff ofClass_gaugeClass (List.mem_singleton_self gaugeLoad) rfl
  obtain rfl := List.mem_singleton.1 hsource.mem
  exact hdelivers.2 ⟨by decide, by decide⟩

/-- A class with a method that takes a buffer in front of another argument. -/
def tankClass : Header.Class :=
  ⟨"Tank", 1, [⟨"fill", 4, "uint8_t", [⟨some "data", "uint8_t*"⟩, ⟨some "mode", "uint8_t"⟩,
    ⟨some "len", "uint32_t"⟩], true⟩]⟩

/-- The operation of this method. -/
def tankFill : Operation where
  name := "fill"
  tag := "FILL"
  id := 0
  resultType := "uint8_t"
  result := .scalar .u8
  mode := .read
  arguments := [⟨"mode", "uint8_t", false, false, .scalar .u8⟩,
    ⟨"len", "uint32_t", false, false, .scalar .u32⟩]
  buffer? := some ⟨"data", 0, "len", .u8, false⟩
  lengthExpression? := none
  line := 4

/-- The class is accepted. A call with three elements and the mode 7 is taken for one with the mode
0 and 775 elements. -/
theorem not_deliversInOrder_tankFill :
    Description.ofClass [⟨3, "write_array arg\x7bdata\x7d arg\x7blen\x7d"⟩] tankClass =
        .ok ⟨"Tank", "TANK", 0, [tankFill], none⟩ ∧
      (Request.ofParts [.buffer ⟨.u8, [1, 2, 3], rfl⟩, .scalar (.ofBits .u8 7)]).envelope.bytes =
        [0, 0, 0, 3, 7] ∧
      (CallSite.decode ⟨"Tank", tankFill⟩ tankFill.layout [0, 0, 0, 3, 7]).run.run (fun _ n => n)
          { incoming := [1, 2, 3] } =
        (.error (.arrayExtract "Tank" "fill"),
          { incoming := [1, 2, 3], acknowledged := [775], asked := [(2, 775)] }) ∧
      ∀ method ∈ tankClass.methods,
        ¬tankFill.DeliversInOrder ⟨"data", 0, "len", .u8, false⟩ method.parameters := by
  have hrun : (CallSite.decode ⟨"Tank", tankFill⟩ tankFill.layout [0, 0, 0, 3, 7]).run.run
      (fun _ n => n) { incoming := [1, 2, 3] } =
        (.error (.arrayExtract "Tank" "fill"),
          { incoming := [1, 2, 3], acknowledged := [775], asked := [(2, 775)] }) := by
    rfl
  refine ⟨by rfl, by rfl, hrun, fun method hmethod hdelivers => ?_⟩
  obtain rfl := List.mem_singleton.1 hmethod
  obtain ⟨asked, hdelivered⟩ := hdelivers "Tank" (fun _ n => n) [.scalar (.ofBits .u8 7)]
    ⟨.u8, [1, 2, 3], rfl⟩ [] (.cons (.scalar (.ofBits .u8 7)) .nil) rfl (by decide) rfl
  cases hrun.symm.trans hdelivered

end Interface

end Instrument
