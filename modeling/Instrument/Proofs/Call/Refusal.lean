import Instrument.Proofs.Call.Decoding

/-!
Transfers that are refused. Main statement: the receiver of a call takes what comes before the first
transfer that it refuses, acknowledges the number of elements that it is ready for instead, and
gives up with the error of this transfer, without a look at what would follow.
-/

namespace Instrument

open Wire (Elements PayloadReader Scalar)
open Interface (Argument ArePassed Buffer Operation Pack PlacedPack packSize placeInEnvelope)
open Network.Client (Part)
open Dialogue (Completes)
open Transcript (ofBytes)

/-! ### What comes before a transfer -/

namespace Network.Client.Part

/-- What passes after the envelope and before the elements of a part that follows others. -/
def untilTransfer : List Part → Part → Transcript
  | [], _ => []
  | vector values :: ps, p => .transfer values ++ (ps.flatMap transcript ++ ofBytes p.packed)
  | q :: ps, p => q.transfer ++ untilTransfer ps p

/-- The number of elements that a part tells: what its count keeps of it. -/
def announced : Part → Nat
  | scalar _ | array _ => 0
  | vector values => values.size % UInt64.size
  | buffer values => values.size % UInt32.size

theorem untilTransfer_append {parts : List Part} (h : parts.flatMap transfer = [])
    (rest : List Part) (p : Part) : untilTransfer (parts ++ rest) p = untilTransfer rest p := by
  induction parts with
  | nil => rfl
  | cons q qs ih =>
    rw [List.flatMap_cons, List.append_eq_nil_iff] at h
    cases q with
    | vector | buffer => cases h.1
    | scalar | array => exact ih h.2

theorem untilTransfer_of_transfer_nil {parts : List Part} (h : parts.flatMap transfer = [])
    (p : Part) : untilTransfer parts p = [] := by
  rw [← List.append_nil parts, untilTransfer_append h]
  rfl

/-- The elements of a vector follow what comes before them. -/
theorem afterEnvelope_append_vector {before : List Part}
    (hbefore : ∀ q ∈ before, ∃ kind, IsOf kind q) (values : Elements) (after : List Part) :
    afterEnvelope (before ++ vector values :: after) =
      untilTransfer before (vector values) ++ (.transfer values ++ after.flatMap transcript) := by
  induction before with
  | nil => rfl
  | cons q before ih =>
    obtain ⟨⟨kind, hq⟩, hrest⟩ := List.forall_mem_cons.1 hbefore
    cases hq with
    | scalar | array => exact ih hrest
    | vector =>
      simp only [List.cons_append, afterEnvelope, untilTransfer, List.flatMap_append,
        List.flatMap_cons, List.append_assoc, transcript, transfer]

end Network.Client.Part

namespace CallSite

variable {site : CallSite} {accept : Arguments → Nat → Nat}

/-! ### One transfer -/

/-- A transfer is refused: its elements, the number of elements that the receiver is ready for, which
is another than there are, and the error of the call. A vector is refused for its length alone, and
a buffer also as the device says, which is asked with the arguments that are read before. -/
inductive IsRefused (site : CallSite) (accept : Arguments → Nat → Nat) (found : Arguments) :
    Part → Elements → Nat → Error → Prop
  | vector (values : Elements) {ready : Nat}
      (hready : min (values.size % UInt64.size) (transferLimit values.type) = ready)
      (hne : ready ≠ values.size) :
      IsRefused site accept found (.vector values) values ready site.vectorReceive
  | buffer (values : Elements) {ready : Nat}
      (hready : min (accept found (values.size % UInt32.size)) (transferLimit values.type) = ready)
      (hne : ready ≠ values.size) :
      IsRefused site accept found (.buffer values) values ready
        (.device site.device site.operation.name
          (.bufferRefused (values.size % UInt32.size) ready))

namespace IsRefused

variable {found : Arguments} {p : Part} {values : Elements} {ready : Nat} {e : Error}

theorem ready_le (h : IsRefused site accept found p values ready e) :
    ready ≤ transferLimit values.type := by
  cases h with
  | vector _ hready | buffer _ hready => exact hready ▸ Nat.min_le_right _ _

theorem ready_lt (h : IsRefused site accept found p values ready e) : ready < UInt32.size :=
  Part.size_lt_of_le_transferLimit h.ready_le

/-- The receiver is ready for another number of elements than there are. -/
theorem ready_ne (h : IsRefused site accept found p values ready e) : ready ≠ values.size := by
  cases h with
  | vector _ _ hne | buffer _ _ hne => exact hne

theorem transfer_eq (h : IsRefused site accept found p values ready e) :
    p.transfer = .transfer values := by
  cases h <;> rfl

/-- The error is one of the call, not of the connection. -/
theorem isFatal_eq_false (h : IsRefused site accept found p values ready e) :
    e.isFatal = false := by
  cases h <;> rfl

end IsRefused

theorem completes_receiveVector_refused {values : Elements} {ready : Nat}
    (hready : min (values.size % UInt64.size) (transferLimit values.type) = ready)
    (hannounced : ready ≠ (Part.vector values).announced) {r : PayloadReader}
    (hr : r.buffer.drop r.position = (Part.vector values).packed) :
    Completes accept (site.receiveVector values.type r).run [.ready (UInt32.ofNat ready)]
      (.error site.vectorReceive) := by
  rw [← List.append_nil (Part.packed _)] at hr
  obtain ⟨r', hread, _⟩ := PayloadReader.readScalar?_of_drop hr
  have hbits : (Scalar.ofBits .u64 values.size).bits = values.size % UInt64.size := rfl
  have hne : ready ≠ values.size % UInt64.size := hannounced
  rw [Scalar.type_ofBits] at hread
  unfold receiveVector
  rw [hread, ← List.nil_append [_]]
  refine Exchange.completes_bind (Exchange.completes_require _ _) ?_
  simp only [hbits, hready, ne_eq, hne, not_false_eq_true, if_true]
  exact Exchange.completes_bind (Exchange.completes_acknowledge _) (.refl _)

theorem completes_receiveBuffer_refused {found : Arguments} {b : Buffer} {values : Elements}
    {ready : Nat} (htype : values.type = b.element)
    (hfound : found.find? b.length = some (.scalar (Scalar.ofBits .u32 values.size)))
    (hready : min (accept found (values.size % UInt32.size)) (transferLimit values.type) = ready)
    (hannounced : ready ≠ (Part.buffer values).announced) :
    Completes accept (site.receiveBuffer found b).run [.ready (UInt32.ofNat ready)]
      (.error (.device site.device site.operation.name
        (.bufferRefused (values.size % UInt32.size) ready))) := by
  have hne : ready ≠ values.size % UInt32.size := hannounced
  unfold receiveBuffer
  rw [word_of_find? hfound, ← List.nil_append [_]]
  refine Exchange.completes_bind (Exchange.completes_lift _) ?_
  simp only [UInt32.toNat_ofNat', ← htype]
  rw [← List.nil_append [_]]
  refine Exchange.completes_bind (Exchange.completes_consent _ _) ?_
  simp only [hready, ne_eq, hne, not_false_eq_true, if_true]
  exact Exchange.completes_bind (Exchange.completes_acknowledge _) (.refl _)

/-! ### Packs -/

namespace IsLoad

variable {pack : Pack} {arguments : List Argument} {parts : List Part} {values : Elements}
  {ready : Nat}

/-- A vector that follows other parts is not in their packs, and has a pack of its own. -/
theorem cases_of_vector (h : IsLoad site pack arguments parts) {rest before after : List Part}
    (heq : parts ++ rest = before ++ .vector values :: after) :
    (∃ before', before = parts ++ before' ∧ rest = before' ++ .vector values :: after) ∨
      before = [] ∧ parts = [.vector values] ∧ rest = after := by
  rcases List.append_eq_append_iff.1 heq with ⟨before', rfl, hrest⟩ | ⟨inside, hparts, hafter⟩
  · exact .inl ⟨before', rfl, hrest⟩
  cases inside with
  | nil => exact .inl ⟨[], by rw [hparts, List.append_nil, List.append_nil], hafter.symm⟩
  | cons q inside =>
    obtain ⟨rfl, rfl⟩ := List.cons.inj hafter
    cases h with
    | scalars _ hscalar harePassed =>
      have hnone := flatMap_transfer_of_arePassed harePassed (by simp +contextual [hscalar])
      have hmem : Part.vector values ∈ parts := by simp [hparts]
      cases List.flatMap_eq_nil_iff.1 hnone _ hmem
    | single =>
      obtain ⟨rfl, rfl, rfl⟩ | ⟨-, hnil⟩ := List.singleton_eq_append_iff.1 hparts
      · exact .inr ⟨rfl, rfl, rfl⟩
      · cases hnil

theorem category_of_vector (h : IsLoad site pack arguments [.vector values]) :
    pack.category = .vector := by
  by_contra hne
  cases h.transfer_of_ne_vector hne

/-- The pack of a vector that is refused is read, and no more. -/
theorem completes_readPack_refused (h : IsLoad site pack arguments [.vector values])
    (hready : min (values.size % UInt64.size) (transferLimit values.type) = ready)
    (hannounced : ready ≠ (Part.vector values).announced) {payload : Bytes}
    {placed : PlacedPack} {t : Transcript} (hcategory : placed.category = pack.category)
    (hmembers : placed.members = pack.members)
    (hbytes : Completes accept (site.packBytes payload placed).run t
      (.ok ([.vector values].flatMap Part.packed))) :
    Completes accept (site.readPack payload placed).run
      (t ++ [.ready (UInt32.ofNat ready)]) (.error site.vectorReceive) := by
  have hvector := h.category_of_vector
  refine Exchange.completes_bind hbytes ?_
  simp only [hcategory, hmembers, hvector, h.arguments_members, List.flatMap_singleton]
  cases h with
  | scalars => cases hvector
  | @single _ a _ _ _ hpart =>
    generalize hkind : a.kind = kind at hpart
    cases hpart
    have hreceive : Completes accept (site.receiveVector values.type
        (PayloadReader.ofBytes (Part.vector values).packed)).run
        [.ready (UInt32.ofNat ready)] (.error site.vectorReceive) :=
      completes_receiveVector_refused hready hannounced List.drop_zero
    have hsingle : Completes accept (site.readSingle placed.size
        (PayloadReader.ofBytes (Part.vector values).packed) a).run
        [.ready (UInt32.ofNat ready)] (.error site.vectorReceive) := by
      simp only [readSingle, hkind]
      exact Exchange.completes_bind_of_error hreceive
    exact Exchange.completes_bind_of_error (Exchange.completes_bind_of_error hsingle)

theorem untilTransfer_of_vector (h : IsLoad site pack arguments parts)
    (hvector : pack.category = .vector) (rest : List Part) (p : Part) :
    Part.untilTransfer (parts ++ rest) p =
      parts.flatMap Part.transfer ++ (rest.flatMap Part.transcript ++ ofBytes p.packed) := by
  cases h with
  | scalars => cases hvector
  | @single _ a q _ _ hpart =>
    generalize a.kind = kind at hpart hvector
    cases hpart with
    | scalar | array => cases hvector
    | vector values => simp [Part.untilTransfer, Part.transfer]

end IsLoad

namespace AreLoads

variable {packs : List Pack} {arguments : List Argument} {parts before after : List Part}
  {values : Elements} {ready : Nat}

theorem completes_readPacks_reload_refused (h : AreLoads site packs arguments parts)
    (hparts : parts = before ++ .vector values :: after)
    (htransferable : ∀ p ∈ before, p.IsTransferable)
    (hready : min (values.size % UInt64.size) (transferLimit values.type) = ready)
    (hannounced : ready ≠ (Part.vector values).announced) (payload : Bytes) (found : Arguments) :
    Completes accept (site.readPacks payload found (packs.map fun p => ⟨p.category, p.members,
        .reload, packSize (site.operation.arguments.map (·.kind)) p.members⟩)).run
      (before.flatMap Part.transcript ++ ofBytes (Part.vector values).packed ++
        [.ready (UInt32.ofNat ready)]) (.error site.vectorReceive) := by
  induction h generalizing before found with
  | nil => simp at hparts
  | @cons pack packs arguments arguments' parts parts' hfirst hrest ih =>
    rw [List.map_cons]
    rcases hfirst.cases_of_vector hparts with ⟨before', rfl, hparts'⟩ | ⟨rfl, rfl, rfl⟩
    · obtain ⟨hthese, hthose⟩ := List.forall_mem_append.1 htransferable
      rw [List.flatMap_append, hfirst.flatMap_transcript, List.append_assoc, List.append_assoc,
        ← List.append_assoc (before'.flatMap _)]
      exact Exchange.completes_bind (hfirst.completes_readPack hthese rfl rfl
        hfirst.length_packed.symm (hfirst.completes_packBytes_reload payload))
        (ih hparts' hthose _)
    · have hpacked : [Part.vector values].flatMap Part.packed = (Part.vector values).packed :=
        List.append_nil _
      rw [← hpacked]
      exact Exchange.completes_bind_of_error (hfirst.completes_readPack_refused hready
        hannounced rfl rfl (hfirst.completes_packBytes_reload payload))

/-- Of packs in a row those before the first vector that is refused are read. -/
theorem completes_readPacks_refused (h : AreLoads site packs arguments parts)
    (hparts : parts = before ++ .vector values :: after)
    (htransferable : ∀ p ∈ before, p.IsTransferable)
    (hready : min (values.size % UInt64.size) (transferLimit values.type) = ready)
    (hannounced : ready ≠ (Part.vector values).announced) {payload : Bytes} (start : Bytes)
    (hpayload : payload = start ++ Part.inEnvelope parts) (hheld : payload.length < UInt64.size)
    (found : Arguments) :
    Completes accept (site.readPacks payload found (placeInEnvelope
        (site.operation.arguments.map (·.kind)) start.length packs).1).run
      (Part.untilTransfer before (.vector values) ++
        [.ready (UInt32.ofNat ready)]) (.error site.vectorReceive) := by
  induction h generalizing before start found with
  | nil => simp at hparts
  | @cons pack packs arguments arguments' parts parts' hfirst hrest ih =>
    -- the refused vector belongs to a later pack, or is this pack
    rcases hfirst.cases_of_vector hparts with ⟨before', rfl, hparts'⟩ | ⟨rfl, rfl, rfl⟩
    · obtain ⟨hthese, hthose⟩ := List.forall_mem_append.1 htransferable
      have hread (tail : Bytes) (htail : payload = start ++ (parts.flatMap Part.packed ++ tail)) :
          Completes accept (site.readPack payload _).run ([] ++ parts.flatMap Part.transfer)
            (.ok _) :=
        hfirst.completes_readPack hthese rfl rfl hfirst.length_packed.symm
          (hfirst.completes_packBytes_envelope tail htail hheld)
      by_cases hvector : pack.category = .vector
      · rw [(hfirst.envelope_of_vector hvector parts').1] at hpayload
        rw [hfirst.untilTransfer_of_vector hvector, List.append_assoc]
        simp only [placeInEnvelope, hvector, if_true]
        exact Exchange.completes_bind (hvector ▸ hread [] (by simpa using hpayload))
          (hrest.completes_readPacks_reload_refused hparts' hthose hready hannounced payload _)
      · have hnone := hfirst.transfer_of_ne_vector hvector
        rw [Part.inEnvelope_append hnone] at hpayload
        have hreads := ih hparts' hthose (start ++ parts.flatMap Part.packed)
          (by rw [hpayload, List.append_assoc]) (found ++ named arguments parts)
        rw [List.length_append, hfirst.length_packed] at hreads
        have hoffset := offset_lt hfirst.length_packed hpayload hheld
        simp only [placeInEnvelope, hvector, if_false, Interface.wrap_of_lt hoffset]
        have hfirstRead := hread _ hpayload
        rw [hnone, List.append_nil] at hfirstRead
        rw [Part.untilTransfer_append hnone, ← List.nil_append (Part.untilTransfer _ _),
          List.append_assoc]
        exact Exchange.completes_bind hfirstRead hreads
    · have hvector := hfirst.category_of_vector
      rw [(hfirst.envelope_of_vector hvector parts').1] at hpayload
      simp only [placeInEnvelope, hvector, if_true]
      refine Exchange.completes_bind_of_error (hvector ▸
        hfirst.completes_readPack_refused hready hannounced rfl rfl
          (hfirst.completes_packBytes_envelope [] ?_ hheld))
      rw [hpayload, List.append_nil]

end AreLoads

/-! ### Calls -/

theorem not_isOf_buffer {kind : Interface.ArgumentKind} {values : Elements} :
    ¬ Part.IsOf kind (.buffer values) := by
  intro h
  cases h

/-- A buffer stands at the end of a call. -/
theorem eq_of_isCall_buffer {op : Operation} {before after : List Part} {values : Elements}
    (h : op.IsCall (before ++ .buffer values :: after)) :
    ∃ b, op.buffer? = some b ∧ ArePassed op.arguments.dropLast before ∧ after = [] ∧
      values.type = b.element := by
  generalize hparts : before ++ .buffer values :: after = parts at h
  cases h with
  | plain _ harePassed =>
    obtain ⟨kind, hkind⟩ := Interface.isOf_of_arePassed harePassed (.buffer values)
      (by simp [← hparts])
    exact absurd hkind not_isOf_buffer
  | @buffered parts b values' hbuffer harePassed htype =>
    rcases List.eq_nil_or_concat after with rfl | ⟨after', q, rfl⟩
    · obtain ⟨rfl, hvalues⟩ := List.append_inj' hparts rfl
      cases hvalues
      exact ⟨b, hbuffer, harePassed, rfl, htype⟩
    · rw [List.concat_eq_append, ← List.cons_append, ← List.append_assoc] at hparts
      obtain ⟨rfl, -⟩ := List.append_inj' hparts rfl
      obtain ⟨kind, hkind⟩ := Interface.isOf_of_arePassed harePassed (.buffer values) (by simp)
      exact absurd hkind not_isOf_buffer

/-- A vector is passed only in a call without a buffer. -/
theorem arePassed_of_isCall_vector {op : Operation} (hop : op.IsDescribed) {parts : List Part}
    (h : op.IsCall parts) (values : Elements) (hmem : .vector values ∈ parts) :
    ArePassed op.arguments parts := by
  cases h with
  | plain _ harePassed => exact harePassed
  | @buffered parts b _ hbuffer harePassed htype =>
    obtain ⟨others, length, harguments, hlength⟩ := hop.exists_isLengthOf hbuffer
    rw [harguments, List.dropLast_concat] at harePassed
    have hnone := flatMap_transfer_of_arePassed harePassed hlength.noVector
    have hvector : Part.vector values ∈ parts := by simpa using hmem
    cases List.flatMap_eq_nil_iff.1 hnone _ hvector

/-- A call whose first parts are transferred and whose next part is refused is read as far as the
acknowledgement of that part, and fails. -/
theorem completes_decode_refused (hop : site.operation.IsDescribed) {before after : List Part}
    {p : Part} {values : Elements} {ready : Nat} {e : Error}
    (hcall : site.operation.IsCall (before ++ p :: after))
    (htransferable : ∀ q ∈ before, q.IsTransferable)
    (hrefused : IsRefused site accept (site.operation.received (before ++ p :: after)).dropLast p
      values ready e) (hannounced : ready ≠ p.announced) :
    Completes accept
      (site.decode site.operation.layout (Part.inEnvelope (before ++ p :: after))).run
      (Part.untilTransfer before p ++ [.ready (UInt32.ofNat ready)]) (.error e) := by
  have hfits := hcall.fits
  cases hrefused with
  | vector values hready =>
    have harePassed := arePassed_of_isCall_vector hop hcall values (by simp)
    unfold decode
    rw [if_neg (by simp [payloadSize_layout harePassed hfits])]
    exact Exchange.completes_bind_of_error
      ((areLoads_packs harePassed hfits).completes_readPacks_refused rfl htransferable hready
        hannounced [] rfl (length_inEnvelope_lt harePassed hfits) [])
  | buffer values hready =>
    obtain ⟨b, hbuffer, harePassed, rfl, htype⟩ := eq_of_isCall_buffer hcall
    obtain ⟨others, length, harguments, hlength⟩ := hop.exists_isLengthOf hbuffer
    rw [harguments, List.dropLast_concat] at harePassed
    rw [(dropLast_received values hbuffer harguments harePassed).2] at hready
    rw [Part.untilTransfer_of_transfer_nil
      (flatMap_transfer_of_arePassed harePassed hlength.noVector), List.nil_append]
    have hfound := find?_length values harguments hlength harePassed
    exact completes_decode_of_receiveBuffer hbuffer harguments hlength harePassed hfits
      htransferable (completes_receiveBuffer_refused htype hfound hready hannounced)

theorem exists_elements (type : Wire.ScalarType) (n : Nat) :
    ∃ values : Elements, values.type = type ∧ values.size = n := by
  have hlen : (List.replicate (n * type.width) (0 : UInt8)).length = n * type.width :=
    List.length_replicate
  refine ⟨⟨type, _, by rw [hlen, Nat.mul_mod_left]⟩, rfl, ?_⟩
  exact Nat.div_eq_of_eq_mul_left type.width_pos hlen

/-- A count has 32 bits. A buffer of which it tells the number `ready` is taken for one of as many
elements: they are acknowledged and awaited, and the call does not fail. -/
theorem completes_decode_of_announced (hop : site.operation.IsDescribed) {before after : List Part}
    {values : Elements} {ready : Nat} {e : Error}
    (hcall : site.operation.IsCall (before ++ .buffer values :: after))
    (htransferable : ∀ q ∈ before, q.IsTransferable)
    (hrefused : IsRefused site accept
      (site.operation.received (before ++ .buffer values :: after)).dropLast (.buffer values)
      values ready e) (hannounced : ready = (Part.buffer values).announced) :
    ∃ raw args, raw.length = ready * values.type.width ∧ Completes accept
      (site.decode site.operation.layout (Part.inEnvelope (before ++ .buffer values :: after))).run
      (.ready (UInt32.ofNat ready) :: ofBytes raw) (.ok args) := by
  cases hrefused with
  | buffer values hready =>
    obtain ⟨b, hbuffer, harePassed, rfl, htype⟩ := eq_of_isCall_buffer hcall
    obtain ⟨others, length, harguments, hlength⟩ := hop.exists_isLengthOf hbuffer
    rw [harguments, List.dropLast_concat] at harePassed
    rw [(dropLast_received values hbuffer harguments harePassed).2] at hready
    -- The receiver cannot tell the buffer from one with as many elements as it is told.
    obtain ⟨taken, hsame, hsize⟩ := exists_elements values.type ready
    have hcount : Scalar.ofBits .u32 values.size = Scalar.ofBits .u32 taken.size := by
      rw [hsize, hannounced, Scalar.ofBits, Scalar.ofBits, Scalar.mk.injEq]
      exact ⟨rfl, (Nat.mod_mod values.size UInt32.size).symm⟩
    have hfound := find?_length values harguments hlength harePassed
    rw [hcount] at hfound
    have hasked : values.size % UInt32.size = taken.size := (hsize.trans hannounced).symm
    rw [hasked, ← hsame] at hready
    have hcompletes := completes_decode_of_receiveBuffer hbuffer harguments hlength harePassed
      hcall.fits htransferable
      (completes_receiveBuffer (hsame.trans htype) hfound (hready.trans hsize.symm))
    rw [Transcript.transfer, hsize] at hcompletes
    exact ⟨taken.raw, _, by rw [taken.length_raw, hsame, hsize], hcompletes⟩

end CallSite

end Instrument
