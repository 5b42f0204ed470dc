import Instrument.Proofs.Envelope
import Instrument.Proofs.Network.Lockstep

/-!
Calls from one end to the other. Main statement: what the client sends for a call of a described
operation is received as just the values that were passed, and neither end waits for the other in
vain.
-/

namespace Instrument

open Dialogue (Completes)
open Interface (Operation)
open Network (HasSent InStep Receiver)
open Network.Client (Part Request Step)
open Network.ClientM (Yields)
open Transcript (ofBytes)

/-! ### Whole commands -/

theorem CallSite.completes_command {site : CallSite} {accept : Arguments → Nat → Nat}
    (header : EnvelopeHeader) {payload : Bytes} {t : Transcript} {result : Except Error Arguments}
    (hsize : header.payloadSize.toNat = payload.length)
    (hmax : payload.length ≤ EnvelopeHeader.maxPayload)
    (h : Completes accept (site.decode site.operation.layout payload).run t result) :
    Completes accept site.command.run (ofBytes (header.toBytes ++ payload) ++ t) result := by
  rw [Transcript.ofBytes_append, List.append_assoc]
  refine Exchange.completes_bind (header.length_toBytes ▸ Exchange.completes_load _ _) ?_
  rw [EnvelopeHeader.ofBytes_toBytes (hsize ▸ hmax), ← List.nil_append (ofBytes payload ++ t)]
  refine Exchange.completes_bind (Exchange.completes_lift _) ?_
  rw [hsize]
  exact Exchange.completes_bind (Exchange.completes_load _ _) h

namespace Network.Client

theorem Request.transfer_mem_allSteps_iff {values : Wire.Elements} {r : Request} :
    Step.transfer values ∈ r.allSteps ↔
      Step.transfer values ∈ r.steps ∨ r.buffer? = some values := by
  cases hpending : r.pending.bytes <;> simp [allSteps, hpending]

/-- Elements that are sent after the envelope are those of a part. -/
theorem Request.mem_of_mem_allSteps_foldl {values : Wire.Elements} {parts : List Part} {r : Request}
    (h : Step.transfer values ∈ (parts.foldl add r).allSteps) :
    Step.transfer values ∈ r.allSteps ∨ Part.vector values ∈ parts ∨
      Part.buffer values ∈ parts := by
  induction parts generalizing r with
  | nil => exact .inl h
  | cons p parts ih =>
    rw [transfer_mem_allSteps_iff]
    rcases ih h with h | h | h
    · rw [transfer_mem_allSteps_iff] at h
      cases p <;> cases hstreaming : r.streaming <;> simp_all [add, put] <;> grind
    · exact .inr (.inl (List.mem_cons_of_mem _ h))
    · exact .inr (.inr (List.mem_cons_of_mem _ h))

theorem size_lt_of_mem_allSteps {parts : List Part} (h : ∀ p ∈ parts, p.IsTransferable)
    {values : Wire.Elements} (hmem : Step.transfer values ∈ (Request.ofParts parts).allSteps) :
    values.size < UInt32.size := by
  rcases Request.mem_of_mem_allSteps_foldl hmem with hnone | hvector | hbuffer
  · simp [Request.allSteps] at hnone
  · exact Part.size_lt_of_le_transferLimit (h _ hvector)
  · exact Part.size_lt_of_le_transferLimit (h _ hbuffer)

/-- Transmitting a request gets the receiver of its transcript to the end. -/
theorem transmit_of_completes {α : Type} {result : α} {device operation : UInt16} {r : Request}
    {c : Client (Receiver α)} {sent : Bytes}
    (henvelope : envelope device operation r.envelope.bytes = .ok sent)
    (hpending : c.connection.pending = []) (hincoming : c.peer.incoming = [])
    (hpeer : c.peer.dialogue.Completes c.peer.accept (ofBytes sent ++ r.transcript) result)
    (htimeout : 0 < c.config.handshakeTimeout)
    (hsize : ∀ values, Step.transfer values ∈ r.allSteps → values.size < UInt32.size) :
    ∃ c', Yields (transmit device operation r) c () c' ∧
      InStep (Receiver.Expects result) [] c' ∧ HasSent (sent ++ r.transcript.bytes) c c' := by
  obtain ⟨b, bytes, rfl⟩ : ∃ b bytes, sent = b :: bytes := by
    obtain ⟨-, rfl⟩ := envelope_eq_ok_iff.1 henvelope
    exact ⟨_, _, rfl⟩
  obtain ⟨ready, t', r', htranscript, hreact, hexpects⟩ :=
    Receiver.expects_of_advance (r := c.peer) (by rwa [hincoming])
  obtain ⟨c', hsend, hstep, hsent⟩ := Network.inStep_of_react hpending hreact hexpects
  rw [← htranscript, ← List.append_nil r.transcript] at hstep
  obtain ⟨c'', hsteps, hend, hsent'⟩ := Network.inStep_forM Receiver.follows_expects hstep
    (hsent.2 ▸ htimeout) hsize
  exact ⟨c'', yields_bind (yields_lift henvelope c) (yields_bind hsend hsteps), hend,
    hsent.trans hsent'⟩

end Network.Client

/-! ### Calls -/

namespace Interface.Operation

/-- What the receiver of a call gets is one entry for each parameter, with the value passed. -/
theorem map_received {op : Operation} (hop : op.IsDescribed) {parts : List Part}
    (hcall : op.IsCall parts) :
    (op.received parts).map (·.1) = op.passedNames ∧
      (op.received parts).map (·.2) = parts.flatMap Part.values := by
  have hlen : op.passedNames.length = (parts.flatMap Part.values).length := by
    cases hcall with
    | plain hnone hparts =>
      simpa [passedNames, hnone, flatMap_values_of_arePassed hparts] using hparts.length_eq
    | buffered hbuffer hparts =>
      obtain ⟨others, length, harguments, -⟩ := hop.exists_isLengthOf hbuffer
      rw [harguments, List.dropLast_concat] at hparts
      simpa [passedNames, hbuffer, harguments, flatMap_values_of_arePassed hparts, Part.values]
        using hparts.length_eq
  rw [received]
  exact ⟨List.map_fst_zip (Nat.le_of_eq hlen), List.map_snd_zip (Nat.le_of_eq hlen.symm)⟩

end Interface.Operation

/-- A call of a described operation round-trips: what the client sends for it decodes to the values
that were passed, under the names of their parameters and in their order; just its bytes are taken,
whatever follows them, and just the counts are acknowledged that the client waits for. A client that
transmits the call to such a receiver comes to its end, and so does the receiver. -/
theorem decode_of_request {op : Operation} (hop : op.IsDescribed) {parts : List Part}
    (hcall : op.IsCall parts) (htransferable : ∀ p ∈ parts, p.IsTransferable)
    (accept : Arguments → Nat → Nat)
    (haccept : ∀ values, Part.buffer values ∈ parts →
      accept (op.received parts).dropLast values.size = values.size)
    (hfits : (Request.ofParts parts).envelope.bytes.length ≤ EnvelopeHeader.maxPayload)
    (device : String) :
    ((op.received parts).map (·.1) = op.passedNames ∧
      (op.received parts).map (·.2) = parts.flatMap Part.values) ∧
    (∀ rest, ∃ asked,
      ((⟨device, op⟩ : CallSite).decode op.layout (Request.ofParts parts).envelope.bytes).run.run
          accept { incoming := (Request.ofParts parts).transcript.bytes ++ rest } =
        (.ok (op.received parts),
          { incoming := rest, acknowledged := (Request.ofParts parts).transcript.counts,
            asked := asked })) ∧
    ∀ (id number : UInt16) (c : Network.Client (Receiver (Except Error Arguments))),
      c.connection.pending = [] → 0 < c.config.handshakeTimeout →
      c.peer = { accept := accept, dialogue := (⟨device, op⟩ : CallSite).command.run } →
      ∃ c' sent, envelope id number (Request.ofParts parts).envelope.bytes = .ok sent ∧
        Yields (Network.Client.transmit id number (Request.ofParts parts)) c () c' ∧
        c'.connection.sent =
          c.connection.sent ++ (sent ++ (Request.ofParts parts).transcript.bytes) ∧
        c'.connection.pending = [] ∧ c'.peer.dialogue = .done (.ok (op.received parts)) ∧
        c'.peer.incoming = [] := by
  obtain ⟨henvelope, htranscript⟩ := Network.Client.Request.ofParts_eq hop hcall
  -- the device reads back exactly what the request writes, without a connection between them
  have hdecode : Completes accept
      ((⟨device, op⟩ : CallSite).decode op.layout (Part.inEnvelope parts)).run
      (Part.afterEnvelope parts) (.ok (op.received parts)) :=
    CallSite.completes_decode hop hcall htransferable haccept
  rw [← henvelope, ← htranscript] at hdecode
  refine ⟨Operation.map_received hop hcall, Dialogue.run_of_completes hdecode, ?_⟩
  -- over a connection: client and receiver take turns along the same transcript
  intro id number c hpending htimeout hpeer
  have hlt := Nat.lt_of_le_of_lt hfits (by decide : EnvelopeHeader.maxPayload < UInt32.size)
  have hcommand := CallSite.completes_command
    ⟨id, number, UInt32.ofNat (Request.ofParts parts).envelope.bytes.length⟩
    (UInt32.toNat_ofNat_of_lt' hlt) hfits hdecode
  have hsent : envelope id number (Request.ofParts parts).envelope.bytes = .ok _ :=
    envelope_eq_ok_iff.2 ⟨hfits, rfl⟩
  obtain ⟨c', hyields, hend, hsends⟩ := Network.Client.transmit_of_completes (c := c) hsent hpending
    (by rw [hpeer]) (by rw [hpeer]; exact hcommand) htimeout
    fun values => Network.Client.size_lt_of_mem_allSteps htransferable
  obtain ⟨hdone, hincoming, hrest⟩ := Network.eq_of_inStep_nil hend
  exact ⟨c', _, hsent, hyields, hsends.1, hrest, hdone, hincoming⟩

/-- A call of the operation `sweep`. -/
def sweepParts : List Part :=
  [.scalar (Wire.Scalar.ofBits .u16 300), .array ⟨.i16, [255, 255, 2, 0], rfl⟩,
    .vector ⟨.u32, [3, 0, 0, 0, 4, 0, 0, 0], rfl⟩, .scalar (Wire.Scalar.ofBits .bool 1)]

/-- Two elements are sent once their number is acknowledged, and the byte that follows the call is
left. -/
theorem decode_of_request_sweep :
    ∃ asked,
      ((⟨"Scope", .sweep⟩ : CallSite).decode Operation.sweep.layout
          [1, 44, 255, 255, 2, 0, 0, 0, 0, 0, 0, 0, 0, 2]).run.run (fun _ n => n)
          { incoming := [3, 0, 0, 0, 4, 0, 0, 0, 1, 99] } =
        (.ok [("gain", .scalar (Wire.Scalar.ofBits .u16 300)),
            ("window", .array ⟨.i16, [255, 255, 2, 0], rfl⟩),
            ("taps", .vector ⟨.u32, [3, 0, 0, 0, 4, 0, 0, 0], rfl⟩),
            ("last", .scalar (Wire.Scalar.ofBits .bool 1))],
          { incoming := [99], acknowledged := [2], asked := asked }) := by
  have hcall : Operation.sweep.IsCall sweepParts :=
    .plain rfl (.cons (.scalar (Wire.Scalar.ofBits .u16 300))
      (.cons (.array ⟨.i16, [255, 255, 2, 0], rfl⟩)
        (.cons (.vector ⟨.u32, [3, 0, 0, 0, 4, 0, 0, 0], rfl⟩)
          (.cons (.scalar (Wire.Scalar.ofBits .bool 1)) .nil)))) (by decide)
  have htransferable : ∀ p ∈ sweepParts, p.IsTransferable := by
    have htaps : 2 ≤ transferLimit .u32 := by decide
    intro p hp
    simp only [sweepParts, List.mem_cons, List.not_mem_nil, or_false] at hp
    rcases hp with rfl | rfl | rfl | rfl
    · trivial
    · trivial
    · exact htaps
    · trivial
  exact (decode_of_request Operation.isDescribed_sweep hcall htransferable (fun _ n => n)
    (fun _ _ => rfl) (by decide) "Scope").2.1 [99]

end Instrument
