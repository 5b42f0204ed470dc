import Instrument.Proofs.Call.Decoding

/-!
What the client sends for a call. Main statement: the envelope holds all up to the number of
elements of the first vector, and the rest follows in the order in which it is received.
-/

namespace Instrument.Network.Client

open Interface (Operation)
open Wire (Payload)
open Transcript (ofBytes)

/-- What passes in a step: elements are sent only after their number has come back. -/
def Step.transcript : Step → Transcript
  | .bytes bs => ofBytes bs
  | .transfer values => .transfer values

namespace Request

/-- What passes after the envelope. -/
def transcript (r : Request) : Transcript := r.allSteps.flatMap Step.transcript

/-- What passes after the envelope for the parts that are added, before any buffer. -/
def progress (r : Request) : Transcript :=
  r.steps.flatMap Step.transcript ++ ofBytes r.pending.bytes

theorem transcript_eq (r : Request) :
    r.transcript = r.progress ++ r.buffer?.toList.flatMap Transcript.transfer := by
  have hpending : (if r.pending.bytes.isEmpty then [] else [Step.bytes r.pending.bytes]).flatMap
      Step.transcript = ofBytes r.pending.bytes := by
    cases h : r.pending.bytes <;> simp [Step.transcript]
  rw [transcript, allSteps, List.flatMap_append, List.flatMap_append, hpending, List.flatMap_map]
  rfl

/-! ### Adding parts -/

/-- After the first vector the envelope stays, and what is added passes after what is there. -/
theorem add_of_streaming {r : Request} (hr : r.streaming = true) {p : Part}
    (hp : ∃ kind, Part.IsOf kind p) :
    (r.add p).envelope = r.envelope ∧ (r.add p).streaming = true ∧
      (r.add p).buffer? = r.buffer? ∧ (r.add p).progress = r.progress ++ p.transcript := by
  obtain ⟨kind, hp⟩ := hp
  cases hp with
  | scalar value =>
    simp [add, put, hr, progress, Payload.putScalar, Part.transcript, Part.packed, Part.transfer]
  | array values =>
    simp [add, put, hr, progress, Payload.putElements, Part.transcript, Part.packed, Part.transfer]
  | vector values =>
    simp [add, put, hr, progress, Payload.putScalar, Part.transcript, Part.packed, Part.transfer,
      Step.transcript]

theorem foldl_add_of_streaming {r : Request} (hr : r.streaming = true) {parts : List Part}
    (hparts : ∀ p ∈ parts, ∃ kind, Part.IsOf kind p) :
    (parts.foldl add r).envelope = r.envelope ∧ (parts.foldl add r).buffer? = r.buffer? ∧
      (parts.foldl add r).progress = r.progress ++ parts.flatMap Part.transcript := by
  induction parts generalizing r with
  | nil => simp
  | cons p parts ih =>
    obtain ⟨henvelope, hstreaming, hbuffer, hprogress⟩ :=
      add_of_streaming hr (hparts p (List.mem_cons_self ..))
    obtain ⟨henvelope', hbuffer', hprogress'⟩ :=
      ih hstreaming fun q hq => hparts q (List.mem_cons_of_mem _ hq)
    rw [List.foldl_cons, henvelope', hbuffer', hprogress', henvelope, hbuffer, hprogress,
      List.flatMap_cons, List.append_assoc]
    exact ⟨rfl, rfl, rfl⟩

/-- Parts that pass in one piece are added to the envelope until there is a vector. -/
theorem foldl_add_of_transfer_nil {parts : List Part} (h : parts.flatMap Part.transfer = [])
    {r : Request} (hr : r.streaming = false) :
    parts.foldl add r =
      { r with envelope := ⟨r.envelope.bytes ++ parts.flatMap Part.packed⟩ } := by
  induction parts generalizing r with
  | nil => simp
  | cons p parts ih =>
    rw [List.flatMap_cons, List.append_eq_nil_iff] at h
    cases p with
    | vector | buffer => cases h.1
    | scalar value =>
      refine (ih h.2 (r := r.add (.scalar value)) (by simp [add, put, hr])).trans ?_
      simp [add, put, hr, Payload.putScalar, Part.packed]
    | array values =>
      refine (ih h.2 (r := r.add (.array values)) (by simp [add, put, hr])).trans ?_
      simp [add, put, hr, Payload.putElements, Part.packed]

theorem foldl_add {parts : List Part} (hparts : ∀ p ∈ parts, ∃ kind, Part.IsOf kind p)
    (e : Payload) :
    (parts.foldl add { envelope := e }).envelope.bytes = e.bytes ++ Part.inEnvelope parts ∧
      (parts.foldl add { envelope := e }).transcript = Part.afterEnvelope parts := by
  induction parts generalizing e with
  | nil => simp [Part.inEnvelope, Part.afterEnvelope, transcript_eq, progress]
  | cons p parts ih =>
    have hrest : ∀ q ∈ parts, ∃ kind, Part.IsOf kind q :=
      fun q hq => hparts q (List.mem_cons_of_mem _ hq)
    obtain ⟨kind, hp⟩ := hparts p (List.mem_cons_self ..)
    cases hp with
    | scalar value =>
      obtain ⟨henvelope, htranscript⟩ := ih hrest (e.putScalar value)
      refine ⟨henvelope.trans ?_, htranscript⟩
      simp [Payload.putScalar, Part.inEnvelope, Part.packed]
    | array values =>
      obtain ⟨henvelope, htranscript⟩ := ih hrest (e.putElements values)
      refine ⟨henvelope.trans ?_, htranscript⟩
      simp [Payload.putElements, Part.inEnvelope, Part.packed]
    | vector values =>
      obtain ⟨henvelope, hbuffer, hprogress⟩ := foldl_add_of_streaming
        (r := ({ envelope := e } : Request).add (.vector values)) rfl hrest
      rw [List.foldl_cons, transcript_eq, henvelope, hbuffer, hprogress]
      constructor
      · rfl
      · simp [add, put, progress, Part.afterEnvelope, Step.transcript]

end Request

/-- A request for a call of a described operation is the envelope that the receiver decodes and
what it reads after that. -/
theorem Request.ofParts_eq {op : Operation} (hop : op.IsDescribed) {parts : List Part}
    (hcall : op.IsCall parts) :
    (Request.ofParts parts).envelope.bytes = Part.inEnvelope parts ∧
      (Request.ofParts parts).transcript = Part.afterEnvelope parts := by
  cases hcall with
  | plain _ hparts => exact Request.foldl_add (Interface.isOf_of_arePassed hparts) {}
  | @buffered parts b values hbuffer hparts htype =>
    obtain ⟨others, length, harguments, hlength⟩ := hop.exists_isLengthOf hbuffer
    rw [harguments, List.dropLast_concat] at hparts
    have hnone := CallSite.flatMap_transfer_of_arePassed hparts hlength.noVector
    rw [Part.inEnvelope_append hnone, Part.afterEnvelope_append hnone, Request.ofParts,
      List.foldl_append, Request.foldl_add_of_transfer_nil (r := {}) hnone rfl,
      Request.transcript_eq]
    constructor
    · simp [Request.add, Request.put, Payload.putScalar, Part.inEnvelope, Part.packed]
    · simp [Request.add, Request.put, Request.progress, Part.afterEnvelope, Part.transfer]

end Instrument.Network.Client
