import Instrument.Proofs.Call.Refusal
import Instrument.Proofs.Network.RoundTrip

/-!
A client whose transfer is refused. Main statement: whatever peer follows what the client sends, the
call fails at the first transfer for which the peer is ready for another number of elements; the
client has sent what comes before this transfer, and is of no further use.
-/

namespace Instrument.Network.Client

open CallSite (IsRefused)
open ClientM (Yields Fails)
open Wire (Elements)

/-! ### The steps of a request -/

namespace Request

theorem prefix_steps_add (r : Request) (p : Part) : r.steps <+: (r.add p).steps := by
  cases p <;> simp only [add, put] <;> split <;> simp

theorem prefix_steps_foldl_add (r : Request) (parts : List Part) :
    r.steps <+: (parts.foldl add r).steps := by
  induction parts generalizing r with
  | nil => exact List.prefix_rfl
  | cons p parts ih => exact (prefix_steps_add r p).trans (ih (r.add p))

theorem prefix_allSteps (r : Request) : r.steps <+: r.allSteps :=
  (List.prefix_append _ _).trans (List.prefix_append _ _)

theorem buffer?_add {kind : Interface.ArgumentKind} {p : Part} (hp : Part.IsOf kind p)
    (r : Request) : (r.add p).buffer? = r.buffer? := by
  cases hp <;> simp only [add, put] <;> split <;> rfl

/-- Only a buffer is sent after all other parts. -/
theorem buffer?_foldl_add {parts : List Part} (hparts : ∀ p ∈ parts, ∃ kind, Part.IsOf kind p)
    (r : Request) : (parts.foldl add r).buffer? = r.buffer? := by
  induction parts generalizing r with
  | nil => rfl
  | cons p parts ih =>
    obtain ⟨⟨kind, hp⟩, hrest⟩ := List.forall_mem_cons.1 hparts
    rw [List.foldl_cons, ih hrest, buffer?_add hp]

/-- A vector is transferred after what is there, without other transfers in between. -/
theorem steps_add_vector (r : Request) (values : Elements) :
    ∃ between, (r.add (.vector values)).steps = r.steps ++ between ++ [.transfer values] ∧
      (∀ values', Step.transfer values' ∉ between) ∧ (r.add (.vector values)).pending = {} := by
  cases hstreaming : r.streaming with
  | false => exact ⟨[], by simp [add, put, hstreaming], nofun, rfl⟩
  | true =>
    refine ⟨[.bytes _], by simp only [add, put, hstreaming, if_true]; rfl, ?_, rfl⟩
    intro values' hmem
    cases List.mem_singleton.1 hmem

/-- The steps up to the elements of a vector are those that its transcript begins with. -/
theorem exists_steps_vector {before : List Part}
    (hbefore : ∀ q ∈ before, ∃ kind, Part.IsOf kind q) (values : Elements) (after : List Part) :
    ∃ steps rest, (ofParts (before ++ .vector values :: after)).allSteps =
        steps ++ .transfer values :: rest ∧
      steps.flatMap Step.transcript = Part.untilTransfer before (.vector values) ∧
      ∀ values', .transfer values' ∈ steps → .vector values' ∈ before := by
  let r := ofParts before
  obtain ⟨between, hsteps, hbetween, hpending⟩ := steps_add_vector r values
  obtain ⟨rest, hrest⟩ :=
    (prefix_steps_foldl_add (r.add (.vector values)) after).trans (prefix_allSteps _)
  -- no buffer among these parts, so that every step is sent in their order
  have hbuffer : (r.add (.vector values)).buffer? = none :=
    (buffer?_add (.vector values) r).trans (buffer?_foldl_add hbefore {})
  have hall : (r.add (.vector values)).transcript =
      (r.steps ++ between).flatMap Step.transcript ++ .transfer values := by
    rw [transcript_eq, progress, hbuffer, hpending, hsteps]
    simp [Step.transcript]
  have hafter : (r.add (.vector values)).transcript =
      Part.untilTransfer before (.vector values) ++ .transfer values := by
    have hparts : ∀ q ∈ before ++ [.vector values], ∃ kind, Part.IsOf kind q :=
      List.forall_mem_append.2 ⟨hbefore, List.forall_mem_singleton.2 ⟨_, .vector values⟩⟩
    have hfold := (foldl_add hparts {}).2
    rw [List.foldl_concat, Part.afterEnvelope_append_vector hbefore] at hfold
    exact hfold.trans (congrArg _ (List.append_nil _))
  have hfull : ofParts (before ++ .vector values :: after) =
      after.foldl add (r.add (.vector values)) := List.foldl_append
  refine ⟨r.steps ++ between, rest, ?_, List.append_cancel_right (hall.symm.trans hafter), ?_⟩
  · rw [hfull, ← hrest, hsteps, List.append_assoc, List.singleton_append]
  · intro values' hmem
    rcases List.mem_append.1 hmem with hmem | hmem
    · have hsent : .transfer values' ∈ r.allSteps := transfer_mem_allSteps_iff.2 (.inl hmem)
      rcases mem_of_mem_allSteps_foldl hsent with hnone | hvector | hbuffer
      · simp [allSteps] at hnone
      · exact hvector
      · obtain ⟨kind, hkind⟩ := hbefore _ hbuffer
        exact absurd hkind CallSite.not_isOf_buffer
    · exact absurd hmem (hbetween values')

/-- The steps up to the elements of a part that is refused are those that its transcript begins
with. -/
theorem exists_steps {site : CallSite} {accept : Arguments → Nat → Nat} {found : Arguments}
    (hop : site.operation.IsDescribed) {before after : List Part} {p : Part} {values : Elements}
    {ready : Nat} {e : Error} (hcall : site.operation.IsCall (before ++ p :: after))
    (hrefused : IsRefused site accept found p values ready e) :
    ∃ steps rest, (ofParts (before ++ p :: after)).allSteps = steps ++ .transfer values :: rest ∧
      steps.flatMap Step.transcript = Part.untilTransfer before p ∧
      ∀ values', .transfer values' ∈ steps → .vector values' ∈ before := by
  cases hrefused with
  | vector values =>
    have harePassed := CallSite.arePassed_of_isCall_vector hop hcall values (by simp)
    have hparts := Interface.isOf_of_arePassed harePassed
    exact exists_steps_vector (List.forall_mem_append.1 hparts).1 values after
  | buffer values =>
    obtain ⟨b, hbuffer, harePassed, rfl, -⟩ := CallSite.eq_of_isCall_buffer hcall
    obtain ⟨others, length, harguments, hlength⟩ := hop.exists_isLengthOf hbuffer
    rw [harguments, List.dropLast_concat] at harePassed
    have hnone := CallSite.flatMap_transfer_of_arePassed harePassed hlength.noVector
    refine ⟨[], [], ?_, (Part.untilTransfer_of_transfer_nil hnone _).symm, nofun⟩
    rw [ofParts, List.foldl_concat, foldl_add_of_transfer_nil (r := {}) hnone rfl]
    rfl

end Request

/-! ### Calls -/

section Calls

variable {σ : Type} [Peer σ] {P : Transcript → σ → Prop} {device operation : String}
  {parts : List Part} {c c' : Client σ} {e : Error}

omit [Peer σ] in
/-- A client that is not usable makes no call. -/
theorem fails_call_of_not_usable [Link σ] (h : c.usable = false) (device operation : String)
    (parts : List Part) : Fails (call device operation parts) c .connectionUnusable c := by
  refine fails_bind_of_yields (yields_get c) ?_
  simp only [h, Bool.not_false, if_true]
  exact fails_throw _ c

/-- What keeps a request from being sent keeps the call from being made. -/
theorem fails_call (husable : c.usable = true) {entry : Discovery.Entry}
    (hentry : c.table.find? device = some entry) {number : UInt16}
    (hnumber : entry.operationId? (String.ofList (asciiUpper operation.toList)) = some number)
    (h : Fails (transmit entry.id number (Request.ofParts parts)) c e c') (he : e.isFatal = true) :
    Fails (call device operation parts) c e { c' with usable := false } := by
  refine fails_bind_of_yields (yields_get c) ?_
  simp only [husable, Bool.not_true, Bool.false_eq_true, if_false, hentry, hnumber]
  exact fails_bind (fails_checked h he)

/-- Once its envelope is sent, a request fails at the first transfer for which the peer is ready for
another number of elements. -/
theorem fails_transmit_of_refused (hP : Follows P) {device operation : UInt16} {r : Request}
    {sent : Bytes} (henvelope : envelope device operation r.envelope.bytes = .ok sent)
    (hsend : Yields (send sent) c () c') (hsent : HasSent sent c c') {steps rest : List Step}
    {values : Elements} (hsteps : r.allSteps = steps ++ .transfer values :: rest)
    (hsize : ∀ values', .transfer values' ∈ steps → values'.size < UInt32.size) {count : UInt32}
    (hne : count.toNat ≠ values.size) (htimeout : 0 < c.config.handshakeTimeout) {t : Transcript}
    (hstep : InStep P (steps.flatMap Step.transcript ++ .ready count :: t) c') :
    ∃ c'', Fails (transmit device operation r) c (.invalidHandshake count values.size) c'' ∧
      InStep P t c'' ∧
      HasSent (sent ++ Transcript.bytes (steps.flatMap Step.transcript)) c c'' := by
  obtain ⟨c'', hfails, hend, hsent'⟩ :=
    inStep_forM_refused hP rest hstep (hsent.2 ▸ htimeout) hsize hne
  refine ⟨c'', ?_, hend, hsent.trans hsent'⟩
  refine fails_bind_of_yields (yields_lift henvelope c) (fails_bind_of_yields hsend ?_)
  rw [hsteps]
  exact hfails

end Calls

end Instrument.Network.Client
