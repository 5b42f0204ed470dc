import Instrument.Network.Session
import Instrument.Proofs.Network.Request
import Instrument.Proofs.Network.Yields

/-!
A client that sends a call and the receiver of the call, each as far as it gets. Main statement: if
both follow the same transcript, neither waits for the other in vain: at the end the receiver has
its result, every byte that was sent is taken, and every number that was acknowledged is read.
-/

namespace Instrument

open Transcript (ofBytes)

/-! ### A receiver that waits -/

theorem Transcript.eq_append_of_ofBytes {bs taken : Bytes} {t : Transcript}
    (h : ofBytes bs = ofBytes taken ++ t) : ∃ more, bs = taken ++ more ∧ t = ofBytes more := by
  have hbyte : Function.Injective Event.byte := fun _ _ h => Event.byte.inj h
  obtain ⟨before, more, rfl, hbefore, hmore⟩ := List.map_eq_append_iff.1 h
  obtain rfl := List.map_injective_iff.2 hbyte hbefore
  exact ⟨more, rfl, hmore.symm⟩

/-- Of two runs of bytes at the beginning of a transcript one is a part of the other. -/
theorem Transcript.ofBytes_append_eq {bs taken : Bytes} {t u : Transcript}
    (h : ofBytes bs ++ t = ofBytes taken ++ u) :
    (∃ more, bs = taken ++ more ∧ u = ofBytes more ++ t) ∨
      ∃ b more, taken = bs ++ b :: more ∧ t = .byte b :: (ofBytes more ++ u) := by
  rcases List.append_eq_append_iff.1 h with ⟨v, htaken, rfl⟩ | ⟨v, hbs, rfl⟩
  · obtain ⟨more, rfl, rfl⟩ := eq_append_of_ofBytes htaken
    cases more with
    | nil => exact .inl ⟨[], by simp, by simp⟩
    | cons b more => exact .inr ⟨b, more, rfl, rfl⟩
  · obtain ⟨more, rfl, rfl⟩ := eq_append_of_ofBytes hbs
    exact .inl ⟨more, rfl, rfl⟩

namespace Dialogue

variable {α : Type} {accept : Arguments → Nat → Nat}

/-- A dialogue cannot go on before more bytes come: some are there already, and `t` is what still
passes after these. -/
structure Awaits (accept : Arguments → Nat → Nat) (d : Dialogue α) (buffered : Bytes)
    (t : Transcript) (result : α) : Prop where
  completes : d.Completes accept (ofBytes buffered ++ t) result
  ne_ready : ∀ count u, t ≠ .ready count :: u
  finished : t = [] → d = .done result ∧ buffered = []

/-- A dialogue with some bytes advances until it needs more, and acknowledges on its way all that
is due before these. -/
theorem advance_of_completes {d : Dialogue α} {bs : Bytes} {t : Transcript} {result : α}
    (h : d.Completes accept (ofBytes bs ++ t) result) {c : Channel} (hwritable : c.writable = true)
    (hincoming : c.incoming = bs) :
    ∃ d' buffered ready asked t', d.advance accept false c =
        (d', { c with
          incoming := buffered, acknowledged := c.acknowledged ++ ready, asked := asked }) ∧
      t = ready.map Event.ready ++ t' ∧ Awaits accept d' buffered t' result := by
  unfold Completes at h
  generalize hu : ofBytes bs ++ t = u at h
  generalize he : Dialogue.done result = e at h
  induction h generalizing bs t c with
  | refl d =>
    obtain ⟨hbs, rfl⟩ := List.append_eq_nil_iff.1 hu
    obtain rfl := List.map_eq_nil_iff.1 hbs
    subst he
    exact ⟨.done result, [], [], c.asked, [], by simp [advance, ← hincoming], rfl,
      ⟨.refl _, by simp, fun _ => ⟨rfl, rfl⟩⟩⟩
  | @load next u e taken h ih =>
    subst he
    rcases Transcript.ofBytes_append_eq hu with ⟨more, rfl, rfl⟩ | ⟨b, more, rfl, rfl⟩
    · have hsplit : Wire.split? taken.length c.incoming = some (taken, more) :=
        Wire.split?_eq_some_iff.2 ⟨rfl, hincoming⟩
      obtain ⟨d', buffered, ready, asked, t', hadvance, ht, hawaits⟩ :=
        ih (c := { c with incoming := more }) hwritable rfl rfl rfl
      exact ⟨d', buffered, ready, asked, t', by simpa [advance, hsplit] using hadvance, ht,
        hawaits⟩
    -- the bytes that are there end inside this load
    · have hsplit : Wire.split? (bs ++ b :: more).length c.incoming = none :=
        Wire.split?_eq_none_iff.2 (by simp [hincoming])
      refine ⟨.load (bs ++ b :: more).length next, bs, [], c.asked, .byte b :: (ofBytes more ++ u),
        ?_, rfl, ⟨hu ▸ .load _ h, by simp, by simp⟩⟩
      rw [advance, hsplit]
      simp [← hincoming]
  | @acknowledge count next u e h ih =>
    subst he
    cases bs with
    | cons => cases hu
    | nil =>
      obtain rfl : t = .ready count :: u := hu
      obtain ⟨d', buffered, ready, asked, t', hadvance, rfl, hawaits⟩ :=
        ih (c := { c with acknowledged := c.acknowledged ++ [count] }) hwritable hincoming rfl rfl
      exact ⟨d', buffered, count :: ready, asked, t', by simpa [advance, hwritable] using hadvance,
        rfl, hawaits⟩
  | @consent arguments requested next u e h ih =>
    obtain ⟨d', buffered, ready, asked, t', hadvance, ht, hawaits⟩ :=
      ih (c := { c with asked := c.asked ++ [(arguments.length, requested)] }) hwritable hincoming
        hu he
    exact ⟨d', buffered, ready, asked, t', hadvance, ht, hawaits⟩

end Dialogue

namespace Network

open Dialogue (Awaits)
open ClientM (Yields Fails)
open Client (Step)
open Wire (bytesBE)

/-! ### In step -/

section Follows

variable {σ : Type} [Peer σ] {P : Transcript → σ → Prop}

/-- The peers that `P` describes follow a transcript: they do not wait to tell a number, and they
answer what they are sent with just the numbers that are due after it. -/
structure Follows (P : Transcript → σ → Prop) : Prop where
  ne_ready : ∀ {count t p}, ¬ P (.ready count :: t) p
  react : ∀ {b bytes t p}, P (ofBytes (b :: bytes) ++ t) p → ∃ ready t' p',
    t = List.map Event.ready ready ++ t' ∧
      Peer.react p (b :: bytes) = (p', Hub.acknowledgements ready, false) ∧ P t' p'

/-- A peer with which nothing more passes. -/
def Rests (p : σ) (t : Transcript) (p' : σ) : Prop := t = [] ∧ p' = p

theorem follows_rests (p : σ) : Follows (Rests p) := ⟨nofun, nofun⟩

/-- A client and its peer are in step: `t` is what the client has still to do. What it is told is
on the way already, and the peer waits for what it sends after that. -/
def InStep (P : Transcript → σ → Prop) (t : Transcript) (c : Client σ) : Prop :=
  ∃ ready owed, t = List.map Event.ready ready ++ owed ∧
    c.connection.pending = Hub.acknowledgements ready ∧
    (ready = [] ∨ .pause ∉ c.connection.arriving) ∧ P owed c.peer

/-- A client has sent some bytes between two of its states. -/
def HasSent (bytes : Bytes) (c c' : Client σ) : Prop :=
  c'.connection.sent = c.connection.sent ++ bytes ∧ c'.config = c.config

omit [Peer σ] in
theorem HasSent.trans {bytes bytes' : Bytes} {c c' c'' : Client σ}
    (h : HasSent bytes c c') (h' : HasSent bytes' c' c'') : HasSent (bytes ++ bytes') c c'' :=
  ⟨by rw [h'.1, h.1, List.append_assoc], h'.2.trans h.2⟩

/-! ### Steps of the client -/

/-- The numbers that the peer tells are on the way. -/
theorem inStep_of_react {c : Client σ} (hpending : c.connection.pending = []) {b : UInt8}
    {bytes : Bytes} {ready : List UInt32} {p : σ}
    (hreact : Peer.react c.peer (b :: bytes) = (p, Hub.acknowledgements ready, false))
    {t : Transcript} (hp : P t p) :
    ∃ c', Yields (Client.send (b :: bytes)) c () c' ∧ InStep P (ready.map Event.ready ++ t) c' ∧
      HasSent (b :: bytes) c c' := by
  obtain ⟨connection, hsend, hdeliver, harriving, -, hsent, -⟩ :=
    Client.yields_send (List.cons_ne_nil b bytes) hreact
  rw [hpending, List.nil_append] at hdeliver
  have hpause : .pause ∉ connection.arriving := harriving ▸ pause_notMem_chunks _
  exact ⟨_, hsend, ⟨ready, t, rfl, hdeliver, .inr hpause, hp⟩, hsent, rfl⟩

/-- What is sent is taken or kept, and what is due after it is acknowledged. -/
theorem inStep_send (hP : Follows P) {bytes : Bytes} {t : Transcript} {c : Client σ}
    (h : InStep P (ofBytes bytes ++ t) c) :
    ∃ c', Yields (Client.send bytes) c () c' ∧ InStep P t c' ∧ HasSent bytes c c' := by
  cases bytes with
  | nil => exact ⟨c, rfl, h, (List.append_nil _).symm, rfl⟩
  | cons b bytes =>
    obtain ⟨ready, owed, howed, hpending, -, hpeer⟩ := h
    cases ready with
    | cons => cases howed
    | nil =>
      obtain rfl : ofBytes (b :: bytes) ++ t = owed := howed
      obtain ⟨ready, t', p', rfl, hreact, hp'⟩ := hP.react hpeer
      exact inStep_of_react hpending hreact hp'

/-- The number that the client waits for has come, or is on the way. -/
theorem inStep_receive (hP : Follows P) {count : UInt32} {t : Transcript} {c : Client σ}
    (h : InStep P (.ready count :: t) c) {timeout : Nat} (htimeout : 0 < timeout) :
    ∃ c', Yields (Client.receive (·.exactlyWithin 4 timeout)) c (bytesBE 4 count.toNat) c' ∧
      InStep P t c' ∧ HasSent [] c c' := by
  obtain ⟨ready, owed, howed, hpending, harriving, hpeer⟩ := h
  cases ready with
  | nil =>
    obtain rfl : .ready count :: t = owed := howed
    exact absurd hpeer hP.ne_ready
  | cons first ready =>
    obtain ⟨rfl, rfl⟩ := by simpa using howed
    have hpause := harriving.resolve_left (List.cons_ne_nil _ _)
    have hfirst : c.connection.pending =
        bytesBE 4 count.toNat ++ Hub.acknowledgements ready := hpending
    obtain ⟨connection, hreceive, hrest, hsent, hsuffix⟩ :=
      Connection.receive_of_pending (.bounded timeout "reply") ⟨htimeout, hpause⟩ hfirst
    rw [Wire.length_bytesBE] at hreceive
    exact ⟨_, Client.yields_receive hreceive,
      ⟨ready, owed, rfl, hrest, .inr fun hmem => hpause (hsuffix.subset hmem), hpeer⟩,
      hsent.trans (List.append_nil _).symm, rfl⟩

/-- Every step of a request succeeds. -/
theorem inStep_perform (hP : Follows P) {step : Step} {t : Transcript} {c : Client σ}
    (h : InStep P (step.transcript ++ t) c) (htimeout : 0 < c.config.handshakeTimeout)
    (hsize : ∀ values, step = .transfer values → values.size < UInt32.size) :
    ∃ c', Yields (Client.perform step) c () c' ∧ InStep P t c' ∧
      HasSent step.transcript.bytes c c' := by
  cases step with
  | bytes bs =>
    obtain ⟨c', hsend, hstep, hsent⟩ := inStep_send hP h
    exact ⟨c', hsend, hstep, by simpa [Step.transcript] using hsent⟩
  | transfer values =>
    obtain ⟨c', hreceive, hstep, hnone⟩ := inStep_receive hP h htimeout
    obtain ⟨c'', hsend, hstep', hsent⟩ := inStep_send hP hstep
    refine ⟨c'', ?_, hstep', by simpa [Step.transcript, Transcript.transfer] using hnone.trans hsent⟩
    have hcount : (UInt32.ofNat values.size).toNat = values.size :=
      UInt32.toNat_ofNat_of_lt' (hsize values rfl)
    have hvalue : Wire.valueBE (bytesBE 4 values.size) = values.size :=
      Wire.valueBE_bytesBE_of_lt (hsize values rfl)
    refine Client.yields_bind (Client.yields_get c) (Client.yields_bind hreceive ?_)
    simp only [hcount, hvalue, ne_eq, not_true_eq_false, if_false]
    exact hsend

theorem inStep_forM (hP : Follows P) {steps : List Step} {t : Transcript} {c : Client σ}
    (h : InStep P (steps.flatMap Step.transcript ++ t) c)
    (htimeout : 0 < c.config.handshakeTimeout)
    (hsize : ∀ values, Step.transfer values ∈ steps → values.size < UInt32.size) :
    ∃ c', Yields (steps.forM Client.perform) c () c' ∧ InStep P t c' ∧
      HasSent (Transcript.bytes (steps.flatMap Step.transcript)) c c' := by
  induction steps generalizing c with
  | nil => exact ⟨c, rfl, h, (List.append_nil _).symm, rfl⟩
  | cons step steps ih =>
    rw [List.flatMap_cons, List.append_assoc] at h
    obtain ⟨c', hperform, hstep, hsent⟩ := inStep_perform hP h htimeout
      fun values heq => hsize values (heq ▸ List.mem_cons_self ..)
    obtain ⟨c'', hrest, hstep', hsent'⟩ := ih hstep (hsent.2 ▸ htimeout)
      fun values hmem => hsize values (List.mem_cons_of_mem _ hmem)
    exact ⟨c'', Client.yields_bind hperform hrest, hstep', by simpa using hsent.trans hsent'⟩

/-- A transfer fails if the peer is ready for another number of elements. -/
theorem inStep_perform_refused (hP : Follows P) {count : UInt32} {t : Transcript} {c : Client σ}
    (h : InStep P (.ready count :: t) c) (htimeout : 0 < c.config.handshakeTimeout)
    {values : Wire.Elements} (hne : count.toNat ≠ values.size) :
    ∃ c', Fails (Client.perform (.transfer values)) c (.invalidHandshake count values.size) c' ∧
      InStep P t c' ∧ HasSent [] c c' := by
  obtain ⟨c', hreceive, hstep, hnone⟩ := inStep_receive hP h htimeout
  refine ⟨c', ?_, hstep, hnone⟩
  have hvalue : UInt32.ofNat (Wire.valueBE (bytesBE 4 count.toNat)) = count := by
    rw [Wire.valueBE_bytesBE_of_lt count.toNat_lt, UInt32.ofNat_toNat]
  refine Client.fails_bind_of_yields (Client.yields_get c)
    (Client.fails_bind_of_yields hreceive ?_)
  simp only [hvalue, ne_eq, hne, not_false_eq_true, if_true]
  exact Client.fails_bind (Client.fails_throw _ _)

/-- Sending a request fails at the first transfer for which the peer is ready for another number of
elements, and nothing is sent after that. -/
theorem inStep_forM_refused (hP : Follows P) {steps : List Step} (rest : List Step)
    {values : Wire.Elements} {count : UInt32} {t : Transcript} {c : Client σ}
    (h : InStep P (steps.flatMap Step.transcript ++ .ready count :: t) c)
    (htimeout : 0 < c.config.handshakeTimeout)
    (hsize : ∀ values, Step.transfer values ∈ steps → values.size < UInt32.size)
    (hne : count.toNat ≠ values.size) :
    ∃ c', Fails ((steps ++ .transfer values :: rest).forM Client.perform) c
        (.invalidHandshake count values.size) c' ∧
      InStep P t c' ∧ HasSent (Transcript.bytes (steps.flatMap Step.transcript)) c c' := by
  induction steps generalizing c with
  | nil =>
    obtain ⟨c', hfails, hstep, hnone⟩ := inStep_perform_refused hP h htimeout hne
    exact ⟨c', Client.fails_bind hfails, hstep, hnone⟩
  | cons step steps ih =>
    rw [List.flatMap_cons, List.append_assoc] at h
    obtain ⟨c', hperform, hstep, hsent⟩ := inStep_perform hP h htimeout
      fun values heq => hsize values (heq ▸ List.mem_cons_self ..)
    obtain ⟨c'', hfails, hstep', hsent'⟩ := ih hstep (hsent.2 ▸ htimeout)
      fun values hmem => hsize values (List.mem_cons_of_mem _ hmem)
    exact ⟨c'', Client.fails_bind_of_yields hperform hfails, hstep',
      by simpa using hsent.trans hsent'⟩

omit [Peer σ] in
/-- When nothing is left to do, nothing is on the way. -/
theorem inStep_nil_iff {c : Client σ} :
    InStep P [] c ↔ P [] c.peer ∧ c.connection.pending = [] := by
  constructor
  · rintro ⟨ready, owed, howed, hpending, -, hpeer⟩
    obtain ⟨hready, rfl⟩ := List.append_eq_nil_iff.1 howed.symm
    obtain rfl := List.map_eq_nil_iff.1 hready
    exact ⟨hpeer, hpending⟩
  · rintro ⟨hpeer, hpending⟩
    exact ⟨[], [], rfl, hpending, .inl rfl, hpeer⟩

end Follows

/-! ### Receivers -/

/-- The receiver of a call at the other end of a connection. It goes on as far as the bytes go that
have come. -/
structure Receiver (α : Type) where
  accept : Arguments → Nat → Nat
  dialogue : Dialogue α
  /-- The bytes that have come and are not taken. -/
  incoming : Bytes := []

instance {α : Type} : Peer (Receiver α) where
  react r bytes :=
    let (dialogue, channel) :=
      r.dialogue.advance r.accept false { incoming := r.incoming ++ bytes }
    ({ r with dialogue := dialogue, incoming := channel.incoming },
      Hub.acknowledgements channel.acknowledged, false)

namespace Receiver

variable {α : Type} {result : α}

/-- A receiver waits for what still passes before it has its result. -/
def Expects (result : α) (t : Transcript) (r : Receiver α) : Prop :=
  Awaits r.accept r.dialogue r.incoming t result

theorem expects_of_advance {r : Receiver α} {bytes : Bytes} {t : Transcript}
    (h : r.dialogue.Completes r.accept (ofBytes (r.incoming ++ bytes) ++ t) result) :
    ∃ ready t' r', t = List.map Event.ready ready ++ t' ∧
      Peer.react r bytes = (r', Hub.acknowledgements ready, false) ∧ Expects result t' r' := by
  obtain ⟨d, buffered, ready, asked, t', hadvance, rfl, hawaits⟩ :=
    Dialogue.advance_of_completes h (c := { incoming := r.incoming ++ bytes }) rfl rfl
  refine ⟨ready, t', { r with dialogue := d, incoming := buffered }, rfl, ?_, hawaits⟩
  simp only [Peer.react, hadvance, List.nil_append]

/-- A receiver follows every transcript with which it comes to its result. -/
theorem follows_expects : Follows (Expects result) where
  ne_ready h := h.ne_ready _ _ rfl
  react h := by
    refine expects_of_advance ?_
    rw [Transcript.ofBytes_append, List.append_assoc]
    exact h.completes

end Receiver

/-- When nothing is left to do, the receiver has its result and nothing is on the way. -/
theorem eq_of_inStep_nil {α : Type} {result : α} {c : Client (Receiver α)}
    (h : InStep (Receiver.Expects result) [] c) :
    c.peer.dialogue = .done result ∧ c.peer.incoming = [] ∧ c.connection.pending = [] := by
  obtain ⟨hawaits, hpending⟩ := inStep_nil_iff.1 h
  obtain ⟨hdone, hincoming⟩ := hawaits.finished rfl
  exact ⟨hdone, hincoming, hpending⟩

end Network

end Instrument
