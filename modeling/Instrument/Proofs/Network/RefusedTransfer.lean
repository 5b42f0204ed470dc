import Instrument.Device.Registers
import Instrument.Proofs.Network.Accounts
import Instrument.Proofs.Network.Handshake
import Instrument.Proofs.Network.Serving

/-!
A client and a server between which a transfer is refused. Main statement: the client fails with the
two numbers of elements and sends nothing after what comes before the transfer; the server takes all
of this, executes nothing and answers nothing, and listens for the next command.
-/

namespace Instrument.Network

open Client (Part Request)
open ClientM (Fails Yields)
open Wire (Elements)

variable {δ : Type} [Device δ]

/-- The error of a transfer that is refused says what it is about. -/
theorem failureText_of_isRefused {site : CallSite} {accept : Arguments → Nat → Nat}
    {found : Arguments} {p : Part} {values : Elements} {ready : Nat} {e : Error}
    (h : site.IsRefused accept found p values ready e) : Hub.failureText site e = e.message := by
  cases h <;> rfl

/-- Nothing but its arguments is transferred for an operation of the control device. -/
theorem flatMap_transfer_of_control {op : Interface.Operation}
    (hop : op ∈ Interface.control.operations) {parts : List Part} (h : op.IsCall parts) :
    parts.flatMap Part.transfer = [] := by
  have hnone : ∀ op ∈ Interface.control.operations,
      op.buffer? = none ∧ ∀ a ∈ op.arguments, a.kind.category ≠ .vector := by decide
  obtain ⟨hbuffer, hvector⟩ := hnone op hop
  cases h with
  | plain _ harePassed => exact CallSite.flatMap_transfer_of_arePassed harePassed hvector
  | buffered hbuffered => cases hbuffer.symm.trans hbuffered

omit [Device δ] in
/-- Only the devices besides the control device take vectors and buffers. -/
theorem Hub.exists_place_of_isRefused {hub : Hub δ} {header : EnvelopeHeader} {place : Option Nat}
    {site : CallSite} (hroute : hub.route header = .call place site) {before after : List Part}
    {p : Part} (hcall : site.operation.IsCall (before ++ p :: after))
    {accept : Arguments → Nat → Nat} {found : Arguments} {values : Elements} {ready : Nat}
    {e : Error} (hrefused : site.IsRefused accept found p values ready e) :
    ∃ i, place = some i := by
  unfold route at hroute
  split at hroute
  · cases hroute
  next d place' hfind =>
  split at hroute
  · cases hroute
  next op hoperation =>
  cases hroute
  unfold Fleet.find? at hfind
  split at hfind
  · cases hfind
    have hnone := List.flatMap_eq_nil_iff.1
      (flatMap_transfer_of_control (List.mem_of_getElem? hoperation) hcall) p (by simp)
    cases hrefused.transfer_eq.symm.trans hnone
  · simp only [Option.bind_eq_some_iff, Option.map_eq_some_iff] at hfind
    obtain ⟨i, -, d', -, hd⟩ := hfind
    cases hd
    exact ⟨i, rfl⟩

namespace Server

variable {s : Server δ} {k : Nat} {place : Option Nat} {l : Line} {info : SessionInfo}

/-- A session whose call has failed without an answer has nothing under way. -/
theorem isIdle_within_giveUp (h : s.IsIdle k place l info) (counts : List UInt32) (e : Error) :
    (s.within k { l with delivered := l.delivered + (Hub.acknowledgements counts).length }
      (s.hub.giveUp l.id counts e)).IsIdle k place
      { l with delivered := l.delivered + (Hub.acknowledgements counts).length }
      (({ info with requests := info.requests + 1 }.send (Hub.acknowledgements counts)).fail
        e.message) where
  line := List.getElem?_set_self h.lt
  listening := h.listening
  incoming := h.incoming
  stays := h.stays
  rest := h.stepFirst?_eq_none (Hub.fleet_giveUp ..)
    (Line.step?_of_idle h.listening h.incoming h.stays)
  free := by
    intro i hi
    exact h.notMem_held (by rw [h.listening]; rfl) hi
  session := Hub.find?_giveUp_eq h.session counts e
  delivered := by
    rw [h.delivered]
    exact List.length_append.symm

end Server

/-- A client that can call a device, by the numbers of the device and of the operation, at a server
where it has nothing under way and the device at a place is free. -/
structure Client.IsReady (c : Client (ServerPeer δ)) (device operation : String)
    (entry : Discovery.Entry) (number : UInt16) (place : Option Nat) (l : Line)
    (info : SessionInfo) : Prop where
  usable : c.usable = true
  pending : c.connection.pending = []
  timeout : 0 < c.config.handshakeTimeout
  found : c.table.find? device = some entry
  numbered : entry.operationId? (String.ofList (asciiUpper operation.toList)) = some number
  idle : c.peer.server.IsIdle c.peer.client place l info

namespace Client

variable {c : Client (ServerPeer δ)} {device operation : String} {entry : Discovery.Entry}
  {number : UInt16} {place : Option Nat} {site : CallSite} {l : Line} {info : SessionInfo}
  {before after : List Part} {p : Part} {values : Elements} {ready i : Nat} {e : Error}

/-- The server takes the envelope of a call that will fail, and follows what the client sends. -/
theorem IsReady.exists_inStep (hready : c.IsReady device operation entry number (some i) l info)
    {payload : Bytes} (hroute : c.peer.server.hub.route (Command.of entry.id number payload).header =
      .call (some i) site) (hfits : payload.length ≤ EnvelopeHeader.maxPayload)
    (he : Hub.endsSession e = false) (htext : Hub.failureText site e = e.message) {t : Transcript}
    (hdecode : (site.decode site.operation.layout payload).run.Completes
      (c.peer.server.hub.accept (some i) site.operation) t (.error e)) :
    ∃ c', Yields (send (Command.of entry.id number payload).toBytes) c () c' ∧
      InStep (Server.Serving c.peer.server c.peer.client i l site e t.counts) t c' ∧
      HasSent (Command.of entry.id number payload).toBytes c c' := by
  obtain ⟨due, t', peer, rfl, hreact, hserving⟩ := Server.react_of_command hready.idle he htext
    (Command.isWhole_of hfits) hroute hdecode
  exact inStep_of_react hready.pending hreact hserving

/-- Once its envelope is sent, the client comes as far as the transfer that is refused, and fails
with the two numbers of elements. -/
theorem IsReady.fails_call (hready : c.IsReady device operation entry number place l info)
    {P : Transcript → ServerPeer δ → Prop} (hP : Follows P) (hop : site.operation.IsDescribed)
    (hcall : site.operation.IsCall (before ++ p :: after))
    (hfits : (Request.ofParts (before ++ p :: after)).envelope.bytes.length ≤
      EnvelopeHeader.maxPayload)
    (htransferable : ∀ q ∈ before, q.IsTransferable) {accept : Arguments → Nat → Nat}
    {found : Arguments} (hrefused : site.IsRefused accept found p values ready e)
    {sent : Bytes} (hsent : sent = (Command.of entry.id number
      (Request.ofParts (before ++ p :: after)).envelope.bytes).toBytes)
    {c₁ : Client (ServerPeer δ)} (hsend : Yields (send sent) c () c₁)
    (hhas : HasSent sent c c₁)
    (hstep : InStep P (Part.untilTransfer before p ++ [.ready (UInt32.ofNat ready)]) c₁) :
    ∃ c₂, Fails (call device operation (before ++ p :: after)) c
        (.invalidHandshake (UInt32.ofNat ready) values.size) { c₂ with usable := false } ∧
      InStep P [] c₂ ∧ HasSent (sent ++ (Part.untilTransfer before p).bytes) c c₂ := by
  obtain ⟨steps, rest, hsteps, htranscript, htransfers⟩ := Request.exists_steps hop hcall hrefused
  have hsize : ∀ values', .transfer values' ∈ steps → values'.size < UInt32.size := by
    intro values' hmem
    exact Part.size_lt_of_le_transferLimit (htransferable _ (htransfers values' hmem))
  have hne : (UInt32.ofNat ready).toNat ≠ values.size := by
    rw [UInt32.toNat_ofNat_of_lt' hrefused.ready_lt]
    exact hrefused.ready_ne
  rw [← htranscript] at hstep
  obtain ⟨c₂, hfails, hend, hhas'⟩ := fails_transmit_of_refused hP
    (hsent ▸ envelope_of_le hfits) hsend hhas hsteps hsize hne hready.timeout hstep
  rw [htranscript] at hhas'
  exact ⟨c₂, Client.fails_call hready.usable hready.found hready.numbered hfails rfl, hend, hhas'⟩

/-- What passes for a call with a transfer that is refused begins with what passes before it. -/
theorem transcript_of_isRefused (hop : site.operation.IsDescribed)
    (hcall : site.operation.IsCall (before ++ p :: after)) {accept : Arguments → Nat → Nat}
    {found : Arguments} (hrefused : site.IsRefused accept found p values ready e) :
    ∃ rest, (Request.ofParts (before ++ p :: after)).transcript =
      Part.untilTransfer before p ++ (.transfer values ++ rest) := by
  obtain ⟨steps, rest, hsteps, htranscript, -⟩ := Request.exists_steps hop hcall hrefused
  refine ⟨rest.flatMap Step.transcript, ?_⟩
  rw [Request.transcript, hsteps, List.flatMap_append, List.flatMap_cons, htranscript,
    Step.transcript]

/-- A refused transfer leaves both ends consistent. Whatever is called, let the parts before `p` be
transferred and `p` be refused, with another number than its count tells. The client fails with the
number of elements that the server is ready for and with its own; it has sent the envelope and what
passes before the elements of `p`, nothing is on the way to it, and it makes no further call. The
server has taken just this: nothing but the client's session has changed, which has been sent the
numbers of elements and no answer, has counted one call that failed with an error of its own, has
nothing unread, and listens. -/
theorem call_of_refused (hready : c.IsReady device operation entry number place l info)
    (hroute : c.peer.server.hub.route ⟨entry.id, number,
      UInt32.ofNat (Request.ofParts (before ++ p :: after)).envelope.bytes.length⟩ =
        .call place site)
    (hop : site.operation.IsDescribed) (hcall : site.operation.IsCall (before ++ p :: after))
    (hfits : (Request.ofParts (before ++ p :: after)).envelope.bytes.length ≤
      EnvelopeHeader.maxPayload)
    (htransferable : ∀ q ∈ before, q.IsTransferable)
    (hrefused : site.IsRefused (c.peer.server.hub.accept place site.operation)
      (site.operation.received (before ++ p :: after)).dropLast p values ready e)
    (hannounced : ready ≠ p.announced) :
    ∃ c' sent told rest,
      envelope entry.id number (Request.ofParts (before ++ p :: after)).envelope.bytes =
        .ok sent ∧
      (Request.ofParts (before ++ p :: after)).transcript =
        Part.untilTransfer before p ++ (.transfer values ++ rest) ∧
      told = (Part.untilTransfer before p).counts ++ [UInt32.ofNat ready] ∧
      Fails (call device operation (before ++ p :: after)) c
        (.invalidHandshake (UInt32.ofNat ready) values.size) c' ∧
      c'.usable = false ∧
      (∀ device operation parts, Fails (call device operation parts) c' .connectionUnusable c') ∧
      c'.connection.sent = c.connection.sent ++ (sent ++ (Part.untilTransfer before p).bytes) ∧
      c'.connection.pending = [] ∧ e.isFatal = false ∧
      c'.peer = ⟨c.peer.server.within c.peer.client
        { l with delivered := l.delivered + (Hub.acknowledgements told).length }
        (c.peer.server.hub.giveUp l.id told e), c.peer.client⟩ ∧
      c'.peer.server.IsIdle c.peer.client place
        { l with delivered := l.delivered + (Hub.acknowledgements told).length }
        (({ info with requests := info.requests + 1 }.send (Hub.acknowledgements told)).fail
          e.message) ∧
      c'.peer.server.hub.fleet = c.peer.server.hub.fleet := by
  obtain ⟨i, rfl⟩ := Hub.exists_place_of_isRefused hroute hcall hrefused
  obtain ⟨rest, hall⟩ := transcript_of_isRefused hop hcall hrefused
  have hdecode :=
    CallSite.completes_decode_refused hop hcall htransferable hrefused hannounced
  rw [← (Request.ofParts_eq hop hcall).1] at hdecode
  have he := Hub.endsSession_of_not_isFatal hrefused.isFatal_eq_false
  have htext := failureText_of_isRefused hrefused
  -- Each end follows the transcript up to the refusal.
  obtain ⟨c₁, hsend, hstep, hhas⟩ := hready.exists_inStep hroute hfits he htext hdecode
  obtain ⟨c₂, hfails, hend, hsent⟩ := hready.fails_call
    (Server.follows_serving hready.idle he htext) hop hcall hfits htransferable hrefused rfl hsend
    hhas hstep
  obtain ⟨hpeer, hnone⟩ := inStep_nil_iff.1 hend
  have hserver := Server.eq_of_serving_nil hready.idle hpeer
  rw [Transcript.counts_append, Transcript.counts_ready, Transcript.counts_nil] at hserver
  refine ⟨_, _, _, rest, envelope_of_le hfits, hall, rfl, hfails, rfl, fails_call_of_not_usable rfl,
    hsent.1, hnone, hrefused.isFatal_eq_false, hserver, ?_, ?_⟩
  · rw [hserver]
    exact Server.isIdle_within_giveUp hready.idle _ e
  · rw [hserver]
    exact Hub.fleet_giveUp ..

/-- The ends part where the count of a buffer, which has 32 bits, tells just the number that the
receiver is ready for. The client fails as it does otherwise; but the server waits for so many
elements in the middle of the call, and counts no failure. -/
theorem call_of_announced (hready : c.IsReady device operation entry number place l info)
    (hroute : c.peer.server.hub.route ⟨entry.id, number,
      UInt32.ofNat (Request.ofParts (before ++ .buffer values :: after)).envelope.bytes.length⟩ =
        .call place site)
    (hop : site.operation.IsDescribed)
    (hcall : site.operation.IsCall (before ++ .buffer values :: after))
    (hfits : (Request.ofParts (before ++ .buffer values :: after)).envelope.bytes.length ≤
      EnvelopeHeader.maxPayload)
    (htransferable : ∀ q ∈ before, q.IsTransferable)
    (hrefused : site.IsRefused (c.peer.server.hub.accept place site.operation)
      (site.operation.received (before ++ .buffer values :: after)).dropLast (.buffer values)
      values ready e)
    (hannounced : ready = (Part.buffer values).announced) (hpos : 0 < ready) :
    ∃ c' d, Fails (call device operation (before ++ .buffer values :: after)) c
        (.invalidHandshake (UInt32.ofNat ready) values.size) c' ∧ c'.usable = false ∧
      c'.connection.pending = [] ∧ d.Lacks [] ∧
      c'.peer = ⟨c.peer.server.within c.peer.client
        { l with
          delivered := l.delivered + (Hub.acknowledgements [UInt32.ofNat ready]).length,
          incoming := [], stage := .reading place site d }
        (c.peer.server.hub.told l.id [UInt32.ofNat ready]), c.peer.client⟩ := by
  obtain ⟨i, rfl⟩ := Hub.exists_place_of_isRefused hroute hcall hrefused
  obtain ⟨b, hbuffer, harePassed, -, -⟩ := CallSite.eq_of_isCall_buffer hcall
  obtain ⟨others, length, harguments, hlength⟩ := hop.exists_isLengthOf hbuffer
  rw [harguments, List.dropLast_concat] at harePassed
  have huntil : Part.untilTransfer before (.buffer values) = [] :=
    Part.untilTransfer_of_transfer_nil
      (CallSite.flatMap_transfer_of_arePassed harePassed hlength.noVector) _
  -- The dialogue of the call lacks the elements that the server is ready for.
  obtain ⟨raw, args, hraw, hdecode⟩ :=
    CallSite.completes_decode_of_announced hop hcall htransferable hrefused hannounced
  obtain ⟨byte, bytes, rfl⟩ : ∃ byte bytes, raw = byte :: bytes :=
    List.exists_cons_of_length_pos (hraw ▸ Nat.mul_pos hpos values.type.width_pos)
  obtain ⟨d, asked, hadvance, hlacks⟩ := Dialogue.advance_of_completes_ready hdecode
  rw [← (Request.ofParts_eq hop hcall).1] at hadvance
  have hreact := Server.react_of_command_of_lacks hready.idle (Command.isWhole_of hfits) hroute
    hadvance hlacks
  -- The client is told the number, and fails.
  obtain ⟨c₁, hsend, hstep, hhas⟩ :=
    inStep_of_react (P := Rests _) hready.pending hreact ⟨rfl, rfl⟩
  obtain ⟨c₂, hfails, hend, -⟩ := hready.fails_call (follows_rests _) hop hcall hfits
    htransferable hrefused rfl hsend hhas (by rwa [huntil])
  obtain ⟨⟨-, hpeer⟩, hnone⟩ := inStep_nil_iff.1 hend
  exact ⟨_, d, hfails, rfl, hnone, hlacks, hpeer⟩

/-! ### A window that is too small -/

/-- The operation of the register device that writes a block of words. -/
def writeBuffer : Interface.Operation where
  name := "write_buffer"
  tag := "WRITE_BUFFER"
  id := 0
  resultType := "void"
  result := .void
  mode := .write
  arguments := [⟨"offset", "uint32_t", false, false, .scalar .u32⟩,
    ⟨"len", "uint32_t", false, false, .scalar .u32⟩]
  buffer? := some ⟨"data", 1, "len", .u32, true⟩
  lengthExpression? := none
  line := 3

theorem isDescribed_writeBuffer : writeBuffer.IsDescribed :=
  ⟨[⟨2, "write_array arg\x7bdata\x7d arg\x7blen\x7d"⟩],
    ⟨"Registers", 1, [⟨"write_buffer", 3, "void", [⟨some "offset", "uint32_t"⟩,
      ⟨some "data", "const uint32_t*"⟩, ⟨some "len", "uint32_t"⟩], true⟩]⟩,
    ⟨"Registers", "REGISTERS", 0, [writeBuffer], none⟩, rfl,
    List.mem_singleton_self writeBuffer⟩

/-- A server with a window of eight words and with one session. -/
def registersServer : Server Registers where
  hub :=
    { fleet := ⟨⟨[⟨"Registers", "REGISTERS", 2, [writeBuffer], none⟩]⟩,
        [⟨⟨32, Window.header 32 ++ List.replicate 32 0, by decide⟩⟩], rfl⟩
      registry := { sessions := [{ id := 9, kind := .unix, peer := "unix", registered := true }] } }
  lines := [{ id := 9 }]

/-- A client that knows the register device. -/
def registersClient : Client (ServerPeer Registers) where
  connection := {}
  peer := ⟨registersServer, 0⟩
  config := {}
  table := .ofEntries [⟨2, "REGISTERS", ["WRITE_BUFFER"]⟩]

theorem isReady_registersClient :
    registersClient.IsReady "registers" "write_buffer" ⟨2, "REGISTERS", ["WRITE_BUFFER"]⟩ 0 (some 0)
      { id := 9 } { id := 9, kind := .unix, peer := "unix", registered := true } where
  usable := rfl
  pending := rfl
  timeout := by decide
  found := by decide
  numbered := by decide
  idle :=
    { line := rfl
      listening := rfl
      incoming := rfl
      stays := rfl
      rest := rfl
      free := fun _ _ => List.not_mem_nil
      session := rfl
      delivered := rfl }

/-- The offset of the first word of the window. -/
def atFirst : Part := .scalar (Wire.Scalar.ofUInt32 0)

/-- As many words with the same bytes. -/
def words (n : Nat) : Elements :=
  ⟨.u32, List.replicate (n * 4) 1, by
    rw [List.length_replicate]
    exact Nat.mul_mod_left ..⟩

theorem size_words (n : Nat) : (words n).size = n :=
  Nat.div_eq_of_eq_mul_left (words n).type.width_pos List.length_replicate

theorem isCall_words (n : Nat) : writeBuffer.IsCall ([atFirst] ++ .buffer (words n) :: []) :=
  .buffered rfl (.cons (.scalar (Wire.Scalar.ofUInt32 0)) .nil) rfl (by decide)

theorem isTransferable_atFirst : ∀ q ∈ [atFirst], q.IsTransferable := by
  intro q hq
  rw [List.mem_singleton.1 hq]
  trivial

/-- Of ten words the server is ready for the eight of the window, and gets none. -/
theorem call_of_refused_tenWords :
    ∃ c', Fails (call "registers" "write_buffer" ([atFirst] ++ .buffer (words 10) :: []))
        registersClient (.invalidHandshake 8 10) c' ∧ c'.usable = false ∧
      c'.connection.sent = [0, 0, 0, 0, 0, 2, 0, 0, 0, 0, 0, 8] ++ [0, 0, 0, 0, 0, 0, 0, 10] ∧
      c'.peer.server.lines = [{ id := 9, delivered := 4 }] ∧
      (c'.peer.server.hub.registry.find? 9).map (fun s => (s.output, s.requests, s.errors)) =
        some ([0, 0, 0, 8], 1, 1) ∧
      c'.peer.server.hub.fleet = registersServer.hub.fleet := by
  have hrefused : (⟨"Registers", writeBuffer⟩ : CallSite).IsRefused
      (registersServer.hub.accept (some 0) writeBuffer)
      (writeBuffer.received ([atFirst] ++ .buffer (words 10) :: [])).dropLast
      (.buffer (words 10)) (words 10) 8
      (.device "Registers" "write_buffer" (.bufferRefused 10 8)) :=
    .buffer (words 10) (by decide) (by decide)
  obtain ⟨c', _, _, _, hsent, -, rfl, hfails, husable, -, hbytes, -, -, hpeer, -, hfleet⟩ :=
    call_of_refused isReady_registersClient rfl isDescribed_writeBuffer (isCall_words 10)
      (by decide) isTransferable_atFirst hrefused (by decide)
  refine ⟨c', hfails, husable, ?_, ?_, ?_, hfleet⟩
  · rw [hbytes]
    cases hsent
    rfl
  · rw [hpeer]
    rfl
  · rw [hpeer]
    rfl

/-- Of five words more than a count can tell, the server is ready for five. These are not all that
the client has, so that it fails; but the server has failed no call, and listens for no command. -/
theorem not_call_of_refused_longBlock :
    ∃ e c', (⟨"Registers", writeBuffer⟩ : CallSite).IsRefused
        (registersServer.hub.accept (some 0) writeBuffer)
        (writeBuffer.received ([atFirst] ++ .buffer (words 4294967301) :: [])).dropLast
        (.buffer (words 4294967301)) (words 4294967301) 5 e ∧
      Fails (call "registers" "write_buffer" ([atFirst] ++ .buffer (words 4294967301) :: []))
        registersClient (.invalidHandshake 5 4294967301) c' ∧
      (c'.peer.server.hub.registry.find? 9).map (fun s => (s.output, s.requests, s.errors)) =
        some ([0, 0, 0, 5], 1, 0) ∧
      ∀ place l info, ¬ c'.peer.server.IsIdle 0 place l info := by
  have hsize := size_words 4294967301
  -- the announced count has lost what does not fit a word
  have hannounced : 5 = (Part.buffer (words 4294967301)).announced := by
    rw [Part.announced, hsize]
    rfl
  have hrefused : (⟨"Registers", writeBuffer⟩ : CallSite).IsRefused
      (registersServer.hub.accept (some 0) writeBuffer)
      (writeBuffer.received ([atFirst] ++ .buffer (words 4294967301) :: [])).dropLast
      (.buffer (words 4294967301)) (words 4294967301) 5
      (.device "Registers" "write_buffer"
        (.bufferRefused ((words 4294967301).size % UInt32.size) 5)) := by
    refine .buffer _ ?_ ?_
    · rw [hsize]
      rfl
    · rw [hsize]
      decide
  have hfits : (Request.ofParts ([atFirst] ++ .buffer (words 4294967301) :: [])).envelope.bytes.length
      ≤ EnvelopeHeader.maxPayload := by
    rw [(Request.ofParts_eq isDescribed_writeBuffer (isCall_words 4294967301)).1]
    simp only [atFirst, List.singleton_append, Part.inEnvelope, Part.packed, List.length_append,
      List.length_nil, Wire.Scalar.length_encodeBE]
    decide
  obtain ⟨c', d, hfails, -, -, -, hpeer⟩ := call_of_announced isReady_registersClient rfl
    isDescribed_writeBuffer (isCall_words 4294967301) hfits isTransferable_atFirst hrefused
    hannounced (by decide)
  rw [hsize] at hfails
  refine ⟨_, c', hrefused, hfails, ?_, ?_⟩
  · rw [hpeer]
    rfl
  · intro place l info hidle
    rw [hpeer] at hidle
    obtain rfl : l = _ := (Option.some.inj hidle.line).symm
    cases hidle.listening

end Client

end Instrument.Network
