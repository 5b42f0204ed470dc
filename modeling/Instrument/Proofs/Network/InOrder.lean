import Instrument.Proofs.Network.Rounds

/-!
A client that takes its messages in order. Counts, replies and events come to a client in one stream
of bytes, in which nothing tells them apart. Main statement: whatever all clients of a server do and
in which order, a client that reads a count or a reply where one was sent, and an event where one
was sent, gets just these: the counts and the reply of each call are its own, and every event is one
that the server has broadcast.
-/

namespace Instrument.Network

namespace Client

open ClientM (Yields Fails)
open Interface.DeviceTable (functionSignature)

variable {δ : Type}

/-! ### Calls and what they get -/

/-- Whether a call of a client leads to an operation of its server. -/
structure Leads (c : Client (SharedServer δ)) (device operation : String) (parts : List Part)
    (a : Asked) : Prop where
  named : ∃ entry, c.table.find? device = some entry ∧ entry.id = a.device ∧
    entry.operationId? (String.ofList (asciiUpper operation.toList)) = some a.operation
  passes : a.parts = parts
  route : c.peer.server.hub.route a.sending.command.header = .call a.place a.site

/-- Whether a call passes what the operation takes that it leads to, and reads what this declares;
the client knows the signature of the operation, or none. -/
structure Suits (c : Client (SharedServer δ)) (device operation : String) (parts : List Part)
    (decoder : Decoder) (a : Asked) : Prop extends Leads c device operation parts a where
  call : a.site.operation.IsCall parts
  sized : ∀ values, .vector values ∈ parts → values.size < UInt64.size
  fits : decoder.Fits a.site.operation
  signature :
    (c.catalogue?.bind fun catalogue => Signature.find? catalogue device operation) = none ∨
    (c.catalogue?.bind fun catalogue => Signature.find? catalogue device operation) =
      some (functionSignature a.site.operation)

/-- Whether a round suits the operation whose numbers the client knows, if it knows any. -/
def Round.IsProper (c : Client (SharedServer δ)) : Round → Prop
  | call device operation parts decoder => ∀ entry number, c.table.find? device = some entry →
      entry.operationId? (String.ofList (asciiUpper operation.toList)) = some number →
      ∃ a, c.Suits device operation parts decoder a
  | event => True

/-- The kinds of messages of which a reading takes: a reply, unless nothing is read or the
connection breaks. -/
def replyKinds (decoder : Decoder) : Except Error decoder.Value → List Bool
  | .ok _ => if decoder = .nothing then [] else [false]
  | .error e => if e.isFatal then [] else [false]

theorem replyKinds_cases {decoder : Decoder} (h : decoder ≠ .nothing)
    (result : Except Error decoder.Value) :
    replyKinds decoder result = [false] ∨ ∃ e, result = .error e ∧ e.isFatal = true := by
  cases result with
  | ok value => exact .inl (if_neg h)
  | error e =>
    cases hfatal : e.isFatal with
    | true => exact .inr ⟨e, rfl, hfatal⟩
    | false => exact .inl (if_neg (by rw [hfatal]; exact Bool.false_ne_true))

/-- The kinds of messages that were read in a round, events or not, in their order. -/
def Played.kinds : Played → List Bool
  | ⟨.call _ _ parts decoder, .ok result⟩ =>
    (Request.ofParts parts).sizes.map (fun _ => false) ++ replyKinds decoder result
  | ⟨.event, .ok _⟩ => [true]
  | ⟨_, .error _⟩ => []

/-- What the reading of a reply has to do with what a device has answered. -/
inductive Answered (a : Asked) : (decoder : Decoder) → Except Error decoder.Value →
    List Message → Prop
  | gets {decoder : Decoder} {reply : Reply} {bytes : Bytes} {value : decoder.Value}
      (hgets : decoder.Gets reply value) :
      Answered a decoder (.ok value) [.reply a.site a.received reply bytes]
  /-- The reply is of no use to the call site. -/
  | misfits {decoder : Decoder} {reply : Reply} {bytes : Bytes} {e : Error}
      (he : e.isFatal = false) :
      Answered a decoder (.error e) [.reply a.site a.received reply bytes]
  | nothing : Answered a .nothing (.ok ()) []
  | breaks {decoder : Decoder} {e : Error} (he : e.isFatal = true) :
      Answered a decoder (.error e) []

/-- What comes of a round has to do with just some messages: the numbers of the elements that the
call wants to send, and then its reply; or the event that was waited for. -/
inductive Played.Gives (c : Client (SharedServer δ)) : Played → List Message → Prop
  | call {device operation : String} {parts : List Part} {decoder : Decoder} {a : Asked}
      {counts : List UInt32} {result : Except Error decoder.Value} {messages : List Message}
      (hleads : c.Leads device operation parts a)
      (hcounts : counts.map UInt32.toNat = (Request.ofParts parts).sizes)
      (hanswered : Answered a decoder result messages) :
      Gives c ⟨.call device operation parts decoder, .ok result⟩ (counts.map .count ++ messages)
  | event : Gives c ⟨.event, .ok (Control.serverChannel, Control.pingEvent)⟩ [.event]
  | fails {round : Round} {e : Error} : Gives c ⟨round, .error e⟩ []

/-- What comes of some rounds has to do with just some messages, round by round. -/
inductive Accounts (c : Client (SharedServer δ)) : List Played → List Message → Prop
  | nil : Accounts c [] []
  | cons {played : Played} {messages more : List Message} {rounds : List Played}
      (h : played.Gives c messages) (hrest : Accounts c rounds more) :
      Accounts c (played :: rounds) (messages ++ more)

/-- Whether no text is answered that holds a zero character. -/
def ArePlain (messages : List Message) : Prop :=
  ∀ site args text bytes, .reply site args (.text text) bytes ∈ messages → '\x00' ∉ text.toList

variable {c c' : Client (SharedServer δ)} {all taken unread : List Message} {m : Message}
  {bytes more : Bytes} {sizes : List Nat} {reply? : Option (CallSite × Arguments)} {kind : Bool}
  {kinds : List Bool}

theorem Evolves.leads_iff (h : Evolves c c') {device operation : String} {parts : List Part}
    {a : Asked} : c'.Leads device operation parts a ↔ c.Leads device operation parts a := by
  have hroute := Hub.route_eq h.fleet
  constructor
  · intro hleads
    exact ⟨h.table ▸ hleads.named, hleads.passes, hroute ▸ hleads.route⟩
  · intro hleads
    exact ⟨h.table ▸ hleads.named, hleads.passes, hroute ▸ hleads.route⟩

theorem Round.IsProper.of_evolves {round : Round} (hproper : round.IsProper c)
    (h : Evolves c c') : round.IsProper c' := by
  cases round with
  | event => trivial
  | call device operation parts decoder =>
    intro entry number hentry hnumber
    rw [h.table] at hentry
    obtain ⟨a, ha⟩ := hproper entry number hentry hnumber
    have hsignature := ha.signature
    rw [← h.catalogue] at hsignature
    exact ⟨a, h.leads_iff.2 ha.toLeads, ha.call, ha.sized, ha.fits, hsignature⟩

theorem Accounts.of_evolves {rounds : List Played} {messages : List Message}
    (haccounts : Accounts c' rounds messages) (h : Evolves c c') :
    Accounts c rounds messages := by
  induction haccounts with
  | nil => exact .nil
  | cons hgives _ ih =>
    refine .cons ?_ ih
    cases hgives with
    | call hleads hcounts hanswered => exact .call (h.leads_iff.1 hleads) hcounts hanswered
    | event => exact .event
    | fails => exact .fails

/-! ### Messages in order -/

/-- Whether messages of some kinds, events or not, are to be read after those that are taken. -/
def InOrder (all taken : List Message) (kinds : List Bool) : Prop :=
  taken.map Message.isEvent ++ kinds <+: all.map Message.isEvent

/-- What is to be read next is of the kind of the next message. -/
theorem InOrder.next (h : InOrder all taken (kind :: kinds)) (hall : taken ++ m :: unread <+: all) :
    m.isEvent = kind ∧ InOrder all (taken ++ [m]) kinds := by
  have hmap : taken.map Message.isEvent ++ m.isEvent :: unread.map Message.isEvent <+:
      all.map Message.isEvent := by
    rw [← List.map_cons, ← List.map_append]
    exact hall.map Message.isEvent
  -- both are what stands in the list after what is taken
  have hsame : m.isEvent = kind := by
    have hone (b : Bool) (later : List Bool) :
        taken.map Message.isEvent ++ [b] <+: taken.map Message.isEvent ++ b :: later :=
      (List.prefix_append_right_inj _).2 (List.prefix_append [b] later)
    have heq := List.prefix_of_prefix_length_le ((hone _ _).trans hmap) ((hone _ _).trans h)
      (by simp)
    simpa using heq.eq_of_length (by simp)
  refine ⟨hsame, ?_⟩
  rw [InOrder, List.map_append, List.append_assoc, List.map_singleton, hsame]
  exact h

/-! ### How a client stands -/

variable [Device δ]

/-- How a client stands with its server: it has taken some of the messages that it was sent, and the
bytes of the others are still to be read. -/
structure Stands (c : Client (SharedServer δ)) (taken unread : List Message) (more : Bytes)
    (sizes : List Nat) (reply? : Option (CallSite × Arguments)) : Prop where
  log : c.peer.log = taken ++ unread
  pending : c.connection.pending = Message.stream unread
  serves : c.peer.Serves more sizes reply? (Message.own unread)

/-- How a client is between two rounds: it stands well with its server, or is of no use. -/
inductive Between (c : Client (SharedServer δ)) (all taken : List Message) (kinds : List Bool) :
    Prop
  | stands {unread : List Message} (h : c.Stands taken unread [] [] none)
      (horder : InOrder all taken kinds)
  | dead (hlog : taken <+: c.peer.log) (husable : c.usable = false)

namespace Stands

theorem log_prefix (h : c.Stands taken unread more sizes reply?) (hall : c.peer.log <+: all) :
    taken ++ unread <+: all := h.log ▸ hall

/-- There is a message to be read if there are bytes. -/
theorem exists_of_pending (h : c.Stands taken unread more sizes reply?) {b : UInt8} {rest : Bytes}
    (hpending : c.connection.pending = b :: rest) : ∃ m later, unread = m :: later := by
  cases unread with
  | nil => cases hpending.symm.trans h.pending
  | cons m later => exact ⟨m, later, rfl⟩

/-- The client has taken the next message. -/
theorem take (h : c.Stands taken (m :: unread) bytes sizes reply?) {connection : Connection}
    (usable : Bool) (hpending : connection.pending = Message.stream unread) {sizes' : List Nat}
    {reply?' : Option (CallSite × Arguments)}
    (hserves : c.peer.Serves more sizes' reply?' (Message.own unread)) :
    Stands { c with connection := connection, usable := usable } (taken ++ [m]) unread more sizes'
      reply?' where
  log := by rw [h.log, List.append_assoc]; rfl
  pending := hpending
  serves := hserves

theorem send (h : c.Stands taken unread (bytes ++ more) sizes reply?)
    (hact : Yields (Client.send bytes) c () c') :
    ∃ later, c'.Stands taken later more sizes reply? := by
  by_cases hbytes : bytes = []
  · subst hbytes
    cases hact
    exact ⟨unread, h⟩
  · obtain ⟨-, rfl⟩ := hact.unique (yields_send_shared hbytes)
    obtain ⟨told, hlog, harriving, hserves⟩ := h.serves.carry c.connection.arriving
    refine ⟨unread ++ told, ?_, ?_, ?_⟩
    · rw [← List.append_assoc, ← h.log]
      exact hlog
    · rw [Message.stream_append, ← h.pending, Connection.pending, Connection.pending,
        List.append_assoc, ← harriving]
      rfl
    · rw [Message.own_append]
      exact hserves

/-- What is read as the number that is due is this number, and the session goes on if it is the
expected one. -/
theorem read_count {size timeout : Nat} {raw : Bytes}
    (h : c.Stands taken unread more (size :: sizes) reply?)
    (hact : Yields (Client.receive (·.exactlyWithin 4 timeout)) c raw c')
    (horder : InOrder all taken (false :: kinds)) (hall : c.peer.log <+: all) :
    ∃ (n : UInt32) (later : List Message), UInt32.ofNat (Wire.valueBE raw) = n ∧
      (n.toNat = size → c'.Stands (taken ++ [.count n]) later more sizes reply?) ∧
      InOrder all (taken ++ [.count n]) kinds := by
  obtain ⟨connection, htake, rfl⟩ := exists_of_receive hact
  obtain ⟨hlen, hpending⟩ := Connection.of_exactlyWithin htake
  obtain ⟨b, raw, rfl⟩ := List.exists_cons_of_length_eq_add_one hlen
  obtain ⟨m, later, rfl⟩ := h.exists_of_pending hpending
  obtain ⟨hkind, horder'⟩ := horder.next (h.log_prefix hall)
  have hserves := h.serves
  rw [Message.own_cons_of_not_isEvent hkind] at hserves
  obtain ⟨n, rfl, hnext⟩ := hserves.take_count
  obtain ⟨hraw, hlater⟩ := List.append_inj (hpending.symm.trans h.pending)
    (hlen.trans (Wire.length_bytesBE 4 _).symm)
  have hready : UInt32.ofNat (Wire.valueBE (b :: raw)) = n := by
    rw [hraw, Message.bytes, Wire.valueBE_bytesBE_of_lt (k := 4) n.toNat_lt, UInt32.ofNat_toNat]
  exact ⟨n, later, hready, fun hsize => h.take c.usable hlater (hnext hsize), horder'⟩

/-- The next number that is due comes next. -/
theorem perform {step : Step}
    (h : c.Stands taken unread (Transcript.bytes step.transcript ++ more) (step.sizes ++ sizes)
      reply?)
    (horder : InOrder all taken (step.sizes.map (fun _ => false) ++ kinds))
    (hact : Yields (Client.perform step) c () c') (hall : c'.peer.log <+: all) :
    ∃ (counts : List UInt32) (later : List Message), counts.map UInt32.toNat = step.sizes ∧
      c'.Stands (taken ++ counts.map .count) later more sizes reply? ∧
      InOrder all (taken ++ counts.map .count) kinds := by
  cases step with
  | bytes bs =>
    rw [Step.transcript, Transcript.bytes_ofBytes] at h
    obtain ⟨later, hlater⟩ := h.send hact
    refine ⟨[], later, rfl, ?_, ?_⟩
    · rw [List.map_nil, List.append_nil]
      exact hlater
    · rw [List.map_nil, List.append_nil]
      exact horder
  | transfer values =>
    have hbytes : Transcript.bytes (Step.transfer values).transcript = values.raw := by
      simp [Step.transcript, Transcript.transfer]
    rw [hbytes] at h
    have hprefix := (grows_perform (.transfer values) _ _ _ hact).log.trans hall
    obtain ⟨_, _, hget, hrest⟩ := yields_bind_iff.1 hact
    cases hget
    obtain ⟨raw, c₁, hreceive, hsend⟩ := yields_bind_iff.1 hrest
    obtain ⟨n, later, hready, hnext, horder'⟩ := h.read_count hreceive horder hprefix
    rw [hready] at hsend
    -- a count other than the size would fail the step
    by_cases hsize : n.toNat = values.size
    · simp only [hsize, ne_eq, not_true_eq_false, if_false] at hsend
      obtain ⟨later', hlater'⟩ := (hnext hsize).send hsend
      refine ⟨[n], later', ?_, hlater', horder'⟩
      rw [List.map_singleton, hsize]
      rfl
    · simp only [hsize, ne_eq, not_false_eq_true, if_true] at hsend
      cases hsend

theorem forM {steps : List Step}
    (h : c.Stands taken unread (Transcript.bytes (steps.flatMap Step.transcript) ++ more)
      (steps.flatMap Step.sizes ++ sizes) reply?)
    (horder : InOrder all taken ((steps.flatMap Step.sizes).map (fun _ => false) ++ kinds))
    (hact : Yields (steps.forM Client.perform) c () c') (hall : c'.peer.log <+: all) :
    ∃ (counts : List UInt32) (later : List Message),
      counts.map UInt32.toNat = steps.flatMap Step.sizes ∧
      c'.Stands (taken ++ counts.map .count) later more sizes reply? ∧
      InOrder all (taken ++ counts.map .count) kinds := by
  induction steps generalizing c taken unread with
  | nil =>
    cases hact
    refine ⟨[], unread, rfl, ?_, ?_⟩
    · rw [List.map_nil, List.append_nil]
      exact h
    · rw [List.map_nil, List.append_nil]
      exact horder
  | cons step steps ih =>
    obtain ⟨_, c₁, hstep, hsteps⟩ := yields_bind_iff.1 hact
    rw [List.flatMap_cons, Transcript.bytes_append, List.append_assoc, List.flatMap_cons,
      List.append_assoc] at h
    rw [List.flatMap_cons, List.map_append, List.append_assoc] at horder
    have hlater : c₁.peer.log <+: all := (grows_forM steps _ _ _ hsteps).log.trans hall
    obtain ⟨counts, later, hcounts, hstands, horder'⟩ := h.perform horder hstep hlater
    obtain ⟨counts', later', hcounts', hstands', horder''⟩ := ih hstands horder' hsteps
    refine ⟨counts ++ counts', later', ?_, ?_, ?_⟩
    · rw [List.map_append, hcounts, hcounts', List.flatMap_cons]
    · rw [List.map_append, ← List.append_assoc]
      exact hstands'
    · rw [List.map_append, ← List.append_assoc]
      exact horder''

/-- Once a request is sent, its reply is all that is due. -/
theorem transmit (h : c.Stands taken unread [] [] none) {a : Asked}
    (hroute : c.peer.server.hub.route a.sending.command.header = .call a.place a.site)
    (hcall : a.site.operation.IsCall a.parts)
    (hsized : ∀ values, .vector values ∈ a.parts → values.size < UInt64.size)
    (horder : InOrder all taken ((Request.ofParts a.parts).sizes.map (fun _ => false) ++ kinds))
    (hact : Yields (Client.transmit a.device a.operation (Request.ofParts a.parts)) c () c')
    (hall : c'.peer.log <+: all) :
    ∃ (counts : List UInt32) (later : List Message),
      counts.map UInt32.toNat = (Request.ofParts a.parts).sizes ∧
      c'.Stands (taken ++ counts.map .count) later [] [] a.reply? ∧
      InOrder all (taken ++ counts.map .count) kinds := by
  obtain ⟨sent, c₀, hlift, hrest⟩ := yields_bind_iff.1 hact
  rcases henvelope : envelope a.device a.operation (Request.ofParts a.parts).envelope.bytes with
    e | sent'
  · rw [henvelope] at hlift
    cases hlift
  rw [henvelope] at hlift
  cases hlift
  obtain ⟨hfits, hsent⟩ := envelope_eq_ok_iff.1 henvelope
  have hasked := h.serves.ask ⟨hroute, hcall, hsized, hfits⟩
  have hbytes : a.sending.bytes = sent ++ Transcript.bytes
      ((Request.ofParts a.parts).allSteps.flatMap Step.transcript) := by
    rw [hsent]
    rfl
  rw [hbytes] at hasked
  obtain ⟨_, c₁, hsend, hsteps⟩ := yields_bind_iff.1 hrest
  have hbegun : c.Stands taken unread _ _ _ := ⟨h.log, h.pending, hasked⟩
  obtain ⟨later, hlater⟩ := hbegun.send hsend
  rw [← List.append_nil (Transcript.bytes _), ← List.append_nil (Request.sizes _)] at hlater
  exact hlater.forM horder hsteps hall

/-- An error that breaks the connection ends everything. -/
theorem breaks (h : c.Stands taken unread more sizes reply?) (a : Asked) {decoder : Decoder}
    {r : Response} {e : Error} (hfails : Fails (decoder.run r) c e c') (hfatal : e.isFatal = true) :
    ∃ messages, Answered a decoder (.error e) messages ∧
      Between c' all (taken ++ messages) kinds := by
  obtain ⟨_, _, hc'⟩ := (receives_decoder r decoder).fails hfails
  refine ⟨[], .breaks hfatal, .dead ?_ (latches_decoder r decoder c e c' hfails hfatal)⟩
  rw [List.append_nil, hc', h.log]
  exact List.prefix_append _ _

/-- Where no reply is due, nothing is read. -/
theorem read_nothing (h : c.Stands taken unread [] [] none) (a : Asked) {r : Response}
    {result : Except Error Unit} (hrun : (Decoder.nothing.run r).run.run c = (result, c'))
    (horder : InOrder all taken (replyKinds .nothing result ++ kinds)) :
    ∃ messages, Answered a .nothing result messages ∧
      Between c' all (taken ++ messages) kinds := by
  rcases run_nothing_cases r c with hyields | ⟨e, c₁, hfails, hfatal⟩
  · cases hrun.symm.trans hyields
    refine ⟨[], .nothing, ?_⟩
    rw [List.append_nil]
    exact .stands h horder
  · cases hrun.symm.trans hfails
    exact h.breaks a hfails hfatal

/-- A reply that is due is read if its turn has come. -/
theorem read_reply {a : Asked}
    (h : c.Stands taken (m :: unread) [] [] (some (a.site, a.received)))
    (hop : a.site.operation.IsDescribed) {decoder : Decoder} (hfits : decoder.Fits a.site.operation)
    {r : Response}
    (hsignature : r.signature? = none ∨ r.signature? = some (functionSignature a.site.operation))
    {result : Except Error decoder.Value} (hrun : (decoder.run r).run.run c = (result, c'))
    (horder : InOrder all taken (false :: kinds)) (hall : c.peer.log <+: all)
    (hplain : ArePlain all) :
    ∃ messages, Answered a decoder result messages ∧
      Between c' all (taken ++ messages) kinds := by
  obtain ⟨hkind, horder'⟩ := horder.next (h.log_prefix hall)
  have hserves := h.serves
  rw [Message.own_cons_of_not_isEvent hkind] at hserves
  obtain ⟨reply, bytes, rfl, hbytes, hnext⟩ := hserves.take_reply
  have hzero (text : String) (htext : reply = .text text) : '\x00' ∉ text.toList := by
    subst htext
    refine hplain a.site a.received text bytes ((h.log_prefix hall).subset ?_)
    exact List.mem_append_right _ (List.mem_cons_self ..)
  -- the reply is there; the decoder takes it, refuses it, or breaks the connection
  cases settles_run hop hbytes hzero hsignature h.pending hfits with
  | gets hyields hgets hrest =>
    cases hrun.symm.trans hyields
    obtain ⟨connection, rfl, -⟩ := (receives_decoder r decoder).yields hyields
    exact ⟨_, .gets hgets, .stands (h.take c.usable hrest hnext) horder'⟩
  | @misfits e _ hfails hrest =>
    cases hrun.symm.trans hfails
    cases hfatal : e.isFatal with
    | true => exact h.breaks a hfails hfatal
    | false =>
      obtain ⟨connection, usable, rfl⟩ := (receives_decoder r decoder).fails hfails
      exact ⟨_, .misfits hfatal, .stands (h.take usable hrest hnext) horder'⟩
  | breaks hfails hfatal =>
    cases hrun.symm.trans hfails
    exact h.breaks a hfails hfatal

/-- What is read as the reply that is due is this reply. -/
theorem read {a : Asked} (h : c.Stands taken unread [] [] a.reply?)
    (hop : a.site.operation.IsDescribed) {decoder : Decoder} (hfits : decoder.Fits a.site.operation)
    {r : Response}
    (hsignature : r.signature? = none ∨ r.signature? = some (functionSignature a.site.operation))
    {result : Except Error decoder.Value} (hrun : (decoder.run r).run.run c = (result, c'))
    (horder : InOrder all taken (replyKinds decoder result ++ kinds)) (hall : c.peer.log <+: all)
    (hplain : ArePlain all) :
    ∃ messages, Answered a decoder result messages ∧
      Between c' all (taken ++ messages) kinds := by
  by_cases hnothing : decoder = .nothing
  · subst hnothing
    rw [Asked.reply?, if_pos (hfits.eq_nothing_iff.1 rfl)] at h
    exact h.read_nothing a hrun horder
  rw [Asked.reply?, if_neg (mt hfits.eq_nothing_iff.2 hnothing)] at h
  rcases replyKinds_cases hnothing result with hkinds | ⟨e, rfl, hfatal⟩
  · rw [hkinds] at horder
    cases unread with
    | nil =>
      obtain ⟨e, c₁, hfails, hfatal⟩ :=
        hfits.starves hop (returns_of_declared hsignature) hnothing c h.pending
      cases hrun.symm.trans hfails
      exact h.breaks a hfails hfatal
    | cons m later => exact h.read_reply hop hfits hsignature hrun horder hall hplain
  · exact h.breaks a hrun hfatal

/-- What is waited for as an event is an event. -/
theorem event (h : c.Stands taken unread [] [] none) {value : UInt32 × UInt32}
    (hrun : Yields nextEvent c value c') (horder : InOrder all taken (true :: kinds))
    (hall : c.peer.log <+: all) :
    value = (Control.serverChannel, Control.pingEvent) ∧
      Between c' all (taken ++ [.event]) kinds := by
  obtain ⟨connection, raw, rfl, hlen, hpending, rfl⟩ := exists_of_nextEvent hrun
  obtain ⟨b, raw, rfl⟩ := List.exists_cons_of_length_eq_add_one hlen
  obtain ⟨m, later, rfl⟩ := h.exists_of_pending hpending
  obtain ⟨hkind, horder'⟩ := horder.next (h.log_prefix hall)
  cases m with
  | count | reply => cases hkind
  | event =>
    have hserves := h.serves
    rw [Message.own_cons_of_isEvent hkind] at hserves
    obtain ⟨hraw, hlater⟩ := List.append_inj (hpending.symm.trans h.pending) hlen
    refine ⟨?_, .stands (h.take c.usable hlater hserves) horder'⟩
    rw [hraw]
    rfl

end Stands

/-! ### Whole runs -/

/-- A call gets the numbers that it waits for, and what is read after it is its reply. -/
theorem Stands.call (h : c.Stands taken unread [] [] none) {device operation : String}
    {parts : List Part} {decoder : Decoder} {a : Asked}
    (ha : c.Suits device operation parts decoder a) {r : Response} {c₁ : Client (SharedServer δ)}
    (hcall : Yields (Client.call device operation parts) c r c₁)
    {result : Except Error decoder.Value} (hrun : (decoder.run r).run.run c₁ = (result, c'))
    (horder : InOrder all taken ((Request.ofParts parts).sizes.map (fun _ => false) ++
      (replyKinds decoder result ++ kinds)))
    (hall : c₁.peer.log <+: all) (hplain : ArePlain all) :
    ∃ messages, Played.Gives c ⟨.call device operation parts decoder, .ok result⟩ messages ∧
      Between c' all (taken ++ messages) kinds := by
  obtain ⟨entry, number, hentry, hnumber, htransmit, rfl⟩ := exists_of_call hcall
  obtain ⟨entry', hentry', hdevice, hoperation⟩ := ha.named
  cases hentry.symm.trans hentry'
  cases hnumber.symm.trans hoperation
  obtain rfl := ha.passes
  rw [hdevice] at htransmit
  obtain ⟨counts, later, hcounts, hstands, horder'⟩ :=
    h.transmit ha.route ha.call ha.sized horder htransmit hall
  have hop := Hub.isDescribed_of_route h.serves.described ha.route
  obtain ⟨messages, hanswered, hbetween⟩ :=
    hstands.read hop ha.fits ha.signature hrun horder' hall hplain
  rw [List.append_assoc] at hbetween
  exact ⟨_, .call ha.toLeads hcounts hanswered, hbetween⟩

/-- What comes of a round has to do with just the messages that are read in it. -/
theorem Between.round {round : Round} {outcome : Except Error round.Value}
    (h : Between c all taken (Played.kinds ⟨round, outcome⟩ ++ kinds))
    (hproper : round.IsProper c) (hrun : round.run.run.run c = (outcome, c'))
    (hall : c'.peer.log <+: all) (hplain : ArePlain all) :
    ∃ messages, Played.Gives c ⟨round, outcome⟩ messages ∧
      Between c' all (taken ++ messages) kinds := by
  cases h with
  | dead hlog husable =>
    cases hrun.symm.trans (fails_round_of_not_usable husable round)
    exact ⟨[], .fails, .dead (by rw [List.append_nil]; exact hlog) husable⟩
  | stands h horder =>
    have hlog := (grows_round round _ _ _ hrun).log
    cases outcome with
    | error e =>
      have hkinds : Played.kinds ⟨round, .error e⟩ = [] := by cases round <;> rfl
      rw [hkinds] at horder
      refine ⟨[], .fails, ?_⟩
      rw [List.append_nil]
      -- a failed round either leaves the client unusable, or has done nothing
      rcases round_cases hrun with husable | rfl
      · have htaken : taken <+: c.peer.log := h.log ▸ List.prefix_append _ _
        exact .dead (htaken.trans hlog) husable
      · exact .stands h horder
    | ok value =>
      cases round with
      | event =>
        obtain ⟨rfl, hafter⟩ := h.event hrun horder (hlog.trans hall)
        exact ⟨[.event], .event, hafter⟩
      | call device operation parts decoder =>
        obtain ⟨r, c₁, hcall, hattempt⟩ := yields_bind_iff.1 hrun
        have hread : (decoder.run r).run.run c₁ = (value, c') := by
          cases (run_attempt (decoder.run r) c₁).symm.trans hattempt
          rfl
        obtain ⟨entry, number, hentry, hnumber, -, -⟩ := exists_of_call hcall
        obtain ⟨a, ha⟩ := hproper entry number hentry hnumber
        have hafter := (grows_of_receives (receives_decoder r decoder) _ _ _ hread).log.trans hall
        rw [Played.kinds, List.append_assoc] at horder
        exact h.call ha hcall hread horder hafter hplain

/-- What comes of some rounds has to do with just the messages that are read in them. -/
theorem Between.play {rounds : List Round}
    (h : Between c all taken ((Client.play c rounds).1.flatMap Played.kinds))
    (hproper : ∀ round ∈ rounds, round.IsProper c)
    (hall : (Client.play c rounds).2.peer.log <+: all) (hplain : ArePlain all) :
    ∃ messages, Accounts c (Client.play c rounds).1 messages ∧
      Between (Client.play c rounds).2 all (taken ++ messages) [] := by
  induction rounds generalizing c taken with
  | nil =>
    refine ⟨[], .nil, ?_⟩
    rw [List.append_nil]
    exact h
  | cons round rounds ih =>
    obtain ⟨hround, hrounds⟩ := List.forall_mem_cons.1 hproper
    have hevolves := grows_round round c _ _ rfl
    have hlater := (evolves_play (round.run.run.run c).2 rounds).log.trans hall
    obtain ⟨messages, hgives, hbetween⟩ := Between.round h hround rfl hlater hplain
    obtain ⟨more, haccounts, hlast⟩ :=
      ih hbetween (fun next hnext => (hrounds next hnext).of_evolves hevolves) hall
    rw [List.append_assoc] at hlast
    exact ⟨messages ++ more, .cons hgives (haccounts.of_evolves hevolves), hlast⟩

/-- A client whose session listens, that has been given all that this was sent, and for which nobody
else speaks. -/
structure IsSettled (c : Client (SharedServer δ)) : Prop where
  pending : c.connection.pending = []
  log : c.peer.log = []
  sound : c.peer.server.Sound
  session : ∃ l info, c.peer.server.lines[c.peer.client]? = some l ∧ l.stage = .listening ∧
    l.incoming = [] ∧ l.ended = false ∧ c.peer.server.hub.registry.find? l.id = some info ∧
    l.delivered = info.output.length
  spares : ∀ t ∈ c.peer.turns, t.Spares c.peer.client

theorem IsSettled.stands (h : c.IsSettled) : c.Stands [] [] [] [] none := by
  obtain ⟨l, info, hline, hstage, hincoming, hended, hsession, hdelivered⟩ := h.session
  have hahead : Ahead c.peer.server.hub l.stage (l.incoming ++ []) [] := by
    rw [hstage, hincoming]
    exact .listening .nil
  have hnothing : Promise.due [] none = [] ++ ([] ++ []) := rfl
  exact ⟨h.log, h.pending, ⟨l, info, ⟨h.sound, hline, hsession, hended,
    .keeps hnothing .nil hahead⟩, hdelivered⟩, h.spares⟩

/-- Calls and events are not confused by a client that takes its messages in the order in which they
were sent. Whatever all sessions do and in which order, and however the bytes arrive: the client has
been sent whole messages; if it reads numbers and replies where its session sent them, and events
where events were sent, then every call got the numbers of elements that it wanted to send and the
reply of its own operation to its own arguments, every wait for an event got one that was broadcast,
and the bytes of all later messages are left. -/
theorem accounts_of_inOrder (hc : c.IsSettled) {rounds : List Round}
    (hproper : ∀ round ∈ rounds, round.IsProper c)
    (horder : (play c rounds).1.flatMap Played.kinds <+:
      (play c rounds).2.peer.log.map Message.isEvent)
    (hplain : ArePlain (play c rounds).2.peer.log) :
    ∃ taken unread, (play c rounds).2.peer.log = taken ++ unread ∧
      Accounts c (play c rounds).1 taken ∧
      ((play c rounds).2.usable = true →
        (play c rounds).2.connection.pending = Message.stream unread) := by
  obtain ⟨taken, haccounts, hbetween⟩ :=
    Between.play (.stands hc.stands horder) hproper List.prefix_rfl hplain
  rw [List.nil_append] at hbetween
  cases hbetween with
  | stands h => exact ⟨taken, _, h.log, haccounts, fun _ => h.pending⟩
  | dead hlog husable =>
    obtain ⟨unread, hunread⟩ := hlog
    exact ⟨taken, unread, hunread.symm, haccounts, fun h => by cases husable.symm.trans h⟩

/-! ### A server with two clients -/

/-- A server of some devices, which two clients have come to. -/
def serverOfTwo (fleet : Fleet Scripted) : Server Scripted :=
  (Server.ofFleet fleet).moveAll [.connects, .connects]

/-- The first of them, with what is to happen. -/
def firstOfTwo (fleet : Fleet Scripted) (turns : List Turn) : Client (SharedServer Scripted) where
  connection := {}
  peer := { server := serverOfTwo fleet, client := 0, turns := turns }
  config := {}
  table := fleet.table.discovery

theorem isSettled_firstOfTwo {fleet : Fleet Scripted} (hfleet : fleet.AllDescribed)
    {turns : List Turn} (hturns : ∀ t ∈ turns, t.Spares 0) :
    (firstOfTwo fleet turns).IsSettled where
  pending := rfl
  log := rfl
  sound := (Server.sound_ofFleet hfleet).moveAll _
  session := ⟨_, _, rfl, rfl, rfl, rfl, rfl, rfl⟩
  spares := hturns

/-- A call of theirs is proper if it leads where it is said to. -/
theorem isProper_firstOfTwo {fleet : Fleet Scripted} (turns : List Turn) {device operation : String}
    {parts : List Part} {decoder : Decoder} (id number : UInt16) (place : Option Nat)
    (site : CallSite)
    (hnamed : (fleet.table.discovery.find? device).map (fun entry => (entry.id,
      entry.operationId? (String.ofList (asciiUpper operation.toList)))) = some (id, some number))
    (hroute : (serverOfTwo fleet).hub.route (Sending.call id number parts).command.header =
      .call place site)
    (hcall : site.operation.IsCall parts)
    (hsized : ∀ values, .vector values ∈ parts → values.size < UInt64.size)
    (hfits : decoder.Fits site.operation) :
    (Round.call device operation parts decoder).IsProper (firstOfTwo fleet turns) := by
  obtain ⟨entry, hentry, hnumber⟩ := Option.map_eq_some_iff.1 hnamed
  obtain ⟨hid, hoperation⟩ := Prod.mk.inj hnumber
  intro _ _ _ _
  exact ⟨⟨id, number, parts, place, site⟩, ⟨⟨entry, hentry, hid, hoperation⟩, rfl, hroute⟩, hcall,
    hsized, hfits, .inl rfl⟩

/-- Some steps of a session. -/
def steps (j n : Nat) : List Move := List.replicate n (.step j)

/-- The session of the client makes the three steps of a call. -/
def callTurn : Turn := .whole [(64, steps 0 3)]

def subscribing : Round :=
  .call "CONTROL" "subscribe_broadcast" [.scalar (Wire.Scalar.ofUInt32 0)] .nothing

theorem isProper_subscribing (turns : List Turn) :
    subscribing.IsProper (firstOfTwo Hub.pumpHub.fleet turns) := by
  refine isProper_firstOfTwo turns 1 5 none ⟨"Control", Interface.control.operations[5]⟩
    (by decide +kernel) rfl ?_ (by simp) (.nothing rfl)
  exact .plain rfl (.cons (.scalar (Wire.Scalar.ofUInt32 0)) .nil) (by decide)

theorem allDescribed_pumpHub : Hub.pumpHub.fleet.AllDescribed := by
  obtain ⟨fleet, hfleet, htable⟩ := Hub.exists_ofDevices_pump
  rw [Fleet.AllDescribed, htable]
  exact Fleet.allDescribed_of_ofDevices hfleet

/-- The client subscribes, has the pump take two bytes, waits for an event and asks the pump. -/
def pumpRounds : List Round :=
  [subscribing, .call "PUMP" "take" [.vector ⟨.u8, [7, 8], rfl⟩] .nothing, .event,
    .call "PUMP" "ping" [] (.scalar .u8)]

/-- While the pump waits for the bytes, the other client asks for an event. -/
def pumpTurns : List Turn :=
  [callTurn,
    .whole [(7, []), (64, steps 0 2 ++ .hears 1 (Sending.call 1 6 []).bytes :: steps 1 3)],
    .whole [(1, steps 0 1), (64, steps 0 2)], callTurn]

def pumpClient : Client (SharedServer Scripted) := firstOfTwo Hub.pumpHub.fleet pumpTurns

/-- The client is sent a number, an event and a reply, and reads them in this order. -/
theorem accounts_of_inOrder_pump :
    pumpClient.IsSettled ∧ (∀ round ∈ pumpRounds, round.IsProper pumpClient) ∧
    (play pumpClient pumpRounds).2.peer.log =
      [.count 2, .event,
        .reply ⟨"Pump", Hub.pumpPing⟩ [] (.scalar (Wire.Scalar.ofBits .u8 7)) [7]] ∧
    (play pumpClient pumpRounds).1.flatMap Played.kinds = [false, true, false] ∧
    ∃ taken unread, (play pumpClient pumpRounds).2.peer.log = taken ++ unread ∧
      Accounts pumpClient (play pumpClient pumpRounds).1 taken ∧
      ((play pumpClient pumpRounds).2.usable = true →
        (play pumpClient pumpRounds).2.connection.pending = Message.stream unread) := by
  have hsettled : pumpClient.IsSettled := isSettled_firstOfTwo allDescribed_pumpHub (by decide)
  have hproper : ∀ round ∈ pumpRounds, round.IsProper pumpClient := by
    simp only [pumpRounds, List.forall_mem_cons, List.not_mem_nil, false_implies, implies_true,
      and_true]
    refine ⟨isProper_subscribing pumpTurns, ?_, trivial, ?_⟩
    · exact isProper_firstOfTwo pumpTurns 2 0 (some 0) ⟨"Pump", Hub.pumpTake⟩
        (by decide +kernel) rfl (.plain rfl (.cons (.vector ⟨.u8, [7, 8], rfl⟩) .nil) (by decide))
        (by simp; decide) (.nothing rfl)
    · exact isProper_firstOfTwo pumpTurns 2 1 (some 0) ⟨"Pump", Hub.pumpPing⟩
        (by decide +kernel) rfl (.plain rfl .nil (by decide)) (by simp) (.scalar rfl rfl)
  have hlog : (play pumpClient pumpRounds).2.peer.log = [.count 2, .event,
      .reply ⟨"Pump", Hub.pumpPing⟩ [] (.scalar (Wire.Scalar.ofBits .u8 7)) [7]] := by
    decide +kernel
  have hkinds : (play pumpClient pumpRounds).1.flatMap Played.kinds = [false, true, false] := by
    decide +kernel
  refine ⟨hsettled, hproper, hlog, hkinds, accounts_of_inOrder hsettled hproper ?_ ?_⟩
  · rw [hkinds, hlog]
    exact List.prefix_rfl
  · rw [hlog]
    intro site args text bytes hmem
    simp at hmem

def askingVersion : Round := .call "CONTROL" "GET_VERSION" [] .text

/-- The client subscribes, asks for an event itself, and asks for the version. -/
def selfRounds : List Round :=
  [subscribing, .call "CONTROL" "broadcast_ping" [] .nothing, askingVersion]

/-- A server with a pump whose place has a zero character in its name. -/
def placeFleet : Fleet Scripted where
  table := ⟨[⟨"Pump", "PUMP", 2, [pumpPlace], none⟩]⟩
  devices := [{ Scripted.bare "" with script := [("place", .reply (.text "a\x00b"))] }]
  length_eq := rfl

theorem allDescribed_placeFleet : placeFleet.AllDescribed := by
  simp only [Fleet.AllDescribed, placeFleet, List.mem_singleton, forall_eq,
    Interface.Description.AllDescribed]
  exact isDescribed_pumpPlace

/-- The reply of the server to a request for its version. -/
def versionReply : Message :=
  .reply ⟨"Control", Interface.control.operations[0]⟩ [] (.text Control.version)
    (Text.utf8 Control.version ++ [0])

def placeRounds : List Round := [.call "PUMP" "place" [] .text, askingVersion]

/-- The first clients of a server with either pump. -/
def selfClient : Client (SharedServer Scripted) :=
  firstOfTwo Hub.pumpHub.fleet (List.replicate 3 callTurn)

def placeClient : Client (SharedServer Scripted) :=
  firstOfTwo placeFleet (List.replicate 2 callTurn)

/-- A client that does not wait for the event that it was sent before its reply gets the beginning
of the event as the reply; and one whose last reply held a zero character gets the rest of that. -/
theorem getVersion_out_of_order :
    (selfClient.IsSettled ∧ (∀ round ∈ selfRounds, round.IsProper selfClient) ∧
      (play selfClient selfRounds).2.peer.log = [.event, versionReply] ∧
      (getVersion.run.run (play selfClient (selfRounds.take 2)).2).1 = .ok "") ∧
    placeClient.IsSettled ∧ (∀ round ∈ placeRounds, round.IsProper placeClient) ∧
      (play placeClient placeRounds).2.peer.log =
        [.reply ⟨"Pump", pumpPlace⟩ [] (.text "a\x00b") [97, 0, 98, 0], versionReply] ∧
      (getVersion.run.run (play placeClient (placeRounds.take 1)).2).1 = .ok "b" := by
  have hself : ∀ round ∈ selfRounds, round.IsProper selfClient := by
    simp only [selfRounds, List.forall_mem_cons, List.not_mem_nil, false_implies, implies_true,
      and_true]
    refine ⟨isProper_subscribing _, ?_, ?_⟩
    · exact isProper_firstOfTwo _ 1 6 none ⟨"Control", Interface.control.operations[6]⟩
        (by decide +kernel) rfl (.plain rfl .nil (by decide)) (by simp) (.nothing rfl)
    · exact isProper_firstOfTwo _ 1 0 none ⟨"Control", Interface.control.operations[0]⟩
        (by decide +kernel) rfl (.plain rfl .nil (by decide)) (by simp) (.text rfl)
  have hplace : ∀ round ∈ placeRounds, round.IsProper placeClient := by
    simp only [placeRounds, List.forall_mem_cons, List.not_mem_nil, false_implies, implies_true,
      and_true]
    constructor
    · exact isProper_firstOfTwo _ 2 0 (some 0) ⟨"Pump", pumpPlace⟩ (by decide +kernel) rfl
        (.plain rfl .nil (by decide)) (by simp) (.text rfl)
    · exact isProper_firstOfTwo _ 1 0 none ⟨"Control", Interface.control.operations[0]⟩
        (by decide +kernel) rfl (.plain rfl .nil (by decide)) (by simp) (.text rfl)
  exact ⟨⟨isSettled_firstOfTwo allDescribed_pumpHub (by decide), hself, by decide +kernel,
      by decide +kernel⟩,
    isSettled_firstOfTwo allDescribed_placeFleet (by decide), hplace, by decide +kernel,
    by decide +kernel⟩

end Client

end Instrument.Network
