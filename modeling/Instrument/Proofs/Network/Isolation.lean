import Instrument.Proofs.Device.Fleet
import Instrument.Proofs.Network.Accounts
import Instrument.Proofs.Network.Request
import Instrument.Proofs.Network.Truncation

/-!
Calls that fail among others. Main statement: whatever complete calls and stray envelopes a session
is sent, and in whatever order, it executes each call once, in that order, is sent just what each
call acknowledges and answers and the events that it asks for itself, and counts every envelope and
every failure; an envelope that is none ends it.
-/

namespace Instrument.Network

open Client (Part Request)
open Registry (Adds)

/-- What a client sends for one command. -/
inductive Sending where
  /-- A call of an operation, by the numbers of the device and of the operation, with all that is
  streamed for it. -/
  | call (device operation : UInt16) (parts : List Part)
  /-- An envelope that no operation takes. -/
  | stray (c : Command)

namespace Sending

/-- The envelope. -/
def command : Sending → Command
  | call device operation parts =>
    let payload := (Request.ofParts parts).envelope.bytes
    ⟨⟨device, operation, UInt32.ofNat payload.length⟩, payload⟩
  | stray c => c

/-- What passes after the envelope. -/
def transcript : Sending → Transcript
  | call _ _ parts => (Request.ofParts parts).transcript
  | stray _ => []

/-- All bytes that are sent. -/
def bytes (sending : Sending) : Bytes := sending.command.toBytes ++ sending.transcript.bytes

/-- The arguments that an operation gets, or why it gets none. -/
def arguments (site : CallSite) : Sending → Except Error Arguments
  | call _ _ parts => .ok (site.operation.received parts)
  | stray c => .error (.invalidPayloadSize site.device site.operation.name
      site.operation.layout.payloadSize c.payload.length)

end Sending

/-- What becomes of a command. -/
structure Outcome where
  /-- The numbers of elements that are acknowledged. -/
  counts : List UInt32
  /-- The event that the session gets for it. -/
  event : Bytes
  /-- The bytes of the answer where one is sent; nothing if the command fails. -/
  answer? : Option (Option Bytes)

namespace Outcome

/-- All that the session is sent. -/
def output (o : Outcome) : Bytes :=
  Hub.acknowledgements o.counts ++ o.event ++ o.answer?.join.getD []

/-- Whether the command fails. -/
def failed (o : Outcome) : Bool := o.answer?.isNone

end Outcome

/-- The devices after one of them has executed an operation. -/
def executeAt {δ : Type} [Device δ] (devices : List δ) :
    Nat × Interface.Operation × Arguments → List δ
  | (i, op, args) =>
    match devices[i]? with
    | none => devices
    | some d => devices.set i (Device.execute d op args).2

namespace Hub

variable {δ : Type} [Device δ] {id : Nat} {hub : Hub δ} {sending : Sending}

/-! ### One command -/

/-- The hub after a session has counted a command and acknowledged what is streamed for it. -/
def read (hub : Hub δ) (id : Nat) (sending : Sending) : Hub δ :=
  (hub.countRequest id).update id (·.send (acknowledgements sending.transcript.counts))

/-- The hub after a session has handled a command. -/
def after (hub : Hub δ) (id : Nat) (sending : Sending) : Hub δ :=
  match hub.route sending.command.header with
  | .refused text => (hub.countRequest id).update id (·.fail text)
  | .call place site =>
    ((hub.read id sending).finish id place site (sending.arguments site)).1

/-- What becomes of a command: a call is answered as the device executes it, and a stray envelope
fails. -/
def outcome (hub : Hub δ) (id : Nat) (sending : Sending) : Outcome :=
  match sending with
  | .stray _ => ⟨[], [], none⟩
  | .call _ _ parts =>
    match hub.route sending.command.header with
    | .refused _ => ⟨[], [], none⟩
    | .call place site =>
      let read := hub.read id sending
      ⟨sending.transcript.counts, read.event id place site.operation,
        (read.respond id place site (.ok (site.operation.received parts))).1.toOption⟩

/-- What a device besides the control device executes for a command: the place of the device, the
operation and its arguments. -/
def execution? (hub : Hub δ) (sending : Sending) :
    Option (Nat × Interface.Operation × Arguments) :=
  match sending with
  | .stray _ => none
  | .call _ _ parts =>
    match hub.route sending.command.header with
    | .refused _ => none
    | .call place site => place.map fun i => (i, site.operation, site.operation.received parts)

/-- Whether a sending is what it claims to be: a call has a value for each argument, no more
elements than a transfer can hold, and a buffer that the device takes; a stray envelope asks for no
operation that there is, or has a payload of another size than the layout of the operation, which is
the size of its arguments unless they are more than 64 bits can count. -/
inductive Accepts (hub : Hub δ) : Sending → Prop
  | call {device operation : UInt16} {parts : List Part} {place : Option Nat} {site : CallSite}
      (hroute : hub.route (Sending.call device operation parts).command.header = .call place site)
      (hcall : site.operation.IsCall parts) (htransferable : ∀ p ∈ parts, p.IsTransferable)
      (haccept : ∀ values, Part.buffer values ∈ parts →
        hub.accept place site.operation (site.operation.received parts).dropLast values.size =
          values.size)
      (hfits : (Request.ofParts parts).envelope.bytes.length ≤ EnvelopeHeader.maxPayload) :
      Accepts hub (.call device operation parts)
  | unknown {c : Command} {text : String} (hc : c.IsWhole)
      (hroute : hub.route c.header = .refused text) : Accepts hub (.stray c)
  | missized {c : Command} {place : Option Nat} {site : CallSite} (hc : c.IsWhole)
      (hroute : hub.route c.header = .call place site)
      (hsize : c.payload.length ≠ site.operation.layout.payloadSize) : Accepts hub (.stray c)

/-- Whether the errors of the devices leave the session as it is. -/
def DevicesKeep (δ : Type) [Device δ] : Prop :=
  ∀ (d : δ) (op : Interface.Operation) (args : Arguments) (e : Error),
    (Device.execute d op args).1 = .error e → endsSession e = false

theorem endsSession_of_perform (hdevices : DevicesKeep δ) {place : Option Nat}
    {op : Interface.Operation} {args : Arguments} {e : Error}
    (h : (hub.perform id place op args).1 = .error e) : endsSession e = false := by
  unfold perform at h
  split at h
  · split at h
    · cases h
      rfl
    · exact hdevices _ _ _ _ h
  · split at h
    · next he =>
      cases h
      exact endsSession_of_not_isFatal (Control.error_of_execute he).2
    · cases h

theorem endsSession_of_respond (hdevices : DevicesKeep δ) {place : Option Nat} {site : CallSite}
    {args : Arguments} {e : Error}
    (h : (hub.respond id place site (.ok args)).1 = .error e) : endsSession e = false := by
  have hrespond : (hub.respond id place site (.ok args)).1 =
      (hub.perform id place site.operation args).1.bind site.encode := rfl
  rw [hrespond] at h
  cases hperform : (hub.perform id place site.operation args).1 with
  | error e' =>
    rw [hperform] at h
    cases h
    exact endsSession_of_perform hdevices hperform
  | ok reply =>
    rw [hperform] at h
    exact endsSession_of_not_isFatal (CallSite.isFatal_of_encode h)

/-- A call is executed once, and what comes of it is sent or counted. -/
theorem adds_finish (hdevices : DevicesKeep δ) (id : Nat) (hub : Hub δ) (place : Option Nat)
    (site : CallSite) (args : Arguments) :
    Adds id (hub.event id place site.operation ++
        (hub.respond id place site (.ok args)).1.toOption.join.getD []) 0
      (if (hub.respond id place site (.ok args)).1.toOption.isNone then 1 else 0) hub.registry
      (hub.finish id place site (.ok args)).1.registry ∧
    (hub.finish id place site (.ok args)).2 = none := by
  obtain ⟨hsettle, hnone⟩ := adds_settle id (hub.respond id place site (.ok args)).2 site
    fun e he => endsSession_of_respond hdevices he
  have hadds := (adds_perform hub place site.operation args).trans hsettle
  simp only [Nat.zero_add] at hadds
  exact ⟨hadds, hnone⟩

omit [Device δ] in
theorem route_eq {hub' : Hub δ} (h : hub'.fleet.table = hub.fleet.table) :
    hub'.route = hub.route := by
  funext header
  simp only [route, Fleet.find?, h]

omit [Device δ] in
/-- The operation of a server that a command asks for is declared by a class. -/
theorem isDescribed_of_route (hfleet : hub.fleet.AllDescribed) {header : EnvelopeHeader}
    {place : Option Nat} {site : CallSite} (h : hub.route header = .call place site) :
    site.operation.IsDescribed := by
  unfold route at h
  split at h
  · cases h
  · next hfind =>
    split at h
    · cases h
    · next hoperation =>
      cases h
      exact hfleet.of_find? hfind _ (List.mem_of_getElem? hoperation)

/-- A payload of the wrong size is refused before anything is streamed. -/
theorem isCall_of_missized {c : Command} {place : Option Nat} {site : CallSite}
    (hroute : hub.route c.header = .call place site)
    (hsize : c.payload.length ≠ site.operation.layout.payloadSize) :
    hub.IsCall c place site [] ((Sending.stray c).arguments site) where
  route := hroute
  completes := by
    unfold CallSite.decode
    rw [if_pos hsize]
    exact .refl _

theorem after_of_refused {text : String} (hroute : hub.route sending.command.header = .refused text) :
    hub.after id sending = (hub.countRequest id).update id (·.fail text) := by
  rw [after, hroute]

theorem after_of_call {place : Option Nat} {site : CallSite}
    (hroute : hub.route sending.command.header = .call place site) :
    hub.after id sending =
      ((hub.read id sending).finish id place site (sending.arguments site)).1 := by
  rw [after, hroute]

/-- A session takes just the bytes of a command. -/
theorem takes_of_accepts (hfleet : hub.fleet.AllDescribed) (hdevices : DevicesKeep δ)
    (h : hub.Accepts sending) : Takes id hub sending.bytes (hub.after id sending) := by
  cases h with
  | @unknown c text hc hroute =>
    have hbytes : (Sending.stray c).bytes = c.toBytes := List.append_nil _
    rw [after_of_refused hroute, hbytes]
    exact .refused hc hroute
  | @missized c place site hc hroute hsize =>
    rw [after_of_call hroute]
    exact .call hc (isCall_of_missized hroute hsize) rfl
  | @call device operation parts place site hroute hcall htransferable haccept hfits =>
    have hop := isDescribed_of_route hfleet hroute
    obtain ⟨henvelope, htranscript⟩ := Client.Request.ofParts_eq hop hcall
    have hdecode := CallSite.completes_decode hop hcall htransferable haccept
    rw [← henvelope, ← htranscript] at hdecode
    have hlt := Nat.lt_of_le_of_lt hfits (by decide : EnvelopeHeader.maxPayload < UInt32.size)
    have hwhole : (Sending.call device operation parts).command.IsWhole :=
      ⟨UInt32.toNat_ofNat_of_lt' hlt, hfits⟩
    rw [after_of_call hroute]
    exact .call hwhole ⟨hroute, hdecode⟩ (Prod.ext rfl (adds_finish hdevices id _ place site _).2)

omit [Device δ] in
theorem adds_read (hub : Hub δ) (sending : Sending) :
    Adds id (acknowledgements sending.transcript.counts) 1 0 hub.registry
      (hub.read id sending).registry :=
  Registry.adds_countRequest.trans (adds_send (hub.countRequest id) _)

/-- What a command comes to is added to what the session is sent and to what is counted. -/
theorem adds_after (hdevices : DevicesKeep δ) (h : hub.Accepts sending) :
    Adds id (hub.outcome id sending).output 1 (if (hub.outcome id sending).failed then 1 else 0)
      hub.registry (hub.after id sending).registry := by
  cases h with
  | @unknown c text hc hroute =>
    rw [after_of_refused hroute]
    exact Registry.adds_countRequest.trans (adds_fail (hub.countRequest id) text)
  | @missized c place site hc hroute hsize =>
    rw [after_of_call hroute]
    exact (adds_read hub (.stray c)).trans (adds_fail (hub.read id (.stray c)) _)
  | @call device operation parts place site hroute hcall htransferable haccept hfits =>
    have hfinish := (adds_finish hdevices id (hub.read id (.call device operation parts)) place
      site (site.operation.received parts)).1
    have hadds := (adds_read hub (.call device operation parts)).trans hfinish
    simp only [Nat.zero_add, Nat.add_zero, ← List.append_assoc] at hadds
    simp only [outcome, hroute, Outcome.output, Outcome.failed, after_of_call hroute]
    exact hadds

omit [Device δ] in
theorem fleet_foldl_act (hub : Hub δ) (requests : List Control.Request) :
    (requests.foldl act hub).fleet = hub.fleet := by
  induction requests generalizing hub with
  | nil => rfl
  | cons request requests ih =>
    have hact : (hub.act request).fleet = hub.fleet := by cases request <;> rfl
    exact (ih _).trans hact

theorem fleet_perform (hub : Hub δ) (place : Option Nat) (op : Interface.Operation)
    (args : Arguments) :
    (hub.perform id place op args).2.fleet.table = hub.fleet.table ∧
      (hub.perform id place op args).2.fleet.devices =
        (place.map (·, op, args)).elim hub.fleet.devices (executeAt hub.fleet.devices) := by
  unfold perform
  cases place with
  | some i =>
    simp only [Option.map_some, Option.elim_some, executeAt]
    cases hub.fleet.devices[i]? <;> exact ⟨rfl, rfl⟩
  | none =>
    simp only [Option.map_none, Option.elim_none]
    split
    · exact ⟨rfl, rfl⟩
    · simp only [fleet_foldl_act, and_self]

omit [Device δ] in
theorem fleet_settle (hub : Hub δ) (site : CallSite) (answer : Except Error (Option Bytes)) :
    (hub.settle id site answer).1.fleet = hub.fleet := by
  unfold settle
  split
  · rfl
  · rfl
  · split <;> rfl

/-- A device executes what it is called for, and the others stay as they are. -/
theorem fleet_after (id : Nat) (h : hub.Accepts sending) :
    (hub.after id sending).fleet.table = hub.fleet.table ∧
      (hub.after id sending).fleet.devices =
        (hub.execution? sending).elim hub.fleet.devices (executeAt hub.fleet.devices) := by
  cases h with
  | unknown hc hroute =>
    rw [after_of_refused hroute]
    exact ⟨rfl, rfl⟩
  | @missized c place site hc hroute hsize =>
    rw [after_of_call hroute]
    exact ⟨rfl, rfl⟩
  | @call device operation parts place site hroute =>
    have hsettle : (hub.after id (.call device operation parts)).fleet =
        ((hub.read id (.call device operation parts)).perform id place site.operation
          (site.operation.received parts)).2.fleet := by
      rw [after_of_call hroute]
      exact fleet_settle _ site _
    have hexecution : hub.execution? (.call device operation parts) =
        place.map (·, site.operation, site.operation.received parts) := by
      simp only [execution?, hroute]
    rw [hsettle, hexecution]
    exact fleet_perform (hub.read id (.call device operation parts)) place site.operation _

/-! ### Many commands -/

/-- The hub after a session has handled some commands. -/
def afterAll (hub : Hub δ) (id : Nat) (sendings : List Sending) : Hub δ :=
  sendings.foldl (fun hub sending => hub.after id sending) hub

/-- What becomes of some commands, each of which finds the hub as the one before has left it. -/
def outcomes (hub : Hub δ) (id : Nat) : List Sending → List Outcome
  | [] => []
  | sending :: sendings => hub.outcome id sending :: (hub.after id sending).outcomes id sendings

/-- Whether each of some commands is what it claims to be once those before it are handled. -/
inductive AcceptsAll (id : Nat) : Hub δ → List Sending → Prop
  | nil (hub : Hub δ) : AcceptsAll id hub []
  | cons {hub : Hub δ} {sending : Sending} {sendings : List Sending} (hfirst : hub.Accepts sending)
      (hrest : AcceptsAll id (hub.after id sending) sendings) :
      AcceptsAll id hub (sending :: sendings)

variable {sendings : List Sending}

theorem allDescribed_after (hfleet : hub.fleet.AllDescribed) (h : hub.Accepts sending) :
    (hub.after id sending).fleet.AllDescribed := by
  rw [Fleet.AllDescribed, (fleet_after id h).1]
  exact hfleet

theorem takesAll_of_acceptsAll (hfleet : hub.fleet.AllDescribed) (hdevices : DevicesKeep δ)
    (h : AcceptsAll id hub sendings) :
    TakesAll id hub (sendings.flatMap Sending.bytes) (hub.afterAll id sendings) := by
  induction h with
  | nil => exact .nil _
  | cons hfirst _ ih =>
    exact .cons (takes_of_accepts hfleet hdevices hfirst) (ih (allDescribed_after hfleet hfirst))

theorem adds_afterAll (hdevices : DevicesKeep δ) (h : AcceptsAll id hub sendings) :
    Adds id ((hub.outcomes id sendings).flatMap Outcome.output) sendings.length
      ((hub.outcomes id sendings).countP Outcome.failed) hub.registry
      (hub.afterAll id sendings).registry := by
  induction h with
  | nil => exact .refl id _
  | cons hfirst _ ih =>
    have hadds := (adds_after hdevices hfirst).trans ih
    rw [outcomes, List.flatMap_cons, List.countP_cons, List.length_cons, Nat.add_comm _ 1,
      Nat.add_comm (List.countP ..)]
    exact hadds

omit [Device δ] in
theorem execution?_eq {hub' : Hub δ} (h : hub'.fleet.table = hub.fleet.table) :
    hub'.execution? = hub.execution? := by
  funext sending
  simp only [execution?, route_eq h]

theorem fleet_afterAll (h : AcceptsAll id hub sendings) :
    (hub.afterAll id sendings).fleet.devices =
      (sendings.filterMap hub.execution?).foldl executeAt hub.fleet.devices := by
  induction h with
  | nil => rfl
  | @cons hub sending sendings hfirst _ ih =>
    obtain ⟨htable, hdevices⟩ := fleet_after id hfirst
    rw [execution?_eq htable, hdevices] at ih
    refine ih.trans ?_
    cases hexecution : hub.execution? sending with
    | none => rw [List.filterMap_cons_none hexecution, Option.elim_none]
    | some execution =>
      rw [List.filterMap_cons_some hexecution, Option.elim_some, List.foldl_cons]

/-- Whether a session ends with what is left of a stream: the stream ends, or goes on with a header
that is none. -/
def EndsWith (rest : Bytes) : Prop :=
  rest = [] ∨ ∃ raw more e, rest = raw ++ more ∧ raw.length = EnvelopeHeader.size ∧
    EnvelopeHeader.ofBytes raw = .error e

theorem serve_of_endsWith (id : Nat) (hub : Hub δ) {rest : Bytes} (h : EndsWith rest) :
    Adds id [] 0 0 hub.registry (hub.serve id rest).registry ∧
      (hub.serve id rest).fleet = hub.fleet := by
  obtain rfl | ⟨raw, more, e, rfl, hlen, he⟩ := h
  · rw [serve_of_ended rfl]
    exact ⟨adds_close hub, rfl⟩
  · have hsplit : Wire.split? EnvelopeHeader.size (raw ++ more) = some (raw, more) :=
      Wire.split?_eq_some_iff.2 ⟨hlen, rfl⟩
    have hnext : nextCommand (raw ++ more) = .invalid e := by
      simp only [nextCommand, hsplit, he]
    rw [serve_of_invalid hnext]
    exact ⟨adds_abort hub "" e, fleet_abort hub id "" e⟩

/-- Calls are isolated. Whatever complete calls and stray envelopes a session is sent, in whatever
order, the devices execute just the calls, each once and in this order; the session is sent just the
counts that each call acknowledges, the event that it asks for itself, and its answer; it counts
every envelope, and as failed those that are stray and the calls that are not answered. What follows
a header that is none is not looked at. -/
theorem serve_of_sendings {devices : List δ} {fleet : Fleet δ}
    (hfleet : Fleet.ofDevices devices = .ok fleet) (htable : hub.fleet.table = fleet.table)
    (hdevices : DevicesKeep δ) {s : SessionInfo} (hs : hub.registry.find? id = some s)
    (hsendings : AcceptsAll id hub sendings) {rest : Bytes} (hrest : EndsWith rest) :
    (hub.serve id (sendings.flatMap Sending.bytes ++ rest)).fleet.devices =
      (sendings.filterMap hub.execution?).foldl executeAt hub.fleet.devices ∧
    ∃ s', (hub.serve id (sendings.flatMap Sending.bytes ++ rest)).registry.find? id = some s' ∧
      s'.output = s.output ++ (hub.outcomes id sendings).flatMap Outcome.output ∧
      s'.requests = s.requests + sendings.length ∧
      s'.errors = s.errors + (hub.outcomes id sendings).countP Outcome.failed := by
  have hdescribed : hub.fleet.AllDescribed := by
    rw [Fleet.AllDescribed, htable]
    exact Fleet.allDescribed_of_ofDevices hfleet
  have htakes := takesAll_of_acceptsAll hdescribed hdevices hsendings
  obtain ⟨hends, hkept⟩ := serve_of_endsWith id (hub.afterAll id sendings) hrest
  have hadds := (adds_afterAll hdevices hsendings).trans hends
  rw [List.append_nil] at hadds
  rw [serve_of_takesAll htakes rest, hkept]
  exact ⟨fleet_afterAll hsendings, hadds s hs⟩

/-! ### A pump that is sent calls and stray envelopes -/

/-- The declaration of the pump. -/
def pumpDeclaration : String :=
  "class Pump \x7b\n  public:\n    void take(const std::vector<uint8_t>& data);\n    uint8_t ping();\n\x7d;\n"

theorem exists_ofDevices_pump :
    ∃ fleet, Fleet.ofDevices [Scripted.bare pumpDeclaration] = .ok fleet ∧
      pumpHub.fleet.table = fleet.table := by
  have htable : (Fleet.ofDevices [Scripted.bare pumpDeclaration]).toOption.map (·.table.users) =
      some pumpHub.fleet.table.users := by decide +kernel
  cases hfleet : Fleet.ofDevices [Scripted.bare pumpDeclaration] with
  | error e =>
    rw [hfleet] at htable
    cases htable
  | ok fleet =>
    rw [hfleet] at htable
    exact ⟨fleet, rfl, congrArg Interface.DeviceTable.mk (Option.some.inj htable).symm⟩

/-- Scripted devices answer, or fail with an error of their own. -/
theorem devicesKeep_scripted : DevicesKeep Scripted := by
  intro d op args e h
  change d.answer op args = .error e at h
  unfold Scripted.answer at h
  split at h
  · cases h
  · unfold Scripted.echo at h
    split at h <;> cases h
    rfl
  · cases h
    rfl
  · cases h
    rfl

/-- The pump is to answer, a device that there is not is called, the pump is to take two bytes, and
it is called with a byte too many. -/
def pumpSendings : List Sending :=
  [.call 2 1 [], .stray ⟨⟨7, 0, 0⟩, []⟩, .call 2 0 [.vector ⟨.u8, [5, 6], rfl⟩],
    .stray ⟨⟨2, 1, 1⟩, [0]⟩]

theorem acceptsAll_pumpSendings : AcceptsAll 9 pumpHub pumpSendings := by
  have hping (hub : Hub Scripted) (h : hub.route ⟨2, 1, 0⟩ = .call (some 0) ⟨"Pump", pumpPing⟩) :
      hub.Accepts (.call 2 1 []) := .call h (.plain rfl .nil (by decide)) nofun nofun (by decide)
  have htake (hub : Hub Scripted) (h : hub.route ⟨2, 0, 8⟩ = .call (some 0) ⟨"Pump", pumpTake⟩) :
      hub.Accepts (.call 2 0 [.vector ⟨.u8, [5, 6], rfl⟩]) := by
    refine .call h (.plain rfl (.cons (.vector ⟨.u8, [5, 6], rfl⟩) .nil) (by decide)) ?_ nofun
      (by decide)
    intro p hp
    rw [List.mem_singleton.1 hp]
    change 2 ≤ transferLimit .u8
    decide
  have hstray (hub : Hub Scripted) (h : hub.route ⟨2, 1, 1⟩ = .call (some 0) ⟨"Pump", pumpPing⟩) :
      hub.Accepts (.stray ⟨⟨2, 1, 1⟩, [0]⟩) := .missized (by decide) h (by decide)
  exact .cons (hping _ rfl) (.cons (.unknown (by decide) rfl)
    (.cons (htake _ rfl) (.cons (hstray _ rfl) (.nil _))))

/-- What follows a header whose first byte is not zero is not executed. -/
theorem serve_of_sendings_pump :
    ((pumpHub.serve 9 (pumpSendings.flatMap Sending.bytes ++
        ([1, 0, 0, 0, 0, 2, 0, 1, 0, 0, 0, 0] ++ pingCommand.toBytes))).registry.find? 9).map
      (fun s => (s.output, s.requests, s.errors)) = some ([7, 0, 0, 0, 2], 4, 2) := by
  obtain ⟨fleet, hfleet, htable⟩ := exists_ofDevices_pump
  have hrest : EndsWith ([1, 0, 0, 0, 0, 2, 0, 1, 0, 0, 0, 0] ++ pingCommand.toBytes) :=
    .inr ⟨_, _, _, rfl, rfl, rfl⟩
  obtain ⟨-, s', hs', houtput, hrequests, herrors⟩ := serve_of_sendings hfleet htable
    devicesKeep_scripted (s := _) rfl acceptsAll_pumpSendings hrest
  have houtcomes : (pumpHub.outcomes 9 pumpSendings).flatMap Outcome.output = [7, 0, 0, 0, 2] ∧
      (pumpHub.outcomes 9 pumpSendings).countP Outcome.failed = 2 := by decide +kernel
  rw [hs', Option.map_some, houtput, hrequests, herrors, houtcomes.1, houtcomes.2]
  rfl

/-- The session subscribes to the events of the server and asks for one. -/
def eventSendings : List Sending := [.call 1 5 [.scalar (Wire.Scalar.ofUInt32 0)], .call 1 6 []]

/-- The session is sent the event that it has asked for, although neither call acknowledges or
answers anything. -/
theorem output_of_eventSendings :
    AcceptsAll 9 pumpHub eventSendings ∧
    ((pumpHub.serve 9 (eventSendings.flatMap Sending.bytes)).registry.find? 9).map (·.output) =
      some [0, 0, 0, 0, 0, 0, 0, 0] ∧
    (pumpHub.outcomes 9 eventSendings).flatMap (fun o =>
      acknowledgements o.counts ++ o.answer?.join.getD []) = [] := by
  have hsubscribe (hub : Hub Scripted)
      (h : hub.route ⟨1, 5, 4⟩ = .call none ⟨"Control", Interface.control.operations[5]⟩) :
      hub.Accepts (.call 1 5 [.scalar (Wire.Scalar.ofUInt32 0)]) := by
    refine .call h (.plain rfl (.cons (.scalar (Wire.Scalar.ofUInt32 0)) .nil) (by decide)) ?_
      nofun (by decide)
    intro p hp
    rw [List.mem_singleton.1 hp]
    trivial
  have hevent (hub : Hub Scripted)
      (h : hub.route ⟨1, 6, 0⟩ = .call none ⟨"Control", Interface.control.operations[6]⟩) :
      hub.Accepts (.call 1 6 []) := .call h (.plain rfl .nil (by decide)) nofun nofun (by decide)
  exact ⟨.cons (hsubscribe _ rfl) (.cons (hevent _ rfl) (.nil _)), by decide +kernel,
    by decide +kernel⟩

end Hub

end Instrument.Network
