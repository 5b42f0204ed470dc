import Instrument.Call.Encode
import Instrument.Device.Fleet
import Instrument.Envelope
import Instrument.Network.Connection
import Instrument.Network.Registry

/-!
Serving a client. A session takes one command after the other from the stream; a call that fails is
logged and the session goes on, while a broken stream or an envelope that is none ends it. Main
statement of the small lemmas: every command that is taken leaves a shorter stream.
-/

namespace Instrument.Network

/-- What the sessions of a server share. -/
structure Hub (δ : Type) where
  fleet : Fleet δ
  registry : Registry := {}

/-! ### Reading commands -/

/-- What the next bytes of a finished stream are. -/
inductive NextCommand where
  | command (c : Command) (rest : Bytes)
  /-- The stream ends before a whole header. -/
  | ended
  | invalid (e : Error)
deriving DecidableEq, Repr

/-- The next command of a finished stream. -/
def nextCommand (incoming : Bytes) : NextCommand :=
  match Wire.split? EnvelopeHeader.size incoming with
  | none => .ended
  | some (raw, rest) =>
    match EnvelopeHeader.ofBytes raw with
    | .error e => .invalid e
    | .ok header =>
      match Wire.split? header.payloadSize.toNat rest with
      | none => .invalid .connectionBroken
      | some (payload, rest) => .command ⟨header, payload⟩ rest

theorem length_add_le_of_nextCommand {incoming rest : Bytes} {c : Command}
    (h : nextCommand incoming = .command c rest) :
    rest.length + EnvelopeHeader.size ≤ incoming.length := by
  simp only [nextCommand] at h
  split at h
  · simp at h
  · next raw rest' hraw =>
    split at h
    · simp at h
    · split at h
      · simp at h
      · next hpayload =>
        cases h
        obtain ⟨hlen, rfl⟩ := Wire.split?_eq_some_iff.1 hraw
        obtain ⟨_, rfl⟩ := Wire.split?_eq_some_iff.1 hpayload
        simp only [List.length_append, hlen]
        omega

/-- What a session makes of the next bytes: a command, none at the end, or an error. -/
def NextCommand.result : NextCommand → Except Error (Option Command)
  | command c _ => .ok (some c)
  | ended => .ok none
  | invalid e => .error e

/-- Receives the next command. A stream that ends within a header ends in front of it. -/
def Connection.readCommand (c : Connection) : Except Error (Option Command) × Connection :=
  match c.exactly EnvelopeHeader.size with
  | (.error .connectionBroken, c) => (.ok none, c)
  | (.error e, c) => (.error e, c)
  | (.ok raw, c) =>
    match EnvelopeHeader.ofBytes raw with
    | .error e => (.error e, c)
    | .ok header =>
      let (payload, c) := c.exactly header.payloadSize.toNat
      (payload.map fun payload => some ⟨header, payload⟩, c)

/-! ### Handling commands -/

/-- Where a command leads. -/
inductive Route where
  /-- To no operation; the text tells why. -/
  | refused (text : String)
  /-- To an operation of the device at a place, or of the control device. -/
  | call (place : Option Nat) (site : CallSite)
deriving DecidableEq, Repr

namespace Hub

variable {δ : Type} [Device δ]

omit [Device δ] in
/-- The operation that a command asks for. -/
def route (hub : Hub δ) (header : EnvelopeHeader) : Route :=
  let unknown := (Error.unknownCommand header.device header.operation).message
  match hub.fleet.find? header.device with
  | none => .refused unknown
  | some (d, place) =>
    match d.operation? header.operation with
    | none => .refused (d.tag ++ ": " ++ unknown)
    | some op => .call place ⟨d.name, op⟩

/-- How many elements the device at a place takes into a buffer. -/
def accept (hub : Hub δ) (place : Option Nat) (op : Interface.Operation) (args : Arguments)
    (requested : Nat) : Nat :=
  match place.bind (hub.fleet.devices[·]?) with
  | some d => Device.acceptBuffer d op args requested
  | none => requested

omit [Device δ] in
/-- The hub with a session changed. -/
def update (hub : Hub δ) (id : Nat) (f : SessionInfo → SessionInfo) : Hub δ :=
  { hub with registry := hub.registry.update id f }

/-- What the server knows about itself. -/
def report (hub : Hub δ) : Control.Report :=
  ⟨hub.fleet.discovery, hub.registry.stats, hub.fleet.status, hub.registry.sessionsText⟩

omit [Device δ] in
/-- Does what an operation of the control device asks for. -/
def act (hub : Hub δ) : Control.Request → Hub δ
  | .subscribe session channel =>
    { hub with registry := hub.registry.subscribe session channel }.update session (·.say .info
      ("session " ++ toString session ++ " subscribed to channel " ++ toString channel.toNat))
  | .broadcast channel payload =>
    { hub with registry := hub.registry.broadcast channel payload }

/-- Executes a call of a session. -/
def perform (hub : Hub δ) (id : Nat) (place : Option Nat) (op : Interface.Operation)
    (args : Arguments) : Except Error Reply × Hub δ :=
  match place with
  | some i =>
    match hub.fleet.devices[i]? with
    | none => (.error (.unknownCommand 0 op.id), hub)
    | some d =>
      let (result, d) := Device.execute d op args
      (result, { hub with fleet := hub.fleet.set i d })
  | none =>
    match Control.execute op args id hub.report with
    | .error e => (.error e, hub)
    | .ok (reply, requests) => (.ok reply, requests.foldl act hub)

/-- How a failed call is logged; some errors name the call themselves. -/
def failureText (site : CallSite) (e : Error) : String :=
  match e with
  | .invalidPayloadSize .. | .bufferReload .. | .vectorReceive .. | .arrayExtract ..
  | .device .. => e.message
  | _ => Error.about site.device site.operation.name ++ e.message

/-- Whether an error of a call ends the session: the stream is broken, or the session is stopped. -/
def endsSession : Error → Bool
  | .system _ | .connectionBroken => true
  | _ => false

/-- Whether an error stops the session on the spot: bytes are looked for where there are none. -/
def stopsSession : Error → Bool
  | .system (.outOfRange ..) => true
  | _ => false

/-- The bytes that answer a call whose arguments are read, or are not. -/
def respond (hub : Hub δ) (id : Nat) (place : Option Nat) (site : CallSite)
    (args : Except Error Arguments) : Except Error (Option Bytes) × Hub δ :=
  match args with
  | .error e => (.error e, hub)
  | .ok args =>
    let (reply, hub) := hub.perform id place site.operation args
    (reply.bind site.encode, hub)

omit [Device δ] in
/-- Sends the answer to a call of a session, or logs why there is none. The error that ends the
session is the second result. -/
def settle (hub : Hub δ) (id : Nat) (site : CallSite) :
    Except Error (Option Bytes) → Hub δ × Option Error
  | .ok (some bytes) => (hub.update id (·.send bytes), none)
  | .ok none => (hub, none)
  | .error e =>
    if endsSession e then (hub, some e)
    else (hub.update id (·.fail (failureText site e)), none)

/-- Ends a call of a session whose arguments are read, or are not: it is executed and answered. -/
def finish (hub : Hub δ) (id : Nat) (place : Option Nat) (site : CallSite)
    (args : Except Error Arguments) : Hub δ × Option Error :=
  let (answer, hub) := hub.respond id place site args
  hub.settle id site answer

omit [Device δ] in
/-- Ends a session. -/
def close (hub : Hub δ) (id : Nat) : Hub δ :=
  { hub with registry := hub.registry.remove id }.update id
    (·.say .info ("session " ++ toString id ++ " closed"))

omit [Device δ] in
/-- Ends a session that cannot go on. One that is stopped says nothing and stays registered. -/
def abort (hub : Hub δ) (id : Nat) (about : String) (e : Error) : Hub δ :=
  if stopsSession e then hub
  else
    let text := "session " ++ toString id ++ about ++ ": " ++ e.message
    (hub.update id (·.say .warning text)).close id

omit [Device δ] in
/-- Counts a command of a session. -/
def countRequest (hub : Hub δ) (id : Nat) : Hub δ :=
  { hub with registry := hub.registry.countRequest id }

/-! ### A whole session -/

/-- The bytes that tell a client how many elements are taken, for each transfer. -/
def acknowledgements (counts : List UInt32) : Bytes :=
  counts.flatMap fun n => Wire.bytesBE 4 n.toNat

/-- Reads the arguments of a call from a finished stream; the second result is what is left of
it. -/
def readCall (hub : Hub δ) (id : Nat) (place : Option Nat) (site : CallSite)
    (payload rest : Bytes) : Except Error Arguments × Bytes × Hub δ :=
  let (args, channel) := (site.decode site.operation.layout payload).run.run
    (hub.accept place site.operation) { incoming := rest }
  (args, channel.incoming, hub.update id (·.send (acknowledgements channel.acknowledged)))

theorem length_readCall_le (hub : Hub δ) (id : Nat) (place : Option Nat) (site : CallSite)
    (payload rest : Bytes) :
    (hub.readCall id place site payload rest).2.1.length ≤ rest.length :=
  Dialogue.length_run_le _ _ _

/-- Serves a session from a finished stream to its end. -/
def serve (hub : Hub δ) (id : Nat) (incoming : Bytes) : Hub δ :=
  match _h : nextCommand incoming with
  | .ended => hub.close id
  | .invalid e => hub.abort id "" e
  | .command c rest =>
    match hub.route c.header with
    | .refused text => serve ((hub.countRequest id).update id (·.fail text)) id rest
    | .call place site =>
      match _h' : (hub.countRequest id).readCall id place site c.payload rest with
      | (args, rest', read) =>
        match read.finish id place site args with
        | (finished, none) => serve finished id rest'
        | (finished, some e) => finished.abort id " closed" e
termination_by incoming.length
decreasing_by
  · have := length_add_le_of_nextCommand _h
    simp only [EnvelopeHeader.size] at this
    omega
  · have := length_add_le_of_nextCommand _h
    have := length_readCall_le (hub.countRequest id) id place site c.payload rest
    rw [_h'] at this
    simp only [EnvelopeHeader.size] at *
    omega

/-- The line that begins the log of a session. -/
def openingLine (s : SessionInfo) : String :=
  "session " ++ toString s.id ++ " opened (" ++ s.kind.text ++ " " ++ s.peer ++ ")"

/-- Serves a session that is not registered from a finished stream. -/
def serveUnregistered (fleet : Fleet δ) (id : Nat) (kind : ListenerKind) (peer : String)
    (incoming : Bytes) : Hub δ :=
  let s : SessionInfo := { id := id, kind := kind, peer := peer, registered := false }
  serve ⟨fleet, { sessions := [s.say .info (openingLine s)] }⟩ id incoming

end Hub

end Instrument.Network
