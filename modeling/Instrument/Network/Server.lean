import Instrument.Network.Client
import Instrument.Network.Session

/-!
A server and all its clients. Each client has a line to a session of its own. A session has its
device to itself from the first byte of a call's arguments to the answer, so that another call of
the device waits; the report on all devices waits until no call is under way. Main statement of the
small lemmas: every step leaves less to do, so that the server comes to rest after every byte.
-/

namespace Instrument.Network

/-- Where a session is. -/
inductive Stage where
  | listening
  /-- A call waits for its device. -/
  | waiting (place : Option Nat) (site : CallSite) (payload : Bytes)
  /-- The arguments of a call are read. -/
  | reading (place : Option Nat) (site : CallSite) (rest : Dialogue (Except Error Arguments))
  /-- The arguments of a call are read, or are not. -/
  | calling (place : Option Nat) (site : CallSite) (args : Except Error Arguments)
  | closed

/-- How many changes of stage lead from a stage to the next command at most. -/
def Stage.rank : Stage → Nat
  | closed => 0
  | listening => 1
  | calling .. => 2
  | reading .. => 3
  | waiting .. => 4

/-- The device that no other session can have. -/
def Stage.held? : Stage → Option Nat
  | reading place _ _ | calling place _ _ => place
  | listening | waiting .. | closed => none

/-- A client and its session. -/
structure Line where
  /-- The number of the session. -/
  id : Nat
  /-- What the client has sent and the session has not read. -/
  incoming : Bytes := []
  /-- Whether the client is gone. -/
  ended : Bool := false
  /-- How much of what it was sent the client has read. -/
  delivered : Nat := 0
  stage : Stage := .listening

namespace Line

variable {δ : Type} [Device δ]

/-- A bound of the steps that a session can still make. -/
def work (l : Line) : Nat := l.incoming.length + l.stage.rank

/-- The line after its session has ended. -/
def close (l : Line) : Line := { l with incoming := [], stage := .closed }

/-- Reads on in the arguments of a call; nothing is left of `l.incoming` but what was not taken. -/
def readOn (l : Line) (hub : Hub δ) (place : Option Nat) (site : CallSite)
    (dialogue : Dialogue (Except Error Arguments)) : Line × Hub δ :=
  let (dialogue, channel) := dialogue.advance (hub.accept place site.operation) l.ended
    { incoming := l.incoming, writable := !l.ended }
  let stage := match dialogue with
    | .done args => .calling place site args
    | dialogue => .reading place site dialogue
  ({ l with incoming := channel.incoming, stage := stage },
    hub.update l.id (·.send (Hub.acknowledgements channel.acknowledged)))

/-- Whether an operation reports on all devices. -/
def isReport (place : Option Nat) (site : CallSite) : Bool :=
  place.isNone && site.operation.id == Control.statusOperation

/-- One step of a session, if it can make one; `held` are the devices that are not free. -/
def step? (l : Line) (hub : Hub δ) (held : List Nat) : Option (Line × Hub δ) :=
  match l.stage with
  | .closed => none
  | .listening =>
    match nextCommand l.incoming with
    | .ended => if l.ended then some (l.close, hub.close l.id) else none
    | .invalid .connectionBroken =>
      if l.ended then some (l.close, hub.abort l.id "" .connectionBroken) else none
    | .invalid e => some (l.close, hub.abort l.id "" e)
    | .command c rest =>
      let counted := hub.countRequest l.id
      match counted.route c.header with
      | .refused text => some ({ l with incoming := rest }, counted.update l.id (·.fail text))
      | .call place site =>
        some ({ l with incoming := rest, stage := .waiting place site c.payload }, counted)
  | .waiting place site payload =>
    if place.any held.contains then none
    else some (l.readOn hub place site (site.decode site.operation.layout payload).run)
  | .reading place site dialogue =>
    let (l', hub') := l.readOn hub place site dialogue
    if l'.work < l.work then some (l', hub') else none
  | .calling place site args =>
    if isReport place site && !held.isEmpty then none
    else
      let (answer, hub) := hub.respond l.id place site args
      match answer, l.ended with
      | .ok (some _), true =>
        some (l.close, hub.abort l.id " closed" (.system .brokenPipe))
      | answer, _ =>
        match hub.settle l.id site answer with
        | (hub, none) => some ({ l with stage := .listening }, hub)
        | (hub, some e) => some (l.close, hub.abort l.id " closed" e)

theorem work_close (l : Line) : l.close.work = 0 := rfl

theorem rank_pos_of_ne_closed {stage : Stage} (h : stage ≠ .closed) : 0 < stage.rank := by
  cases stage <;> simp_all [Stage.rank]

theorem work_readOn_lt (l : Line) (hub : Hub δ) (place : Option Nat) (site : CallSite)
    (dialogue : Dialogue (Except Error Arguments)) (h : l.stage.rank = 4) :
    (l.readOn hub place site dialogue).1.work < l.work := by
  have := Dialogue.length_advance_le (hub.accept place site.operation) l.ended dialogue
    { incoming := l.incoming, writable := !l.ended }
  simp only [readOn, work, h] at this ⊢
  split <;> simp only [Stage.rank] <;> omega

theorem work_lt_of_step? {l l' : Line} {hub hub' : Hub δ} {held : List Nat}
    (h : l.step? hub held = some (l', hub')) : l'.work < l.work := by
  -- an open line that closes has less to do, whatever is left to read
  have hclose : l.stage.rank ≠ 0 → l.close.work < l.work := by
    intro hpos
    rw [work_close, work]
    omega
  unfold step? at h
  split at h
  · simp at h
  · next hstage =>
    simp only [hstage, Stage.rank] at hclose
    split at h
    · split at h <;> simp_all
    · split at h <;> simp_all
    · simp_all
    · next c rest hnext =>
      have := length_add_le_of_nextCommand hnext
      simp only [EnvelopeHeader.size] at this
      simp only at h
      split at h <;> cases h <;> simp only [work, hstage, Stage.rank] <;> omega
  · next hstage =>
    split at h
    · simp at h
    · cases h
      exact work_readOn_lt l hub _ _ _ (by rw [hstage]; rfl)
  · simp only at h
    split at h
    · next hlt =>
      cases h
      exact hlt
    · simp at h
  · next hstage =>
    simp only [hstage, Stage.rank] at hclose
    split at h
    · simp at h
    · simp only at h
      split at h
      · cases h
        simpa using hclose
      · split at h
        · cases h
          simp [work, hstage, Stage.rank]
        · cases h
          simpa using hclose

end Line

/-- A server that listens for local clients until it is shut down. -/
structure Server (δ : Type) where
  hub : Hub δ
  lines : List Line := []
  running : Bool := true

/-- What can happen at a server. -/
inductive Move where
  /-- A session makes a step, if it can. -/
  | step (j : Nat)
  /-- A client sends bytes. -/
  | hears (j : Nat) (bytes : Bytes)
  /-- A client goes. -/
  | leaves (j : Nat)
  /-- A new client comes. -/
  | connects
deriving DecidableEq, Repr

namespace Server

variable {δ : Type} [Device δ]

/-- The devices that sessions have to themselves. -/
def held (lines : List Line) : List Nat := lines.filterMap (·.stage.held?)

/-- A bound of the steps that the sessions can still make. -/
def work (lines : List Line) : Nat := lines.foldr (fun l n => l.work + n) 0

/-- One step of the first session that can make one. -/
def stepFirst? (hub : Hub δ) (held : List Nat) : List Line → Option (List Line × Hub δ)
  | [] => none
  | l :: rest =>
    match l.step? hub held with
    | some (l, hub) => some (l :: rest, hub)
    | none => (stepFirst? hub held rest).map fun (rest, hub) => (l :: rest, hub)

theorem work_lt_of_stepFirst? {hub hub' : Hub δ} {held : List Nat} {lines lines' : List Line}
    (h : stepFirst? hub held lines = some (lines', hub')) : work lines' < work lines := by
  induction lines generalizing lines' with
  | nil => simp [stepFirst?] at h
  | cons l rest ih =>
    simp only [stepFirst?] at h
    split at h
    · next hstep =>
      have := Line.work_lt_of_step? hstep
      cases h
      simp only [work, List.foldr_cons]
      omega
    · obtain ⟨⟨rest', hub''⟩, hrest, heq⟩ := Option.map_eq_some_iff.1 h
      cases heq
      have := ih hrest
      simp only [work, List.foldr_cons] at this ⊢
      omega

/-- Lets the sessions make steps until none can. -/
def runLines (hub : Hub δ) (lines : List Line) : List Line × Hub δ :=
  match _h : stepFirst? hub (held lines) lines with
  | none => (lines, hub)
  | some (lines, hub) => runLines hub lines
termination_by work lines
decreasing_by exact work_lt_of_stepFirst? _h

/-- The server at rest. -/
def rest (s : Server δ) : Server δ :=
  let (lines, hub) := runLines s.hub s.lines
  { s with hub := hub, lines := lines }

/-- A server of some devices. -/
def ofFleet (fleet : Fleet δ) : Server δ := { hub := ⟨fleet, {}⟩ }

/-- The server after a new client has come. There is no network to come by, and after the shutdown
there is no server to find. -/
def connect (s : Server δ) (kind : ListenerKind) : Except SystemError (Server δ) :=
  match kind with
  | .tcp => .error .networkUnreachable
  | .unix =>
    if s.running then
      let id := s.hub.registry.next
      let registry := (s.hub.registry.start .unix "unix" none).update id fun info =>
        info.say .info (Hub.openingLine info)
      .ok { s with hub := { s.hub with registry := registry }, lines := s.lines ++ [{ id := id }] }
    else .error .notFound

omit [Device δ] in
/-- The server when a client has sent bytes, before any session makes a step. -/
def hear (s : Server δ) (client : Nat) (bytes : Bytes) : Server δ :=
  { s with
    lines := s.lines.modify client fun l =>
      if l.ended || l.stage.rank == 0 then l else { l with incoming := l.incoming ++ bytes } }

/-- The server after a client has sent bytes. -/
def deliver (s : Server δ) (client : Nat) (bytes : Bytes) : Server δ := (s.hear client bytes).rest

/-- What a client reads next, at most `n` bytes, and the server after it has. -/
def receive (s : Server δ) (client n : Nat) : Bytes × Server δ :=
  match s.lines[client]? with
  | none => ([], s)
  | some l =>
    let output := (s.hub.registry.find? l.id).elim [] (·.output)
    let bytes := (output.drop l.delivered).take n
    (bytes, { s with
      lines := s.lines.modify client fun l => { l with delivered := l.delivered + bytes.length } })

/-- The server after a client has gone. -/
def hangUp (s : Server δ) (client : Nat) : Server δ :=
  rest { s with lines := s.lines.modify client fun l => { l with ended := true } }

/-- The server after all sessions were ended and no more can start. -/
def shutdown (s : Server δ) : Server δ :=
  rest { s with lines := s.lines.map fun l => { l with ended := true }, running := false }

omit [Device δ] in
/-- The number of registered sessions. -/
def sessionCount (s : Server δ) : Nat := s.hub.registry.registered.length

omit [Device δ] in
/-- Whether the stream to a client has come to its end. It stays open as long as the session is
registered. -/
def isClosed (s : Server δ) (client : Nat) : Bool :=
  (s.lines[client]?).all fun l =>
    l.stage.rank == 0 && !(s.hub.registry.find? l.id).any (·.registered)

/-! ### Moves -/

/-- The line and the hub after a session has made a step, if it can make one. -/
def stepAt? (s : Server δ) (j : Nat) : Option (Line × Line × Hub δ) :=
  s.lines[j]?.bind fun l => (l.step? s.hub (held s.lines)).map fun after => (l, after)

/-- The server after something has happened. -/
def move (s : Server δ) : Move → Server δ
  | .step j =>
    match s.stepAt? j with
    | none => s
    | some (_, l, hub) => { s with hub := hub, lines := s.lines.set j l }
  | .hears j bytes => s.hear j bytes
  | .leaves j => { s with lines := s.lines.modify j fun l => { l with ended := true } }
  | .connects => (s.connect .unix).toOption.getD s

/-- The server after some things have happened. -/
def moveAll (s : Server δ) (moves : List Move) : Server δ := moves.foldl move s

end Server

/-- One client of a server, as the peer of the client at the other end. -/
structure ServerPeer (δ : Type) where
  server : Server δ
  client : Nat

instance {δ : Type} [Device δ] : Peer (ServerPeer δ) where
  react p bytes :=
    let server := p.server.deliver p.client bytes
    let output := (server.lines[p.client]?).elim [] fun l =>
      (server.hub.registry.find? l.id).elim [] (·.output)
    let (arrived, server) := server.receive p.client output.length
    (⟨server, p.client⟩, arrived, server.isClosed p.client)

end Instrument.Network
