import Instrument.Error

/-!
The sessions of a server and what is counted about them. A session has a number of its own and is
registered from its start to its end; what it was sent and what was logged about it stays known.
Main statement: whatever starts and ends, no two sessions have the same number.
-/

namespace Instrument.Network

/-- How a client has reached the server. -/
inductive ListenerKind where
  | tcp | unix
deriving DecidableEq, Repr

/-- The name of a listener in reports. -/
def ListenerKind.text : ListenerKind → String
  | tcp => "TCP"
  | unix => "UNIX"

/-- What is counted about a listener: its sessions that are registered, all its sessions, and the
commands of those. A server has 64 bits for each count: what is said here holds of it as long as
fewer than 2^64 clients and fewer than 2^64 commands come. -/
structure ListenerCount where
  opened : Nat := 0
  total : Nat := 0
  requests : Nat := 0
deriving DecidableEq, Repr

/-- How important a line of the log is. -/
inductive Level where
  | info | warning | error
deriving DecidableEq, Repr

/-- The name of a level. -/
def Level.text : Level → String
  | info => "INFO"
  | warning => "WARN"
  | error => "ERROR"

/-- A line of the log. -/
structure LogLine where
  level : Level
  text : String
deriving DecidableEq, Repr

/-- What is known about a session. -/
structure SessionInfo where
  id : Nat
  kind : ListenerKind
  peer : String
  registered : Bool
  requests : Nat := 0
  errors : Nat := 0
  /-- The channels to whose events the session has subscribed. -/
  channels : List UInt32 := []
  /-- All that the session was sent. -/
  output : Bytes := []
  log : List LogLine := []
deriving DecidableEq, Repr

namespace SessionInfo

/-- The session with bytes sent to it. -/
def send (s : SessionInfo) (bytes : Bytes) : SessionInfo := { s with output := s.output ++ bytes }

/-- The session with a line in the log. -/
def say (s : SessionInfo) (level : Level) (text : String) : SessionInfo :=
  { s with log := s.log ++ [⟨level, text⟩] }

/-- The session with one more call that has failed. -/
def fail (s : SessionInfo) (text : String) : SessionInfo :=
  { s with errors := s.errors + 1 }.say .error text

/-- The session in one line. Reports are taken in the second in which the session starts. -/
def status (s : SessionInfo) : String :=
  toString s.id ++ ":" ++ s.kind.text ++ ":" ++ s.peer ++ ":" ++ toString s.requests ++ ":" ++
    toString s.errors ++ ":0"

end SessionInfo

/-- All sessions in the order of their numbers, and the number of the next one. The numbers of a
server have 64 bits too, and start again after 2^64 clients. -/
structure Registry where
  tcp : ListenerCount := {}
  unix : ListenerCount := {}
  sessions : List SessionInfo := []
  next : Nat := 1
deriving DecidableEq, Repr

/-- What can keep a session from starting once its client is accepted. -/
inductive StartFault where
  /-- The stream cannot be shared. -/
  | stream
  /-- The connection cannot be set up. -/
  | connection
  /-- The session cannot be run. -/
  | thread
deriving DecidableEq, Repr

/-- What can happen to the sessions of a server. -/
inductive SessionEvent where
  /-- A client is accepted; some step of the start of its session may fail. -/
  | start (kind : ListenerKind) (peer : String) (fault? : Option StartFault)
  /-- A session ends, or one that has ended or was never there. -/
  | remove (id : Nat)
  | request (id : Nat)
  | subscribe (id : Nat) (channel : UInt32)
  | broadcast (channel : UInt32) (payload : Bytes)
deriving DecidableEq, Repr

namespace Registry

/-- What is counted about a listener. -/
def count (r : Registry) : ListenerKind → ListenerCount
  | .tcp => r.tcp
  | .unix => r.unix

/-- The registry with other counts of a listener. -/
def recount (r : Registry) (kind : ListenerKind) (f : ListenerCount → ListenerCount) : Registry :=
  match kind with
  | .tcp => { r with tcp := f r.tcp }
  | .unix => { r with unix := f r.unix }

/-- The session with a given number. -/
def find? (r : Registry) (id : Nat) : Option SessionInfo := r.sessions.find? (·.id == id)

/-- The registry with a session changed. -/
def update (r : Registry) (id : Nat) (f : SessionInfo → SessionInfo) : Registry :=
  { r with sessions := r.sessions.map fun s => if s.id == id then f s else s }

/-- Registers a new session and gives it the next number. -/
def add (r : Registry) (kind : ListenerKind) (peer : String) : Registry :=
  let r := r.recount kind fun c => { c with opened := c.opened + 1, total := c.total + 1 }
  { r with
    sessions := r.sessions ++ [{ id := r.next, kind := kind, peer := peer, registered := true }]
    next := r.next + 1 }

/-- Ends the registration of a session, if it is registered. -/
def remove (r : Registry) (id : Nat) : Registry :=
  match r.find? id with
  | some s =>
    if s.registered then
      (r.update id fun s => { s with registered := false }).recount s.kind
        fun c => { c with opened := c.opened - 1 }
    else r
  | none => r

/-- Starts a session for an accepted client, or fails to. A session whose connection cannot be set
up stays registered. -/
def start (r : Registry) (kind : ListenerKind) (peer : String) : Option StartFault → Registry
  | none | some .connection => r.add kind peer
  | some .stream => { r with next := r.next + 1 }
  | some .thread => (r.add kind peer).remove r.next

/-- Counts a command of a session. -/
def countRequest (r : Registry) (id : Nat) : Registry :=
  match r.find? id with
  | some s =>
    (r.update id fun s => { s with requests := s.requests + 1 }).recount s.kind
      fun c => { c with requests := c.requests + 1 }
  | none => r

/-- The registered sessions. -/
def registered (r : Registry) : List SessionInfo := r.sessions.filter (·.registered)

/-- Subscribes a registered session to a channel. -/
def subscribe (r : Registry) (id : Nat) (channel : UInt32) : Registry :=
  r.update id fun s =>
    if s.registered && !s.channels.contains channel then
      { s with channels := s.channels ++ [channel] }
    else s

/-- Sends bytes to every registered session that has subscribed to a channel. -/
def broadcast (r : Registry) (channel : UInt32) (payload : Bytes) : Registry :=
  { r with sessions := r.sessions.map fun s =>
      if s.registered && s.channels.contains channel then s.send payload else s }

/-- The registry after something has happened. -/
def after (r : Registry) : SessionEvent → Registry
  | .start kind peer fault? => r.start kind peer fault?
  | .remove id => r.remove id
  | .request id => r.countRequest id
  | .subscribe id channel => r.subscribe id channel
  | .broadcast channel payload => r.broadcast channel payload

/-- The registry after some things have happened. -/
def afterAll (r : Registry) (events : List SessionEvent) : Registry := events.foldl after r

/-- One listener in a report. -/
def statsLine (kind : ListenerKind) (c : ListenerCount) : String :=
  kind.text ++ ":" ++ toString c.opened ++ ":" ++ toString c.total ++ ":" ++
    toString c.requests ++ "\n"

/-- The counts of all listeners. Reports are taken in the second in which the server starts. -/
def stats (r : Registry) : String :=
  "UPTIME:0\n" ++ statsLine .tcp r.tcp ++ statsLine .unix r.unix ++ "EOKS"

/-- All registered sessions, one in each line. -/
def sessionsText (r : Registry) : String :=
  String.join (r.registered.map fun s => s.status ++ "\n") ++ "EORS"

/-! ### Numbers of sessions -/

/-- The numbers of all sessions, in the order in which they have started. -/
def ids (r : Registry) : List Nat := r.sessions.map (·.id)

/-- Every session has a number of its own, below the next one. -/
def IsNumbered (r : Registry) : Prop := r.ids.Nodup ∧ ∀ id ∈ r.ids, id < r.next

theorem isNumbered_empty : IsNumbered {} := by simp [IsNumbered, ids]

theorem ids_recount (r : Registry) (kind : ListenerKind) (f : ListenerCount → ListenerCount) :
    (r.recount kind f).ids = r.ids := by cases kind <;> rfl

theorem next_recount (r : Registry) (kind : ListenerKind) (f : ListenerCount → ListenerCount) :
    (r.recount kind f).next = r.next := by cases kind <;> rfl

theorem ids_update (r : Registry) (id : Nat) {f : SessionInfo → SessionInfo}
    (hf : ∀ s, (f s).id = s.id) : (r.update id f).ids = r.ids := by
  simp only [ids, update, List.map_map]
  apply List.map_congr_left
  intro s _
  simp only [Function.comp_apply]
  split
  · exact hf s
  · rfl

theorem ids_remove (r : Registry) (id : Nat) : (r.remove id).ids = r.ids := by
  simp only [remove]
  split
  · split
    · rw [ids_recount, ids_update]
      exact fun _ => rfl
    · rfl
  · rfl

theorem next_remove (r : Registry) (id : Nat) : (r.remove id).next = r.next := by
  simp only [remove]
  split
  · split
    · rw [next_recount]
      rfl
    · rfl
  · rfl

theorem isNumbered_add {r : Registry} (h : r.IsNumbered) (kind : ListenerKind) (peer : String) :
    (r.add kind peer).IsNumbered := by
  have hids : (r.add kind peer).ids = r.ids ++ [r.next] := by
    cases kind <;> simp [add, ids, recount]
  have hnext : (r.add kind peer).next = r.next + 1 := by cases kind <;> rfl
  obtain ⟨hnodup, hlt⟩ := h
  rw [IsNumbered, hids, hnext]
  constructor
  · refine List.nodup_append.2 ⟨hnodup, by simp, fun id hid id' hid' => ?_⟩
    have := hlt id hid
    rw [List.mem_singleton.1 hid']
    omega
  · intro id hid
    rcases List.mem_append.1 hid with hid | hid
    · exact Nat.lt_succ_of_lt (hlt id hid)
    · rw [List.mem_singleton.1 hid]
      exact Nat.lt_succ_self _

theorem isNumbered_remove {r : Registry} (h : r.IsNumbered) (id : Nat) :
    (r.remove id).IsNumbered := by
  rw [IsNumbered, ids_remove, next_remove]
  exact h

theorem isNumbered_start {r : Registry} (h : r.IsNumbered) (kind : ListenerKind) (peer : String)
    (fault? : Option StartFault) : (r.start kind peer fault?).IsNumbered := by
  rcases fault? with _ | (_ | _ | _)
  · exact isNumbered_add h kind peer
  · exact ⟨h.1, fun id hid => Nat.lt_succ_of_lt (h.2 id hid)⟩
  · exact isNumbered_add h kind peer
  · exact isNumbered_remove (isNumbered_add h kind peer) r.next

end Registry

end Instrument.Network
