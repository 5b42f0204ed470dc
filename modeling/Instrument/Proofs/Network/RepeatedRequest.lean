import Instrument.Proofs.Network.FetchedTable

/-!
A table that is requested twice. A client that hears nothing in time requests the table once more,
and cannot know whether the first request is still to be answered. Main statement: connected to a
peer that answers every request once, whenever it does, a client has the peer's table, and a whole
second answer stands in front of all later replies just if it heard nothing during the first wait.
-/

namespace Instrument.Network

/-! ### What is heard during a wait -/

/-- The bytes that arrive before the next pause; in no time at all nothing does. -/
def Arrival.heard (milliseconds : Nat) (arriving : List Arrival) : Bytes :=
  if milliseconds = 0 then [] else flatten (arriving.takeWhile (· ≠ .pause))

namespace Connection

variable {α : Type} {look : Nat → ReadBuffer → Option (α × ReadBuffer)}
  {find : Bytes → Option (α × Bytes)} {patience : Patience} {milliseconds : Nat} {marker : String}
  {closed : Bool} {arriving : List Arrival} {seen : Nat} {buffer : ReadBuffer}

theorem heard_zero (arriving : List Arrival) : Arrival.heard 0 arriving = [] := if_pos rfl

theorem heard_nil (milliseconds : Nat) : Arrival.heard milliseconds [] = [] := by
  rw [Arrival.heard]
  split <;> rfl

theorem heard_pause (milliseconds : Nat) (arriving : List Arrival) :
    Arrival.heard milliseconds (.pause :: arriving) = [] := by
  rw [Arrival.heard]
  split <;> rfl

theorem heard_chunk (h : milliseconds ≠ 0) (bytes : Bytes) (arriving : List Arrival) :
    Arrival.heard milliseconds (.chunk bytes :: arriving) =
      bytes ++ Arrival.heard milliseconds arriving := by
  rw [Arrival.heard, Arrival.heard, if_neg h, if_neg h]
  rfl

/-- After a wait in vain the buffer holds what was heard. -/
theorem unread_of_timeout (hpatience : patience = .bounded milliseconds marker) {m : String}
    {ms : Nat} (h : (gather patience look closed arriving seen buffer).1 = .error (.timeout m ms)) :
    (gather patience look closed arriving seen buffer).2.1.unread =
      buffer.unread ++ Arrival.heard milliseconds arriving := by
  fun_induction gather patience look closed arriving seen buffer with
  | case1 => cases h
  | case2 seen buffer hlook marker' arriving hzero =>
    cases hpatience.symm.trans hzero
    rw [heard_zero, List.append_nil]
  | case3 seen buffer hlook _ bytes rest hpositive ih =>
    have hne : milliseconds ≠ 0 := by
      rintro rfl
      exact hpositive marker hpatience
    rw [ih h, ReadBuffer.unread_fill, heard_chunk hne, List.append_assoc]
  | case4 seen buffer hlook _ rest hunbounded => cases hpatience.symm.trans hunbounded
  | case5 => rw [ReadBuffer.unread_fill, heard_pause]
  | case6 => cases h
  | case7 => rw [ReadBuffer.unread_fill, heard_nil]

/-- What is found was there, or was heard. -/
theorem isSome_of_found (hpatience : patience = .bounded milliseconds marker)
    (hfinds : Finds look find) (hseen : Unfound find seen buffer) {a : α}
    (h : (gather patience look closed arriving seen buffer).1 = .ok a) :
    (find (buffer.unread ++ Arrival.heard milliseconds arriving)).isSome := by
  fun_induction gather patience look closed arriving seen buffer with
  | case1 arriving seen buffer found rest hlook =>
    rw [hfinds.stable _ (hfinds.find_eq_some hseen hlook)]
    rfl
  | case3 seen buffer hlook _ bytes rest hpositive ih =>
    have hne : milliseconds ≠ 0 := by
      rintro rfl
      exact hpositive marker hpatience
    have hfound := ih (hfinds.unfound_fill hseen hlook bytes) h
    rwa [ReadBuffer.unread_fill, List.append_assoc, ← heard_chunk hne] at hfound
  | case4 seen buffer hlook _ rest hunbounded => cases hpatience.symm.trans hunbounded
  | case2 | case5 | case6 | case7 => cases h

/-- Who gets nothing takes nothing. -/
theorem Outcome.eq_of_error {all left : Bytes} {e : Error}
    (h : Outcome find patience closed arriving all (.error e) left) : left = all := by
  cases h <;> rfl

/-- What is received up to a marker is what stands before its first occurrence. -/
theorem eq_of_untilMarker {c connection : Connection} {bytes taken rest raw : Bytes}
    (hfind : splitAt? bytes c.pending = some (taken, rest))
    (h : c.untilMarker bytes milliseconds = (.ok raw, connection)) :
    raw = taken ∧ connection.pending = rest ∧ connection.sent = c.sent := by
  have houtcome := outcome_receive (finds_takeUntil? bytes) c
    (.bounded milliseconds (String.ofList (Text.ofUtf8Lossy bytes)))
  rw [untilMarker] at h
  rw [h] at houtcome
  cases houtcome with
  | found hfound =>
    obtain ⟨rfl, hrest⟩ := Prod.mk.inj (Option.some.inj (hfound.symm.trans hfind))
    exact ⟨rfl, hrest, congrArg (·.2.sent) h.symm⟩

end Connection

namespace Client

open ClientM (Yields Fails)
open Discovery (Table)
open Text (utf8)

variable {σ : Type}

/-! ### Waiting for the table -/

theorem exists_of_receive {α : Type} {take : Connection → Except Error α × Connection}
    {c c' : Client σ} {a : α} (h : Yields (receive take) c a c') :
    ∃ connection, take c.connection = (.ok a, connection) ∧
      c' = { c with connection := connection } := by
  rcases htake : take c.connection with ⟨e | a', connection⟩
  · cases h.symm.trans (fails_receive htake)
  · obtain ⟨rfl, rfl⟩ := h.unique (yields_receive htake)
    exact ⟨connection, rfl, rfl⟩

/-- What comes of waiting for the table. -/
theorem awaitTable_cases {c c' : Client σ} {found? : Option Bytes}
    (h : Yields awaitTable c found? c') :
    ∃ connection, c' = { c with connection := connection } ∧
      ((∃ raw, found? = some raw ∧
          c.connection.untilMarker (utf8 tableEnd) c.config.discoveryTimeout =
            (.ok raw, connection)) ∨
        ∃ marker milliseconds, found? = none ∧
          c.connection.untilMarker (utf8 tableEnd) c.config.discoveryTimeout =
            (.error (.timeout marker milliseconds), connection)) := by
  rcases hreceive : c.connection.untilMarker (utf8 tableEnd) c.config.discoveryTimeout with
    ⟨e | raw, connection⟩
  · have hfails : Fails (do return some (← receive (·.untilMarker (utf8 tableEnd)
        c.config.discoveryTimeout)) : ClientM σ (Option Bytes)) c e
        { c with connection := connection } := fails_bind (fails_receive hreceive)
    by_cases he : ∃ marker milliseconds, e = .timeout marker milliseconds
    · obtain ⟨marker, milliseconds, rfl⟩ := he
      have hnone : Yields awaitTable c none { c with connection := connection } :=
        yields_bind (yields_get c) (yields_tryCatch_of_fails hfails (yields_pure _ _))
      obtain ⟨rfl, rfl⟩ := h.unique hnone
      exact ⟨connection, rfl, .inr ⟨marker, milliseconds, rfl, rfl⟩⟩
    · have hbroken : Fails awaitTable c e { c with connection := connection } := by
        refine fails_bind_of_yields (yields_get c) (fails_tryCatch hfails ?_)
        cases e with
        | timeout marker milliseconds => exact absurd ⟨marker, milliseconds, rfl⟩ he
        | _ => exact fails_throw _ _
      cases h.symm.trans hbroken
  · have hsome : Yields awaitTable c (some raw) { c with connection := connection } :=
      yields_bind (yields_get c) (yields_tryCatch
        (yields_bind (yields_receive hreceive) (yields_pure _ _)))
    obtain ⟨rfl, rfl⟩ := h.unique hsome
    exact ⟨connection, rfl, .inl ⟨raw, rfl, rfl⟩⟩

/-- Only a wait that finds the table gives it. -/
theorem exists_of_lastWait {c c' : Client σ} {raw : Bytes}
    (h : Yields (do
      match ← awaitTable with
      | some raw => return raw
      | none => throw (.discoveryTimeout (← get).config.discoveryTimeout)) c raw c') :
    ∃ connection, c' = { c with connection := connection } ∧
      c.connection.untilMarker (utf8 tableEnd) c.config.discoveryTimeout = (.ok raw, connection) := by
  obtain ⟨found?, c₁, hawait, hrest⟩ := yields_bind_iff.1 h
  obtain ⟨connection, rfl, ⟨raw', rfl, hreceive⟩ | ⟨marker, ms, rfl, hreceive⟩⟩ :=
    awaitTable_cases hawait
  · cases hrest
    exact ⟨connection, rfl, hreceive⟩
  · obtain ⟨_, _, hget, hthrow⟩ := yields_bind_iff.1 hrest
    cases hthrow

/-! ### Answers -/

/-- What a server answers to a request for its table. -/
def tableAnswer (t : Table) : Bytes := utf8 t.text ++ [0]

/-- Whether a peer in one of some states takes every request for its table and answers it once,
behind all that it has answered before: what it sends may come as late and in as many chunks as it
likes. -/
def AnswersOnce [Link σ] (t : Table) (P : σ → Prop) : Prop :=
  ∀ p arriving, P p →
    (Link.carry p arriving tableRequest).fault? = none ∧
    Arrival.flatten (Link.carry p arriving tableRequest).arriving =
      Arrival.flatten arriving ++ tableAnswer t ∧
    P (Link.carry p arriving tableRequest).peer

variable {t : Table}

/-- The table is found in front of the zero byte of the first answer. -/
theorem splitAt?_tableAnswer (ht : t.IsWritable) {body : String} (hbody : t.text = body ++ tableEnd)
    (rest : Bytes) :
    Connection.splitAt? (utf8 tableEnd) (tableAnswer t ++ rest) = some (utf8 body, 0 :: rest) := by
  rw [tableAnswer, List.append_assoc]
  exact splitAt?_tableEnd ht hbody _

variable [Link σ] {P : σ → Prop}

/-- What a request for the table has come to, before anything is received. -/
theorem yields_request (hP : AnswersOnce t P) {c : Client σ} (hpeer : P c.peer) :
    ∃ connection peer,
      Yields (send tableRequest) c () { c with connection := connection, peer := peer } ∧ P peer ∧
      connection.arriving = (Link.carry c.peer c.connection.arriving tableRequest).arriving ∧
      connection.buffer = c.connection.buffer ∧
      connection.pending = c.connection.pending ++ tableAnswer t ∧
      connection.sent = c.connection.sent ++ tableRequest := by
  obtain ⟨hfault, hflatten, hpeer'⟩ := hP c.peer c.connection.arriving hpeer
  refine ⟨_, _, yields_send_of_carry (by decide) hfault, hpeer', rfl, rfl, ?_, ?_⟩
  · rw [Connection.pending, hflatten, Connection.pending, List.append_assoc]
    rfl
  · simp only [hfault, Option.elim_none, List.take_length, Connection.send]

/-- A wait for the table that is in vain takes nothing. -/
theorem missed_of_untilMarker {c connection : Connection} {milliseconds ms : Nat} {marker : String}
    (h : c.untilMarker (utf8 tableEnd) milliseconds = (.error (.timeout marker ms), connection)) :
    connection.pending = c.pending ∧
      connection.buffer = c.buffer ++ Arrival.heard milliseconds c.arriving ∧
      connection.sent = c.sent := by
  have houtcome := Connection.outcome_receive (Connection.finds_takeUntil? (utf8 tableEnd)) c
    (.bounded milliseconds (String.ofList (Text.ofUtf8Lossy (utf8 tableEnd))))
  rw [Connection.untilMarker] at h
  have hunread := Connection.unread_of_timeout rfl (congrArg Prod.fst h)
  rw [h] at houtcome
  obtain rfl : _ = connection := congrArg Prod.snd h
  exact ⟨houtcome.eq_of_error, hunread, rfl⟩

/-- Whether a client that has requested the table hears nothing during the first wait. -/
def HearsNothing (c : Client σ) : Prop :=
  Arrival.heard c.config.discoveryTimeout
    (Link.carry c.peer c.connection.arriving tableRequest).arriving = []

/-- What the client has sent for the table, and what it leaves when it has taken it. -/
inductive Requested (t : Table) (c : Client σ) (connection : Connection) (first : Bytes) : Prop where
  | once (hheard : ¬c.HearsNothing) (hsent : connection.sent = c.connection.sent ++ tableRequest)
    (hpending : connection.pending = first)
  | twice (hheard : c.HearsNothing)
    (hsent : connection.sent = c.connection.sent ++ tableRequest ++ tableRequest)
    (hpending : connection.pending = first ++ tableAnswer t)

theorem requested_of_yields (hP : AnswersOnce t P) (ht : t.IsWritable) {body : String}
    (hbody : t.text = body ++ tableEnd) {c c' : Client σ} {raw : Bytes} (hpeer : P c.peer)
    (hpending : c.connection.pending = []) (h : Yields requestTable c raw c') :
    ∃ connection peer, c' = { c with connection := connection, peer := peer } ∧ P peer ∧
      raw = utf8 body ∧ Requested t c connection [0] := by
  obtain ⟨sent, peer, hsend, hpeer', harriving, hbuffer, hsentPending, hsent⟩ :=
    yields_request hP hpeer
  have hfirst : Connection.splitAt? (utf8 tableEnd) (tableAnswer t) = some (utf8 body, [0]) := by
    rw [← List.append_nil (tableAnswer t)]
    exact splitAt?_tableAnswer ht hbody []
  have hempty : c.connection.buffer = [] := (List.append_eq_nil_iff.1 hpending).1
  rw [hpending, List.nil_append] at hsentPending
  have hrequest : Yields (lift (envelope Interface.controlId discoveryOperation [])) c tableRequest
      c := yields_lift rfl c
  obtain ⟨request, c₀, hrequest', hafter⟩ := yields_bind_iff.1 h
  obtain ⟨rfl, rfl⟩ := hrequest'.unique hrequest
  obtain ⟨_, c₁, hsend', hwaiting⟩ := yields_bind_iff.1 hafter
  obtain ⟨-, rfl⟩ := hsend'.unique hsend
  obtain ⟨found?, c₂, hawait, hrest⟩ := yields_bind_iff.1 hwaiting
  obtain ⟨connection, rfl, ⟨raw', rfl, hreceive⟩ | ⟨marker, ms, rfl, hreceive⟩⟩ :=
    awaitTable_cases hawait
  · -- the answer comes in time
    cases hrest
    obtain ⟨rfl, hrest, hkept⟩ := Connection.eq_of_untilMarker (hsentPending ▸ hfirst) hreceive
    refine ⟨connection, peer, rfl, hpeer', rfl, .once ?_ (hkept.trans hsent) hrest⟩
    intro hnothing
    have hfound := Connection.isSome_of_found rfl (Connection.finds_takeUntil? (utf8 tableEnd))
      (.inl rfl) (congrArg Prod.fst hreceive)
    rw [harriving, hnothing, List.append_nil] at hfound
    change (Connection.splitAt? (utf8 tableEnd) sent.buffer).isSome at hfound
    rw [hbuffer, hempty] at hfound
    cases hfound
  -- the wait ends without the marker; what was heard tells whether a second request follows
  · obtain ⟨hsame, hheard, hkept⟩ := missed_of_untilMarker hreceive
    simp only [hbuffer, hempty, harriving, List.nil_append] at hheard
    simp only [hsentPending] at hsame
    obtain ⟨_, _, hget, hagain⟩ := yields_bind_iff.1 hrest
    cases hget
    dsimp only at hagain
    by_cases hnothing : c₀.HearsNothing
    · -- nothing was heard, so the table is requested again
      have hquiet : connection.buffer = [] := hheard.trans hnothing
      rw [if_pos (by rw [hquiet]; rfl)] at hagain
      obtain ⟨_, c₂, hresend, hlast⟩ := yields_bind_iff.1 hagain
      obtain ⟨again, peer₂, hresend', hpeer₂, -, -, hagainPending, hagainSent⟩ :=
        yields_request hP (c := { c₀ with connection := connection, peer := peer }) hpeer'
      obtain ⟨-, rfl⟩ := hresend.unique hresend'
      obtain ⟨final, rfl, hreceive'⟩ := exists_of_lastWait hlast
      have hboth : Connection.splitAt? (utf8 tableEnd) again.pending =
          some (utf8 body, 0 :: tableAnswer t) := by
        rw [hagainPending, hsame]
        exact splitAt?_tableAnswer ht hbody _
      obtain ⟨rfl, hfinal, hkept'⟩ := Connection.eq_of_untilMarker hboth hreceive'
      have hfinalSent : final.sent = c₀.connection.sent ++ tableRequest ++ tableRequest := by
        rw [hkept', hagainSent, hkept, hsent]
      exact ⟨final, peer₂, rfl, hpeer₂, rfl,
        .twice hnothing hfinalSent (hfinal.trans List.singleton_append.symm)⟩
    -- a part of the answer was heard, so the client only waits on
    · rw [if_neg (by rw [hheard, List.isEmpty_iff]; exact hnothing)] at hagain
      obtain ⟨final, rfl, hreceive'⟩ := exists_of_lastWait hagain
      obtain ⟨rfl, hlast, hkept'⟩ := Connection.eq_of_untilMarker (hsame ▸ hfirst) hreceive'
      exact ⟨final, peer, rfl, hpeer', rfl,
        .once hnothing (hkept'.trans (hkept.trans hsent)) hlast⟩

/-- The zero byte behind the table is taken. -/
theorem Requested.take {c : Client σ} {taken connection : Connection} {raw : Bytes}
    {milliseconds : Nat} (h : Requested t c taken [0])
    (hreceive : taken.untilMarker [0] milliseconds = (.ok raw, connection)) :
    Requested t c connection [] := by
  have hzero {rest : Bytes} (hpending : taken.pending = 0 :: rest) :
      connection.pending = rest ∧ connection.sent = taken.sent := by
    have hfind : Connection.splitAt? [0] taken.pending = some ([], rest) :=
      Connection.splitAt?_eq_some_iff.2 ⟨hpending, List.not_mem_nil⟩
    exact (Connection.eq_of_untilMarker hfind hreceive).2
  cases h with
  | once hheard hsent hpending =>
    obtain ⟨hrest, hkept⟩ := hzero hpending
    exact .once hheard (hkept.trans hsent) hrest
  | twice hheard hsent hpending =>
    obtain ⟨hrest, hkept⟩ := hzero hpending
    exact .twice hheard (hkept.trans hsent) hrest

/-- Connected to a peer that answers every request for its table once, a client has the table; if it
heard nothing during the first wait it has sent two requests and a whole answer is left in front of
all that follows, and otherwise it has sent one and nothing of its answer is left. -/
theorem connect_of_answersOnce (hP : AnswersOnce t P) (ht : t.IsKnown) {connection : Connection}
    {peer : σ} {config : ClientConfig} {c : Client σ} (hpeer : P peer)
    (hpending : connection.pending = []) (h : connect connection peer config = (.ok (), c)) :
    c.table = t ∧ c.usable = true ∧ P c.peer ∧
      Requested t { connection := connection, peer := peer, config := config } c.connection [] := by
  obtain ⟨body, hbody⟩ := exists_text_eq t
  have hconnect : Yields (do let table ← fetchTable; modify fun c => { c with table := table })
      { connection := connection, peer := peer, config := config } () c := h
  obtain ⟨table, c₁, hfetch, hset⟩ := yields_bind_iff.1 hconnect
  obtain ⟨raw, c₂, hrequest, hafter⟩ := yields_bind_iff.1 hfetch
  obtain ⟨taken, peer', rfl, hpeer', rfl, hrequested⟩ :=
    requested_of_yields hP ht.isWritable hbody hpeer hpending hrequest
  obtain ⟨_, _, hget, hzero⟩ := yields_bind_iff.1 hafter
  cases hget
  obtain ⟨_, c₃, hreceive, hread⟩ := yields_bind_iff.1 hzero
  obtain ⟨final, hfinal, rfl⟩ := exists_of_receive hreceive
  simp only [Text.ofUtf8?_utf8, ← hbody, ht.isWritable.ofText_text] at hread
  cases hread
  cases hset
  exact ⟨rfl, rfl, hpeer', hrequested.take hfinal⟩

/-! ### A slow server -/

/-- A server that takes all that it is sent and answers it once, after some pauses. -/
structure SlowServer where
  /-- What it answers to a request for its table. -/
  table : Bytes
  /-- What it answers to anything else. -/
  other : Bytes
  /-- How many waits are over before each answer comes. -/
  pauses : List Nat
deriving DecidableEq, Repr

instance : Link SlowServer where
  carry p arriving bytes :=
    { peer := { p with pauses := p.pauses.tail }
      arriving := arriving ++ List.replicate (p.pauses.headD 0) .pause ++
        [.chunk (if bytes = tableRequest then p.table else p.other)]
      ended := false
      fault? := none }

theorem flatten_append (first second : List Arrival) :
    Arrival.flatten (first ++ second) = Arrival.flatten first ++ Arrival.flatten second :=
  List.flatMap_append

theorem flatten_pauses (n : Nat) : Arrival.flatten (List.replicate n .pause) = [] := by
  induction n with
  | zero => rfl
  | succ n ih => exact ih

theorem answersOnce_slowServer (t : Table) :
    AnswersOnce t fun p : SlowServer => p.table = tableAnswer t := by
  rintro p arriving h
  refine ⟨rfl, ?_, h⟩
  simp only [Link.carry, if_true, flatten_append, flatten_pauses, Arrival.flatten_chunk,
    Arrival.flatten_nil, List.append_nil, h]

/-- A table with one operation, which is answered with a text. -/
def versionTable : Table := .ofEntries [⟨1, "CONTROL", ["GET_VERSION"]⟩]

theorem ofText_versionTable :
    Table.ofText "1\n#1:CONTROL:GET_VERSION:\nEOC\n".toList = .ok versionTable := by
  rw [← Success.toOption_eq_some_iff]
  decide +kernel

/-- A server with that table, whose answers come after some pauses. -/
def versionServer (pauses : List Nat) : SlowServer where
  table := tableAnswer versionTable
  other := utf8 "1.0" ++ [0]
  pauses := pauses

/-- The client of such a server. -/
def versionClient (pauses : List Nat) : Client SlowServer :=
  (connect {} (versionServer pauses) {}).2

theorem connect_versionServer {pauses : List Nat} (h : pauses ∈ [[0], [1]]) :
    connect {} (versionServer pauses) {} = (.ok (), versionClient pauses) := by
  have hok : ∀ pauses ∈ [[0], [1]], (connect {} (versionServer pauses) {}).1 = .ok () := by
    decide +kernel
  exact Prod.ext (hok pauses h) rfl

/-- A client whose first request is answered in time, and one that requests the table twice. -/
theorem connect_of_answersOnce_version :
    Requested versionTable { connection := {}, peer := versionServer [0], config := {} }
        (versionClient [0]).connection [] ∧
      (versionClient [0]).connection.pending = [] ∧
    Requested versionTable { connection := {}, peer := versionServer [1], config := {} }
        (versionClient [1]).connection [] ∧
      (versionClient [1]).connection.pending = tableAnswer versionTable := by
  have hknown : versionTable.IsKnown := .read (by decide) ofText_versionTable
  have hrequested {pauses : List Nat} (h : pauses ∈ [[0], [1]]) :
      Requested versionTable { connection := {}, peer := versionServer pauses, config := {} }
        (versionClient pauses).connection [] :=
    (connect_of_answersOnce (answersOnce_slowServer versionTable) hknown rfl rfl
      (connect_versionServer h)).2.2.2
  exact ⟨hrequested (by decide), by decide +kernel, hrequested (by decide), by decide +kernel⟩

/-- The second answer is taken for the version of the server. -/
theorem getVersion_versionClient :
    AnswersOnce versionTable (fun p : SlowServer => p.table = tableAnswer versionTable) ∧
    (versionServer [1]).table = tableAnswer versionTable ∧
    (versionServer [1]).other = utf8 "1.0" ++ [0] ∧
    connect {} (versionServer [1]) {} = (.ok (), versionClient [1]) ∧
    (getVersion.run.run (versionClient [1])).1 = .ok versionTable.text := by
  have htext : (getVersion.run.run (versionClient [1])).1 = .ok versionTable.text := by
    decide +kernel
  exact ⟨answersOnce_slowServer _, rfl, rfl, connect_versionServer (by decide), htext⟩

end Client

end Instrument.Network
