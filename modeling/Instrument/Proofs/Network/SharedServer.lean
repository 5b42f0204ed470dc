import Instrument.Proofs.Network.Conversation

/-!
A client of a server that others use too. Whenever the client sends something, all that happens at
the server before it sends more comes in any order, and what the client is sent arrives in any
pieces. Main statement: what arrives is the bytes of whole messages, and the session stands with its
client as it should after it.
-/

namespace Instrument.Network

variable {δ : Type} [Device δ]

namespace Server

variable {s : Server δ} {k : Nat} {l : Line} {info : SessionInfo} {bytes more : Bytes}
  {sizes : List Nat} {reply? : Option (CallSite × Arguments)} {own : List Message}

/-! ### Coming to rest -/

theorem stepAt?_of_stepFirst? {hub hub' : Hub δ} {busy : List Nat} {lines lines' : List Line}
    (h : stepFirst? hub busy lines = some (lines', hub')) : ∃ j l l',
      lines[j]? = some l ∧ l.step? hub busy = some (l', hub') ∧ lines' = lines.set j l' := by
  induction lines generalizing lines' with
  | nil => cases h
  | cons l rest ih =>
    simp only [stepFirst?] at h
    split at h
    · next l' _ hstep =>
      cases h
      exact ⟨0, l, l', rfl, hstep, rfl⟩
    · obtain ⟨⟨rest', hub''⟩, hrest, heq⟩ := Option.map_eq_some_iff.1 h
      cases heq
      obtain ⟨j, m, m', hm, hstep, rfl⟩ := ih hrest
      exact ⟨j + 1, m, m', hm, hstep, rfl⟩

/-- A server that comes to rest makes some steps of its sessions, one after the other. -/
theorem exists_moves_rest (s : Server δ) : ∃ moves : List Move, s.rest = s.moveAll moves ∧
    ∀ m ∈ moves, ∃ j, m = .step j := by
  have hrun (hub : Hub δ) (lines : List Line) (running : Bool) : ∃ moves : List Move,
      ⟨(runLines hub lines).2, (runLines hub lines).1, running⟩ =
        moveAll ⟨hub, lines, running⟩ moves ∧ ∀ m ∈ moves, ∃ j, m = .step j := by
    fun_induction runLines hub lines with
    | case1 => exact ⟨[], rfl, nofun⟩
    | case2 hub lines lines' hub' hfirst ih =>
      obtain ⟨j, l, l', hl, hstep, rfl⟩ := stepAt?_of_stepFirst? hfirst
      obtain ⟨moves, hmoves, hsteps⟩ := ih
      have hmove : move ⟨hub, lines, running⟩ (.step j) = ⟨hub', lines.set j l', running⟩ := by
        simp only [move, stepAt?, hl, Option.bind_some, hstep, Option.map_some]
      refine ⟨.step j :: moves, ?_, List.forall_mem_cons.2 ⟨⟨j, rfl⟩, hsteps⟩⟩
      rw [moveAll, List.foldl_cons, hmove]
      exact hmoves
  exact hrun s.hub s.lines s.running

/-- What a server does on its own when a client has sent something. -/
theorem exists_moves_deliver (s : Server δ) (k : Nat) (bytes : Bytes) : ∃ moves : List Move,
    s.deliver k bytes = (s.hear k bytes).moveAll moves ∧ ∀ m ∈ moves, m.spares k = true := by
  obtain ⟨moves, hrest, hsteps⟩ := (s.hear k bytes).exists_moves_rest
  refine ⟨moves, hrest, fun m hm => ?_⟩
  obtain ⟨j, rfl⟩ := hsteps m hm
  rfl

/-! ### Moves of a whole server -/

omit [Device δ] in
/-- A server without clients is sound. -/
theorem sound_ofFleet {fleet : Fleet δ} (h : fleet.AllDescribed) : (ofFleet fleet).Sound where
  distinct hl := nomatch hl
  known hl := nomatch hl
  exclusive hl := nomatch hl
  described := h

theorem Sound.moveAll (h : s.Sound) (moves : List Move) : (s.moveAll moves).Sound := by
  induction moves generalizing s with
  | nil => exact h
  | cons m moves ih => exact ih (h.move m)

theorem fleet_table_move (s : Server δ) (m : Move) :
    (s.move m).hub.fleet.table = s.hub.fleet.table := by
  cases m with
  | step j =>
    simp only [move]
    split
    · rfl
    · next hstep => exact (stepAt?_eq_some hstep).2.fleet.1
  | hears | leaves => rfl
  | connects =>
    simp only [move, connect]
    split <;> rfl

theorem fleet_table_moveAll (s : Server δ) (moves : List Move) :
    (s.moveAll moves).hub.fleet.table = s.hub.fleet.table := by
  induction moves generalizing s with
  | nil => rfl
  | cons m moves ih => exact (ih (s.move m)).trans (s.fleet_table_move m)

omit [Device δ] in
/-- All that a session has been sent. -/
def output (s : Server δ) (k : Nat) : Bytes :=
  (s.lines[k]?).elim [] fun l => (s.hub.registry.find? l.id).elim [] (·.output)

/-- How a server stands with one of its clients. -/
structure Talks (s : Server δ) (k : Nat) (l : Line) (info : SessionInfo) (more : Bytes)
    (sizes : List Nat) (reply? : Option (CallSite × Arguments)) (own : List Message) : Prop where
  sound : s.Sound
  line : s.lines[k]? = some l
  session : s.hub.registry.find? l.id = some info
  stays : l.ended = false
  tracks : Tracks s.hub l.stage l.incoming more (Promise.due sizes reply?) own

namespace Talks

/-- Whatever happens, the session is sent whole messages and stands well with its client. -/
theorem move (h : s.Talks k l info more sizes reply? own) {m : Move} (hspares : m.spares k = true) :
    ∃ l' info', (s.move m).Talks k l' info' more sizes reply?
        (own ++ Message.own (s.told l.id m)) ∧ l'.id = l.id ∧ l'.delivered = l.delivered ∧
      info'.output = info.output ++ Message.stream (s.told l.id m) := by
  rcases move_cases h.sound h.line hspares with hothers | ⟨l', hub', hstep, hmove, htold⟩
  · obtain ⟨_, _, hsends⟩ := hothers.sends
    obtain ⟨info', hinfo, houtput, -, -⟩ := hsends info h.session
    have htracks := h.tracks.of_fleet hothers.table hothers.device
    rw [hothers.events, List.append_nil]
    exact ⟨l, info', ⟨h.sound.move m, hothers.line, hinfo, h.stays, htracks⟩, rfl, rfl, houtput⟩
  · obtain ⟨_, _, hsends⟩ := Line.sends_tells hstep l.id
    obtain ⟨info', hinfo, houtput, -, -⟩ := hsends info h.session
    obtain ⟨hid, hended, hdelivered⟩ := hstep.line
    have hsound := h.sound.move m
    rw [hmove] at hsound ⊢
    rw [htold]
    refine ⟨l', info', ⟨hsound, ?_, ?_, hended.trans h.stays, ?_⟩, hid, hdelivered, houtput⟩
    · exact List.getElem?_set_self (List.getElem?_eq_some_iff.1 h.line).1
    · rw [hid]
      exact hinfo
    · exact h.tracks.steps h.stays h.sound.described hstep

theorem moveAll (h : s.Talks k l info more sizes reply? own) {moves : List Move}
    (hspares : ∀ m ∈ moves, m.spares k = true) :
    ∃ l' info', (s.moveAll moves).Talks k l' info' more sizes reply?
        (own ++ Message.own (s.toldAll l.id moves)) ∧ l'.id = l.id ∧ l'.delivered = l.delivered ∧
      info'.output = info.output ++ Message.stream (s.toldAll l.id moves) := by
  induction moves generalizing s l info own with
  | nil =>
    simp only [toldAll, Message.own_nil, Message.stream_nil, List.append_nil]
    exact ⟨l, info, h, rfl, rfl, rfl⟩
  | cons m moves ih =>
    obtain ⟨hm, hmoves⟩ := List.forall_mem_cons.1 hspares
    obtain ⟨l₁, info₁, h₁, hid₁, hdelivered₁, houtput₁⟩ := h.move hm
    obtain ⟨l₂, info₂, h₂, hid₂, hdelivered₂, houtput₂⟩ := ih h₁ hmoves
    rw [hid₁, List.append_assoc, ← Message.own_append] at h₂
    refine ⟨l₂, info₂, h₂, hid₂.trans hid₁, hdelivered₂.trans hdelivered₁, ?_⟩
    rw [houtput₂, houtput₁, hid₁, List.append_assoc, ← Message.stream_append]
    rfl

/-- What the client sends comes to its session, unless this has ended. -/
theorem hear (h : s.Talks k l info (bytes ++ more) sizes reply? own) :
    ∃ l', (s.hear k bytes).Talks k l' info more sizes reply? own ∧ l'.id = l.id ∧
      l'.delivered = l.delivered := by
  have hsound := h.sound.hear k bytes
  have hline : (s.hear k bytes).lines[k]? =
      some (if l.ended || l.stage.rank == 0 then l
        else { l with incoming := l.incoming ++ bytes }) := by
    rw [Server.hear, List.getElem?_modify_eq, h.line]
    rfl
  have hopen : (l.ended || l.stage.rank == 0) = (l.stage.rank == 0) := by
    rw [h.stays, Bool.false_or]
  rw [hopen] at hline
  by_cases hclosed : l.stage = .closed
  · rw [if_pos (by rw [hclosed]; rfl)] at hline
    have htracks := h.tracks
    rw [hclosed] at htracks
    have hkept := htracks.hear_closed
    rw [← hclosed] at hkept
    exact ⟨l, ⟨hsound, hline, h.session, h.stays, hkept⟩, rfl, rfl⟩
  · have hrank : (l.stage.rank == 0) = false := by
      simpa using Nat.ne_of_gt (Line.rank_pos_of_ne_closed hclosed)
    rw [if_neg (by rw [hrank]; exact Bool.false_ne_true)] at hline
    exact ⟨{ l with incoming := l.incoming ++ bytes },
      ⟨hsound, hline, h.session, h.stays, h.tracks.hear⟩, rfl, rfl⟩

/-- The client gets what it has not been given yet. -/
theorem receive (h : s.Talks k l info more sizes reply? own)
    (hdelivered : l.delivered ≤ info.output.length) :
    (s.receive k (s.output k).length).1 = info.output.drop l.delivered ∧ ∃ l',
      (s.receive k (s.output k).length).2.Talks k l' info more sizes reply? own ∧ l'.id = l.id ∧
        l'.delivered = info.output.length := by
  let given : Line := { l with delivered := l.delivered + (info.output.drop l.delivered).length }
  have hall : (info.output.drop l.delivered).take info.output.length =
      info.output.drop l.delivered := by
    refine List.take_of_length_le ?_
    rw [List.length_drop]
    exact Nat.sub_le _ _
  have hreceive : s.receive k (s.output k).length = (info.output.drop l.delivered, { s with
      lines := s.lines.modify k fun l₁ =>
        { l₁ with delivered := l₁.delivered + (info.output.drop l.delivered).length } }) := by
    simp only [Server.receive, output, h.line, h.session, Option.elim_some, hall]
  rw [hreceive]
  refine ⟨rfl, given, ⟨h.sound.modify k fun l => ⟨rfl, rfl⟩, ?_, h.session, h.stays, h.tracks⟩,
    rfl, ?_⟩
  · simp only [List.getElem?_modify_eq, h.line]
    rfl
  · change l.delivered + (info.output.drop l.delivered).length = _
    rw [List.length_drop]
    omega

end Talks

end Server

/-! ### A client among others -/

namespace Server

/-- The server after some bytes of a client have come to it piece by piece, and some moves were made
after each piece; and what a session has been sent. -/
def course (s : Server δ) (k id : Nat) : Bytes → List (Nat × List Move) → Server δ × List Message
  | bytes, [] => (s.hear k bytes, [])
  | bytes, (n, moves) :: pieces =>
    let heard := s.hear k (bytes.take n)
    let (last, told) := (heard.moveAll moves).course k id (bytes.drop n) pieces
    (last, heard.toldAll id moves ++ told)

theorem fleet_table_course (s : Server δ) (k id : Nat) (bytes : Bytes)
    (pieces : List (Nat × List Move)) :
    (s.course k id bytes pieces).1.hub.fleet.table = s.hub.fleet.table := by
  induction pieces generalizing s bytes with
  | nil => rfl
  | cons piece pieces ih => exact (ih _ _).trans (fleet_table_moveAll _ _)

variable {s : Server δ} {k : Nat} {l : Line} {info : SessionInfo} {bytes more : Bytes}
  {sizes : List Nat} {reply? : Option (CallSite × Arguments)} {own : List Message}

theorem Talks.course (h : s.Talks k l info (bytes ++ more) sizes reply? own)
    {pieces : List (Nat × List Move)}
    (hspares : ∀ piece ∈ pieces, ∀ m ∈ piece.2, m.spares k = true) :
    ∃ l' info', (s.course k l.id bytes pieces).1.Talks k l' info' more sizes reply?
        (own ++ Message.own (s.course k l.id bytes pieces).2) ∧ l'.delivered = l.delivered ∧
      info'.output = info.output ++ Message.stream (s.course k l.id bytes pieces).2 := by
  induction pieces generalizing s l info bytes own with
  | nil =>
    obtain ⟨l', hheard, -, hdelivered⟩ := h.hear
    simp only [Server.course, Message.own_nil, Message.stream_nil, List.append_nil]
    exact ⟨l', info, hheard, hdelivered, rfl⟩
  | cons piece pieces ih =>
    obtain ⟨n, moves⟩ := piece
    obtain ⟨hmoves, hpieces⟩ := List.forall_mem_cons.1 hspares
    rw [← List.take_append_drop n bytes, List.append_assoc] at h
    obtain ⟨l₁, hheard, hid₁, hdelivered₁⟩ := h.hear
    obtain ⟨l₂, info₂, hmoved, hid₂, hdelivered₂, houtput₂⟩ := hheard.moveAll hmoves
    obtain ⟨l₃, info₃, hlast, hdelivered₃, houtput₃⟩ := ih hmoved hpieces
    rw [hid₂, hid₁, List.append_assoc, ← Message.own_append] at hlast
    rw [hid₂, hid₁, houtput₂, hid₁, List.append_assoc, ← Message.stream_append] at houtput₃
    exact ⟨l₃, info₃, hlast, by rw [hdelivered₃, hdelivered₂, hdelivered₁], houtput₃⟩

end Server

/-- What happens at a server after a client has sent something and before it sends more, and how
what the client is sent arrives. -/
structure Turn where
  /-- The sizes of the pieces in which the bytes of the client come, and what is done after each. -/
  pieces : List (Nat × List Move)
  cut : Bytes → List Arrival
  flatten_cut : ∀ bytes, Arrival.flatten (cut bytes) = bytes

namespace Turn

/-- Everything comes in one chunk. -/
def whole (pieces : List (Nat × List Move)) : Turn :=
  ⟨pieces, fun bytes => [.chunk bytes], fun bytes => by simp⟩

/-- Whether it is not a client that makes the moves. -/
def Spares (t : Turn) (k : Nat) : Prop := ∀ piece ∈ t.pieces, ∀ m ∈ piece.2, m.spares k = true

instance (t : Turn) (k : Nat) : Decidable (t.Spares k) :=
  inferInstanceAs (Decidable (∀ piece ∈ t.pieces, ∀ m ∈ piece.2, m.spares k = true))

end Turn

/-- A server as one of its clients finds it. -/
structure SharedServer (δ : Type) where
  server : Server δ
  client : Nat
  /-- What is to happen, each time that the client sends something; nothing is done after that. -/
  turns : List Turn
  /-- What the session of the client has been sent. -/
  log : List Message := []

namespace SharedServer

omit [Device δ] in
/-- The number of the session of the client. -/
def session (p : SharedServer δ) : Nat := (p.server.lines[p.client]?).elim 0 (·.id)

omit [Device δ] in
/-- What happens next. -/
def turn (p : SharedServer δ) : Turn := p.turns.headD (.whole [])

instance : Link (SharedServer δ) where
  carry p arriving bytes :=
    let (server, told) := p.server.course p.client p.session bytes p.turn.pieces
    let (arrived, server) := server.receive p.client (server.output p.client).length
    { peer := { p with server := server, turns := p.turns.tail, log := p.log ++ told }
      arriving := p.turn.cut (Arrival.flatten arriving ++ arrived)
      ended := server.isClosed p.client
      fault? := none }

/-- How a server stands with a client that has been given all that it was sent. -/
structure Serves (p : SharedServer δ) (more : Bytes) (sizes : List Nat)
    (reply? : Option (CallSite × Arguments)) (own : List Message) : Prop where
  talks : ∃ l info, p.server.Talks p.client l info more sizes reply? own ∧
    l.delivered = info.output.length
  /-- Nobody else speaks for the client. -/
  spares : ∀ t ∈ p.turns, t.Spares p.client

variable {p : SharedServer δ} {bytes more : Bytes} {sizes : List Nat}
  {reply? : Option (CallSite × Arguments)} {own : List Message}

theorem Serves.spares_turn (h : p.Serves more sizes reply? own) : p.turn.Spares p.client := by
  rw [turn]
  cases hturns : p.turns with
  | nil => exact nofun
  | cons t turns => exact h.spares t (hturns ▸ List.mem_cons_self ..)

/-- Whenever the client sends something, what arrives is the bytes of the messages that the session
is sent. -/
theorem Serves.carry (h : p.Serves (bytes ++ more) sizes reply? own) (arriving : List Arrival) :
    ∃ told, (Link.carry p arriving bytes).peer.log = p.log ++ told ∧
      Arrival.flatten (Link.carry p arriving bytes).arriving =
        Arrival.flatten arriving ++ Message.stream told ∧
      (Link.carry p arriving bytes).peer.Serves more sizes reply? (own ++ Message.own told) := by
  obtain ⟨l, info, htalks, hdelivered⟩ := h.talks
  have hsession : p.session = l.id := by rw [session, htalks.line]; rfl
  obtain ⟨l₁, info₁, hmoved, hdelivered₁, houtput⟩ := htalks.course h.spares_turn
  rw [← hsession] at hmoved houtput
  have hgiven : l₁.delivered = info.output.length := hdelivered₁.trans hdelivered
  obtain ⟨harrived, l₂, hreceived, -, hdelivered₂⟩ :=
    hmoved.receive (by rw [hgiven, houtput, List.length_append]; exact Nat.le_add_right _ _)
  rw [hgiven, houtput, List.drop_left] at harrived
  refine ⟨(p.server.course p.client p.session bytes p.turn.pieces).2, rfl, ?_,
    ⟨l₂, info₁, hreceived, hdelivered₂⟩, fun t ht => h.spares t (List.mem_of_mem_tail ht)⟩
  rw [← harrived]
  exact p.turn.flatten_cut _

/-- What holds of a session and its client holds when nothing else has changed. -/
theorem Serves.imp {sizes' : List Nat} {reply?' : Option (CallSite × Arguments)} {more' : Bytes}
    {own' : List Message} (h : p.Serves more sizes reply? own)
    (himp : ∀ stage incoming,
      Tracks p.server.hub stage incoming more (Promise.due sizes reply?) own →
        Tracks p.server.hub stage incoming more' (Promise.due sizes' reply?') own') :
    p.Serves more' sizes' reply?' own' := by
  obtain ⟨l, info, htalks, hdelivered⟩ := h.talks
  exact ⟨⟨l, info, ⟨htalks.sound, htalks.line, htalks.session, htalks.stays,
    himp _ _ htalks.tracks⟩, hdelivered⟩, h.spares⟩

theorem Serves.described (h : p.Serves more sizes reply? own) :
    p.server.hub.fleet.AllDescribed := by
  obtain ⟨l, info, htalks, -⟩ := h.talks
  exact htalks.sound.described

/-- The client makes a call. -/
theorem Serves.ask (h : p.Serves [] [] none own) {a : Asked} (ha : a.IsValid p.server.hub) :
    p.Serves a.sending.bytes (Client.Request.ofParts a.parts).sizes a.reply? own :=
  h.imp fun _ _ htracks => htracks.ask ha

theorem Serves.take_count {size : Nat} {m : Message}
    (h : p.Serves more (size :: sizes) reply? (m :: own)) :
    ∃ n, m = .count n ∧ (n.toNat = size → p.Serves more sizes reply? own) := by
  obtain ⟨l, info, htalks, hdelivered⟩ := h.talks
  obtain ⟨n, rfl, -⟩ := htalks.tracks.take_count
  refine ⟨n, rfl, fun heq => h.imp fun stage incoming htracks => ?_⟩
  obtain ⟨n', hn, hnext⟩ := htracks.take_count
  cases hn
  exact hnext heq

theorem Serves.take_reply {site : CallSite} {args : Arguments} {m : Message}
    (h : p.Serves more [] (some (site, args)) (m :: own)) :
    ∃ reply bytes, m = .reply site args reply bytes ∧ site.encode reply = .ok (some bytes) ∧
      p.Serves more [] none own := by
  obtain ⟨l, info, htalks, hdelivered⟩ := h.talks
  obtain ⟨reply, bytes, rfl, hbytes, -⟩ := htalks.tracks.take_reply
  refine ⟨reply, bytes, rfl, hbytes, h.imp fun stage incoming htracks => ?_⟩
  obtain ⟨_, _, -, -, hnext⟩ := htracks.take_reply
  exact hnext

/-- A server only ever adds to what it has sent. -/
theorem prefix_log_carry (p : SharedServer δ) (arriving : List Arrival) (bytes : Bytes) :
    p.log <+: (Link.carry p arriving bytes).peer.log := List.prefix_append _ _

theorem fleet_table_carry (p : SharedServer δ) (arriving : List Arrival) (bytes : Bytes) :
    (Link.carry p arriving bytes).peer.server.hub.fleet.table = p.server.hub.fleet.table := by
  have hreceive (s : Server δ) (k n : Nat) : (s.receive k n).2.hub = s.hub := by
    rw [Server.receive]
    split <;> rfl
  simp only [Link.carry, hreceive, Server.fleet_table_course]

end SharedServer

end Instrument.Network
