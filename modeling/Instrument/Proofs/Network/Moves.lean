import Instrument.Proofs.Network.Isolation
import Instrument.Proofs.Network.Messages

/-!
Everything that can happen at a server, in any order. Main statement: whatever the other clients
and all sessions do, a session is sent its messages in the order in which they are told, and keeps
what it has under way and its device.
-/

namespace Instrument.Network

open Registry (Sends)

variable {δ : Type}

/-! ### What a step leaves as it is -/

namespace Registry

variable {r : Registry} {id : Nat}

theorem next_countRequest (r : Registry) (id : Nat) : (r.countRequest id).next = r.next := by
  unfold countRequest
  split
  · rw [next_recount]
    rfl
  · rfl

theorem find?_add_of_ne (hne : id ≠ r.next) (kind : ListenerKind) (peer : String) :
    (r.add kind peer).find? id = r.find? id := by
  let new : SessionInfo := { id := r.next, kind := kind, peer := peer, registered := true }
  have hsessions : (r.add kind peer).find? id = (r.sessions ++ [new]).find? (·.id == id) := by
    cases kind <;> rfl
  rw [hsessions, List.find?_append, List.find?_singleton, if_neg (by simpa using Ne.symm hne),
    Option.or_none]
  rfl

end Registry

namespace Hub

theorem next_close (hub : Hub δ) (id : Nat) :
    (hub.close id).registry.next = hub.registry.next := Registry.next_remove hub.registry id

theorem next_abort (hub : Hub δ) (id : Nat) (about : String) (e : Error) :
    (hub.abort id about e).registry.next = hub.registry.next := by
  unfold abort
  split
  · rfl
  · exact next_close _ id

theorem next_act (hub : Hub δ) (request : Control.Request) :
    (hub.act request).registry.next = hub.registry.next := by cases request <;> rfl

theorem next_foldl_act (hub : Hub δ) (requests : List Control.Request) :
    (requests.foldl act hub).registry.next = hub.registry.next := by
  induction requests generalizing hub with
  | nil => rfl
  | cons request requests ih => exact (ih _).trans (next_act hub request)

theorem next_settle (hub : Hub δ) (id : Nat) (site : CallSite)
    (answer : Except Error (Option Bytes)) :
    (hub.settle id site answer).1.registry.next = hub.registry.next := by
  unfold settle
  split
  · rfl
  · rfl
  · split <;> rfl

variable [Device δ]

theorem next_respond (hub : Hub δ) (id : Nat) (place : Option Nat) (site : CallSite)
    (args : Except Error Arguments) :
    (hub.respond id place site args).2.registry.next = hub.registry.next := by
  cases args with
  | error e => rfl
  | ok args =>
    change (hub.perform id place site.operation args).2.registry.next = _
    unfold perform
    split
    · split <;> rfl
    · split
      · rfl
      · exact next_foldl_act hub _

theorem fleet_respond (hub : Hub δ) (id : Nat) (place : Option Nat) (site : CallSite)
    (args : Except Error Arguments) :
    (hub.respond id place site args).2.fleet.table = hub.fleet.table ∧
      ∀ i ∉ place,
        (hub.respond id place site args).2.fleet.devices[i]? = hub.fleet.devices[i]? := by
  cases args with
  | error e => exact ⟨rfl, fun _ _ => rfl⟩
  | ok args =>
    refine ⟨(hub.fleet_perform place site.operation args).1, fun i hi => ?_⟩
    change (hub.perform id place site.operation args).2.fleet.devices[i]? = _
    rw [(hub.fleet_perform place site.operation args).2]
    cases place with
    | none => rfl
    | some j =>
      have hne : j ≠ i := fun heq => hi (heq ▸ rfl)
      simp only [Option.map_some, Option.elim_some, executeAt]
      split
      · rfl
      · rw [List.getElem?_set_ne hne]

end Hub

namespace Line

variable [Device δ] {l l' : Line} {hub hub' : Hub δ} {busy : List Nat}

theorem held?_readOn (l : Line) (hub : Hub δ) (place : Option Nat) (site : CallSite)
    (dialogue : Dialogue (Except Error Arguments)) :
    (l.readOn hub place site dialogue).1.stage.held? = place := by
  simp only [readOn]
  split <;> rfl

namespace Steps

/-- A session keeps its number and its client. -/
theorem line (h : Steps l hub busy l' hub') :
    l'.id = l.id ∧ l'.ended = l.ended ∧ l'.delivered = l.delivered := by
  cases h <;> exact ⟨rfl, rfl, rfl⟩

theorem next (h : Steps l hub busy l' hub') : hub'.registry.next = hub.registry.next := by
  cases h with
  | closes => exact Hub.next_close hub l.id
  | aborts => exact Hub.next_abort hub l.id _ _
  | refuses | takes => exact Registry.next_countRequest hub.registry l.id
  | starts | reads => rfl
  | answers => exact (Hub.next_settle ..).trans (Hub.next_respond ..)
  | breaks => exact (Hub.next_abort ..).trans (Hub.next_respond ..)

/-- Only the device that a session has to itself can change. -/
theorem fleet (h : Steps l hub busy l' hub') : hub'.fleet.table = hub.fleet.table ∧
    ∀ i, l.stage.held? ≠ some i → hub'.fleet.devices[i]? = hub.fleet.devices[i]? := by
  cases h with
  | closes | refuses | takes | starts | reads => exact ⟨rfl, fun _ _ => rfl⟩
  | aborts =>
    rw [Hub.fleet_abort]
    exact ⟨rfl, fun _ _ => rfl⟩
  | @answers place site args hstage =>
    rw [Hub.fleet_settle, hstage]
    exact hub.fleet_respond l.id place site args
  | @breaks place site args hstage =>
    rw [Hub.fleet_abort, hstage]
    exact hub.fleet_respond l.id place site args

/-- A session has a device to itself that it has had before or that was free. -/
theorem held (h : Steps l hub busy l' hub') {i : Nat} (hi : l'.stage.held? = some i) :
    l.stage.held? = some i ∨ i ∉ busy := by
  cases h with
  | closes | aborts | takes | answers | breaks => cases hi
  | refuses hstage => exact .inl hi
  | starts hstage hfree =>
    rw [held?_readOn] at hi
    exact .inr (hfree i hi)
  | reads hstage =>
    rw [held?_readOn] at hi
    rw [hstage]
    exact .inl hi

end Steps

end Line

/-! ### Moves -/

/-- Whether it is not a client that makes the move. -/
def Move.spares (k : Nat) : Move → Bool
  | step _ | connects => true
  | hears j _ | leaves j => j != k

namespace Server

variable [Device δ]

/-- What a session is sent when something happens. -/
def told (s : Server δ) (id : Nat) : Move → List Message
  | .step j => (s.stepAt? j).elim [] fun (l, _) => l.tells s.hub id
  | _ => []

/-- What a session is sent while some things happen. -/
def toldAll (s : Server δ) (id : Nat) : List Move → List Message
  | [] => []
  | m :: moves => s.told id m ++ (s.move m).toldAll id moves

theorem stepAt?_eq_some {s : Server δ} {j : Nat} {l l' : Line} {hub : Hub δ}
    (h : s.stepAt? j = some (l, l', hub)) :
    s.lines[j]? = some l ∧ l.Steps s.hub (held s.lines) l' hub := by
  obtain ⟨l₀, hl, hstep⟩ := Option.bind_eq_some_iff.1 h
  obtain ⟨after, hafter, heq⟩ := Option.map_eq_some_iff.1 hstep
  cases heq
  exact ⟨hl, Line.steps_of_step? hafter⟩

omit [Device δ] in
/-- What must hold of the lines of a server: every session has a number of its own, and no two have
the same device to themselves. -/
structure Sound (s : Server δ) : Prop where
  distinct : ∀ {i j : Nat} {l m : Line}, s.lines[i]? = some l → s.lines[j]? = some m →
    l.id = m.id → i = j
  known : ∀ {i : Nat} {l : Line}, s.lines[i]? = some l → l.id < s.hub.registry.next
  exclusive : ∀ {i j p : Nat} {l m : Line}, s.lines[i]? = some l → s.lines[j]? = some m →
    l.stage.held? = some p → m.stage.held? = some p → i = j
  described : s.hub.fleet.AllDescribed

namespace Sound

variable {s s' : Server δ} {j k : Nat} {l l' : Line} {hub : Hub δ}

omit [Device δ] in
/-- What a client does changes neither numbers nor devices. -/
theorem modify (h : s.Sound) (j : Nat) {f : Line → Line}
    (hf : ∀ l, (f l).id = l.id ∧ (f l).stage = l.stage) :
    Sound { s with lines := s.lines.modify j f } := by
  have hline {i : Nat} {l : Line} (hl : (s.lines.modify j f)[i]? = some l) :
      ∃ m, s.lines[i]? = some m ∧ l.id = m.id ∧ l.stage = m.stage := by
    rw [List.getElem?_modify] at hl
    obtain ⟨m, hm, rfl⟩ := Option.map_eq_some_iff.1 hl
    split
    · exact ⟨m, hm, hf m⟩
    · exact ⟨m, hm, rfl, rfl⟩
  constructor
  · intro i i' l m hl hm hid
    obtain ⟨l₀, hl₀, hlid, -⟩ := hline hl
    obtain ⟨m₀, hm₀, hmid, -⟩ := hline hm
    exact h.distinct hl₀ hm₀ (hlid.symm.trans (hid.trans hmid))
  · intro i l hl
    obtain ⟨l₀, hl₀, hlid, -⟩ := hline hl
    exact hlid ▸ h.known hl₀
  · intro i i' p l m hl hm hheld hheld'
    obtain ⟨l₀, hl₀, -, hstage⟩ := hline hl
    obtain ⟨m₀, hm₀, -, hstage'⟩ := hline hm
    exact h.exclusive hl₀ hm₀ (hstage ▸ hheld) (hstage' ▸ hheld')
  · exact h.described

theorem step (h : s.Sound) (hl : s.lines[j]? = some l)
    (hstep : l.Steps s.hub (held s.lines) l' hub) :
    Sound { s with hub := hub, lines := s.lines.set j l' } := by
  have hline {i : Nat} {m : Line} (hm : (s.lines.set j l')[i]? = some m) :
      (i = j ∧ m = l') ∨ (i ≠ j ∧ s.lines[i]? = some m) := by
    by_cases hij : j = i
    · subst hij
      rw [List.getElem?_set_self (List.getElem?_eq_some_iff.1 hl).1] at hm
      exact .inl ⟨rfl, (Option.some.inj hm).symm⟩
    · rw [List.getElem?_set_ne hij] at hm
      exact .inr ⟨Ne.symm hij, hm⟩
  -- a step takes no device that another line holds
  have hfree {i p : Nat} {m : Line} (hne : i ≠ j) (hm : s.lines[i]? = some m)
      (hheld : m.stage.held? = some p) : l'.stage.held? ≠ some p := by
    intro hheld'
    rcases hstep.held hheld' with hown | hfree
    · exact hne (h.exclusive hm hl hheld hown)
    · exact hfree (List.mem_filterMap.2 ⟨m, List.mem_of_getElem? hm, hheld⟩)
  obtain ⟨hid, -, -⟩ := hstep.line
  constructor
  · intro i i' m m' hm hm' heq
    rcases hline hm with ⟨rfl, rfl⟩ | ⟨-, hold⟩ <;>
      rcases hline hm' with ⟨rfl, rfl⟩ | ⟨-, hold'⟩
    · rfl
    · exact h.distinct hl hold' (hid.symm.trans heq)
    · exact h.distinct hold hl (heq.trans hid)
    · exact h.distinct hold hold' heq
  · intro i m hm
    rw [hstep.next]
    rcases hline hm with ⟨-, rfl⟩ | ⟨-, hold⟩
    · exact hid ▸ h.known hl
    · exact h.known hold
  · intro i i' p m m' hm hm' hheld hheld'
    rcases hline hm with ⟨rfl, rfl⟩ | ⟨hne, hold⟩ <;>
      rcases hline hm' with ⟨rfl, rfl⟩ | ⟨hne', hold'⟩
    · rfl
    · exact absurd hheld (hfree hne' hold' hheld')
    · exact absurd hheld' (hfree hne hold hheld)
    · exact h.exclusive hold hold' hheld hheld'
  · rw [Fleet.AllDescribed, hstep.fleet.1]
    exact h.described

omit [Device δ] in
/-- A new client gets a number that no other has. -/
theorem connect (h : s.Sound) (hs' : s.connect .unix = .ok s') : s'.Sound := by
  simp only [Server.connect] at hs'
  split at hs'
  swap
  · cases hs'
  cases hs'
  -- every line is an old one or the one that connects
  have hline {i : Nat} {l : Line}
      (hl : (s.lines ++ [{ id := s.hub.registry.next }])[i]? = some l) :
      s.lines[i]? = some l ∨ (i = s.lines.length ∧ l = { id := s.hub.registry.next }) := by
    rw [List.getElem?_append] at hl
    split at hl
    · exact .inl hl
    · rw [List.getElem?_singleton] at hl
      split at hl
      · cases hl
        exact .inr ⟨by omega, rfl⟩
      · cases hl
  constructor
  · intro i j l m hl hm hid
    rcases hline hl with hold | ⟨rfl, rfl⟩ <;> rcases hline hm with hold' | ⟨rfl, rfl⟩
    · exact h.distinct hold hold' hid
    · exact absurd hid (Nat.ne_of_lt (h.known hold))
    · exact absurd hid.symm (Nat.ne_of_lt (h.known hold'))
    · rfl
  · intro i l hl
    change l.id < s.hub.registry.next + 1
    rcases hline hl with hold | ⟨-, rfl⟩
    · exact Nat.lt_succ_of_lt (h.known hold)
    · exact Nat.lt_succ_self _
  · intro i j p l m hl hm hheld hheld'
    rcases hline hl with hold | ⟨-, rfl⟩
    · rcases hline hm with hold' | ⟨-, rfl⟩
      · exact h.exclusive hold hold' hheld hheld'
      · cases hheld'
    · cases hheld
  · exact h.described

omit [Device δ] in
theorem hear (h : s.Sound) (j : Nat) (bytes : Bytes) : (s.hear j bytes).Sound :=
  h.modify j fun l => by split <;> exact ⟨rfl, rfl⟩

theorem move (h : s.Sound) (m : Move) : (s.move m).Sound := by
  cases m with
  | step j =>
    simp only [Server.move]
    split
    · exact h
    · next hstep =>
      obtain ⟨hl, hsteps⟩ := stepAt?_eq_some hstep
      exact h.step hl hsteps
  | hears j bytes => exact h.hear j bytes
  | leaves j => exact h.modify j fun l => ⟨rfl, rfl⟩
  | connects =>
    simp only [Server.move]
    cases hconnect : s.connect .unix with
    | error e => exact h
    | ok s' => exact h.connect hconnect

end Sound

/-! ### What a session notices -/

/-- What a session notices of what others do: nothing changes about its line, about where commands
lead and about the device that it has to itself, and it is sent events at most. -/
structure Spares (s s' : Server δ) (k : Nat) (l : Line) (told : List Message) : Prop where
  line : s'.lines[k]? = some l
  table : s'.hub.fleet.table = s.hub.fleet.table
  device : ∀ i, l.stage.held? = some i → s'.hub.fleet.devices[i]? = s.hub.fleet.devices[i]?
  sends : Sends l.id (Message.stream told) s.hub.registry s'.hub.registry
  events : Message.own told = []

variable {s s' : Server δ} {j k : Nat} {l m m' : Line} {hub : Hub δ}

omit [Device δ] in
theorem spares_modify (hl : s.lines[k]? = some l) (hne : j ≠ k) (f : Line → Line) :
    Spares s { s with lines := s.lines.modify j f } k l [] where
  line := (List.getElem?_modify_ne f s.lines hne).trans hl
  table := rfl
  device := fun _ _ => rfl
  sends := .refl l.id _
  events := rfl

theorem own_tells_of_ne (hne : m.id ≠ l.id) (hub : Hub δ) :
    Message.own (m.tells hub l.id) = [] := by
  unfold Line.tells
  split
  · rfl
  · rfl
  · rfl
  · rw [if_neg hne]
    rfl
  · rw [if_neg hne]
    rfl
  · rw [Message.own_append, Hub.own_announces, if_neg fun h => hne h.1]
    rfl

theorem spares_step (h : s.Sound) (hl : s.lines[k]? = some l) (hm : s.lines[j]? = some m)
    (hne : j ≠ k) (hstep : m.Steps s.hub (held s.lines) m' hub) :
    Spares s { s with hub := hub, lines := s.lines.set j m' } k l (m.tells s.hub l.id) where
  line := (List.getElem?_set_ne hne).trans hl
  table := hstep.fleet.1
  device := fun i hi => hstep.fleet.2 i fun hi' => hne (h.exclusive hm hl hi' hi)
  sends := Line.sends_tells hstep l.id
  events := own_tells_of_ne (fun hid => hne (h.distinct hm hl hid)) s.hub

omit [Device δ] in
theorem spares_connect (h : s.Sound) (hl : s.lines[k]? = some l)
    (hs' : s.connect .unix = .ok s') : Spares s s' k l [] := by
  simp only [connect] at hs'
  split at hs'
  swap
  · cases hs'
  cases hs'
  have hne : l.id ≠ s.hub.registry.next := Nat.ne_of_lt (h.known hl)
  refine ⟨?_, rfl, fun _ _ => rfl, ?_, rfl⟩
  · rw [List.getElem?_append_left (List.getElem?_eq_some_iff.1 hl).1]
    exact hl
  · refine Registry.sends_of_find?_eq ((Registry.find?_update_of_ne hne ?_).trans ?_)
    · exact fun _ => rfl
    · exact Registry.find?_add_of_ne hne .unix "unix"

/-- Whatever happens that its client does not do, a session makes a step or notices events at
most. -/
theorem move_cases (h : s.Sound) (hl : s.lines[k]? = some l) {move : Move}
    (hspares : move.spares k = true) :
    Spares s (s.move move) k l (s.told l.id move) ∨
      ∃ l' hub', l.Steps s.hub (held s.lines) l' hub' ∧
        s.move move = { s with hub := hub', lines := s.lines.set k l' } ∧
        s.told l.id move = l.tells s.hub l.id := by
  have hsame : Spares s s k l [] := ⟨hl, rfl, fun _ _ => rfl, .refl l.id _, rfl⟩
  cases move with
  | step j =>
    simp only [Server.move, told]
    cases hstep : s.stepAt? j with
    | none => exact .inl hsame
    | some after =>
      obtain ⟨m, m', hub⟩ := after
      obtain ⟨hm, hsteps⟩ := stepAt?_eq_some hstep
      by_cases hjk : j = k
      · subst hjk
        cases hm.symm.trans hl
        exact .inr ⟨m', hub, hsteps, rfl, rfl⟩
      · exact .inl (spares_step h hl hm hjk hsteps)
  | hears j bytes =>
    exact .inl (spares_modify hl (by simpa [Move.spares] using hspares) _)
  | leaves j =>
    exact .inl (spares_modify hl (by simpa [Move.spares] using hspares) _)
  | connects =>
    simp only [Server.move, told]
    cases hconnect : s.connect .unix with
    | error e => exact .inl hsame
    | ok s' => exact .inl (spares_connect h hl hconnect)

end Server

end Instrument.Network
