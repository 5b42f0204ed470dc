import Instrument.Proofs.Call.Conforming
import Instrument.Proofs.Network.Activity

/-!
What a session is sent and what is counted about it. Main statement: a call that is finished adds
its answer to what the session is sent, after the event that it may have asked for, and counts as
failed just if there is no answer.
-/

namespace Instrument

/-! ### The control device -/

theorem Arguments.isFatal_of_word {args : Arguments} {name : String} {e : Error}
    (h : args.word name = .error e) : e.isFatal = false := by
  have hscalar := Success.map_eq_error_iff.1 h
  unfold scalar at hscalar
  split at hscalar
  · split at hscalar
    · cases hscalar
    · cases hscalar
      rfl
  · cases hscalar
    rfl
  · cases hscalar
    rfl

namespace Control

/-- What the server is asked to do for an operation of a session: one operation sends an event, and
no other does more than to subscribe the session. -/
inductive Asks (id : Nat) (op : Interface.Operation) : List Request → Prop
  | ping (hop : op.id = pingOperation) : Asks id op [.broadcast serverChannel pingBytes]
  | subscribe (hop : op.id ≠ pingOperation) (channel : UInt32) : Asks id op [.subscribe id channel]
  | nothing (hop : op.id ≠ pingOperation) : Asks id op []

theorem ne_pingOperation {id : UInt16} {n : Nat} (hid : id.toNat = n) (hn : n ≠ 6) :
    id ≠ pingOperation := by
  rintro rfl
  exact hn hid.symm

theorem asks_of_execute {op : Interface.Operation} {args : Arguments} {id : Nat}
    {report : Report} {reply : Reply} {requests : List Request}
    (h : execute op args id report = .ok (reply, requests)) : Asks id op requests := by
  unfold execute at h
  split at h
  case h_6 hid =>
    obtain ⟨channel, -, h⟩ := Success.map_eq_ok_iff.1 h
    cases h
    exact .subscribe (ne_pingOperation hid (by decide)) channel
  case h_7 hid =>
    cases h
    exact .ping (UInt16.toNat_inj.1 hid)
  case h_8 => cases h
  all_goals
    next hid =>
    cases h
    exact .nothing (ne_pingOperation hid (by decide))

theorem error_of_execute {op : Interface.Operation} {args : Arguments} {id : Nat} {report : Report}
    {e : Error} (h : execute op args id report = .error e) :
    op.id ≠ pingOperation ∧ e.isFatal = false := by
  unfold execute at h
  split at h
  case h_6 hid =>
    exact ⟨ne_pingOperation hid (by decide),
      Arguments.isFatal_of_word (Success.map_eq_error_iff.1 h)⟩
  case h_8 hid =>
    cases h
    exact ⟨fun heq => hid (UInt16.toNat_inj.2 heq), rfl⟩
  all_goals cases h

end Control

namespace Network

namespace Registry

variable {id : Nat} {r r' r'' : Registry} {output output' : Bytes} {requests requests' : Nat}
  {errors errors' : Nat}

/-- A session has been sent some bytes, and commands and failed calls of it have been counted. -/
def Adds (id : Nat) (output : Bytes) (requests errors : Nat) (r r' : Registry) : Prop :=
  ∀ s, r.find? id = some s → ∃ s', r'.find? id = some s' ∧ s'.output = s.output ++ output ∧
    s'.requests = s.requests + requests ∧ s'.errors = s.errors + errors

theorem Adds.refl (id : Nat) (r : Registry) : Adds id [] 0 0 r r :=
  fun s h => ⟨s, h, (List.append_nil _).symm, rfl, rfl⟩

theorem Adds.trans (h : Adds id output requests errors r r')
    (h' : Adds id output' requests' errors' r' r'') :
    Adds id (output ++ output') (requests + requests') (errors + errors') r r'' := by
  intro s hs
  obtain ⟨s', hs', houtput, hrequests, herrors⟩ := h s hs
  obtain ⟨s'', hs'', houtput', hrequests', herrors'⟩ := h' s' hs'
  refine ⟨s'', hs'', ?_, ?_, ?_⟩
  · rw [houtput', houtput, List.append_assoc]
  · rw [hrequests', hrequests, Nat.add_assoc]
  · rw [herrors', herrors, Nat.add_assoc]

theorem adds_update {f : SessionInfo → SessionInfo} (hf : ∀ s, (f s).id = s.id)
    (houtput : ∀ s, (f s).output = s.output ++ output)
    (hrequests : ∀ s, (f s).requests = s.requests + requests)
    (herrors : ∀ s, (f s).errors = s.errors + errors) :
    Adds id output requests errors r (r.update id f) :=
  fun s hs => ⟨f s, find?_update hf hs, houtput s, hrequests s, herrors s⟩

theorem adds_countRequest : Adds id [] 1 0 r (r.countRequest id) :=
  fun s hs => ⟨{ s with requests := s.requests + 1 }, find?_countRequest hs,
    (List.append_nil _).symm, rfl, rfl⟩

theorem adds_remove : Adds id [] 0 0 r (r.remove id) := by
  intro s hs
  rw [remove, hs]
  by_cases hregistered : s.registered
  · simp only [hregistered, if_true, find?_recount]
    exact adds_update (f := fun s => { s with registered := false }) (fun _ => rfl)
      (fun _ => (List.append_nil _).symm) (fun _ => rfl) (fun _ => rfl) s hs
  · simp only [hregistered]
    exact Adds.refl id r s hs

/-- A session that gets the events of a channel is sent an event of this channel. -/
theorem find?_broadcast {s : SessionInfo} (h : r.find? id = some s) (channel : UInt32)
    (payload : Bytes) :
    (r.broadcast channel payload).find? id =
      some (if s.registered && s.channels.contains channel then s.send payload else s) := by
  rw [broadcast, find?_map, h, Option.map_some]
  intro s
  split <;> rfl

theorem adds_subscribe (channel : UInt32) : Adds id [] 0 0 r (r.subscribe id channel) := by
  refine adds_update (fun s => ?_) (fun s => ?_) (fun s => ?_) fun s => ?_ <;> split
  · rfl
  · rfl
  · exact (List.append_nil _).symm
  · exact (List.append_nil _).symm
  · rfl
  · rfl
  · rfl
  · rfl

end Registry

open Registry (Adds)

/-- Whether a session gets the events that the server sends of its own. -/
def SessionInfo.hears (s : SessionInfo) : Bool :=
  s.registered && s.channels.contains Control.serverChannel

namespace Hub

variable {δ : Type} {id : Nat}

/-- The event that a session is sent because of an operation that it has asked for. -/
def event (hub : Hub δ) (id : Nat) (place : Option Nat) (op : Interface.Operation) : Bytes :=
  if place = none ∧ op.id = Control.pingOperation ∧ (hub.registry.find? id).any SessionInfo.hears then
    Control.pingBytes
  else []

theorem adds_send (hub : Hub δ) (bytes : Bytes) :
    Adds id bytes 0 0 hub.registry (hub.update id (·.send bytes)).registry :=
  Registry.adds_update (fun _ => rfl) (fun _ => rfl) (fun _ => rfl) fun _ => rfl

theorem adds_say (hub : Hub δ) (level : Level) (text : String) :
    Adds id [] 0 0 hub.registry (hub.update id (·.say level text)).registry :=
  Registry.adds_update (fun _ => rfl) (fun _ => (List.append_nil _).symm) (fun _ => rfl) fun _ => rfl

theorem adds_fail (hub : Hub δ) (text : String) :
    Adds id [] 0 1 hub.registry (hub.update id (·.fail text)).registry :=
  Registry.adds_update (fun _ => rfl) (fun _ => (List.append_nil _).symm) (fun _ => rfl) fun _ => rfl

theorem adds_close (hub : Hub δ) : Adds id [] 0 0 hub.registry (hub.close id).registry :=
  Registry.adds_remove.trans (adds_say { hub with registry := hub.registry.remove id } .info _)

theorem adds_abort (hub : Hub δ) (about : String) (e : Error) :
    Adds id [] 0 0 hub.registry (hub.abort id about e).registry := by
  unfold abort
  split
  · exact .refl _ _
  · exact (adds_say hub .warning _).trans (adds_close _)

theorem fleet_abort (hub : Hub δ) (id : Nat) (about : String) (e : Error) :
    (hub.abort id about e).fleet = hub.fleet := by
  unfold abort
  split <;> rfl

/-! ### Calls -/

theorem endsSession_of_not_isFatal {e : Error} (h : e.isFatal = false) : endsSession e = false := by
  cases e with
  | system | connectionBroken => cases h
  | _ => rfl

theorem adds_foldl_act (hub : Hub δ) {op : Interface.Operation} {requests : List Control.Request}
    (h : Control.Asks id op requests) :
    Adds id (hub.event id none op) 0 0 hub.registry (requests.foldl act hub).registry := by
  cases h with
  | nothing hop =>
    rw [event, if_neg fun h => hop h.2.1]
    exact .refl id _
  | subscribe hop channel =>
    rw [event, if_neg fun h => hop h.2.1]
    exact (Registry.adds_subscribe channel).trans
      (adds_say { hub with registry := hub.registry.subscribe id channel } .info _)
  | ping hop =>
    intro s hs
    have hfind : (hub.registry.broadcast Control.serverChannel Control.pingBytes).find? id =
        some (if s.hears then s.send Control.pingBytes else s) := Registry.find?_broadcast hs _ _
    have hevent : hub.event id none op = if s.hears then Control.pingBytes else [] := by
      simp only [event, hop, hs, Option.any_some, true_and]
    refine ⟨_, hfind, ?_⟩
    rw [hevent]
    by_cases hhears : s.hears
    · simp only [hhears, if_true]
      exact ⟨rfl, rfl, rfl⟩
    · simp only [hhears]
      exact ⟨(List.append_nil _).symm, rfl, rfl⟩

/-- An answer is sent, and an error that does not end the session counts as a failed call. -/
theorem adds_settle (id : Nat) (hub : Hub δ) (site : CallSite) {answer : Except Error (Option Bytes)}
    (hanswer : ∀ e, answer = .error e → endsSession e = false) :
    Adds id (answer.toOption.join.getD []) 0 (if answer.toOption.isNone then 1 else 0)
      hub.registry (hub.settle id site answer).1.registry ∧ (hub.settle id site answer).2 = none := by
  cases answer with
  | ok reply =>
    cases reply with
    | none => exact ⟨.refl id _, rfl⟩
    | some bytes => exact ⟨adds_send hub bytes, rfl⟩
  | error e =>
    rw [settle, hanswer e rfl]
    exact ⟨adds_fail hub _, rfl⟩

variable [Device δ]

theorem adds_perform (hub : Hub δ) (place : Option Nat) (op : Interface.Operation)
    (args : Arguments) :
    Adds id (hub.event id place op) 0 0 hub.registry (hub.perform id place op args).2.registry := by
  unfold perform
  split
  · next i =>
    have hnone : hub.event id (some i) op = [] := if_neg fun h => nomatch h.1
    rw [hnone]
    split <;> exact .refl id _
  · split
    · next e he =>
      rw [event, if_neg fun h => (Control.error_of_execute he).1 h.2.1]
      exact .refl id _
    · next reply requests he =>
      exact adds_foldl_act hub (Control.asks_of_execute he)

end Hub

end Network

end Instrument
