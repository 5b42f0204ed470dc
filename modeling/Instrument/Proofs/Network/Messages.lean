import Instrument.Network.Server
import Instrument.Proofs.Network.Accounts

/-!
What a session is sent, message by message. Main statement: whichever session of a server makes a
step, every session is sent just its messages of this step: the counts and the reply of its own
call, and the event of a ping while it is subscribed.
-/

namespace Instrument.Network

open Registry (Adds)

/-- What a session is sent in one piece. -/
inductive Message where
  /-- How many elements are taken. -/
  | count (n : UInt32)
  /-- What an operation has answered to some arguments. -/
  | reply (site : CallSite) (args : Arguments) (reply : Reply) (bytes : Bytes)
  /-- The event of a ping. -/
  | event
deriving DecidableEq, Repr

namespace Message

/-- The bytes that are sent. -/
def bytes : Message → Bytes
  | count n => Wire.bytesBE 4 n.toNat
  | reply _ _ _ bytes => bytes
  | event => Control.pingBytes

/-- Whether a message does not belong to a call of the session. -/
def isEvent : Message → Bool
  | event => true
  | count _ | reply .. => false

/-- All bytes of some messages. -/
def stream (messages : List Message) : Bytes := messages.flatMap bytes

@[simp] theorem stream_nil : stream [] = [] := rfl

@[simp] theorem stream_cons (m : Message) (messages : List Message) :
    stream (m :: messages) = m.bytes ++ stream messages := rfl

@[simp] theorem stream_append (a b : List Message) : stream (a ++ b) = stream a ++ stream b :=
  List.flatMap_append

theorem stream_map_count (counts : List UInt32) :
    stream (counts.map count) = Hub.acknowledgements counts :=
  List.flatMap_map count bytes counts

/-- The messages that belong to the calls of the session. -/
def own (messages : List Message) : List Message := messages.filter (!·.isEvent)

@[simp] theorem own_nil : own [] = [] := rfl

@[simp] theorem own_append (a b : List Message) : own (a ++ b) = own a ++ own b :=
  List.filter_append a b

theorem own_cons_of_isEvent {m : Message} (h : m.isEvent = true) (messages : List Message) :
    own (m :: messages) = own messages := List.filter_cons_of_neg (by simp [h])

theorem own_cons_of_not_isEvent {m : Message} (h : m.isEvent = false) (messages : List Message) :
    own (m :: messages) = m :: own messages := List.filter_cons_of_pos (by simp [h])

theorem own_map_count (counts : List UInt32) : own (counts.map count) = counts.map count :=
  List.filter_eq_self.2 fun m hm => by
    obtain ⟨n, -, rfl⟩ := List.mem_map.1 hm
    rfl

end Message

/-! ### Other sessions -/

namespace Registry

variable {id other : Nat} {r r' r'' : Registry} {output output' : Bytes}

/-- A session has been sent some bytes, whatever has been counted about it. -/
def Sends (id : Nat) (output : Bytes) (r r' : Registry) : Prop :=
  ∃ requests errors, Adds id output requests errors r r'

theorem Adds.sends {requests errors : Nat} (h : Adds id output requests errors r r') :
    Sends id output r r' := ⟨requests, errors, h⟩

theorem Sends.refl (id : Nat) (r : Registry) : Sends id [] r r := (Adds.refl id r).sends

theorem Sends.trans (h : Sends id output r r') (h' : Sends id output' r' r'') :
    Sends id (output ++ output') r r'' := by
  obtain ⟨requests, errors, h⟩ := h
  obtain ⟨requests', errors', h'⟩ := h'
  exact (h.trans h').sends

theorem sends_of_find?_eq (h : r'.find? id = r.find? id) : Sends id [] r r' :=
  ⟨0, 0, fun s hs => ⟨s, h.trans hs, (List.append_nil _).symm, rfl, rfl⟩⟩

theorem find?_update_of_ne (hne : id ≠ other) {f : SessionInfo → SessionInfo}
    (hf : ∀ s, (f s).id = s.id) : (r.update other f).find? id = r.find? id := by
  rw [update, find?_map]
  · cases hfind : r.find? id with
    | none => rfl
    | some s =>
      have hid : s.id = id := by simpa using List.find?_some hfind
      rw [Option.map_some, if_neg (by simpa [hid] using hne)]
  · intro s
    split
    · exact hf s
    · rfl

theorem find?_countRequest_of_ne (hne : id ≠ other) :
    (r.countRequest other).find? id = r.find? id := by
  unfold countRequest
  split
  · rw [find?_recount]
    exact find?_update_of_ne hne fun _ => rfl
  · rfl

theorem find?_remove_of_ne (hne : id ≠ other) : (r.remove other).find? id = r.find? id := by
  unfold remove
  split
  · split
    · rw [find?_recount]
      exact find?_update_of_ne hne fun _ => rfl
    · rfl
  · rfl

end Registry

open Registry (Sends)

namespace Hub

variable {δ : Type} {id other : Nat}

/-- What is changed about one session changes nothing about the others. -/
theorem sends_of_session (hub : Hub δ) {hub' : Hub δ} (other : Nat)
    (hown : id = other → Sends id [] hub.registry hub'.registry)
    (hothers : id ≠ other → hub'.registry.find? id = hub.registry.find? id) :
    Sends id [] hub.registry hub'.registry :=
  (Classical.em (id = other)).elim hown fun hne => Registry.sends_of_find?_eq (hothers hne)

theorem find?_update_of_ne (hne : id ≠ other) (hub : Hub δ) {f : SessionInfo → SessionInfo}
    (hf : ∀ s, (f s).id = s.id) :
    (hub.update other f).registry.find? id = hub.registry.find? id :=
  Registry.find?_update_of_ne hne hf

theorem find?_close_of_ne (hne : id ≠ other) (hub : Hub δ) :
    (hub.close other).registry.find? id = hub.registry.find? id :=
  (find?_update_of_ne hne { hub with registry := hub.registry.remove other }
    (f := (·.say .info _)) fun _ => rfl).trans (Registry.find?_remove_of_ne hne)

theorem sends_send (hub : Hub δ) (id other : Nat) (bytes : Bytes) :
    Sends id (if other = id then bytes else []) hub.registry
      (hub.update other (·.send bytes)).registry := by
  by_cases hid : other = id
  · subst hid
    rw [if_pos rfl]
    exact (adds_send hub bytes).sends
  · rw [if_neg hid]
    exact Registry.sends_of_find?_eq (find?_update_of_ne (Ne.symm hid) hub fun _ => rfl)

theorem sends_fail (hub : Hub δ) (id other : Nat) (text : String) :
    Sends id [] hub.registry (hub.update other (·.fail text)).registry :=
  sends_of_session hub other (fun hid => hid ▸ (adds_fail hub text).sends)
    fun hne => find?_update_of_ne hne hub fun _ => rfl

theorem sends_countRequest (hub : Hub δ) (id other : Nat) :
    Sends id [] hub.registry (hub.countRequest other).registry :=
  sends_of_session hub other (fun hid => hid ▸ Registry.adds_countRequest.sends)
    fun hne => Registry.find?_countRequest_of_ne hne

theorem sends_close (hub : Hub δ) (id other : Nat) :
    Sends id [] hub.registry (hub.close other).registry :=
  sends_of_session hub other (fun hid => hid ▸ (adds_close hub).sends)
    fun hne => find?_close_of_ne hne hub

theorem sends_abort (hub : Hub δ) (id other : Nat) (about : String) (e : Error) :
    Sends id [] hub.registry (hub.abort other about e).registry := by
  refine sends_of_session hub other (fun hid => hid ▸ (adds_abort hub about e).sends) fun hne => ?_
  unfold abort
  split
  · rfl
  · exact (find?_close_of_ne hne _).trans (find?_update_of_ne hne hub fun _ => rfl)

/-! ### Calls -/

theorem sends_settle (hub : Hub δ) (id other : Nat) (site : CallSite)
    (answer : Except Error (Option Bytes)) :
    Sends id (if other = id then answer.toOption.join.getD [] else []) hub.registry
      (hub.settle other site answer).1.registry := by
  rcases answer with e | _ | bytes
  · change Sends id (if other = id then [] else []) _ _
    rw [ite_self, settle]
    split
    · exact .refl id _
    · exact sends_fail hub id other _
  · change Sends id (if other = id then [] else []) _ _
    rw [ite_self]
    exact .refl id _
  · exact sends_send hub id other bytes

theorem eq_of_settle_some {hub hub' : Hub δ} {site : CallSite}
    {answer : Except Error (Option Bytes)} {e : Error}
    (h : hub.settle id site answer = (hub', some e)) : hub' = hub ∧ answer = .error e := by
  unfold settle at h
  split at h
  · cases h
  · cases h
  · split at h
    · cases h
      exact ⟨rfl, rfl⟩
    · cases h

/-- The event that a session is sent when an operation is executed for any session. -/
def announces (hub : Hub δ) (id : Nat) (place : Option Nat) (op : Interface.Operation) :
    List Message :=
  if place = none ∧ op.id = Control.pingOperation ∧
      (hub.registry.find? id).any SessionInfo.hears then
    [.event]
  else []

theorem stream_announces (hub : Hub δ) (id : Nat) (place : Option Nat)
    (op : Interface.Operation) :
    Message.stream (hub.announces id place op) = hub.event id place op := by
  unfold announces event
  split
  · exact List.append_nil _
  · rfl

theorem own_announces (hub : Hub δ) (id : Nat) (place : Option Nat) (op : Interface.Operation) :
    Message.own (hub.announces id place op) = [] := by
  unfold announces
  split <;> rfl

theorem sends_foldl_act (hub : Hub δ) {op : Interface.Operation}
    {requests : List Control.Request} (h : Control.Asks other op requests) :
    Sends id (hub.event id none op) hub.registry (requests.foldl act hub).registry := by
  by_cases hid : id = other
  · subst hid
    exact (adds_foldl_act hub h).sends
  cases h with
  | nothing hop => exact (adds_foldl_act hub (.nothing hop)).sends
  | ping hop => exact (adds_foldl_act hub (.ping hop)).sends
  | subscribe hop channel =>
    rw [event, if_neg fun h => hop h.2.1]
    have hsay := find?_update_of_ne hid
      { hub with registry := hub.registry.subscribe other channel } (f := (·.say .info
        ("session " ++ toString other ++ " subscribed to channel " ++ toString channel.toNat)))
      fun _ => rfl
    refine Registry.sends_of_find?_eq (hsay.trans (Registry.find?_update_of_ne hid fun s => ?_))
    split <;> rfl

variable [Device δ]

/-- Whoever calls, a session is sent just the event of a ping. -/
theorem sends_perform (hub : Hub δ) (id other : Nat) (place : Option Nat)
    (op : Interface.Operation) (args : Arguments) :
    Sends id (hub.event id place op) hub.registry
      (hub.perform other place op args).2.registry := by
  cases place with
  | some i =>
    have hnone : hub.event id (some i) op = [] := if_neg fun h => nomatch h.1
    rw [hnone]
    simp only [perform]
    split <;> exact .refl id _
  | none =>
    simp only [perform]
    split
    · next e he =>
      rw [event, if_neg fun h => (Control.error_of_execute he).1 h.2.1]
      exact .refl id _
    · next reply requests he => exact sends_foldl_act hub (Control.asks_of_execute he)

/-- The reply that is sent for a call, if one is. -/
def answer (hub : Hub δ) (id : Nat) (place : Option Nat) (site : CallSite) (args : Arguments) :
    List Message :=
  match (hub.perform id place site.operation args).1 with
  | .error _ => []
  | .ok reply =>
    match site.encode reply with
    | .ok (some bytes) => [.reply site args reply bytes]
    | _ => []

theorem stream_answer (hub : Hub δ) (id : Nat) (place : Option Nat) (site : CallSite)
    (args : Arguments) : Message.stream (hub.answer id place site args) =
      (hub.respond id place site (.ok args)).1.toOption.join.getD [] := by
  have hrespond : (hub.respond id place site (.ok args)).1 =
      (hub.perform id place site.operation args).1.bind site.encode := rfl
  rw [hrespond, answer]
  cases (hub.perform id place site.operation args).1 with
  | error e => rfl
  | ok reply =>
    simp only [Except.bind]
    cases site.encode reply with
    | error e => rfl
    | ok out =>
      cases out with
      | none => rfl
      | some bytes => exact List.append_nil _

end Hub

/-! ### Steps -/

namespace Line

variable {δ : Type} [Device δ] {l l' : Line} {hub hub' : Hub δ} {held : List Nat}

/-- What a session does in one step. -/
inductive Steps (l : Line) (hub : Hub δ) (held : List Nat) : Line → Hub δ → Prop
  | closes (hstage : l.stage = .listening) (hended : l.ended = true) :
      Steps l hub held l.close (hub.close l.id)
  /-- The next bytes are no command. -/
  | aborts {e : Error} (hstage : l.stage = .listening) (hnext : nextCommand l.incoming = .invalid e)
      (he : e = .connectionBroken → l.ended = true) :
      Steps l hub held l.close (hub.abort l.id "" e)
  | refuses {c : Command} {rest : Bytes} {text : String} (hstage : l.stage = .listening)
      (hnext : nextCommand l.incoming = .command c rest)
      (hroute : hub.route c.header = .refused text) :
      Steps l hub held { l with incoming := rest }
        ((hub.countRequest l.id).update l.id (·.fail text))
  | takes {c : Command} {rest : Bytes} {place : Option Nat} {site : CallSite}
      (hstage : l.stage = .listening) (hnext : nextCommand l.incoming = .command c rest)
      (hroute : hub.route c.header = .call place site) :
      Steps l hub held { l with incoming := rest, stage := .waiting place site c.payload }
        (hub.countRequest l.id)
  | starts {place : Option Nat} {site : CallSite} {payload : Bytes}
      (hstage : l.stage = .waiting place site payload) (hfree : ∀ i ∈ place, i ∉ held) :
      Steps l hub held
        (l.readOn hub place site (site.decode site.operation.layout payload).run).1
        (l.readOn hub place site (site.decode site.operation.layout payload).run).2
  | reads {place : Option Nat} {site : CallSite} {dialogue : Dialogue (Except Error Arguments)}
      (hstage : l.stage = .reading place site dialogue) :
      Steps l hub held (l.readOn hub place site dialogue).1 (l.readOn hub place site dialogue).2
  | answers {place : Option Nat} {site : CallSite} {args : Except Error Arguments}
      (hstage : l.stage = .calling place site args)
      (hopen : l.ended = true → (hub.respond l.id place site args).1.toOption.join = none) :
      Steps l hub held { l with stage := .listening }
        ((hub.respond l.id place site args).2.settle l.id site
          (hub.respond l.id place site args).1).1
  /-- The answer cannot be sent, or the call leaves the stream broken. -/
  | breaks {place : Option Nat} {site : CallSite} {args : Except Error Arguments}
      (hstage : l.stage = .calling place site args) (e : Error)
      (hanswer : l.ended = false → (hub.respond l.id place site args).1.toOption = none) :
      Steps l hub held l.close ((hub.respond l.id place site args).2.abort l.id " closed" e)

theorem steps_of_calling {place : Option Nat} {site : CallSite} {args : Except Error Arguments}
    (hstage : l.stage = .calling place site args) (h : l.step? hub held = some (l', hub')) :
    Steps l hub held l' hub' := by
  simp only [step?, hstage] at h
  split at h
  · cases h
  split at h
  · next hended =>
    cases h
    exact .breaks hstage _ fun hopen => by cases hopen.symm.trans hended
  · next hanswer =>
    have hopen : l.ended = true → (hub.respond l.id place site args).1.toOption.join = none := by
      intro hended
      rcases hrespond : (hub.respond l.id place site args).1 with e | _ | bytes
      · rfl
      · rfl
      · exact absurd hended (hanswer bytes hrespond)
    rcases hsettle : (hub.respond l.id place site args).2.settle l.id site
      (hub.respond l.id place site args).1 with ⟨settled, e?⟩
    have hanswers : Steps l hub held _ _ := .answers hstage hopen
    rw [hsettle] at h hanswers
    cases e? with
    | none =>
      cases h
      exact hanswers
    | some e =>
      obtain ⟨rfl, he⟩ := Hub.eq_of_settle_some hsettle
      cases h
      exact .breaks hstage e fun _ => by rw [he]; rfl

theorem steps_of_step? (h : l.step? hub held = some (l', hub')) : Steps l hub held l' hub' := by
  cases hstage : l.stage with
  | closed => simp [step?, hstage] at h
  | listening =>
    simp only [step?, hstage] at h
    split at h
    · split at h
      · next hended =>
        cases h
        exact .closes hstage hended
      · cases h
    · next hnext =>
      split at h
      · next hended =>
        cases h
        exact .aborts hstage hnext fun _ => hended
      · cases h
    · next e hne hnext =>
      cases h
      exact .aborts hstage hnext fun heq => absurd heq hne
    · next c rest hnext =>
      -- counting a request does not change where it goes
      have hcounted : (hub.countRequest l.id).route c.header = hub.route c.header := rfl
      rw [hcounted] at h
      split at h
      · next hroute =>
        have hrefuses : Steps l hub held _ _ := .refuses hstage hnext hroute
        rw [hstage] at hrefuses
        cases h
        exact hrefuses
      · next hroute =>
        cases h
        exact .takes hstage hnext hroute
  | waiting place site payload =>
    simp only [step?, hstage] at h
    split at h
    · cases h
    · next hfree =>
      cases h
      refine .starts hstage fun i hi hheld => hfree ?_
      rw [Option.mem_def.1 hi]
      simpa using hheld
  | reading place site dialogue =>
    simp only [step?, hstage] at h
    split at h
    · cases h
      exact .reads hstage
    · cases h
  | calling place site args => exact steps_of_calling hstage h

/-! ### What is sent in a step -/

/-- The numbers of elements that are told while the arguments of a call are read. -/
def counts (l : Line) (hub : Hub δ) (place : Option Nat) (site : CallSite)
    (dialogue : Dialogue (Except Error Arguments)) : List UInt32 :=
  (dialogue.advance (hub.accept place site.operation) l.ended
    { incoming := l.incoming, writable := !l.ended }).2.acknowledged

/-- What a session is sent when a session makes a step. -/
def tells (l : Line) (hub : Hub δ) (id : Nat) : List Message :=
  match l.stage with
  | .listening | .closed | .calling _ _ (.error _) => []
  | .waiting place site payload =>
    if l.id = id then
      (l.counts hub place site (site.decode site.operation.layout payload).run).map .count
    else []
  | .reading place site dialogue =>
    if l.id = id then (l.counts hub place site dialogue).map .count else []
  | .calling place site (.ok args) =>
    hub.announces id place site.operation ++
      if l.id = id ∧ l.ended = false then hub.answer id place site args else []

theorem sends_readOn (l : Line) (hub : Hub δ) (id : Nat) (place : Option Nat) (site : CallSite)
    (dialogue : Dialogue (Except Error Arguments)) :
    Sends id (Message.stream
        (if l.id = id then (l.counts hub place site dialogue).map .count else []))
      hub.registry (l.readOn hub place site dialogue).2.registry := by
  rw [apply_ite Message.stream, Message.stream_map_count, Message.stream_nil]
  exact Hub.sends_send hub id l.id _

/-- A session is sent just its messages of a step, whichever session makes it. -/
theorem sends_tells (h : Steps l hub held l' hub') (id : Nat) :
    Sends id (Message.stream (l.tells hub id)) hub.registry hub'.registry := by
  cases h with
  | closes hstage =>
    simp only [tells, hstage]
    exact Hub.sends_close hub id l.id
  | aborts hstage =>
    simp only [tells, hstage]
    exact Hub.sends_abort hub id l.id _ _
  | refuses hstage =>
    simp only [tells, hstage]
    exact (Hub.sends_countRequest hub id l.id).trans (Hub.sends_fail _ id l.id _)
  | takes hstage =>
    simp only [tells, hstage]
    exact Hub.sends_countRequest hub id l.id
  | starts hstage =>
    simp only [tells, hstage]
    exact sends_readOn l hub id _ _ _
  | reads hstage =>
    simp only [tells, hstage]
    exact sends_readOn l hub id _ _ _
  -- only a call that has its arguments shows at the other lines, by the events it raises
  | @answers place site args hstage hopen =>
    cases args with
    | error e =>
      have hsettle : Sends id (if l.id = id then [] else []) hub.registry
          (hub.settle l.id site (.error e)).1.registry := Hub.sends_settle hub id l.id site _
      rw [ite_self] at hsettle
      simp only [tells, hstage]
      exact hsettle
    | ok args =>
      -- the reply goes to the line itself, if its peer is still there
      have hreply : Message.stream
          (if l.id = id ∧ l.ended = false then hub.answer id place site args else []) =
          if l.id = id then (hub.respond l.id place site (.ok args)).1.toOption.join.getD []
          else [] := by
        by_cases hid : l.id = id
        · subst hid
          cases hended : l.ended with
          | true => simp [hopen hended]
          | false => simp [Hub.stream_answer]
        · simp [hid]
      simp only [tells, hstage]
      rw [Message.stream_append, Hub.stream_announces, hreply]
      exact (Hub.sends_perform hub id l.id place site.operation args).trans
        (Hub.sends_settle (hub.respond l.id place site (.ok args)).2 id l.id site _)
  | @breaks place site args hstage e hanswer =>
    cases args with
    | error e' =>
      simp only [tells, hstage]
      exact Hub.sends_abort hub id l.id _ e
    | ok args =>
      have hreply : Message.stream
          (if l.id = id ∧ l.ended = false then hub.answer id place site args else []) = [] := by
        by_cases hown : l.id = id ∧ l.ended = false
        · obtain ⟨rfl, hended⟩ := hown
          simp [hended, Hub.stream_answer, hanswer hended]
        · simp [hown]
      simp only [tells, hstage]
      rw [Message.stream_append, Hub.stream_announces, hreply]
      exact (Hub.sends_perform hub id l.id place site.operation args).trans
        (Hub.sends_abort (hub.respond l.id place site (.ok args)).2 id l.id _ e)

end Line

end Instrument.Network
