import Instrument.Proofs.Network.SharedServer

/-!
What a server counts about its sessions. Main statements: whatever clients come, whatever steps of
a start fail and whatever sessions end, once or more than once, a listener has as many opened
sessions as are registered for it, and every client that is accepted gets a number that no other
gets; and a start that fails leaves both as they were just if it is not the connection that cannot
be set up.
-/

namespace Instrument.Network

/-- Whether a client is accepted. -/
def SessionEvent.isStart : SessionEvent → Bool
  | start .. => true
  | _ => false

namespace Registry

/-- The numbers that accepted clients get, also those whose sessions do not start. -/
def numbersGiven (r : Registry) : List SessionEvent → List Nat
  | [] => []
  | e :: events => (if e.isStart then [r.next] else []) ++ (r.after e).numbersGiven events

/-- The number of registered sessions of a listener. -/
def registeredOf (r : Registry) (kind : ListenerKind) : Nat :=
  r.registered.countP (·.kind == kind)

/-- What a registry keeps of its sessions is right. -/
structure IsExact (r : Registry) : Prop where
  numbered : r.IsNumbered
  opened : ∀ kind, (r.count kind).opened = r.registeredOf kind

theorem isExact_empty : IsExact {} := ⟨isNumbered_empty, fun kind => by cases kind <;> rfl⟩

variable {r : Registry} {id : Nat} {s : SessionInfo}

/-! ### Changes that keep what is registered -/

@[simp] theorem registered_recount (r : Registry) (kind : ListenerKind)
    (f : ListenerCount → ListenerCount) : (r.recount kind f).registered = r.registered := by
  cases kind <;> rfl

theorem count_recount (r : Registry) (kind kind' : ListenerKind)
    (f : ListenerCount → ListenerCount) :
    (r.recount kind f).count kind' = if kind = kind' then f (r.count kind) else r.count kind' := by
  cases kind <;> cases kind' <;> rfl

theorem count_update (r : Registry) (id : Nat) (f : SessionInfo → SessionInfo)
    (kind : ListenerKind) : (r.update id f).count kind = r.count kind := by
  cases kind <;> rfl

theorem count_add (r : Registry) (kind kind' : ListenerKind) (peer : String) :
    ((r.add kind peer).count kind').opened =
      (r.count kind').opened + if kind = kind' then 1 else 0 := by
  cases kind <;> cases kind' <;> rfl

theorem registered_add (r : Registry) (kind : ListenerKind) (peer : String) :
    (r.add kind peer).registered =
      r.registered ++ [{ id := r.next, kind := kind, peer := peer, registered := true }] := by
  cases kind <;> simp [add, registered, recount]

/-- Sessions that keep their numbers, listeners and registrations keep the registry right. -/
theorem IsExact.map (h : r.IsExact) {f : SessionInfo → SessionInfo}
    (hf : ∀ s, (f s).id = s.id ∧ (f s).kind = s.kind ∧ (f s).registered = s.registered) :
    IsExact { r with sessions := r.sessions.map f } := by
  have hids : ids { r with sessions := r.sessions.map f } = r.ids := by
    simp [ids, Function.comp_def, (hf _).1]
  constructor
  · rw [IsNumbered, hids]
    exact h.numbered
  · intro kind
    refine (h.opened kind).trans ?_
    simp [registeredOf, registered, List.countP_filter, List.countP_map, Function.comp_def,
      (hf _).2.1, (hf _).2.2]

theorem IsExact.update (h : r.IsExact) (id : Nat) {f : SessionInfo → SessionInfo}
    (hf : ∀ s, (f s).id = s.id ∧ (f s).kind = s.kind ∧ (f s).registered = s.registered) :
    (r.update id f).IsExact := by
  refine h.map fun s => ?_
  split
  · exact hf s
  · exact ⟨rfl, rfl, rfl⟩

theorem IsExact.recount (h : r.IsExact) (kind : ListenerKind) {f : ListenerCount → ListenerCount}
    (hf : ∀ c, (f c).opened = c.opened) : (r.recount kind f).IsExact := by
  constructor
  · rw [IsNumbered, ids_recount, next_recount]
    exact h.numbered
  · intro kind'
    rw [registeredOf, registered_recount, count_recount]
    split
    · next heq =>
      rw [hf, heq]
      exact h.opened kind'
    · exact h.opened kind'

theorem IsExact.countRequest (h : r.IsExact) (id : Nat) : (r.countRequest id).IsExact := by
  unfold Registry.countRequest
  split
  · refine IsExact.recount (h.update id ?_) _ fun _ => rfl
    exact fun _ => ⟨rfl, rfl, rfl⟩
  · exact h

theorem IsExact.subscribe (h : r.IsExact) (id : Nat) (channel : UInt32) :
    (r.subscribe id channel).IsExact := by
  refine h.update id fun s => ?_
  split <;> exact ⟨rfl, rfl, rfl⟩

theorem IsExact.broadcast (h : r.IsExact) (channel : UInt32) (payload : Bytes) :
    (r.broadcast channel payload).IsExact := by
  refine h.map fun s => ?_
  split <;> exact ⟨rfl, rfl, rfl⟩

/-! ### Sessions that start and end -/

theorem IsExact.add (h : r.IsExact) (kind : ListenerKind) (peer : String) :
    (r.add kind peer).IsExact := by
  refine ⟨isNumbered_add h.numbered kind peer, fun kind' => ?_⟩
  rw [count_add, registeredOf, registered_add, List.countP_append, h.opened kind']
  simp only [registeredOf, List.countP_singleton, beq_iff_eq]

/-- Whether a session is registered can be told from its number. -/
theorem nodup_registered (h : r.IsNumbered) : (r.registered.map (·.id)).Nodup :=
  h.1.sublist (List.filter_sublist.map _)

theorem lt_next_of_mem_registered (h : r.IsNumbered) (hs : s ∈ r.registered) : s.id < r.next :=
  h.2 s.id (List.mem_map_of_mem (List.mem_filter.1 hs).1)

theorem mem_registered_of_find? (hs : r.find? id = some s) (hon : s.registered = true) :
    s.id = id ∧ s ∈ r.registered :=
  ⟨by simpa using List.find?_some hs, List.mem_filter.2 ⟨List.mem_of_find?_eq_some hs, hon⟩⟩

theorem find?_of_mem_registered (h : r.IsNumbered) (hs : s ∈ r.registered) :
    r.find? s.id = some s := by
  have hmem : s ∈ r.sessions := (List.mem_filter.1 hs).1
  cases hfind : r.find? s.id with
  | none => exact absurd (by simp) (List.find?_eq_none.1 hfind s hmem)
  | some s' =>
    have hid : s'.id = s.id := by simpa using List.find?_some hfind
    rw [List.inj_on_of_nodup_map h.1 (List.mem_of_find?_eq_some hfind) hmem hid]

/-- After a session has ended the others are registered. -/
theorem registered_remove (h : r.IsNumbered) (id : Nat) :
    (r.remove id).registered = r.registered.filter (·.id != id) := by
  have hothers (f : SessionInfo → SessionInfo) (hf : ∀ s, (f s).registered = false) :
      (r.update id f).registered = r.registered.filter (·.id != id) := by
    have hkept : r.sessions.filter ((·.registered) ∘ fun s => if s.id == id then f s else s) =
        r.sessions.filter fun s => s.id != id && s.registered := by
      refine List.filter_congr fun s _ => ?_
      by_cases heq : s.id = id <;> simp [heq, hf]
    rw [registered, registered, Registry.update, List.filter_map, List.filter_filter, hkept]
    refine (List.map_congr_left fun s hs => if_neg ?_).trans (List.map_id' _)
    have hne := (Bool.and_eq_true_iff.1 (List.mem_filter.1 hs).2).1
    simpa using hne
  unfold remove
  split
  · next s hs =>
    split
    · rw [registered_recount, hothers _ fun _ => rfl]
    · next hoff =>
      refine (List.filter_eq_self.2 fun s' hs' => ?_).symm
      rw [bne_iff_ne]
      rintro rfl
      rw [find?_of_mem_registered h hs'] at hs
      exact hoff (Option.some.inj hs ▸ (List.mem_filter.1 hs').2)
  · next hnone =>
    refine (List.filter_eq_self.2 fun s' hs' => ?_).symm
    simpa using List.find?_eq_none.1 hnone s' (List.mem_filter.1 hs').1

/-- A session among others with other numbers counts once. -/
theorem countP_filter_id_ne {l : List SessionInfo} (h : (l.map (·.id)).Nodup) (hs : s ∈ l)
    (p : SessionInfo → Bool) :
    l.countP p = (l.filter (·.id != s.id)).countP p + if p s then 1 else 0 := by
  obtain ⟨front, back, rfl⟩ := List.append_of_mem hs
  rw [List.map_append, List.map_cons, List.nodup_append, List.nodup_cons] at h
  have hfront : front.filter (·.id != s.id) = front := by
    refine List.filter_eq_self.2 fun s' hs' => bne_iff_ne.2 ?_
    exact h.2.2 s'.id (List.mem_map_of_mem hs') s.id (List.mem_cons_self ..)
  have hback : back.filter (·.id != s.id) = back := by
    refine List.filter_eq_self.2 fun s' hs' => bne_iff_ne.2 fun heq => h.2.1.1 ?_
    exact heq ▸ List.mem_map_of_mem hs'
  rw [List.filter_append, List.filter_cons_of_neg (by simp), hfront, hback]
  simp only [List.countP_append, List.countP_cons]
  omega

theorem registeredOf_remove (h : r.IsNumbered) (hs : r.find? id = some s)
    (hon : s.registered = true) (kind : ListenerKind) :
    r.registeredOf kind = (r.remove id).registeredOf kind + if s.kind = kind then 1 else 0 := by
  obtain ⟨rfl, hmem⟩ := mem_registered_of_find? hs hon
  rw [registeredOf, registeredOf, registered_remove h,
    countP_filter_id_ne (nodup_registered h) hmem]
  simp only [beq_iff_eq]

/-- A registered session is counted, so that there is one to take away when it ends. -/
theorem IsExact.opened_pos (h : r.IsExact) (hs : r.find? id = some s) (hon : s.registered = true) :
    0 < (r.count s.kind).opened := by
  rw [h.opened, registeredOf_remove h.numbered hs hon, if_pos rfl]
  exact Nat.succ_pos _

theorem remove_of_not_registered (h : ∀ s, r.find? id = some s → s.registered = false) :
    r.remove id = r := by
  unfold remove
  split
  · next s hs => rw [h s hs]; rfl
  · rfl

/-- The end of a registered session takes one opened session away from its listener. -/
theorem IsExact.opened_remove (h : r.IsExact) (hs : r.find? id = some s)
    (hon : s.registered = true) (kind : ListenerKind) :
    (r.count kind).opened =
      ((r.remove id).count kind).opened + if s.kind = kind then 1 else 0 := by
  have hremove : r.remove id = (r.update id fun s => { s with registered := false }).recount s.kind
      fun c => { c with opened := c.opened - 1 } := by
    simp only [remove, hs, hon, if_true]
  rw [hremove, count_recount, count_update, count_update]
  split
  · next heq =>
    rw [← heq]
    exact (Nat.sub_add_cancel (h.opened_pos hs hon)).symm
  · rfl

theorem IsExact.remove (h : r.IsExact) (id : Nat) : (r.remove id).IsExact := by
  refine ⟨isNumbered_remove h.numbered id, fun kind => ?_⟩
  by_cases hon : ∃ s, r.find? id = some s ∧ s.registered = true
  · obtain ⟨s, hs, hon⟩ := hon
    have hopened := h.opened kind
    rw [h.opened_remove hs hon, registeredOf_remove h.numbered hs hon] at hopened
    exact Nat.add_right_cancel hopened
  · rw [remove_of_not_registered fun s hs => by simpa using fun h => hon ⟨s, hs, h⟩]
    exact h.opened kind

theorem find?_add_next (h : r.IsNumbered) (kind : ListenerKind) (peer : String) :
    (r.add kind peer).find? r.next =
      some { id := r.next, kind := kind, peer := peer, registered := true } :=
  find?_of_mem_registered (isNumbered_add h kind peer)
    (s := { id := r.next, kind := kind, peer := peer, registered := true })
    (by rw [registered_add]; exact List.mem_append_right _ (List.mem_singleton_self _))

/-- A session whose thread cannot be started is taken out again. -/
theorem IsExact.remove_add (h : r.IsExact) (kind : ListenerKind) (peer : String) :
    ((r.add kind peer).remove r.next).registered = r.registered ∧
      ∀ kind', (((r.add kind peer).remove r.next).count kind').opened =
        (r.count kind').opened := by
  constructor
  · rw [registered_remove (isNumbered_add h.numbered kind peer), registered_add, List.filter_append,
      List.filter_cons_of_neg (by simp), List.filter_nil, List.append_nil]
    refine List.filter_eq_self.2 fun s hs => bne_iff_ne.2 ?_
    exact Nat.ne_of_lt (lt_next_of_mem_registered h.numbered hs)
  · intro kind'
    have hopened := (h.add kind peer).opened_remove (find?_add_next h.numbered kind peer) rfl kind'
    rw [count_add] at hopened
    exact (Nat.add_right_cancel hopened).symm

theorem IsExact.start (h : r.IsExact) (kind : ListenerKind) (peer : String)
    (fault? : Option StartFault) : (r.start kind peer fault?).IsExact := by
  rcases fault? with _ | (_ | _ | _)
  · exact h.add kind peer
  · refine ⟨isNumbered_start h.numbered kind peer (some .stream), fun kind' => ?_⟩
    refine Eq.trans ?_ (h.opened kind')
    cases kind' <;> rfl
  · exact h.add kind peer
  · exact (h.add kind peer).remove r.next

/-- What happens keeps the registry right. -/
theorem IsExact.after (h : r.IsExact) (e : SessionEvent) : (r.after e).IsExact := by
  cases e with
  | start kind peer fault? => exact h.start kind peer fault?
  | remove id => exact h.remove id
  | request id => exact h.countRequest id
  | subscribe id channel => exact h.subscribe id channel
  | broadcast channel payload => exact h.broadcast channel payload

theorem IsExact.afterAll (h : r.IsExact) (events : List SessionEvent) :
    (r.afterAll events).IsExact := by
  induction events generalizing r with
  | nil => exact h
  | cons e events ih => exact ih (h.after e)

/-! ### Numbers of clients -/

theorem next_start (r : Registry) (kind : ListenerKind) (peer : String)
    (fault? : Option StartFault) : (r.start kind peer fault?).next = r.next + 1 := by
  have hadd : (r.add kind peer).next = r.next + 1 := by cases kind <;> rfl
  rcases fault? with _ | (_ | _ | _)
  · exact hadd
  · rfl
  · exact hadd
  · exact (next_remove _ _).trans hadd

theorem next_after (r : Registry) (e : SessionEvent) :
    (r.after e).next = r.next + if e.isStart then 1 else 0 := by
  cases e with
  | start kind peer fault? => exact r.next_start kind peer fault?
  | remove id => exact r.next_remove id
  | request id => exact r.next_countRequest id
  | subscribe | broadcast => rfl

/-- Accepted clients are numbered one after the other. -/
theorem numbersGiven_eq (r : Registry) (events : List SessionEvent) :
    r.numbersGiven events = List.range' r.next (events.countP (·.isStart)) := by
  induction events generalizing r with
  | nil => rfl
  | cons e events ih =>
    rw [numbersGiven, ih, next_after, List.countP_cons]
    split
    · rw [List.range'_succ]
      rfl
    · rfl

theorem ids_start (r : Registry) (kind : ListenerKind) (peer : String)
    (fault? : Option StartFault) : (r.start kind peer fault?).ids.Sublist (r.ids ++ [r.next]) := by
  have hadd : (r.add kind peer).ids = r.ids ++ [r.next] := by
    cases kind <;> simp [add, ids, recount]
  rcases fault? with _ | (_ | _ | _)
  · exact hadd ▸ List.Sublist.refl _
  · exact List.sublist_append_left _ _
  · exact hadd ▸ List.Sublist.refl _
  · exact (ids_remove _ _).trans hadd ▸ List.Sublist.refl _

theorem ids_after (r : Registry) (e : SessionEvent) :
    (r.after e).ids.Sublist (r.ids ++ if e.isStart then [r.next] else []) := by
  have hsame {r' : Registry} (h : r'.ids = r.ids) : r'.ids.Sublist (r.ids ++ []) := by
    rw [h, List.append_nil]
  cases e with
  | start kind peer fault? => exact r.ids_start kind peer fault?
  | remove id => exact hsame (r.ids_remove id)
  | request id =>
    refine hsame ?_
    change (r.countRequest id).ids = r.ids
    unfold countRequest
    split
    · rw [ids_recount, ids_update]
      exact fun _ => rfl
    · rfl
  | subscribe id channel =>
    refine hsame (ids_update r id fun s => ?_)
    split <;> rfl
  | broadcast channel payload =>
    refine hsame ?_
    simp only [after, Registry.broadcast, ids, List.map_map]
    refine List.map_congr_left fun s _ => ?_
    simp only [Function.comp_apply]
    split <;> rfl

/-- A session has the number that its client was given. -/
theorem ids_afterAll (r : Registry) (events : List SessionEvent) :
    (r.afterAll events).ids.Sublist (r.ids ++ r.numbersGiven events) := by
  induction events generalizing r with
  | nil => exact List.sublist_append_left _ _
  | cons e events ih =>
    refine (ih (r.after e)).trans ?_
    rw [numbersGiven, ← List.append_assoc]
    exact (r.ids_after e).append_right _

/-! ### Starts that fail -/

/-- Whether the registered sessions and the numbers of opened sessions are the same. -/
def KeepsSessions (r r' : Registry) : Prop :=
  r'.registered = r.registered ∧ ∀ kind, (r'.count kind).opened = (r.count kind).opened

/-- A start that fails leaves the sessions as they were, unless it is the connection that cannot be
set up: that session is registered and counted, and no thread is there to end it. -/
theorem IsExact.keepsSessions_start_iff (h : r.IsExact) (kind : ListenerKind) (peer : String)
    (fault : StartFault) : r.KeepsSessions (r.start kind peer (some fault)) ↔
      fault ≠ .connection := by
  cases fault with
  | stream => exact ⟨fun _ => nofun, fun _ => ⟨rfl, fun kind => by cases kind <;> rfl⟩⟩
  | connection =>
    refine ⟨fun ⟨hregistered, _⟩ => ?_, fun hne => absurd rfl hne⟩
    rw [Registry.start, registered_add] at hregistered
    simp at hregistered
  | thread => exact ⟨fun _ => nofun, fun _ => h.remove_add kind peer⟩

/-- After whatever has happened, a listener has as many opened sessions as are registered for it;
the end of a session that is registered takes away one that is there; no two clients are given the
same number, and sessions have the numbers of their clients; and a start that fails leaves the
sessions as they were just if it is not the connection that cannot be set up. -/
theorem afterAll_keeps_account (events : List SessionEvent) :
    (∀ kind, ((afterAll {} events).count kind).opened = (afterAll {} events).registeredOf kind) ∧
    (∀ id s, (afterAll {} events).find? id = some s → s.registered = true →
      ((afterAll {} events).count s.kind).opened =
        (((afterAll {} events).remove id).count s.kind).opened + 1) ∧
    (numbersGiven {} events).Nodup ∧
    (afterAll {} events).ids.Sublist (numbersGiven {} events) ∧
    ∀ kind peer fault,
      (afterAll {} events).KeepsSessions ((afterAll {} events).start kind peer (some fault)) ↔
        fault ≠ .connection := by
  have hexact : (afterAll {} events).IsExact := isExact_empty.afterAll events
  refine ⟨hexact.opened, fun id s hs hon => ?_, ?_, ?_, hexact.keepsSessions_start_iff⟩
  · rw [hexact.opened_remove hs hon, if_pos rfl]
  · rw [numbersGiven_eq]
    exact List.nodup_range'
  · exact ids_afterAll {} events

/-- Sessions of both listeners, with starts that fail, an end that comes twice and one for a number
that no client has. -/
def busyDay : List SessionEvent :=
  [.start .tcp "a" none, .start .unix "b" (some .thread), .start .unix "c" none,
   .start .tcp "d" (some .stream), .request 3, .subscribe 1 0, .remove 3, .remove 3, .remove 9,
   .start .tcp "e" none]

theorem afterAll_keeps_account_busyDay :
    ((afterAll {} busyDay).count .tcp).opened = 2 ∧
    ((afterAll {} busyDay).count .unix).opened = 0 ∧
    (∃ s, (afterAll {} busyDay).find? 1 = some s ∧ s.registered = true ∧
      ((afterAll {} busyDay).count s.kind).opened =
        (((afterAll {} busyDay).remove 1).count s.kind).opened + 1) ∧
    numbersGiven {} busyDay = [1, 2, 3, 4, 5] ∧ (afterAll {} busyDay).ids = [1, 2, 3, 5] ∧
    (afterAll {} busyDay).KeepsSessions ((afterAll {} busyDay).start .tcp "f" (some .thread)) := by
  have hkeeps := afterAll_keeps_account busyDay
  refine ⟨?_, ?_, ?_, by decide, by decide, (hkeeps.2.2.2.2 _ _ _).2 nofun⟩
  · rw [hkeeps.1]
    decide
  · rw [hkeeps.1]
    decide
  · cases hs : (afterAll {} busyDay).find? 1 with
    | none => exact absurd hs (by decide)
    | some s =>
      have hon : ((afterAll {} busyDay).find? 1).all (·.registered) = true := by decide
      rw [hs] at hon
      exact ⟨s, rfl, hon, hkeeps.2.1 1 s hs hon⟩

/-- A client whose connection cannot be set up is counted as an opened session, and stays on the
list of sessions. -/
theorem not_keepsSessions_connection :
    ¬KeepsSessions {} (start {} .tcp "a" (some .connection)) ∧
    (start {} .tcp "a" (some .connection)).registered.map (·.id) = [1] ∧
    ((start {} .tcp "a" (some .connection)).count .tcp).opened = 1 := by
  refine ⟨fun h => ?_, by decide, by decide⟩
  exact absurd (h.2 .tcp) (by decide)

end Registry

open Registry (IsExact)

/-! ### Servers -/

namespace Hub

variable {δ : Type} {hub : Hub δ}

theorem isExact_close (h : hub.registry.IsExact) (id : Nat) : (hub.close id).registry.IsExact :=
  (h.remove id).update id fun _ => ⟨rfl, rfl, rfl⟩

theorem isExact_abort (h : hub.registry.IsExact) (id : Nat) (about : String) (e : Error) :
    (hub.abort id about e).registry.IsExact := by
  unfold abort
  split
  · exact h
  · refine isExact_close ?_ id
    exact h.update id fun _ => ⟨rfl, rfl, rfl⟩

theorem isExact_settle (h : hub.registry.IsExact) (id : Nat) (site : CallSite)
    (answer : Except Error (Option Bytes)) : (hub.settle id site answer).1.registry.IsExact := by
  unfold settle
  split
  · exact h.update id fun _ => ⟨rfl, rfl, rfl⟩
  · exact h
  · split
    · exact h
    · exact h.update id fun _ => ⟨rfl, rfl, rfl⟩

theorem isExact_act (h : hub.registry.IsExact) (request : Control.Request) :
    (hub.act request).registry.IsExact := by
  cases request with
  | subscribe session channel =>
    exact (h.subscribe session channel).update session fun _ => ⟨rfl, rfl, rfl⟩
  | broadcast channel payload => exact h.broadcast channel payload

theorem isExact_foldl_act (h : hub.registry.IsExact) (requests : List Control.Request) :
    (requests.foldl act hub).registry.IsExact := by
  induction requests generalizing hub with
  | nil => exact h
  | cons request requests ih => exact ih (isExact_act h request)

variable [Device δ]

theorem isExact_respond (h : hub.registry.IsExact) (id : Nat) (place : Option Nat)
    (site : CallSite) (args : Except Error Arguments) :
    (hub.respond id place site args).2.registry.IsExact := by
  cases args with
  | error e => exact h
  | ok args =>
    change (hub.perform id place site.operation args).2.registry.IsExact
    unfold perform
    split
    · split <;> exact h
    · split
      · exact h
      · exact isExact_foldl_act h _

end Hub

namespace Server

variable {δ : Type} [Device δ] {s : Server δ}

theorem isExact_of_steps {l l' : Line} {hub hub' : Hub δ} {busy : List Nat}
    (h : hub.registry.IsExact) (hstep : l.Steps hub busy l' hub') : hub'.registry.IsExact := by
  cases hstep with
  | closes => exact Hub.isExact_close h l.id
  | aborts => exact Hub.isExact_abort h l.id _ _
  | refuses => exact (h.countRequest l.id).update l.id fun _ => ⟨rfl, rfl, rfl⟩
  | takes => exact h.countRequest l.id
  | starts | reads => exact h.update l.id fun _ => ⟨rfl, rfl, rfl⟩
  | answers => exact Hub.isExact_settle (Hub.isExact_respond h l.id _ _ _) l.id _ _
  | breaks => exact Hub.isExact_abort (Hub.isExact_respond h l.id _ _ _) l.id _ _

theorem isExact_move (h : s.hub.registry.IsExact) (m : Move) :
    (s.move m).hub.registry.IsExact := by
  cases m with
  | step j =>
    simp only [move]
    split
    · exact h
    · next hstep => exact isExact_of_steps h (stepAt?_eq_some hstep).2
  | hears | leaves => exact h
  | connects =>
    simp only [move, connect]
    split
    · exact (h.start .unix "unix" none).update _ fun _ => ⟨rfl, rfl, rfl⟩
    · exact h

/-- Whatever clients do and however their sessions take turns, what the server counts is right. -/
theorem isExact_moveAll (fleet : Fleet δ) (moves : List Move) :
    ((ofFleet fleet).moveAll moves).hub.registry.IsExact := by
  have hall (s : Server δ) (h : s.hub.registry.IsExact) :
      (s.moveAll moves).hub.registry.IsExact := by
    induction moves generalizing s with
    | nil => exact h
    | cons m moves ih => exact ih (s.move m) (isExact_move h m)
  exact hall (ofFleet fleet) Registry.isExact_empty

end Server

end Instrument.Network
