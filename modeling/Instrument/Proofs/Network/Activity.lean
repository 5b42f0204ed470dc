import Instrument.Network.Session

/-!
What a session leaves behind: lines in its log and the commands that are counted. Main statement:
serving a stream adds a line, and more than that unless the stream ends before a whole header.
-/

namespace Instrument.Network

/-- The lines in the log of a session and its commands. A command counts as two lines, since a
session that is stopped in its course adds none. -/
def SessionInfo.activity (s : SessionInfo) : Nat := s.log.length + 2 * s.requests

namespace Registry

variable {id k l : Nat} {r r' r'' : Registry}

/-- A session has gained at least `k` lines. -/
def Gains (id k : Nat) (r r' : Registry) : Prop :=
  ∀ s, r.find? id = some s → ∃ s', r'.find? id = some s' ∧ s.activity + k ≤ s'.activity

theorem Gains.refl (id : Nat) (r : Registry) : Gains id 0 r r := fun s h => ⟨s, h, Nat.le_refl _⟩

theorem Gains.trans (h : Gains id k r r') (h' : Gains id l r' r'') : Gains id (k + l) r r'' := by
  intro s hs
  obtain ⟨s', hs', hle⟩ := h s hs
  obtain ⟨s'', hs'', hle'⟩ := h' s' hs'
  exact ⟨s'', hs'', by omega⟩

theorem Gains.mono (h : Gains id k r r') (hle : l ≤ k) : Gains id l r r' := by
  intro s hs
  obtain ⟨s', hs', hgain⟩ := h s hs
  exact ⟨s', hs', by omega⟩

/-- Changing sessions without changing their numbers changes what is found. -/
theorem find?_map {f : SessionInfo → SessionInfo} (hf : ∀ s, (f s).id = s.id) :
    ({ r with sessions := r.sessions.map f } : Registry).find? id = (r.find? id).map f := by
  have hsame : (fun s : SessionInfo => s.id == id) ∘ f = fun s => s.id == id := by
    funext s
    simp [hf]
  rw [find?, List.find?_map, hsame]
  rfl

theorem gains_map {f : SessionInfo → SessionInfo} (hf : ∀ s, (f s).id = s.id)
    (hk : ∀ s, s.id = id → s.activity + k ≤ (f s).activity) :
    Gains id k r { r with sessions := r.sessions.map f } := by
  intro s hs
  have hid : s.id = id := by simpa using List.find?_some hs
  exact ⟨f s, by rw [find?_map hf, hs, Option.map_some], hk s hid⟩

theorem gains_update_of_le (other : Nat) {f : SessionInfo → SessionInfo}
    (hf : ∀ s, (f s).id = s.id) (hk : ∀ s, s.activity ≤ (f s).activity) :
    Gains id 0 r (r.update other f) := by
  refine gains_map (fun s => ?_) fun s _ => ?_ <;> split
  · exact hf s
  · rfl
  · exact hk s
  · exact Nat.le_refl _

theorem gains_say_of_other (other : Nat) (level : Level) (text : String) :
    Gains id 0 r (r.update other (·.say level text)) := by
  refine gains_update_of_le other (fun s => rfl) fun s => ?_
  simp only [SessionInfo.activity, SessionInfo.say, List.length_append]
  omega

/-- A session that is changed is found as it is then. -/
theorem find?_update {f : SessionInfo → SessionInfo} (hf : ∀ s, (f s).id = s.id) {s : SessionInfo}
    (h : r.find? id = some s) : (r.update id f).find? id = some (f s) := by
  have hid : s.id = id := by simpa using List.find?_some h
  rw [update, find?_map, h, Option.map_some, if_pos (by simpa using hid)]
  intro s
  split
  · exact hf s
  · rfl

theorem gains_update {f : SessionInfo → SessionInfo} (hf : ∀ s, (f s).id = s.id)
    (hk : ∀ s, s.activity + k ≤ (f s).activity) : Gains id k r (r.update id f) :=
  fun s hs => ⟨f s, find?_update hf hs, hk s⟩

theorem find?_recount (kind : ListenerKind) (f : ListenerCount → ListenerCount) :
    (r.recount kind f).find? id = r.find? id := by cases kind <;> rfl

theorem gains_recount (kind : ListenerKind) (f : ListenerCount → ListenerCount)
    (h : Gains id k r r') : Gains id k r (r'.recount kind f) := by
  intro s hs
  rw [find?_recount]
  exact h s hs

theorem find?_countRequest {s : SessionInfo} (h : r.find? id = some s) :
    (r.countRequest id).find? id = some { s with requests := s.requests + 1 } := by
  have hfind := find?_update (f := fun s => { s with requests := s.requests + 1 }) (fun _ => rfl) h
  rw [countRequest, h]
  exact (find?_recount s.kind _).trans hfind

/-- Ending the registration of a session leaves its log and its commands. -/
theorem find?_remove {s : SessionInfo} (h : r.find? id = some s) :
    ∃ s', (r.remove id).find? id = some s' ∧ s'.activity = s.activity := by
  rw [remove, h]
  by_cases hregistered : s.registered
  · refine ⟨{ s with registered := false }, ?_, rfl⟩
    simp only [hregistered, if_true, find?_recount]
    exact find?_update (f := fun s => { s with registered := false }) (fun _ => rfl) h
  · exact ⟨s, by simp [hregistered, h], rfl⟩

theorem gains_countRequest : Gains id 2 r (r.countRequest id) := by
  unfold countRequest
  cases hfind : r.find? id with
  | none => exact fun s hs => by simp [hfind] at hs
  | some s =>
    refine gains_recount _ _ (gains_update (fun _ => rfl) fun s => ?_)
    simp only [SessionInfo.activity]
    omega

theorem gains_broadcast (channel : UInt32) (payload : Bytes) :
    Gains id 0 r (r.broadcast channel payload) := by
  refine gains_map (fun s => ?_) fun s _ => ?_ <;> split
  · rfl
  · rfl
  · exact Nat.le_refl _
  · exact Nat.le_refl _

end Registry

open Registry (Gains)

namespace Hub

variable {δ : Type} {id : Nat}

theorem gains_say (hub : Hub δ) (level : Level) (text : String) :
    Gains id 1 hub.registry (hub.update id (·.say level text)).registry := by
  refine Registry.gains_update (fun _ => rfl) fun s => ?_
  simp only [SessionInfo.activity, SessionInfo.say, List.length_append, List.length_singleton]
  omega

theorem gains_fail (hub : Hub δ) (text : String) :
    Gains id 1 hub.registry (hub.update id (·.fail text)).registry := by
  refine Registry.gains_update (fun _ => rfl) fun s => ?_
  simp only [SessionInfo.activity, SessionInfo.fail, SessionInfo.say, List.length_append,
    List.length_singleton]
  omega

theorem gains_countRequest (hub : Hub δ) :
    Gains id 2 hub.registry (hub.countRequest id).registry := Registry.gains_countRequest

theorem gains_send (hub : Hub δ) (bytes : Bytes) :
    Gains id 0 hub.registry (hub.update id (·.send bytes)).registry :=
  Registry.gains_update (fun _ => rfl) fun _ => Nat.le_refl _

/-- Closing a session adds just one line. -/
theorem activity_close {hub : Hub δ} {s : SessionInfo} (h : hub.registry.find? id = some s) :
    ∃ s', (hub.close id).registry.find? id = some s' ∧ s'.activity = s.activity + 1 := by
  obtain ⟨s₁, hs₁, hactivity⟩ := Registry.find?_remove h
  refine ⟨s₁.say .info ("session " ++ toString id ++ " closed"),
    Registry.find?_update (f := (·.say .info _)) (fun _ => rfl) hs₁, ?_⟩
  rw [← hactivity]
  simp only [SessionInfo.activity, SessionInfo.say, List.length_append, List.length_singleton]
  omega

theorem gains_close (hub : Hub δ) : Gains id 1 hub.registry (hub.close id).registry := by
  intro s hs
  obtain ⟨s', hs', hactivity⟩ := activity_close hs
  exact ⟨s', hs', Nat.le_of_eq hactivity.symm⟩

theorem gains_abort (hub : Hub δ) (about : String) {e : Error} (h : stopsSession e = false) :
    Gains id 2 hub.registry (hub.abort id about e).registry := by
  rw [abort, if_neg (by simp [h])]
  exact (gains_say hub .warning _).trans (gains_close _)

theorem gains_abort_zero (hub : Hub δ) (about : String) (e : Error) :
    Gains id 0 hub.registry (hub.abort id about e).registry := by
  cases h : stopsSession e with
  | true =>
    rw [abort, if_pos h]
    exact .refl _ _
  | false => exact (gains_abort hub about h).mono (Nat.zero_le _)

theorem gains_act (hub : Hub δ) (request : Control.Request) :
    Gains id 0 hub.registry (hub.act request).registry := by
  cases request with
  | subscribe session channel =>
    have hsubscribe : Gains id 0 hub.registry (hub.registry.subscribe session channel) := by
      refine Registry.gains_update_of_le session (fun s => ?_) fun s => ?_
      · split <;> rfl
      · split <;> exact Nat.le_refl _
    refine hsubscribe.trans (Registry.gains_say_of_other session .info _)
  | broadcast channel payload => exact Registry.gains_broadcast channel payload

theorem gains_foldl_act (hub : Hub δ) (requests : List Control.Request) :
    Gains id 0 hub.registry (requests.foldl act hub).registry := by
  induction requests generalizing hub with
  | nil => exact .refl _ _
  | cons request requests ih => exact (gains_act hub request).trans (ih _)

theorem gains_settle (hub : Hub δ) (site : CallSite) (answer : Except Error (Option Bytes)) :
    Gains id 0 hub.registry (hub.settle id site answer).1.registry := by
  unfold settle
  split
  · exact gains_send hub _
  · exact .refl _ _
  · split
    · exact .refl _ _
    · exact (gains_fail hub _).mono (Nat.zero_le _)

variable [Device δ]

theorem gains_perform (hub : Hub δ) (place : Option Nat) (op : Interface.Operation)
    (args : Arguments) : Gains id 0 hub.registry (hub.perform id place op args).2.registry := by
  unfold perform
  split
  · split <;> exact .refl _ _
  · split
    · exact .refl _ _
    · exact gains_foldl_act hub _

theorem gains_readCall (id : Nat) (hub : Hub δ) (place : Option Nat) (site : CallSite)
    (payload rest : Bytes) :
    Gains id 0 hub.registry (hub.readCall id place site payload rest).2.2.registry :=
  gains_send hub _

theorem gains_finish (id : Nat) (hub : Hub δ) (place : Option Nat) (site : CallSite)
    (args : Except Error Arguments) :
    Gains id 0 hub.registry (hub.finish id place site args).1.registry := by
  unfold finish respond
  cases args with
  | error e => exact gains_settle hub site _
  | ok args => exact (gains_perform hub place site.operation args).trans (gains_settle _ site _)

omit [Device δ] in
/-- A stream from which no command can be read stops no session. -/
theorem stopsSession_of_nextCommand {incoming : Bytes} {e : Error}
    (h : nextCommand incoming = .invalid e) : stopsSession e = false := by
  unfold nextCommand at h
  split at h
  · cases h
  next raw _ _ =>
  cases hheader : EnvelopeHeader.ofBytes raw with
  | error e' =>
    simp only [hheader] at h
    cases h
    simp only [EnvelopeHeader.ofBytes] at hheader
    split at hheader
    · cases hheader
      rfl
    · split at hheader <;> cases hheader
      rfl
  | ok header =>
    simp only [hheader] at h
    split at h <;> cases h
    rfl

/-- Serving a stream adds a line, and more than that if a header is read. -/
theorem gains_serve (hub : Hub δ) (incoming : Bytes) :
    Gains id 1 hub.registry (hub.serve id incoming).registry ∧
      (nextCommand incoming ≠ .ended →
        Gains id 2 hub.registry (hub.serve id incoming).registry) := by
  -- every command is answered by an update of its session, and so is the end of the stream
  fun_induction hub.serve id incoming with
  | case1 hub incoming h => exact ⟨gains_close hub, fun hne => absurd h hne⟩
  | case2 hub incoming e h =>
    have hgains : Gains id 2 hub.registry (hub.abort id "" e).registry :=
      gains_abort hub "" (stopsSession_of_nextCommand h)
    exact ⟨hgains.mono (by decide), fun _ => hgains⟩
  | case3 hub incoming c rest h text hroute ih =>
    have hgains := ((gains_countRequest hub).trans (gains_fail _ text)).trans ih.1
    exact ⟨hgains.mono (by decide), fun _ => hgains.mono (by decide)⟩
  | case4 hub incoming c rest h place site hroute args rest' read hread finished hfinish ih =>
    have hcall := gains_readCall id (hub.countRequest id) place site c.payload rest
    have hend := gains_finish id read place site args
    rw [hread] at hcall
    rw [hfinish] at hend
    have hgains := (((gains_countRequest hub).trans hcall).trans hend).trans ih.1
    exact ⟨hgains.mono (by decide), fun _ => hgains.mono (by decide)⟩
  | case5 hub incoming c rest h place site hroute args rest' read hread finished e hfinish =>
    have hcall := gains_readCall id (hub.countRequest id) place site c.payload rest
    have hend := gains_finish id read place site args
    rw [hread] at hcall
    rw [hfinish] at hend
    have hgains := (((gains_countRequest hub).trans hcall).trans hend).trans
      (gains_abort_zero finished " closed" e)
    exact ⟨hgains.mono (by decide), fun _ => hgains.mono (by decide)⟩

end Hub

end Instrument.Network
