import Instrument.Proofs.Network.SharedServer
import Instrument.Proofs.Network.Taking

/-!
What a client does with its stream, round by round: it makes a call and reads the reply, or waits
for an event. Main statement: whatever comes of some rounds, what the server has sent stays sent,
and the tables that tell where calls lead stay as they are.
-/

namespace Instrument.Network

namespace Client

open ClientM (Yields Fails)
open Interface.DeviceTable (functionSignature)

/-! ### Rounds -/

section Rounds

variable {σ α : Type}

/-- Does something, whatever comes of it. -/
def attempt (act : ClientM σ α) : ClientM σ (Except Error α) := ExceptT.lift act.run

theorem run_attempt (act : ClientM σ α) (c : Client σ) :
    (attempt act).run.run c = (.ok (act.run.run c).1, (act.run.run c).2) := by
  rw [attempt, ExceptT.run_lift, StateT.run_map]
  rfl

/-- What a client does with its stream: it makes a call and reads the reply, or waits for an
event. -/
inductive Round where
  | call (device operation : String) (parts : List Part) (decoder : Decoder)
  | event

namespace Round

/-- What comes of it. A reply that is read in vain does not undo the call. -/
def Value : Round → Type
  | call _ _ _ decoder => Except Error decoder.Value
  | event => UInt32 × UInt32

/-- Does it. -/
def run [Link σ] : (round : Round) → ClientM σ round.Value
  | call device operation parts decoder => do
    attempt (decoder.run (← Client.call device operation parts))
  | event => nextEvent

end Round

/-- What a client has done, and what has come of it. -/
structure Played where
  round : Round
  outcome : Except Error round.Value

/-- What comes of some rounds, and the client after them. -/
def play [Link σ] (c : Client σ) : List Round → List Played × Client σ
  | [] => ([], c)
  | round :: rounds =>
    let (outcome, c') := round.run.run.run c
    let (played, c'') := play c' rounds
    (⟨round, outcome⟩ :: played, c'')

variable [Link σ] {c c' : Client σ}

/-- A call that is made was sent to what the discovery table names. -/
theorem exists_of_call {device operation : String} {parts : List Part} {r : Response}
    (h : Yields (call device operation parts) c r c') :
    ∃ entry number, c.table.find? device = some entry ∧
      entry.operationId? (String.ofList (asciiUpper operation.toList)) = some number ∧
      Yields (transmit entry.id number (Request.ofParts parts)) c () c' ∧
      r = ⟨operation, c.catalogue?.bind fun catalogue =>
        Signature.find? catalogue device operation⟩ := by
  obtain ⟨_, _, hget, hrest⟩ := yields_bind_iff.1 h
  cases hget
  by_cases husable : c.usable = true
  · simp only [husable, Bool.not_true, Bool.false_eq_true, if_false] at hrest
    split at hrest
    · next entry hentry =>
      split at hrest
      · next number hnumber =>
        obtain ⟨_, c₁, htransmit, hpure⟩ := yields_bind_iff.1 hrest
        cases hpure
        exact ⟨entry, number, hentry, hnumber, yields_of_checked htransmit, rfl⟩
      · cases hrest
    · cases hrest
  · simp only [husable, Bool.not_false, if_true] at hrest
    cases hrest

/-- Nothing comes of a round when the client is not usable. -/
theorem fails_round_of_not_usable (h : c.usable = false) (round : Round) :
    Fails round.run c .connectionUnusable c := by
  cases round with
  | call device operation parts decoder =>
    exact fails_bind (fails_call_of_not_usable h device operation parts)
  | event =>
    refine fails_bind_of_yields (yields_get c) ?_
    simp only [h, Bool.not_false, if_true]
    exact fails_throw _ c

/-- A round that fails has broken the connection or has left the client as it was. -/
theorem round_cases {round : Round} {e : Error} (h : Fails round.run c e c') :
    c'.usable = false ∨ c' = c := by
  cases hfatal : e.isFatal with
  | true =>
    refine .inl ?_
    cases round with
    | call device operation parts decoder =>
      refine latches_bind (latches_call device operation parts) (fun r c e c' hfails => ?_) c e c' h
        hfatal
      cases (run_attempt (decoder.run r) c).symm.trans hfails
    | event => exact latches_nextEvent c e c' h hfatal
  | false =>
    refine .inr ?_
    cases round with
    | call device operation parts decoder =>
      rcases fails_bind_iff.1 h with hcall | ⟨r, c₁, -, hattempt⟩
      · exact (call_of_not_isFatal hcall hfatal).1
      · cases (run_attempt (decoder.run r) c₁).symm.trans hattempt
    | event => cases (failsFatally_nextEvent c e c' h).symm.trans hfatal

end Rounds

variable {δ α β : Type}

/-! ### What only grows -/

/-- What a client and its server keep, whatever the client does: what was sent stays sent, and the
tables stay as they are. -/
structure Evolves (c c' : Client (SharedServer δ)) : Prop where
  log : c.peer.log <+: c'.peer.log
  table : c'.table = c.table
  catalogue : c'.catalogue? = c.catalogue?
  fleet : c'.peer.server.hub.fleet.table = c.peer.server.hub.fleet.table

namespace Evolves

variable {c c' c'' : Client (SharedServer δ)}

theorem refl (c : Client (SharedServer δ)) : Evolves c c := ⟨List.prefix_rfl, rfl, rfl, rfl⟩

theorem trans (h : Evolves c c') (h' : Evolves c' c'') : Evolves c c'' :=
  ⟨h.log.trans h'.log, h'.table.trans h.table, h'.catalogue.trans h.catalogue,
    h'.fleet.trans h.fleet⟩

end Evolves

/-- An action that the client and its server survive with all that they keep. -/
def Grows (act : ClientM (SharedServer δ) α) : Prop :=
  ∀ c result c', act.run.run c = (result, c') → Evolves c c'

section Grows

variable {act : ClientM (SharedServer δ) α}

theorem grows_pure (a : α) : Grows (pure a : ClientM (SharedServer δ) α) := by
  rintro c _ _ ⟨⟩
  exact .refl c

theorem grows_throw (e : Error) : Grows (throw e : ClientM (SharedServer δ) α) := by
  rintro c _ _ ⟨⟩
  exact .refl c

theorem grows_get : Grows (get : ClientM (SharedServer δ) (Client (SharedServer δ))) := by
  rintro c _ _ ⟨⟩
  exact .refl c

theorem grows_bind {f : α → ClientM (SharedServer δ) β} (h : Grows act) (hf : ∀ a, Grows (f a)) :
    Grows (act >>= f) := by
  intro c result c'' hrun
  cases result with
  | ok b =>
    obtain ⟨a, c', hact, hrest⟩ := yields_bind_iff.1 hrun
    exact (h _ _ _ hact).trans (hf a _ _ _ hrest)
  | error e =>
    rcases fails_bind_iff.1 hrun with hact | ⟨a, c', hact, hrest⟩
    · exact h _ _ _ hact
    · exact (h _ _ _ hact).trans (hf a _ _ _ hrest)

/-- An action that is refused unless something holds. -/
theorem grows_unless {b : Bool} {e : Error} (h : Grows act) :
    Grows (if !b then do throw e; act else act) := by
  cases b with
  | true => exact h
  | false => exact grows_bind (grows_throw e) fun _ => h

theorem grows_of_receives (h : Receives act) : Grows act := by
  intro c result c' hrun
  cases result with
  | ok a =>
    obtain ⟨_, rfl, -⟩ := h.yields hrun
    exact ⟨List.prefix_rfl, rfl, rfl, rfl⟩
  | error e =>
    obtain ⟨_, _, rfl⟩ := h.fails hrun
    exact ⟨List.prefix_rfl, rfl, rfl, rfl⟩

theorem grows_checked (h : Grows act) : Grows (checked act) := by
  intro c result c' hrun
  cases result with
  | ok a => exact h _ _ _ (yields_of_checked hrun)
  | error e =>
    obtain ⟨c₁, hact, rfl⟩ := exists_of_fails_checked hrun
    have hevolves := h _ _ _ hact
    split
    · exact ⟨hevolves.log, hevolves.table, hevolves.catalogue, hevolves.fleet⟩
    · exact hevolves

variable [Device δ]

theorem yields_send_shared {c : Client (SharedServer δ)} {bytes : Bytes} (hbytes : bytes ≠ []) :
    Yields (send bytes) c () (c.reacted bytes (Link.carry c.peer c.connection.arriving bytes)) :=
  yields_send_of_carry hbytes rfl

theorem grows_send (bytes : Bytes) : Grows (send bytes : ClientM (SharedServer δ) Unit) := by
  intro c result c' hrun
  by_cases hbytes : bytes = []
  · subst hbytes
    cases hrun
    exact .refl c
  · cases hrun.symm.trans (yields_send_shared hbytes)
    let arriving := c.connection.arriving
    exact ⟨c.peer.prefix_log_carry arriving bytes, rfl, rfl,
      c.peer.fleet_table_carry arriving bytes⟩

theorem grows_perform (step : Step) : Grows (perform step : ClientM (SharedServer δ) Unit) := by
  cases step with
  | bytes bytes => exact grows_send bytes
  | transfer values =>
    refine grows_bind grows_get fun c => grows_bind (grows_of_receives (.receive fun h => ?_))
      fun raw => ?_
    · exact ⟨_, (Connection.of_exactlyWithin h).2.symm⟩
    by_cases hready : (UInt32.ofNat (Wire.valueBE raw)).toNat = values.size
    · simp only [hready, ne_eq, not_true_eq_false, if_false]
      exact grows_send values.raw
    · simp only [hready, ne_eq, not_false_eq_true, if_true]
      exact grows_bind (grows_throw _) fun _ => grows_send values.raw

theorem grows_forM (steps : List Step) :
    Grows (steps.forM perform : ClientM (SharedServer δ) Unit) := by
  induction steps with
  | nil => exact grows_pure ()
  | cons step steps ih => exact grows_bind (grows_perform step) fun _ => ih

theorem grows_transmit (device operation : UInt16) (r : Request) :
    Grows (transmit device operation r : ClientM (SharedServer δ) Unit) :=
  grows_bind (grows_of_receives (.lift _)) fun _ => grows_bind (grows_send _) fun _ => grows_forM _

theorem grows_call (device operation : String) (parts : List Part) :
    Grows (call device operation parts : ClientM (SharedServer δ) Response) := by
  refine grows_bind grows_get fun c => grows_unless ?_
  cases hentry : c.table.find? device with
  | none => exact grows_throw _
  | some entry =>
    cases hnumber : entry.operationId? (String.ofList (asciiUpper operation.toList)) with
    | none =>
      simp only [hnumber]
      exact grows_throw _
    | some number =>
      simp only [hnumber]
      exact grows_bind (grows_checked (grows_transmit _ _ _)) fun _ => grows_pure _

theorem grows_round (round : Round) : Grows (round.run : ClientM (SharedServer δ) round.Value) := by
  cases round with
  | call device operation parts decoder =>
    refine grows_bind (grows_call device operation parts) fun r c result c' hrun => ?_
    cases (run_attempt (decoder.run r) c).symm.trans hrun
    exact grows_of_receives (receives_decoder r decoder) _ _ _ rfl
  | event => exact grows_of_receives receives_nextEvent

theorem evolves_play (c : Client (SharedServer δ)) (rounds : List Round) :
    Evolves c (play c rounds).2 := by
  induction rounds generalizing c with
  | nil => exact .refl c
  | cons round rounds ih => exact (grows_round round _ _ _ rfl).trans (ih _)

end Grows

end Client

end Instrument.Network
