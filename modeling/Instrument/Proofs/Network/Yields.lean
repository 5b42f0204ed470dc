import Instrument.Network.Client
import Instrument.Proofs.Network.Stream

/-!
When a client succeeds and when it fails. What a client does in steps succeeds just if every step
does, each from where the one before has left the client, and fails with the first step that does.
-/

namespace Instrument.Network

variable {σ α β : Type}

/-- What a client does gives a value and leaves the client behind. -/
def ClientM.Yields (act : ClientM σ α) (c : Client σ) (a : α) (c' : Client σ) : Prop :=
  act.run.run c = (.ok a, c')

/-- What a client does fails and leaves the client behind. -/
def ClientM.Fails (act : ClientM σ α) (c : Client σ) (e : Error) (c' : Client σ) : Prop :=
  act.run.run c = (.error e, c')

theorem ClientM.Yields.unique {act : ClientM σ α} {c c₁ c₂ : Client σ} {a₁ a₂ : α}
    (h₁ : act.Yields c a₁ c₁) (h₂ : act.Yields c a₂ c₂) : a₁ = a₂ ∧ c₁ = c₂ := by
  have h := h₁.symm.trans h₂
  cases h
  exact ⟨rfl, rfl⟩

namespace Client

open ClientM (Yields Fails)

theorem yields_pure (a : α) (c : Client σ) : Yields (pure a) c a c := rfl

theorem yields_get (c : Client σ) : Yields get c c c := rfl

theorem yields_bind_iff {act : ClientM σ α} {f : α → ClientM σ β} {c c'' : Client σ} {b : β} :
    Yields (act >>= f) c b c'' ↔ ∃ a c', Yields act c a c' ∧ Yields (f a) c' b c'' := by
  simp only [Yields, ExceptT.run_bind, StateT.run_bind]
  rcases hact : act.run.run c with ⟨e | a, c'⟩
  · refine iff_of_false (fun h => ?_) fun ⟨a, c', h, _⟩ => ?_
    · cases congrArg Prod.fst h
    · cases congrArg Prod.fst h
  · constructor
    · intro h
      exact ⟨a, c', rfl, h⟩
    · rintro ⟨a', c', ⟨⟩, h⟩
      exact h

theorem yields_bind {act : ClientM σ α} {f : α → ClientM σ β} {c c' c'' : Client σ} {a : α} {b : β}
    (h : Yields act c a c') (hf : Yields (f a) c' b c'') : Yields (act >>= f) c b c'' :=
  yields_bind_iff.2 ⟨a, c', h, hf⟩

theorem yields_lift {result : Except Error α} {a : α} (h : result = .ok a) (c : Client σ) :
    Yields (lift result) c a c := by
  rw [h]
  rfl

theorem yields_receive {take : Connection → Except Error α × Connection} {c : Client σ} {a : α}
    {connection : Connection} (h : take c.connection = (.ok a, connection)) :
    Yields (receive take) c a { c with connection := connection } := by
  refine yields_bind (yields_get c) ?_
  rw [h]
  rfl

theorem yields_tryCatch {act : ClientM σ α} {handle : Error → ClientM σ α} {c c' : Client σ} {a : α}
    (h : Yields act c a c') : Yields (tryCatch act handle) c a c' := by
  have hrun : StateT.run act c = (.ok a, c') := h
  simp only [Yields, tryCatch, tryCatchThe, MonadExceptOf.tryCatch, ExceptT.tryCatch,
    ExceptT.run_mk, StateT.run_bind, hrun]
  rfl

theorem yields_checked {act : ClientM σ α} {c c' : Client σ} {a : α} (h : Yields act c a c') :
    Yields (checked act) c a c' := yields_tryCatch h

theorem yields_send_of_carry [Link σ] {c : Client σ} {bytes : Bytes} (hbytes : bytes ≠ [])
    (hfault : (Link.carry c.peer c.connection.arriving bytes).fault? = none) :
    Yields (send bytes) c ()
      (c.reacted bytes (Link.carry c.peer c.connection.arriving bytes)) := by
  have hsome : bytes.isEmpty = false := List.isEmpty_eq_false_iff.2 hbytes
  rw [send, hsome]
  refine yields_bind (yields_get c) (yields_bind (a := ()) rfl ?_)
  simp only [hfault]
  rfl

/-- What the peer answers arrives behind what is on the way, without a pause. -/
theorem yields_send [Peer σ] {c : Client σ} {bytes : Bytes} (hbytes : bytes ≠ []) {peer : σ}
    {arrived : Bytes} {ended : Bool} (hreact : Peer.react c.peer bytes = (peer, arrived, ended)) :
    ∃ connection,
      Yields (send bytes) c () { c with connection := connection, peer := peer } ∧
      connection.pending = c.connection.pending ++ arrived ∧
      connection.arriving = chunks (Arrival.flatten c.connection.arriving ++ arrived) ∧
      connection.buffer = c.connection.buffer ∧
      connection.sent = c.connection.sent ++ bytes ∧
      connection.closed = (c.connection.closed || ended) := by
  have hcarry : Link.carry c.peer c.connection.arriving bytes =
      ⟨peer, chunks (Arrival.flatten c.connection.arriving ++ arrived), ended, none⟩ := by
    simp only [Link.carry, hreact]
  have hsend := yields_send_of_carry hbytes (congrArg Reaction.fault? hcarry)
  rw [hcarry] at hsend
  refine ⟨_, hsend, Connection.pending_deliver c.connection arrived, rfl, rfl, ?_, rfl⟩
  simp only [Connection.send, Option.elim_none, List.take_length]

theorem fails_throw (e : Error) (c : Client σ) : Fails (throw e : ClientM σ α) c e c := rfl

theorem fails_bind {act : ClientM σ α} {f : α → ClientM σ β} {c c' : Client σ} {e : Error}
    (h : Fails act c e c') : Fails (act >>= f) c e c' := by
  rw [Fails] at h
  rw [Fails, ExceptT.run_bind, StateT.run_bind, h]
  rfl

theorem fails_bind_of_yields {act : ClientM σ α} {f : α → ClientM σ β} {c c' c'' : Client σ} {a : α}
    {e : Error} (h : Yields act c a c') (hf : Fails (f a) c' e c'') :
    Fails (act >>= f) c e c'' := by
  rw [Yields] at h
  rw [Fails, ExceptT.run_bind, StateT.run_bind, h]
  exact hf

theorem fails_bind_iff {act : ClientM σ α} {f : α → ClientM σ β} {c c'' : Client σ} {e : Error} :
    Fails (act >>= f) c e c'' ↔
      Fails act c e c'' ∨ ∃ a c', Yields act c a c' ∧ Fails (f a) c' e c'' := by
  constructor
  · intro h
    rcases hact : act.run.run c with ⟨e' | a, c'⟩
    · have hfails : Fails (act >>= f) c e' c' := fails_bind hact
      rw [Fails] at h hfails
      rw [h] at hfails
      cases hfails
      exact .inl hact
    · rw [Fails, ExceptT.run_bind, StateT.run_bind, hact] at h
      exact .inr ⟨a, c', hact, h⟩
  · rintro (h | ⟨a, c', hact, hf⟩)
    · exact fails_bind h
    · exact fails_bind_of_yields hact hf

theorem fails_lift {result : Except Error α} {e : Error} (h : result = .error e) (c : Client σ) :
    Fails (lift result) c e c := by
  rw [h]
  rfl

theorem fails_receive {take : Connection → Except Error α × Connection} {c : Client σ} {e : Error}
    {connection : Connection} (h : take c.connection = (.error e, connection)) :
    Fails (receive take) c e { c with connection := connection } := by
  refine fails_bind_of_yields (yields_get c) ?_
  rw [h]
  rfl

/-- What is done after a failure may give a value in its place. -/
theorem yields_tryCatch_of_fails {act : ClientM σ α} {handle : Error → ClientM σ α}
    {c c' c'' : Client σ} {e : Error} {a : α} (h : Fails act c e c')
    (hhandle : Yields (handle e) c' a c'') : Yields (tryCatch act handle) c a c'' := by
  have hrun : StateT.run act c = (.error e, c') := h
  simp only [Yields, tryCatch, tryCatchThe, MonadExceptOf.tryCatch, ExceptT.tryCatch,
    ExceptT.run_mk, StateT.run_bind, hrun]
  exact hhandle

/-- What is done after a failure may fail too. -/
theorem fails_tryCatch {act : ClientM σ α} {handle : Error → ClientM σ α}
    {c c' c'' : Client σ} {e e' : Error} (h : Fails act c e c')
    (hhandle : Fails (handle e) c' e' c'') : Fails (tryCatch act handle) c e' c'' := by
  have hrun : StateT.run act c = (.error e, c') := h
  simp only [Fails, tryCatch, tryCatchThe, MonadExceptOf.tryCatch, ExceptT.tryCatch,
    ExceptT.run_mk, StateT.run_bind, hrun]
  exact hhandle

/-- After a fatal error the client is not usable. -/
theorem fails_checked {act : ClientM σ α} {c c' : Client σ} {e : Error} (h : Fails act c e c')
    (he : e.isFatal = true) : Fails (checked act) c e { c' with usable := false } := by
  have hrun : StateT.run act c = (.error e, c') := h
  simp only [Fails, checked, tryCatch, tryCatchThe, MonadExceptOf.tryCatch, ExceptT.tryCatch,
    ExceptT.run_mk, StateT.run_bind, hrun]
  change StateT.run (if e.isFatal = true then _ else _) c' = _
  rw [if_pos he]
  rfl

/-- Any other error changes nothing. -/
theorem fails_checked_of_not_isFatal {act : ClientM σ α} {c c' : Client σ} {e : Error}
    (h : Fails act c e c') (he : e.isFatal = false) : Fails (checked act) c e c' := by
  have hrun : StateT.run act c = (.error e, c') := h
  simp only [Fails, checked, tryCatch, tryCatchThe, MonadExceptOf.tryCatch, ExceptT.tryCatch,
    ExceptT.run_mk, StateT.run_bind, hrun]
  change StateT.run (if e.isFatal = true then _ else _) c' = _
  rw [if_neg (by rw [he]; exact Bool.false_ne_true)]
  rfl

end Client

end Instrument.Network
