import Instrument.Proofs.Network.Alignment
import Instrument.Proofs.Network.Handshake

/-!
Errors after which a client is of no use. Main statement: after the first fatal error nothing is
sent any more and every action fails, whatever the peer does; and a call that fails without one has
left the client as it was.
-/

namespace Instrument.Network

variable {α β : Type}

namespace Connection

/-- A wait that fails leaves the stream at an unknown place. -/
theorem isFatal_of_gather {patience : Patience} {look : Nat → ReadBuffer → Option (α × ReadBuffer)}
    {closed : Bool} {arriving : List Arrival} {seen : Nat} {buffer : ReadBuffer} {e : Error}
    (h : (gather patience look closed arriving seen buffer).1 = .error e) : e.isFatal = true := by
  fun_induction gather patience look closed arriving seen buffer with
  | case1 => cases h
  | case2 => cases h; rfl
  | case3 => next ih => exact ih h
  | case4 => next ih => exact ih h
  | case5 => cases h; rfl
  | case6 => cases h; rfl
  | case7 => cases h; cases closed <;> rfl

theorem isFatal_of_receive {c c' : Connection} {patience : Patience}
    {look : Nat → ReadBuffer → Option (α × ReadBuffer)} {e : Error}
    (h : c.receive patience look = (.error e, c')) : e.isFatal = true :=
  isFatal_of_gather (congrArg Prod.fst h)

end Connection

namespace Client

open ClientM (Yields Fails)

open Wire (Scalar ScalarType TupleFormat)

variable {σ : Type}

/-! ### Actions that latch -/

/-- After a fatal error of the action the client is of no use. -/
def Latches (act : ClientM σ α) : Prop :=
  ∀ c e c', Fails act c e c' → e.isFatal = true → c'.usable = false

/-- Every error of the action is fatal. -/
def FailsFatally (act : ClientM σ α) : Prop :=
  ∀ c e c', Fails act c e c' → e.isFatal = true

theorem latches_pure (a : α) : Latches (pure a : ClientM σ α) := by
  intro c e c' h
  cases h

theorem latches_throw {e : Error} (he : e.isFatal = false) : Latches (throw e : ClientM σ α) := by
  intro c e' c' h hfatal
  cases h
  rw [he] at hfatal
  cases hfatal

theorem latches_bind {act : ClientM σ α} {f : α → ClientM σ β} (h : Latches act)
    (hf : ∀ a, Latches (f a)) : Latches (act >>= f) := by
  intro c e c'' hfails he
  rcases fails_bind_iff.1 hfails with hact | ⟨a, c', -, hfails'⟩
  · exact h c e c'' hact he
  · exact hf a c' e c'' hfails' he

theorem latches_get : Latches (get : ClientM σ (Client σ)) := by
  intro c e c' h
  cases h

theorem latches_lift {result : Except Error α}
    (h : ∀ e, result = .error e → e.isFatal = false) : Latches (lift result : ClientM σ α) := by
  cases result with
  | ok a => exact latches_pure a
  | error e => exact latches_throw (h e rfl)

/-- A check fails as what it checks does, and takes note of a fatal error. -/
theorem exists_of_fails_checked {act : ClientM σ α} {c c'' : Client σ} {e : Error}
    (h : Fails (checked act) c e c'') :
    ∃ c', Fails act c e c' ∧ c'' = if e.isFatal then { c' with usable := false } else c' := by
  rcases hact : act.run.run c with ⟨e' | a, c'⟩
  · cases he : e'.isFatal with
    | true =>
      cases h.symm.trans (fails_checked hact he)
      exact ⟨c', hact, by rw [he, if_pos rfl]⟩
    | false =>
      cases h.symm.trans (fails_checked_of_not_isFatal hact he)
      exact ⟨_, hact, by rw [he, if_neg Bool.false_ne_true]⟩
  · cases h.symm.trans (yields_checked hact)

theorem latches_checked (act : ClientM σ α) : Latches (checked act) := by
  intro c e c'' h he
  obtain ⟨c', -, rfl⟩ := exists_of_fails_checked h
  rw [if_pos he]

/-- An action that first asks whether the client is usable. -/
theorem latches_of_usable {act : Client σ → ClientM σ α} (h : ∀ c, Latches (act c)) :
    Latches (do
      let c ← get
      if !c.usable then throw .connectionUnusable
      act c) := by
  intro c e c' hfails he
  rcases fails_bind_iff.1 hfails with hget | ⟨a, c₁, hget, hrest⟩
  · cases hget
  · cases hget
    cases husable : c.usable with
    | false =>
      simp only [husable, Bool.not_false, if_true] at hrest
      cases hrest
      exact husable
    | true =>
      simp only [husable, Bool.not_true, Bool.false_eq_true, if_false] at hrest
      exact h c c e c' hrest he

/-! ### Replies -/

theorem latches_expectShape (r : Response) (fits : Signature.ReturnShape → Bool)
    (expected : String) : Latches (expectShape r fits expected : ClientM σ Unit) := by
  rw [expectShape]
  split
  · split
    · exact latches_pure ()
    · exact latches_checked _
  · exact latches_pure ()

theorem latches_read (n : Nat) : Latches (read n : ClientM σ Bytes) := latches_checked _

theorem latches_readBool (r : Response) : Latches (readBool r : ClientM σ Bool) := by
  refine latches_bind (latches_expectShape r _ _) fun _ => latches_bind (latches_read 4) fun raw => ?_
  split
  · exact latches_pure false
  · exact latches_pure true
  · exact latches_throw rfl

theorem latches_readScalar (r : Response) (type : ScalarType) :
    Latches (readScalar r type : ClientM σ Scalar) := by
  by_cases hbool : type = .bool
  · subst hbool
    exact latches_bind (latches_readBool r) fun b => latches_pure (Scalar.ofBool b)
  rw [readScalar, if_neg hbool]
  exact latches_bind (latches_expectShape r _ _) fun _ =>
    latches_bind (latches_read type.width) fun raw => latches_pure _

theorem latches_valuesOf (r : Response) (type : ScalarType) (raw : Bytes) :
    Latches (valuesOf r type raw : ClientM σ (List Scalar)) := by
  rw [valuesOf]
  split
  · exact latches_pure _
  · exact latches_throw rfl

theorem latches_readArray (r : Response) (type : ScalarType) (length : Nat) :
    Latches (readArray r type length : ClientM σ (List Scalar)) := by
  have hvalues : Latches
      (do valuesOf r type (← read (length * type.width)) : ClientM σ (List Scalar)) :=
    latches_bind (latches_read _) (latches_valuesOf r type)
  have hlength (declared : Nat) : Latches (do
      if declared ≠ length then
        let _ ← read (declared * type.width)
        throw (.lengthMismatch r.operation length declared)
      valuesOf r type (← read (length * type.width)) : ClientM σ (List Scalar)) := by
    by_cases h : declared = length
    · simp only [h, ne_eq, not_true_eq_false, if_false]
      exact hvalues
    · simp only [h, ne_eq, not_false_eq_true, if_true]
      exact latches_bind (latches_read _) fun _ => latches_bind (latches_throw rfl) fun _ => hvalues
  refine latches_bind (latches_expectShape r _ _) fun _ => ?_
  split
  · next dtype declared hdeclared =>
    cases r.otherElement? type with
    | some other =>
      exact latches_bind (latches_read _) fun _ =>
        latches_bind (latches_throw rfl) fun _ => hlength declared.toNat
    | none => exact hlength declared.toNat
  · exact hvalues

theorem latches_readCounted (r : Response) (type : ScalarType) :
    Latches (readCounted r type : ClientM σ (List Scalar)) := by
  refine latches_bind (latches_checked _) fun count => ?_
  cases hother : r.otherElement? type with
  | none => exact latches_bind (latches_read _) (latches_valuesOf r type)
  | some other => exact latches_bind (latches_read _) fun _ => latches_throw rfl

theorem latches_readVector (r : Response) (type : ScalarType) :
    Latches (readVector r type : ClientM σ (List Scalar)) :=
  latches_bind (latches_expectShape r _ _) fun _ => latches_readCounted r type

theorem latches_readBuffer (r : Response) (type : ScalarType) (length : Nat) :
    Latches (readBuffer r type length : ClientM σ (List Scalar)) := by
  refine latches_bind (latches_expectShape r _ _) fun _ =>
    latches_bind (latches_readCounted r type) fun values => ?_
  by_cases hlength : values.length = length
  · simp only [hlength, ne_eq, not_true_eq_false, if_false]
    exact latches_pure values
  · simp only [hlength, ne_eq, not_false_eq_true, if_true]
    exact latches_throw rfl

theorem latches_readText (r : Response) : Latches (readText r : ClientM σ String) := by
  refine latches_bind (latches_expectShape r _ _) fun _ => latches_bind latches_get fun c =>
    latches_bind (latches_checked _) fun raw => ?_
  split
  · exact latches_pure _
  · exact latches_throw rfl

theorem latches_readJson (r : Response) : Latches (readJson r : ClientM σ Json.Value) := by
  refine latches_bind (latches_readText r) fun text => ?_
  split
  · exact latches_pure _
  · exact latches_throw rfl

theorem latches_readTuple (r : Response) (format : String) :
    Latches (readTuple r format : ClientM σ (List Scalar)) := by
  refine latches_bind (latches_lift fun e he => ?_) fun format =>
    latches_bind (latches_expectShape r _ _) fun _ =>
      latches_bind (latches_read _) fun raw => latches_lift fun e he => ?_
  · rw [TupleFormat.read] at he
    cases hformat : TupleFormat.ofText format.toList <;> rw [hformat] at he <;> cases he
    rfl
  · rw [TupleFormat.unpack] at he
    split at he <;> cases he
    rfl

theorem latches_decoder (r : Response) (decoder : Decoder) :
    Latches (decoder.run r : ClientM σ decoder.Value) := by
  cases decoder with
  | nothing => exact latches_expectShape r _ _
  | bool => exact latches_readBool r
  | scalar type => exact latches_readScalar r type
  | array type length => exact latches_readArray r type length
  | vector type => exact latches_readVector r type
  | buffer type length => exact latches_readBuffer r type length
  | text => exact latches_readText r
  | json => exact latches_readJson r
  | tuple format => exact latches_readTuple r format

/-! ### Requests -/

theorem failsFatally_bind {act : ClientM σ α} {f : α → ClientM σ β} (h : FailsFatally act)
    (hf : ∀ a, FailsFatally (f a)) : FailsFatally (act >>= f) := by
  intro c e c'' hfails
  rcases fails_bind_iff.1 hfails with hact | ⟨a, c', -, hfails'⟩
  · exact h c e c'' hact
  · exact hf a c' e c'' hfails'

theorem failsFatally_throw {e : Error} (he : e.isFatal = true) :
    FailsFatally (throw e : ClientM σ α) := by
  intro c e' c' h
  cases h
  exact he

theorem failsFatally_pure (a : α) : FailsFatally (pure a : ClientM σ α) := by
  intro c e c' h
  cases h

theorem failsFatally_get : FailsFatally (get : ClientM σ (Client σ)) := by
  intro c e c' h
  cases h

theorem failsFatally_set (c : Client σ) : FailsFatally (set c : ClientM σ PUnit) := by
  intro c e c' h
  cases h

theorem failsFatally_receive {take : Connection → Except Error α × Connection}
    (h : ∀ c e c', take c = (.error e, c') → e.isFatal = true) :
    FailsFatally (receive take : ClientM σ α) := by
  intro c e c' hfails
  rcases htake : take c.connection with ⟨e' | a, connection⟩
  · cases hfails.symm.trans (fails_receive htake)
    exact h c.connection e connection htake
  · cases hfails.symm.trans (yields_receive htake)

variable [Link σ]

theorem failsFatally_send (bytes : Bytes) : FailsFatally (send bytes : ClientM σ Unit) := by
  rw [send]
  split
  · exact failsFatally_pure ()
  · refine failsFatally_bind failsFatally_get fun c => ?_
    refine failsFatally_bind (failsFatally_set _) fun _ => ?_
    cases (Link.carry c.peer c.connection.arriving bytes).fault? with
    | none => exact failsFatally_pure ()
    | some fault => cases fault with | mk taken fault => cases fault <;> exact failsFatally_throw rfl

theorem failsFatally_perform (step : Step) : FailsFatally (perform step : ClientM σ Unit) := by
  cases step with
  | bytes bytes => exact failsFatally_send bytes
  | transfer values =>
    refine failsFatally_bind failsFatally_get fun c => ?_
    refine failsFatally_bind (failsFatally_receive fun c e c' h =>
      Connection.isFatal_of_receive h) fun raw => ?_
    by_cases hready : (UInt32.ofNat (Wire.valueBE raw)).toNat = values.size
    · simp only [hready, ne_eq, not_true_eq_false, if_false]
      exact failsFatally_send values.raw
    · simp only [hready, ne_eq, not_false_eq_true, if_true]
      exact failsFatally_bind (failsFatally_throw rfl) fun _ => failsFatally_send values.raw

theorem failsFatally_forM (steps : List Step) :
    FailsFatally (steps.forM perform : ClientM σ Unit) := by
  induction steps with
  | nil => exact failsFatally_pure ()
  | cons step steps ih => exact failsFatally_bind (failsFatally_perform step) fun _ => ih

/-- A request that fails without a fatal error is too large, and nothing of it was sent. -/
theorem transmit_of_not_isFatal {device operation : UInt16} {r : Request} {c c' : Client σ}
    {e : Error} (h : Fails (transmit device operation r) c e c') (he : e.isFatal = false) :
    c' = c ∧ e = .payloadTooLarge r.envelope.bytes.length := by
  rcases fails_bind_iff.1 h with hlift | ⟨sent, c₁, -, hsend⟩
  · rw [envelope] at hlift
    split at hlift <;> cases hlift
    exact ⟨rfl, rfl⟩
  · have hfatal : FailsFatally (do send sent; r.allSteps.forM perform : ClientM σ Unit) :=
      failsFatally_bind (failsFatally_send sent) fun _ => failsFatally_forM r.allSteps
    rw [hfatal c₁ e c' hsend] at he
    cases he

/-- Why a call is not made although the client stays usable. -/
inductive IsRefusal (device operation : String) : Error → Prop where
  | device : IsRefusal device operation (.unknownDevice device)
  | operation : IsRefusal device operation (.unknownOperation device operation)
  | payload (size : Nat) : IsRefusal device operation (.payloadTooLarge size)

theorem call_of_not_isFatal {device operation : String} {parts : List Part} {c c' : Client σ}
    {e : Error} (h : Fails (call device operation parts) c e c') (he : e.isFatal = false) :
    c' = c ∧ c.usable = true ∧ IsRefusal device operation e := by
  cases husable : c.usable with
  | false =>
    cases h.symm.trans (fails_call_of_not_usable husable device operation parts)
    cases he
  | true =>
    rcases fails_bind_iff.1 h with hget | ⟨_, _, hget, hrest⟩
    · cases hget
    cases hget
    simp only [husable, Bool.not_true, Bool.false_eq_true, if_false] at hrest
    cases hentry : c.table.find? device with
    | none =>
      rw [hentry] at hrest
      cases hrest
      exact ⟨rfl, rfl, .device⟩
    | some entry =>
    rw [hentry] at hrest
    cases hnumber : entry.operationId? (String.ofList (asciiUpper operation.toList)) with
    | none =>
      simp only [hnumber] at hrest
      cases hrest
      exact ⟨rfl, rfl, .operation⟩
    | some number =>
    simp only [hnumber] at hrest
    -- past the lookups only a payload that is too large is not fatal
    rcases fails_bind_iff.1 hrest with hchecked | ⟨_, _, _, hpure⟩
    · obtain ⟨c₁, htransmit, rfl⟩ := exists_of_fails_checked hchecked
      obtain ⟨rfl, rfl⟩ := transmit_of_not_isFatal htransmit he
      exact ⟨if_neg Bool.false_ne_true, rfl, .payload _⟩
    · cases hpure

theorem latches_call (device operation : String) (parts : List Part) :
    Latches (call device operation parts : ClientM σ Response) := by
  refine latches_of_usable fun c => ?_
  cases hentry : c.table.find? device with
  | none => exact latches_throw rfl
  | some entry =>
    cases hnumber : entry.operationId? (String.ofList (asciiUpper operation.toList)) with
    | none =>
      simp only [hnumber]
      exact latches_throw rfl
    | some number =>
      simp only [hnumber]
      exact latches_bind (latches_checked _) fun _ => latches_pure _

omit [Link σ] in
theorem latches_nextEvent : Latches (nextEvent : ClientM σ (UInt32 × UInt32)) :=
  latches_of_usable fun _ => latches_bind (latches_checked _) fun _ => latches_pure _

theorem latches_controlText (operation : String) :
    Latches (controlText operation : ClientM σ String) :=
  latches_bind (latches_call _ _ _) latches_readText

/-! ### Actions -/

/-- What the user of a client does. -/
inductive Action where
  /-- A call, and how its reply is read, unless the reply is given up. -/
  | call (device operation : String) (parts : List Part) (decoder? : Option Decoder)
  | getVersion
  | getTable
  | getStats
  | getDeviceStatus
  | getSessions
  | subscribe (channel : UInt32)
  | ping
  | nextEvent
  | loadSignatures (catalogue : Signature.Catalogue)

namespace Action

/-- Does it, whatever comes of it. -/
def run : Action → ClientM σ Unit
  | call device operation parts decoder? => do
    let r ← Client.call device operation parts
    match decoder? with
    | some decoder => let _ ← decoder.run r
    | none => return
  | getVersion => do let _ ← Client.getVersion
  | getTable => do let _ ← Client.getTable
  | getStats => do let _ ← Client.getStats
  | getDeviceStatus => do let _ ← Client.getDeviceStatus
  | getSessions => do let _ ← Client.getSessions
  | subscribe channel => Client.subscribe channel
  | ping => Client.ping
  | nextEvent => do let _ ← Client.nextEvent
  | loadSignatures catalogue => Client.loadSignatures catalogue

/-- The client after some actions, whether they succeed or fail. -/
def runAll (c : Client σ) (actions : List Action) : Client σ :=
  actions.foldl (fun c action => (action.run.run.run c).2) c

theorem latches_run (action : Action) : Latches (action.run : ClientM σ Unit) := by
  have hdiscard {α : Type} {act : ClientM σ α} (h : Latches act) :
      Latches (do let _ ← act : ClientM σ Unit) :=
    latches_bind h fun _ => latches_pure ()
  have hexec (device operation : String) (parts : List Part) :
      Latches (exec device operation parts : ClientM σ Unit) :=
    latches_bind (latches_call device operation parts) fun r => latches_expectShape r _ _
  cases action with
  | call device operation parts decoder? =>
    refine latches_bind (latches_call device operation parts) fun r => ?_
    cases decoder? with
    | some decoder => exact hdiscard (latches_decoder r decoder)
    | none => exact latches_pure ()
  | getTable => exact hdiscard (latches_bind (latches_controlText _) fun text => latches_checked _)
  | getVersion | getStats | getDeviceStatus | getSessions => exact hdiscard (latches_controlText _)
  | subscribe channel => exact hexec _ _ _
  | ping => exact hexec _ _ _
  | nextEvent => exact hdiscard latches_nextEvent
  | loadSignatures catalogue => exact fun c e c' h => nomatch h

/-- On a client that is not usable every action fails, except that signatures can be loaded. -/
theorem fails_run_of_not_usable {c : Client σ} (h : c.usable = false) {action : Action}
    (haction : ∀ catalogue, action ≠ .loadSignatures catalogue) :
    Fails action.run c .connectionUnusable c := by
  have hcall (device operation : String) (parts : List Part) :
      Fails (Client.call device operation parts) c .connectionUnusable c :=
    fails_call_of_not_usable h device operation parts
  cases action with
  | call device operation parts decoder? => exact fails_bind (hcall device operation parts)
  | getTable => exact fails_bind (fails_bind (fails_bind (hcall _ _ _)))
  | getVersion | getStats | getDeviceStatus | getSessions =>
    exact fails_bind (fails_bind (hcall _ _ _))
  | subscribe channel => exact fails_bind (hcall _ _ _)
  | ping => exact fails_bind (hcall _ _ _)
  | nextEvent =>
    refine fails_bind (fails_bind_of_yields (yields_get c) ?_)
    simp only [h, Bool.not_false, if_true]
    exact fails_throw _ c
  | loadSignatures catalogue => exact absurd rfl (haction catalogue)

theorem runAll_of_not_usable {c : Client σ} (h : c.usable = false) (actions : List Action) :
    ∃ catalogue?, runAll c actions = { c with catalogue? := catalogue? } := by
  induction actions generalizing c with
  | nil => exact ⟨c.catalogue?, rfl⟩
  | cons action actions ih =>
    have hstep : ∃ catalogue?, (action.run.run.run c).2 = { c with catalogue? := catalogue? } := by
      by_cases hload : ∃ catalogue, action = .loadSignatures catalogue
      · obtain ⟨catalogue, rfl⟩ := hload
        exact ⟨some catalogue, rfl⟩
      · have hfails := fails_run_of_not_usable h fun catalogue heq => hload ⟨catalogue, heq⟩
        rw [hfails]
        exact ⟨c.catalogue?, rfl⟩
    obtain ⟨catalogue?, hstep⟩ := hstep
    rw [runAll, List.foldl_cons, hstep]
    exact ih (c := { c with catalogue? := catalogue? }) h

/-- Whatever was done before: after an action that fails with a fatal error the client is not usable
for ever, nothing is sent any more, and every action fails; and a call that fails with any other
error has sent nothing and left the client usable. -/
theorem runAll_latches (c : Client σ) (before : List Action) :
    (∀ (action : Action) e c₁, Fails action.run (runAll c before) e c₁ → e.isFatal = true →
      ∀ after c₂, runAll c (before ++ action :: after) = c₂ →
        c₂.usable = false ∧ c₂.connection = c₁.connection ∧ c₂.peer = c₁.peer ∧
        ∀ next : Action, (∀ catalogue, next ≠ .loadSignatures catalogue) →
          Fails next.run c₂ .connectionUnusable c₂) ∧
      ∀ device operation parts e c₁,
        Fails (Client.call device operation parts) (runAll c before) e c₁ → e.isFatal = false →
          c₁ = runAll c before ∧ c₁.usable = true ∧ IsRefusal device operation e := by
  constructor
  · rintro action e c₁ hfails he after c₂ rfl
    have husable : c₁.usable = false := latches_run action _ e c₁ hfails he
    have hrun : runAll c (before ++ action :: after) = runAll c₁ after := by
      rw [runAll, List.foldl_append, List.foldl_cons]
      exact congrArg (runAll · after) (congrArg Prod.snd hfails)
    obtain ⟨catalogue?, hafter⟩ := runAll_of_not_usable husable after
    have hlater : (runAll c₁ after).usable = false := by rw [hafter]; exact husable
    rw [hrun]
    exact ⟨hlater, by rw [hafter], by rw [hafter],
      fun next hnext => fails_run_of_not_usable hlater hnext⟩
  · intro device operation parts e c₁ hfails he
    obtain ⟨rfl, husable, hrefusal⟩ := call_of_not_isFatal hfails he
    exact ⟨rfl, husable, hrefusal⟩

/-- A client whose stream has ended. -/
def endedClient : Client LatePeer where
  connection := { closed := true }
  peer := { late? := none, staysOpen := false }
  config := {}

/-- It waits for an event, and then no version can be asked for. -/
theorem runAll_latches_ended :
    Fails Action.nextEvent.run (runAll endedClient []) .connectionBroken
        { endedClient with usable := false } ∧
      (runAll endedClient [.nextEvent, .ping]).usable = false ∧
      Fails Action.getVersion.run (runAll endedClient [.nextEvent, .ping]) .connectionUnusable
        (runAll endedClient [.nextEvent, .ping]) := by
  have hbroken : Fails Action.nextEvent.run (runAll endedClient []) .connectionBroken
      { endedClient with usable := false } := rfl
  obtain ⟨husable, -, -, hnext⟩ :=
    (runAll_latches endedClient []).1 .nextEvent .connectionBroken _ hbroken rfl [.ping] _ rfl
  exact ⟨hbroken, husable, hnext .getVersion nofun⟩

end Action

end Client

end Instrument.Network
