import Instrument.Call.Decode

/-!
Dialogues with any caller. Whenever a caller is to be told a count, the telling may fail, each time
with an error of its own. Main statements: dialogues in a row are run one after the other, and a
caller that can always be told a count, or never, is a stream on which dialogues are run.
-/

namespace Instrument

namespace Dialogue

variable {α β : Type}

/-- What decides the answers in a dialogue that are not bytes of the stream. -/
structure Answers where
  /-- How many elements the device takes. -/
  accept : Arguments → Nat → Nat
  /-- Whether the caller can be told a count. -/
  tell : Channel → UInt32 → Except Error Unit

namespace Channel

/-- The stream after its first bytes are taken. -/
def after (c : Channel) (rest : Bytes) : Channel := { c with incoming := rest }

/-- The stream after the caller is told a count. -/
def told (c : Channel) (count : UInt32) : Channel :=
  { c with acknowledged := c.acknowledged ++ [count] }

/-- The stream after the device is asked how many elements it takes. -/
def askedFor (c : Channel) (arguments : Arguments) (requested : Nat) : Channel :=
  { c with asked := c.asked ++ [(arguments.length, requested)] }

end Channel

/-- Runs a dialogue with any caller. A load that finds too few bytes takes none, and a count that
the caller cannot be told is not told. -/
def runWith (w : Answers) : Dialogue α → Channel → α × Channel
  | done result, c => (result, c)
  | load size next, c =>
    match Wire.split? size c.incoming with
    | some (taken, rest) => (next (some taken)).runWith w (c.after rest)
    | none => (next none).runWith w c
  | acknowledge count next, c =>
    match w.tell c count with
    | .ok told => (next (.ok told)).runWith w (c.told count)
    | .error e => (next (.error e)).runWith w c
  | consent arguments requested next, c =>
    (next (w.accept arguments requested)).runWith w (c.askedFor arguments requested)

/-- A stream that can be told either every count or none. -/
theorem run_eq_runWith (accept : Arguments → Nat → Nat) (d : Dialogue α) (c : Channel) :
    d.run accept c =
      d.runWith ⟨accept, fun c _ => if c.writable then .ok () else .error .connectionBroken⟩ c := by
  induction d generalizing c with
  | done result => rfl
  | load size next ih =>
    simp only [run, runWith]
    cases Wire.split? size c.incoming <;> exact ih _ _
  | acknowledge count next ih =>
    simp only [run, runWith]
    by_cases hwritable : c.writable = true
    · simp only [if_pos hwritable]
      exact ih _ _
    · simp only [if_neg hwritable]
      exact ih _ _
  | consent arguments requested next ih => exact ih _ _

theorem runWith_bind (w : Answers) (d : Dialogue α) (f : α → Dialogue β) (c : Channel) :
    (d.bind f).runWith w c = (f (d.runWith w c).1).runWith w (d.runWith w c).2 := by
  induction d generalizing c with
  | done result => rfl
  | load size next ih =>
    simp only [bind, runWith]
    split <;> exact ih _ _
  | acknowledge count next ih =>
    simp only [bind, runWith]
    split <;> exact ih _ _
  | consent arguments requested next ih => exact ih _ _

/-- Whether every load that a dialogue comes to, whatever it is answered, is of such a size. -/
def Loads (P : Nat → Prop) : Dialogue α → Prop
  | done _ => True
  | load size next => P size ∧ ∀ answer, (next answer).Loads P
  | acknowledge _ next => ∀ answer, (next answer).Loads P
  | consent _ _ next => ∀ n, (next n).Loads P

theorem loads_mono {P Q : Nat → Prop} (hPQ : ∀ size, P size → Q size) {d : Dialogue α}
    (h : d.Loads P) : d.Loads Q := by
  induction d with
  | done result => trivial
  | load size next ih => exact ⟨hPQ size h.1, fun answer => ih answer (h.2 answer)⟩
  | acknowledge count next ih => exact fun answer => ih answer (h answer)
  | consent arguments requested next ih => exact fun n => ih n (h n)

end Dialogue

namespace Exchange

open Dialogue (Answers Channel Loads)

variable {α β : Type} {w : Answers} {c c' c'' : Channel}

/-- Whether an exchange ends with a result and leaves the stream in a state. -/
def Ends (w : Answers) (x : Exchange α) (c : Channel) (result : Except Error α) (c' : Channel) :
    Prop :=
  x.run.runWith w c = (result, c')

theorem ends_bind {x : Exchange α} {f : α → Exchange β} {a : α} {result : Except Error β}
    (h : Ends w x c (.ok a) c') (hf : Ends w (f a) c' result c'') :
    Ends w (x >>= f) c result c'' := by
  have hrun := Dialogue.runWith_bind w x.run (ExceptT.bindCont f) c
  rw [h] at hrun
  exact hrun.trans hf

theorem ends_bind_of_error {x : Exchange α} {e : Error} (h : Ends w x c (.error e) c')
    (f : α → Exchange β) : Ends w (x >>= f) c (.error e) c' := by
  have hrun := Dialogue.runWith_bind w x.run (ExceptT.bindCont f) c
  rw [h] at hrun
  exact hrun

theorem ends_bind_pure {x : Exchange α} {result : Except Error α} (h : Ends w x c result c')
    (f : α → β) : Ends w (x >>= fun a => pure (f a)) c (result.map f) c' := by
  cases result with
  | ok a => exact ends_bind h rfl
  | error e => exact ends_bind_of_error h _

/-- Exchanges in a row that end well have a first part that does. -/
theorem exists_of_ends_bind {x : Exchange α} {f : α → Exchange β} {b : β}
    (h : Ends w (x >>= f) c (.ok b) c'') :
    ∃ a c', Ends w x c (.ok a) c' ∧ Ends w (f a) c' (.ok b) c'' := by
  have hrun := (Dialogue.runWith_bind w x.run (ExceptT.bindCont f) c).symm.trans h
  generalize hfirst : x.run.runWith w c = first at hrun
  obtain ⟨result, c'⟩ := first
  cases result with
  | ok a => exact ⟨a, c', hfirst, hrun⟩
  | error e => cases hrun

theorem ends_load {taken rest : Bytes} (h : c.incoming = taken ++ rest) (e : Error) :
    Ends w (load taken.length e) c (.ok taken) (c.after rest) := by
  have hsplit : Wire.split? taken.length c.incoming = some (taken, rest) :=
    Wire.split?_eq_some_iff.2 ⟨rfl, h⟩
  simp only [Ends, load, ExceptT.run, ExceptT.mk, Dialogue.runWith, hsplit]

theorem ends_load_of_lt {size : Nat} (h : c.incoming.length < size) (e : Error) :
    Ends w (load size e) c (.error e) c := by
  have hsplit : Wire.split? size c.incoming = none := Wire.split?_eq_none_iff.2 h
  simp only [Ends, load, ExceptT.run, ExceptT.mk, Dialogue.runWith, hsplit]

theorem ends_acknowledge {k : UInt32} (h : w.tell c k = .ok ()) :
    Ends w (acknowledge k.toNat) c (.ok ()) (c.told k) := by
  simp only [Ends, acknowledge, ExceptT.run, ExceptT.mk, Dialogue.runWith, UInt32.ofNat_toNat, h]

theorem ends_acknowledge_of_error {k : UInt32} {e : Error} (h : w.tell c k = .error e) :
    Ends w (acknowledge k.toNat) c (.error e) c := by
  simp only [Ends, acknowledge, ExceptT.run, ExceptT.mk, Dialogue.runWith, UInt32.ofNat_toNat, h]

theorem loads_bind {P : Nat → Prop} {x : Exchange α} {f : α → Exchange β} (h : x.run.Loads P)
    (hf : ∀ a, (f a).run.Loads P) : (x >>= f).run.Loads P := by
  have hcont (d : Dialogue (Except Error α)) (hd : d.Loads P) :
      (d.bind (ExceptT.bindCont f)).Loads P := by
    induction d with
    | done result =>
      cases result with
      | ok a => exact hf a
      | error e => trivial
    | load size next ih => exact ⟨hd.1, fun answer => ih answer (hd.2 answer)⟩
    | acknowledge count next ih => exact fun answer => ih answer (hd answer)
    | consent arguments requested next ih => exact fun n => ih n (hd n)
  exact hcont x.run h

theorem loads_load {P : Nat → Prop} {size : Nat} (h : P size) (e : Error) :
    (load size e).run.Loads P :=
  ⟨h, fun answer => by cases answer <;> trivial⟩

theorem loads_mapM {P : Nat → Prop} {f : α → Exchange β} (h : ∀ a, (f a).run.Loads P)
    (l : List α) : (l.mapM f).run.Loads P := by
  have hloop (done : List β) : (List.mapM.loop f l done).run.Loads P := by
    induction l generalizing done with
    | nil => trivial
    | cons a l ih => exact loads_bind (h a) fun b => ih (b :: done)
  exact hloop []

end Exchange

end Instrument
