import Instrument.Call.Argument

/-!
What the receiver of a call does while it reads the arguments: it takes bytes from the stream, it
tells the caller how many elements it is ready to take, and it asks the device how many those are.
A dialogue says what is done next, after each answer; how the answers come about is the business of
whoever runs it. Main statement of the small lemmas: a run takes no more bytes than there are.
-/

namespace Instrument

/-- A computation that talks to the caller and to the device. -/
inductive Dialogue (α : Type) where
  | done (result : α)
  /-- Takes a number of bytes; there is no answer if they do not come. -/
  | load (size : Nat) (next : Option Bytes → Dialogue α)
  /-- Tells the caller how many elements are taken. -/
  | acknowledge (count : UInt32) (next : Except Error Unit → Dialogue α)
  /-- Asks the device how many elements it takes for a buffer. -/
  | consent (arguments : Arguments) (requested : Nat) (next : Nat → Dialogue α)

namespace Dialogue

variable {α β : Type}

/-- Goes on with a second dialogue after the first. -/
def bind : Dialogue α → (α → Dialogue β) → Dialogue β
  | done result, f => f result
  | load size next, f => load size fun answer => (next answer).bind f
  | acknowledge count next, f => acknowledge count fun answer => (next answer).bind f
  | consent arguments requested next, f => consent arguments requested fun n => (next n).bind f

instance : Monad Dialogue where
  pure := done
  bind := bind

/-- A caller as a stream: what it has sent, what it was told, and what the device was asked. -/
structure Channel where
  incoming : Bytes
  /-- Whether the caller can be told anything. -/
  writable : Bool := true
  acknowledged : List UInt32 := []
  /-- The number of arguments that were read and the number of elements that were asked for. -/
  asked : List (Nat × Nat) := []
deriving DecidableEq, Repr

/-- Runs a dialogue with a caller; `accept` answers for the device. A load that finds too few bytes
takes none. -/
def run (accept : Arguments → Nat → Nat) : Dialogue α → Channel → α × Channel
  | done result, c => (result, c)
  | load size next, c =>
    match Wire.split? size c.incoming with
    | some (taken, rest) => (next (some taken)).run accept { c with incoming := rest }
    | none => (next none).run accept c
  | acknowledge count next, c =>
    if c.writable then
      (next (.ok ())).run accept { c with acknowledged := c.acknowledged ++ [count] }
    else (next (.error .connectionBroken)).run accept c
  | consent arguments requested next, c =>
    (next (accept arguments requested)).run accept
      { c with asked := c.asked ++ [(arguments.length, requested)] }

/-- Runs a dialogue as far as the bytes go that have come; nothing more will come once the stream
is finished. What is left to do is the first result. -/
def advance (accept : Arguments → Nat → Nat) (finished : Bool) :
    Dialogue α → Channel → Dialogue α × Channel
  | done result, c => (done result, c)
  | load size next, c =>
    match Wire.split? size c.incoming with
    | some (taken, rest) => (next (some taken)).advance accept finished { c with incoming := rest }
    | none => if finished then (next none).advance accept finished c else (load size next, c)
  | acknowledge count next, c =>
    if c.writable then
      (next (.ok ())).advance accept finished { c with acknowledged := c.acknowledged ++ [count] }
    else (next (.error .connectionBroken)).advance accept finished c
  | consent arguments requested next, c =>
    (next (accept arguments requested)).advance accept finished
      { c with asked := c.asked ++ [(arguments.length, requested)] }

theorem length_advance_le (accept : Arguments → Nat → Nat) (finished : Bool) (d : Dialogue α)
    (c : Channel) : (d.advance accept finished c).2.incoming.length ≤ c.incoming.length := by
  induction d generalizing c with
  | done result => exact Nat.le_refl _
  | load size next ih =>
    simp only [advance]
    split
    · next taken rest hsplit =>
      obtain ⟨_, happ⟩ := Wire.split?_eq_some_iff.1 hsplit
      have := ih (some taken) { c with incoming := rest }
      simp only [happ, List.length_append] at this ⊢
      omega
    · split
      · exact ih _ _
      · exact Nat.le_refl _
  | acknowledge count next ih =>
    simp only [advance]
    split <;> exact ih _ _
  | consent arguments requested next ih => exact ih _ _

theorem length_run_le (accept : Arguments → Nat → Nat) (d : Dialogue α)
    (c : Channel) : (d.run accept c).2.incoming.length ≤ c.incoming.length := by
  induction d generalizing c with
  | done result => exact Nat.le_refl _
  | load size next ih =>
    simp only [run]
    split
    · next taken rest hsplit =>
      obtain ⟨_, happ⟩ := Wire.split?_eq_some_iff.1 hsplit
      have := ih (some taken) { c with incoming := rest }
      simp only [happ, List.length_append] at this ⊢
      omega
    · exact ih _ _
  | acknowledge count next ih =>
    simp only [run]
    split <;> exact ih _ _
  | consent arguments requested next ih => exact ih _ _

end Dialogue

/-- A dialogue that can fail. -/
abbrev Exchange := ExceptT Error Dialogue

namespace Exchange

/-- Takes a number of bytes, or fails with a given error. -/
def load (size : Nat) (e : Error) : Exchange Bytes :=
  ExceptT.mk (.load size fun
    | some taken => .done (.ok taken)
    | none => .done (.error e))

/-- Tells the caller how many elements are taken. -/
def acknowledge (count : Nat) : Exchange Unit :=
  ExceptT.mk (.acknowledge (UInt32.ofNat count) .done)

/-- Asks the device how many elements it takes. -/
def consent (arguments : Arguments) (requested : Nat) : Exchange Nat :=
  ExceptT.mk (.consent arguments requested fun n => .done (.ok n))

/-- Goes on with a value, or fails. -/
def lift {α : Type} (result : Except Error α) : Exchange α := ExceptT.mk (.done result)

/-- Goes on with a value, or fails with a given error. -/
def require {α : Type} (value? : Option α) (e : Error) : Exchange α :=
  lift (match value? with
    | some value => .ok value
    | none => .error e)

end Exchange

end Instrument
