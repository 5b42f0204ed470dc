import Instrument.Proofs.Call.Parallel
import Instrument.Generator.Program
import Instrument.Proofs.Text.Pieces

/-!
The function that rebuilds arguments while it runs, next to the exchange that decodes them. Main
statements: the two agree on what is done after them if they agree before; they take the elements
of a vector alike; and the names that are declared for a pack are new.
-/

namespace Instrument.Generator

open Wire (Elements PayloadReader Scalar ScalarType)

variable {α β γ δ : Type}

/-! ### Scripts next to exchanges -/

/-- How a script may end next to an exchange: with results that belong together, or both without. -/
inductive Settles (Q : α → β → Prop) : Except Halt α → Except Error β → Prop where
  | returned {a : α} {b : β} (h : Q a b) : Settles Q (.ok a) (.ok b)
  | refused (e : Error) : Settles Q (.error .refused) (.error e)

/-- Whether a script has a meaning throughout and does what an exchange does, to the end. -/
def Agrees (Q : α → β → Prop) (x : Script α) (y : Exchange β) : Prop :=
  Dialogue.Parallel (Settles Q) x.run y.run

variable {Q : α → β → Prop} {S : γ → δ → Prop} {x : Script α} {y : Exchange β}

theorem agrees_pure {a : α} {b : β} (h : Q a b) : Agrees Q (pure a) (pure b) :=
  .done (.returned h)

theorem agrees_refused (e : Error) : Agrees Q (throw .refused) (throw e) := .done (.refused e)

theorem agrees_bind (h : Agrees Q x y) {f : α → Script γ} {g : β → Exchange δ}
    (hf : ∀ a b, Q a b → Agrees S (f a) (g b)) : Agrees S (x >>= f) (y >>= g) := by
  refine Dialogue.Parallel.bind h fun result result' hsettles => ?_
  cases hsettles with
  | returned hQ => exact hf _ _ hQ
  | refused e => exact .done (.refused e)

theorem agrees_load (size : Nat) (e : Error) :
    Agrees (fun bs bs' => bs = bs' ∧ bs'.length = size) (Script.load size)
      (Exchange.load size e) := by
  refine .load fun answer hanswer => ?_
  cases answer with
  | none => exact .done (.refused e)
  | some taken => exact .done (.returned ⟨rfl, hanswer taken rfl⟩)

theorem agrees_acknowledge (count : Nat) :
    Agrees (fun _ _ => True) (Script.acknowledge count) (Exchange.acknowledge count) := by
  refine .acknowledge fun answer => ?_
  cases answer with
  | error e => exact .done (.refused e)
  | ok => exact .done (.returned trivial)

/-- What is there is gone on with. -/
theorem require_some_bind (b : β) (e : Error) (f : β → Exchange δ) :
    Exchange.require (some b) e >>= f = f b := rfl

/-- The elements of a vector are taken alike once their number is known. -/
theorem agrees_receive (site : CallSite) (element : ScalarType) {r r' : PayloadReader}
    {count : Scalar} (hcount : r.readScalar? .u64 = some (count, r')) :
    Agrees Eq (Script.receive element count.bits) (site.receiveVector element r) := by
  rw [CallSite.receiveVector, hcount, require_some_bind]
  refine agrees_bind (agrees_acknowledge _) fun _ _ _ => ?_
  split
  · exact agrees_refused _
  refine agrees_bind (agrees_load _ _) ?_
  rintro raw _ ⟨rfl, -⟩
  cases hvalues : Elements.ofBytes? element raw with
  | none => exact agrees_refused _
  | some values => exact agrees_pure rfl

/-! ### Frames -/

namespace Frame

variable {f f' : Frame} {name : String} {value : Local}

/-- A name that is declared hides no other. -/
theorem declare?_eq_some (h : f.local? name = none) (value : Local) :
    ∃ f', f.declare? name value = some f' ∧ f'.local? name = some value ∧
      (∀ other, other ≠ name → f'.local? other = f.local? other) ∧ f'.assigned = f.assigned := by
  refine ⟨{ f with locals := (name, value) :: f.locals }, ?_, ?_, fun other hother => ?_, rfl⟩
  · rw [declare?, h]
    rfl
  · simp [local?]
  · simp [local?, hother.symm]

/-- A field can be set to a value of its type. -/
theorem assign?_eq_some {fields : Fields} {field : String} {type : WireType}
    (h : fields.type? field = some type) (argument : ArgumentValue) :
    f.assign? fields field type argument =
      some { f with assigned := f.assigned ++ [(field, argument)] } := if_pos h

end Frame

/-! ### Names -/

theorem name_ne_payloadName (role : Role) (i : Nat) : role.name i ≠ payloadName := by
  intro h
  have hhead := congrArg (·.toList.head?) h
  cases role <;> simp [Role.name, payloadName] at hhead

/-- What is declared for packs has different names. -/
theorem name_inj {role role' : Role} {i j : Nat} (h : role.name i = role'.name j) :
    role = role' ∧ i = j := by
  -- The names of different roles begin with different letters.
  have hhead := congrArg (·.toList.head?) h
  cases role <;> cases role' <;> simp [Role.name] at hhead
  · exact ⟨rfl, Text.toString_inj (String.append_right_inj "buff" |>.1 h)⟩
  · exact ⟨rfl, Text.toString_inj (String.append_right_inj "pack" |>.1 h)⟩
  · exact ⟨rfl, Text.toString_inj (String.append_right_inj "length" |>.1 h)⟩

/-- The first pack for which a name is free, if that is `buffers` for buffers and `others` for all
else. -/
def Role.first (buffers others : Nat) : Role → Nat
  | buffer => buffers
  | tuple | count => others

/-- Whether the payload is at hand, and the names of buffers and of other things are free from
given packs on. -/
structure IsReady (payload : Bytes) (buffers others : Nat) (f : Frame) : Prop where
  payload : f.local? payloadName = some (.bytes payload)
  free : ∀ (role : Role) (i : Nat), role.first buffers others ≤ i → f.local? (role.name i) = none

namespace IsReady

variable {payload : Bytes} {buffers others buffers' others' : Nat} {f : Frame}

theorem ofPayload (payload : Bytes) : IsReady payload 0 0 (.ofPayload payload) where
  payload := by simp [Frame.ofPayload, Frame.local?]
  free role i _ := by simp [Frame.ofPayload, Frame.local?, (name_ne_payloadName role i).symm]

theorem first_le (hbuffers : buffers ≤ buffers') (hothers : others ≤ others') (role : Role) :
    role.first buffers others ≤ role.first buffers' others' := by
  cases role <;> assumption

theorem mono (h : IsReady payload buffers others f) (hbuffers : buffers ≤ buffers')
    (hothers : others ≤ others') : IsReady payload buffers' others' f :=
  ⟨h.payload, fun role i hi => h.free role i (Nat.le_trans (first_le hbuffers hothers role) hi)⟩

/-- Setting fields declares no names. -/
theorem assign (h : IsReady payload buffers others f) (assigned : Arguments) :
    IsReady payload buffers others { f with assigned } := ⟨h.payload, h.free⟩

/-- A name that is free can be declared. -/
theorem declare (h : IsReady payload buffers others f) (role : Role) {k : Nat}
    (hfree : role.first buffers others ≤ k) (hlater : k < role.first buffers' others')
    (hbuffers : buffers ≤ buffers') (hothers : others ≤ others') (value : Local) :
    ∃ f', f.declare? (role.name k) value = some f' ∧ f'.local? (role.name k) = some value ∧
      f'.assigned = f.assigned ∧ IsReady payload buffers' others' f' := by
  obtain ⟨f', hdeclare, hvalue, hsame, hassigned⟩ :=
    Frame.declare?_eq_some (h.free role k hfree) value
  refine ⟨f', hdeclare, hvalue, hassigned, ?_, fun role' i hi => ?_⟩
  · rw [hsame _ (name_ne_payloadName role k).symm]
    exact h.payload
  · rw [hsame _ ?_]
    · exact (h.mono hbuffers hothers).free role' i hi
    · intro heq
      obtain ⟨rfl, rfl⟩ := name_inj heq
      omega

end IsReady

end Instrument.Generator
