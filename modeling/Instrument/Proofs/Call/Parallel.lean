import Instrument.Call.Dialogue

/-!
Dialogues side by side. Two dialogues are parallel if they take as many bytes at a time, tell the
caller the same numbers and ask the device the same, one after the other and whatever the answers
are, and end with results that belong together. Main statements: parallel dialogues leave any caller
in the same state; and what is done after parallel dialogues is parallel if it is for any results
that belong together.
-/

namespace Instrument.Dialogue

variable {α β γ δ : Type}

/-- Whether two dialogues do the same and end with results that belong together. -/
inductive Parallel (R : α → β → Prop) : Dialogue α → Dialogue β → Prop where
  | done {a : α} {b : β} (h : R a b) : Parallel R (.done a) (.done b)
  | load {size : Nat} {next : Option Bytes → Dialogue α} {next' : Option Bytes → Dialogue β}
      (h : ∀ answer : Option Bytes, (∀ taken ∈ answer, taken.length = size) →
        Parallel R (next answer) (next' answer)) :
      Parallel R (.load size next) (.load size next')
  | acknowledge {count : UInt32} {next : Except Error Unit → Dialogue α}
      {next' : Except Error Unit → Dialogue β}
      (h : ∀ answer, Parallel R (next answer) (next' answer)) :
      Parallel R (.acknowledge count next) (.acknowledge count next')
  | consent {arguments : Arguments} {requested : Nat} {next : Nat → Dialogue α}
      {next' : Nat → Dialogue β} (h : ∀ n, Parallel R (next n) (next' n)) :
      Parallel R (.consent arguments requested next) (.consent arguments requested next')

variable {R : α → β → Prop} {d : Dialogue α} {d' : Dialogue β}

/-- Parallel dialogues leave the caller in the same state. -/
theorem Parallel.run (h : Parallel R d d') (accept : Arguments → Nat → Nat) (c : Channel) :
    R (d.run accept c).1 (d'.run accept c).1 ∧ (d.run accept c).2 = (d'.run accept c).2 := by
  induction h generalizing c with
  | done h => exact ⟨h, rfl⟩
  | load _ ih =>
    simp only [Dialogue.run]
    split
    · next taken rest hsplit =>
      refine ih (some taken) ?_ _
      rintro _ ⟨⟩
      exact (Wire.split?_eq_some_iff.1 hsplit).1
    · exact ih _ (by simp) _
  | acknowledge _ ih =>
    simp only [Dialogue.run]
    split
    · exact ih _ _
    · exact ih _ _
  | consent _ ih => exact ih _ _

theorem Parallel.bind {S : γ → δ → Prop} (h : Parallel R d d') {f : α → Dialogue γ}
    {g : β → Dialogue δ} (hf : ∀ a b, R a b → Parallel S (f a) (g b)) :
    Parallel S (d.bind f) (d'.bind g) := by
  induction h with
  | done h => exact hf _ _ h
  | load _ ih => exact .load ih
  | acknowledge _ ih => exact .acknowledge ih
  | consent _ ih => exact .consent ih

instance : LawfulMonad Dialogue := by
  refine LawfulMonad.mk' Dialogue (fun d => ?_) (fun _ _ => rfl) (fun d f g => ?_)
  · induction d with
    | done => rfl
    | load size next ih => exact congrArg (load size) (funext ih)
    | acknowledge count next ih => exact congrArg (acknowledge count) (funext ih)
    | consent arguments requested next ih =>
      exact congrArg (consent arguments requested) (funext ih)
  · induction d with
    | done => rfl
    | load size next ih => exact congrArg (load size) (funext ih)
    | acknowledge count next ih => exact congrArg (acknowledge count) (funext ih)
    | consent arguments requested next ih =>
      exact congrArg (consent arguments requested) (funext ih)

end Instrument.Dialogue
