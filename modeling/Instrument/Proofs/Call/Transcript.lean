import Instrument.Call.Dialogue

/-!
Transcripts of dialogues: the bytes that a receiver takes and the numbers of elements that it
acknowledges, in the order in which they pass. A dialogue that completes with a transcript takes
just the bytes of the transcript from any stream that begins with them, and tells the caller just
its counts. Main statement: transcripts of dialogues in a row are joined.
-/

namespace Instrument

/-- What passes between the two ends of a call. -/
inductive Event where
  /-- A byte that the receiver takes. -/
  | byte (b : UInt8)
  /-- The number of elements that the receiver is ready to take. -/
  | ready (count : UInt32)
deriving DecidableEq, Repr

/-- What passes between the two ends of a call, in its order. -/
abbrev Transcript := List Event

namespace Transcript

/-- The transcript of bytes alone. -/
def ofBytes (bs : Bytes) : Transcript := bs.map .byte

/-- The bytes that are taken. -/
def bytes (t : Transcript) : Bytes :=
  t.filterMap fun
    | .byte b => some b
    | .ready _ => none

/-- The counts that are acknowledged. -/
def counts (t : Transcript) : List UInt32 :=
  t.filterMap fun
    | .byte _ => none
    | .ready count => some count

@[simp] theorem ofBytes_nil : ofBytes [] = [] := rfl

@[simp] theorem ofBytes_append (a b : Bytes) : ofBytes (a ++ b) = ofBytes a ++ ofBytes b :=
  List.map_append

@[simp] theorem bytes_nil : bytes [] = [] := rfl

@[simp] theorem bytes_append (t u : Transcript) : bytes (t ++ u) = bytes t ++ bytes u :=
  List.filterMap_append

@[simp] theorem bytes_ready (count : UInt32) (t : Transcript) :
    bytes (.ready count :: t) = bytes t := rfl

@[simp] theorem bytes_ofBytes (bs : Bytes) : bytes (ofBytes bs) = bs := by
  induction bs with
  | nil => rfl
  | cons b bs ih => exact congrArg (b :: ·) ih

@[simp] theorem counts_nil : counts [] = [] := rfl

@[simp] theorem counts_append (t u : Transcript) : counts (t ++ u) = counts t ++ counts u :=
  List.filterMap_append

@[simp] theorem counts_ready (count : UInt32) (t : Transcript) :
    counts (.ready count :: t) = count :: counts t := rfl

@[simp] theorem counts_ofBytes (bs : Bytes) : counts (ofBytes bs) = [] := by
  induction bs with
  | nil => rfl
  | cons b bs ih => exact ih

@[simp] theorem counts_map_ready (counts : List UInt32) :
    Transcript.counts (counts.map .ready) = counts := by
  induction counts with
  | nil => rfl
  | cons count counts ih => exact congrArg (count :: ·) ih

end Transcript

open Transcript (ofBytes)

namespace Dialogue

variable {α β : Type} {accept : Arguments → Nat → Nat}

/-- A dialogue gets to another one with a transcript, when the caller can be told everything and
`accept` answers for the device. -/
inductive Reaches (accept : Arguments → Nat → Nat) : Dialogue α → Transcript → Dialogue α → Prop
  | refl (d : Dialogue α) : Reaches accept d [] d
  | load {next : Option Bytes → Dialogue α} {t : Transcript} {d : Dialogue α} (taken : Bytes)
      (h : Reaches accept (next (some taken)) t d) :
      Reaches accept (.load taken.length next) (ofBytes taken ++ t) d
  | acknowledge {count : UInt32} {next : Except Error Unit → Dialogue α} {t : Transcript}
      {d : Dialogue α} (h : Reaches accept (next (.ok ())) t d) :
      Reaches accept (.acknowledge count next) (.ready count :: t) d
  | consent {arguments : Arguments} {requested : Nat} {next : Nat → Dialogue α} {t : Transcript}
      {d : Dialogue α} (h : Reaches accept (next (accept arguments requested)) t d) :
      Reaches accept (.consent arguments requested next) t d

/-- A dialogue ends with a result after a transcript. -/
def Completes (accept : Arguments → Nat → Nat) (d : Dialogue α) (t : Transcript) (result : α) :
    Prop :=
  Reaches accept d t (.done result)

theorem reaches_trans {d d' d'' : Dialogue α} {t u : Transcript} (h : Reaches accept d t d')
    (h' : Reaches accept d' u d'') : Reaches accept d (t ++ u) d'' := by
  induction h with
  | refl d => exact h'
  | load taken _ ih => rw [List.append_assoc]; exact .load taken (ih h')
  | acknowledge _ ih => exact .acknowledge (ih h')
  | consent _ ih => exact .consent (ih h')

/-- Whatever is done afterwards, the first of two dialogues in a row gets as far as alone. -/
theorem reaches_bind {d d' : Dialogue α} {t : Transcript} (f : α → Dialogue β)
    (h : Reaches accept d t d') : Reaches accept (d.bind f) t (d'.bind f) := by
  induction h with
  | refl d => exact .refl _
  | load taken _ ih => exact .load taken ih
  | acknowledge _ ih => exact .acknowledge ih
  | consent _ ih => exact .consent ih

/-- Running a dialogue is running what it reaches, on what follows the bytes that it takes. -/
theorem run_of_reaches {d d' : Dialogue α} {t : Transcript} (h : Reaches accept d t d')
    {c : Channel} (hwritable : c.writable = true) {rest : Bytes}
    (hincoming : c.incoming = t.bytes ++ rest) :
    ∃ asked, d.run accept c = d'.run accept
      { c with
        incoming := rest, acknowledged := c.acknowledged ++ t.counts, asked := asked } := by
  induction h generalizing c with
  | refl d => exact ⟨c.asked, by simp at hincoming; simp [← hincoming]⟩
  | @load next t d taken _ ih =>
    have hsplit : Wire.split? taken.length c.incoming = some (taken, t.bytes ++ rest) :=
      Wire.split?_eq_some_iff.2 ⟨rfl, by simp [hincoming]⟩
    obtain ⟨asked, hrun⟩ := ih (c := { c with incoming := t.bytes ++ rest }) hwritable rfl
    exact ⟨asked, by simp [run, hsplit, hrun]⟩
  | @acknowledge count next t d _ ih =>
    obtain ⟨asked, hrun⟩ :=
      ih (c := { c with acknowledged := c.acknowledged ++ [count] }) hwritable hincoming
    refine ⟨asked, ?_⟩
    rw [run, if_pos hwritable, hrun]
    simp
  | @consent arguments requested next t d _ ih =>
    obtain ⟨asked, hrun⟩ :=
      ih (c := { c with asked := c.asked ++ [(arguments.length, requested)] }) hwritable hincoming
    exact ⟨asked, by simp only [run, hrun]⟩

/-- A dialogue that completes takes the bytes of its transcript and leaves those that follow. -/
theorem run_of_completes {d : Dialogue α} {t : Transcript} {result : α}
    (h : d.Completes accept t result) (rest : Bytes) :
    ∃ asked, d.run accept { incoming := t.bytes ++ rest } =
      (result, { incoming := rest, acknowledged := t.counts, asked := asked }) := by
  obtain ⟨asked, hrun⟩ := run_of_reaches h (c := { incoming := t.bytes ++ rest }) rfl rfl
  exact ⟨asked, by simpa [run] using hrun⟩

end Dialogue

namespace Exchange

open Dialogue (Completes Reaches)

variable {α β : Type} {accept : Arguments → Nat → Nat}

theorem completes_pure (a : α) : Completes accept (pure a : Exchange α).run [] (.ok a) := .refl _

theorem reaches_bind {x : Exchange α} {f : α → Exchange β} {a : α} {t u : Transcript}
    {d : Dialogue (Except Error β)} (hx : Completes accept x.run t (.ok a))
    (hf : Reaches accept (f a).run u d) : Reaches accept (x >>= f).run (t ++ u) d :=
  Dialogue.reaches_trans (Dialogue.reaches_bind (ExceptT.bindCont f) hx) hf

theorem completes_bind {x : Exchange α} {f : α → Exchange β} {a : α} {t u : Transcript}
    {result : Except Error β} (hx : Completes accept x.run t (.ok a))
    (hf : Completes accept (f a).run u result) :
    Completes accept (x >>= f).run (t ++ u) result :=
  reaches_bind hx hf

/-- What fails is not gone on with. -/
theorem completes_bind_of_error {x : Exchange α} {f : α → Exchange β} {e : Error} {t : Transcript}
    (hx : Completes accept x.run t (.error e)) : Completes accept (x >>= f).run t (.error e) :=
  Dialogue.reaches_bind (ExceptT.bindCont f) hx

theorem completes_bind_pure {x : Exchange α} {f : α → β} {result : Except Error α} {t : Transcript}
    (hx : Completes accept x.run t result) :
    Completes accept (x >>= fun a => pure (f a)).run t (result.map f) := by
  cases result with
  | error e => exact completes_bind_of_error hx
  | ok a =>
    rw [← List.append_nil t]
    exact completes_bind hx (completes_pure _)

theorem completes_load (taken : Bytes) (e : Error) :
    Completes accept (load taken.length e).run (ofBytes taken) (.ok taken) := by
  rw [← List.append_nil (ofBytes taken)]
  exact .load taken (.refl _)

theorem completes_acknowledge (count : Nat) :
    Completes accept (acknowledge count).run [.ready (UInt32.ofNat count)] (.ok ()) :=
  .acknowledge (.refl _)

theorem completes_consent (arguments : Arguments) (requested : Nat) :
    Completes accept (consent arguments requested).run [] (.ok (accept arguments requested)) :=
  .consent (.refl _)

theorem completes_lift (result : Except Error α) : Completes accept (lift result).run [] result :=
  .refl _

theorem completes_require (a : α) (e : Error) :
    Completes accept (require (some a) e).run [] (.ok a) := .refl _

end Exchange

end Instrument
