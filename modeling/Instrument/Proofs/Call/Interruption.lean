import Instrument.Call.Decode
import Instrument.Proofs.Call.Transcript

/-!
Calls whose bytes end early. Main statement: reading the arguments of such a call comes to the piece
that is cut off, gives up there with an error that says which piece is missing, and leaves in the
stream what has come of it.
-/

namespace Instrument

open Transcript (ofBytes)

namespace Dialogue

variable {α β : Type} {accept : Arguments → Nat → Nat}

/-! ### Giving up -/

/-- A dialogue ends with an error of some kind as soon as bytes do not come. -/
def GivesUp (P : Error → Prop) : Dialogue (Except Error α) → Prop
  | done _ => True
  | load _ next =>
    (∃ e, next none = done (.error e) ∧ P e) ∧ ∀ taken, (next (some taken)).GivesUp P
  | acknowledge _ next => ∀ answer, (next answer).GivesUp P
  | consent _ _ next => ∀ n, (next n).GivesUp P

theorem givesUp_bind {P : Error → Prop} {d : Dialogue (Except Error α)} {f : α → Exchange β}
    (h : d.GivesUp P) (hf : ∀ a, (f a).run.GivesUp P) :
    (d.bind (ExceptT.bindCont f)).GivesUp P := by
  induction d with
  | done result =>
    cases result with
    | ok a => exact hf a
    | error e => trivial
  | load size next ih =>
    obtain ⟨⟨e, hnone, he⟩, hsome⟩ := h
    refine ⟨⟨e, ?_, he⟩, fun taken => ih (some taken) (hsome taken)⟩
    simp only [hnone]
    rfl
  | acknowledge count next ih => exact fun answer => ih answer (h answer)
  | consent arguments requested next ih => exact fun n => ih n (h n)

theorem givesUp_of_reaches {P : Error → Prop} {d d' : Dialogue (Except Error α)} {t : Transcript}
    (h : Reaches accept d t d') (hd : d.GivesUp P) : d'.GivesUp P := by
  induction h with
  | refl d => exact hd
  | load taken _ ih => exact ih (hd.2 taken)
  | acknowledge _ ih => exact ih (hd _)
  | consent _ ih => exact ih (hd _)

/-! ### Bytes that end early -/

/-- If not all bytes come that a dialogue takes to its end, it reaches a load that is not met: all
bytes before it are taken, and those that come for it are too few. -/
theorem reaches_load_of_cut {d : Dialogue α} {t : Transcript} {result : α}
    (h : d.Completes accept t result) {cut rest : Bytes} (hcut : t.bytes = cut ++ rest)
    (hrest : rest ≠ []) :
    ∃ t' size next left, Reaches accept d t' (.load size next) ∧ cut = t'.bytes ++ left ∧
      left.length < size := by
  unfold Completes at h
  generalize he : Dialogue.done result = e at h
  induction h generalizing cut with
  | refl d => exact absurd (List.append_eq_nil_iff.1 hcut.symm).2 hrest
  | @load next t d taken h ih =>
    rw [Transcript.bytes_append, Transcript.bytes_ofBytes] at hcut
    by_cases hlen : cut.length < taken.length
    · exact ⟨[], taken.length, next, cut, .refl _, rfl, hlen⟩
    · obtain ⟨more, rfl⟩ : ∃ more, cut = taken ++ more := by
        have htake := congrArg (List.take taken.length) hcut
        rw [List.take_left, List.take_append_of_le_length (Nat.not_lt.1 hlen)] at htake
        have hsplit := List.take_append_drop taken.length cut
        rw [← htake] at hsplit
        exact ⟨_, hsplit.symm⟩
      rw [List.append_assoc] at hcut
      obtain ⟨t', size, next', left, hreaches, rfl, hleft⟩ :=
        ih (List.append_cancel_left hcut) he
      exact ⟨ofBytes taken ++ t', size, next', left, .load taken hreaches, by simp, hleft⟩
  | @acknowledge count next t d h ih =>
    obtain ⟨t', size, next', left, hreaches, rfl, hleft⟩ := ih hcut he
    exact ⟨.ready count :: t', size, next', left, .acknowledge hreaches, rfl, hleft⟩
  | consent h ih =>
    obtain ⟨t', size, next', left, hreaches, hcut', hleft⟩ := ih hcut he
    exact ⟨t', size, next', left, .consent hreaches, hcut', hleft⟩

/-- A dialogue that gives up leaves what has come of the piece that is cut off. -/
theorem run_of_cut {P : Error → Prop} {d : Dialogue (Except Error α)} (hd : d.GivesUp P)
    {t : Transcript} {result : Except Error α} (h : d.Completes accept t result)
    {cut rest : Bytes} (hcut : t.bytes = cut ++ rest) (hrest : rest ≠ []) :
    ∃ t' size next left e asked, Reaches accept d t' (.load size next) ∧
      cut = t'.bytes ++ left ∧ left.length < size ∧ P e ∧
      d.run accept { incoming := cut } =
        (.error e, { incoming := left, acknowledged := t'.counts, asked := asked }) := by
  obtain ⟨t', size, next, left, hreaches, rfl, hleft⟩ := reaches_load_of_cut h hcut hrest
  obtain ⟨⟨e, hnone, he⟩, -⟩ := givesUp_of_reaches hreaches hd
  obtain ⟨asked, hrun⟩ := run_of_reaches hreaches (c := { incoming := t'.bytes ++ left }) rfl rfl
  have hsplit : Wire.split? size left = none := Wire.split?_eq_none_iff.2 hleft
  refine ⟨t', size, next, left, e, asked, hreaches, rfl, hleft, he, ?_⟩
  rw [hrun, run, hsplit, hnone]
  rfl

end Dialogue

/-! ### Arguments -/

namespace CallSite

open Dialogue (GivesUp givesUp_bind)

/-- The errors that say that a piece of a call is missing: a pack, the elements of a vector, or
those of a buffer. -/
inductive IsMissing (site : CallSite) : Error → Prop
  | pack (size : Nat) : IsMissing site (.bufferReload site.device site.operation.name size)
  | vector : IsMissing site site.vectorReceive
  | buffer : IsMissing site site.arrayExtract

variable {site : CallSite}

theorem givesUp_load {P : Error → Prop} (size : Nat) {e : Error} (he : P e) :
    (Exchange.load size e).run.GivesUp P :=
  ⟨⟨e, rfl, he⟩, fun _ => trivial⟩

theorem givesUp_throw_bind {α β : Type} {P : Error → Prop} (e : Error) (f : α → Exchange β) :
    ((throw e : Exchange α) >>= f).run.GivesUp P := trivial

theorem givesUp_receiveVector (element : Wire.ScalarType) (r : Wire.PayloadReader) :
    (site.receiveVector element r).run.GivesUp site.IsMissing := by
  refine givesUp_bind trivial fun ⟨count, _⟩ => givesUp_bind (fun _ => trivial) fun _ => ?_
  split
  · exact givesUp_throw_bind _ _
  · exact givesUp_bind (givesUp_load _ .vector) fun _ => trivial

theorem givesUp_receiveBuffer (found : Arguments) (b : Interface.Buffer) :
    (site.receiveBuffer found b).run.GivesUp site.IsMissing := by
  refine givesUp_bind trivial fun _ => givesUp_bind (fun _ => trivial) fun _ =>
    givesUp_bind (fun _ => trivial) fun _ => ?_
  split
  · exact givesUp_throw_bind _ _
  · exact givesUp_bind (givesUp_load _ .buffer) fun _ => trivial

theorem givesUp_readSingle (size : Nat) (r : Wire.PayloadReader) (a : Interface.Argument) :
    (site.readSingle size r a).run.GivesUp site.IsMissing := by
  unfold readSingle
  split
  · exact givesUp_bind (givesUp_receiveVector _ r) fun _ => trivial
  · exact givesUp_bind trivial fun _ => trivial
  · exact givesUp_bind trivial fun _ => trivial

/-- Doing the same for each of some values gives up if doing it for one value does. -/
theorem givesUp_mapM {α β : Type} {P : Error → Prop} {f : α → Exchange β}
    (h : ∀ a, (f a).run.GivesUp P) (l : List α) : (l.mapM f).run.GivesUp P := by
  have hloop (done : List β) : (List.mapM.loop f l done).run.GivesUp P := by
    induction l generalizing done with
    | nil => trivial
    | cons a l ih => exact givesUp_bind (h a) fun b => ih (b :: done)
  exact hloop []

theorem givesUp_readPack (payload : Bytes) (p : Interface.PlacedPack) :
    (site.readPack payload p).run.GivesUp site.IsMissing := by
  refine givesUp_bind ?_ fun bytes => ?_
  · unfold packBytes
    split
    · -- a slice that the payload does not have is no matter of the stream
      simp only
      split <;> trivial
    · exact givesUp_load _ (.pack _)
  · have hmapM (r : Wire.PayloadReader) (arguments : List Interface.Argument) :
        (arguments.mapM fun a => return (a.name, ← site.readSingle p.size r a) :
          Exchange Arguments).run.GivesUp site.IsMissing := by
      refine givesUp_mapM (fun a => ?_) arguments
      exact givesUp_bind (givesUp_readSingle _ _ a) fun _ => trivial
    simp only
    split
    · trivial
    · exact hmapM _ _
    · exact hmapM _ _

theorem givesUp_readPacks (payload : Bytes) (found : Arguments)
    (packs : List Interface.PlacedPack) :
    (site.readPacks payload found packs).run.GivesUp site.IsMissing := by
  induction packs generalizing found with
  | nil => trivial
  | cons p packs ih => exact givesUp_bind (givesUp_readPack payload p) fun more => ih (found ++ more)

/-- Reading arguments gives up on the first piece that is missing. -/
theorem givesUp_decode (layout : Interface.Layout) (payload : Bytes) :
    (site.decode layout payload).run.GivesUp site.IsMissing := by
  unfold decode
  by_cases hsize : payload.length ≠ layout.payloadSize
  · rw [if_pos hsize]
    exact givesUp_throw_bind _ _
  · rw [if_neg hsize]
    refine givesUp_bind (givesUp_readPacks _ _ _) fun found => ?_
    split
    · trivial
    · exact givesUp_bind (givesUp_receiveBuffer found _) fun _ => trivial

end CallSite

end Instrument
