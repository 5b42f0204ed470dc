import Instrument.Proofs.Call.Transcript

/-!
Dialogues on a stream of which a part has come. Main statement: a dialogue that gets somewhere with
a transcript either gets there on what has come, or waits for the next byte of the transcript, and
has told just the counts that stand before this byte.
-/

namespace Instrument.Dialogue

open Transcript (ofBytes)

variable {α : Type} {accept : Arguments → Nat → Nat}

theorem eq_of_reaches_done {result : α} {t : Transcript} {d : Dialogue α}
    (h : Reaches accept (.done result) t d) : t = [] ∧ d = .done result := by
  cases h
  exact ⟨rfl, rfl⟩

/-- What was told before stays told. -/
theorem prefix_acknowledged_advance (accept : Arguments → Nat → Nat) (finished : Bool)
    (d : Dialogue α) (c : Channel) :
    c.acknowledged <+: (d.advance accept finished c).2.acknowledged := by
  induction d generalizing c with
  | done result => exact List.prefix_rfl
  | load size next ih =>
    simp only [advance]
    split
    · next taken rest _ => exact ih (some taken) { c with incoming := rest }
    · split
      · exact ih none c
      · exact List.prefix_rfl
  | acknowledge count next ih =>
    simp only [advance]
    split
    · exact (List.prefix_append _ _).trans
        (ih (.ok ()) { c with acknowledged := c.acknowledged ++ [count] })
    · exact ih (.error .connectionBroken) c
  | consent arguments requested next ih =>
    exact ih _ { c with asked := c.asked ++ [(arguments.length, requested)] }

/-- How far a dialogue has come on what has come of a stream: it waits for a byte of the transcript,
or has arrived. -/
inductive Comes (accept : Arguments → Nat → Nat) (d d' : Dialogue α) (t : Transcript) (c : Channel)
    (more rest : Bytes) : Prop
  | waits (passed : Transcript) (asked : List (Nat × Nat)) {left : Transcript} {b : UInt8}
      {d₁ : Dialogue α} {incoming : Bytes} (ht : t = passed ++ .byte b :: left)
      (hreaches : Reaches accept d₁ (.byte b :: left) d')
      (hstream : incoming ++ more = Transcript.bytes (.byte b :: left) ++ rest)
      (hadvance : d.advance accept false c = (d₁, { c with
        incoming := incoming, acknowledged := c.acknowledged ++ passed.counts, asked := asked }))
  | arrives (asked : List (Nat × Nat)) {incoming : Bytes} (hstream : incoming ++ more = rest)
      (hadvance : d.advance accept false c = d'.advance accept false { c with
        incoming := incoming, acknowledged := c.acknowledged ++ t.counts, asked := asked })

/-- What is taken first is among what has come, or ends beyond it. -/
theorem incoming_cases {taken incoming more rest : Bytes} (h : incoming ++ more = taken ++ rest) :
    (∃ left, Wire.split? taken.length incoming = some (taken, left) ∧ left ++ more = rest) ∨
      ∃ b after, taken = b :: after ∧ Wire.split? taken.length incoming = none := by
  rcases List.append_eq_append_iff.1 h with ⟨left, htaken, -⟩ | ⟨left, hincoming, hrest⟩
  · cases left with
    | nil =>
      refine .inl ⟨[], Wire.split?_eq_some_iff.2 ⟨rfl, by simp [htaken]⟩, ?_⟩
      exact List.append_cancel_left (h.trans (by rw [htaken, List.append_nil]))
    | cons b left =>
      have hlt : incoming.length < taken.length := by
        rw [htaken, List.length_append, List.length_cons]
        omega
      cases taken with
      | nil => cases hlt
      | cons first after => exact .inr ⟨first, after, rfl, Wire.split?_eq_none_iff.2 hlt⟩
  · exact .inl ⟨left, Wire.split?_eq_some_iff.2 ⟨rfl, hincoming⟩, hrest.symm⟩

theorem comes_of_reaches {d d' : Dialogue α} {t : Transcript} (h : Reaches accept d t d')
    {c : Channel} (hwritable : c.writable = true) {more rest : Bytes}
    (hstream : c.incoming ++ more = t.bytes ++ rest) : Comes accept d d' t c more rest := by
  induction h generalizing c with
  | refl d => exact .arrives c.asked hstream (by simp)
  | @load next t d taken h ih =>
    have hall : c.incoming ++ more = taken ++ (t.bytes ++ rest) := by
      rw [hstream, Transcript.bytes_append, Transcript.bytes_ofBytes, List.append_assoc]
    -- the load is there whole, or waits for the byte `b`
    rcases incoming_cases hall with ⟨incoming, hsplit, hmore⟩ | ⟨b, after, rfl, hsplit⟩
    · cases ih (c := { c with incoming := incoming }) hwritable hmore with
      | waits passed asked ht hreaches hstream hadvance =>
        refine .waits (ofBytes taken ++ passed) asked (by rw [ht, List.append_assoc]) hreaches
          hstream ?_
        simpa [advance, hsplit] using hadvance
      | arrives asked hstream hadvance =>
        exact .arrives asked hstream (by simpa [advance, hsplit] using hadvance)
    · refine .waits [] c.asked rfl (.load _ h) hstream ?_
      rw [advance, hsplit]
      simp
  | @acknowledge count next t d h ih =>
    cases ih (c := { c with acknowledged := c.acknowledged ++ [count] }) hwritable hstream with
    | waits passed asked ht hreaches hstream hadvance =>
      refine .waits (.ready count :: passed) asked (by rw [ht]; rfl) hreaches hstream ?_
      simpa [advance, hwritable] using hadvance
    | arrives asked hstream hadvance =>
      exact .arrives asked hstream (by simpa [advance, hwritable] using hadvance)
  | @consent arguments requested next t d h ih =>
    cases ih (c := { c with asked := c.asked ++ [(arguments.length, requested)] }) hwritable
      hstream with
    | waits passed asked ht hreaches hstream hadvance =>
      exact .waits passed asked ht hreaches hstream hadvance
    | arrives asked hstream hadvance => exact .arrives asked hstream hadvance

end Instrument.Dialogue
