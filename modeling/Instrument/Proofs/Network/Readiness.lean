import Instrument.Proofs.Network.Handshake

/-!
How a call is read to its end, or not. Main statement: whatever its device is ready for, either the
arguments of a call are read to the end and just the numbers are told that its client waits for, or
the first number that differs is one for which the client gives up.
-/

namespace Instrument

open Dialogue (Completes Reaches)
open Interface (ArePassed Buffer Operation)
open Network.Client (Part Request Step)
open Wire (Elements Scalar)

theorem List.all_or_first {α : Type} (P : α → Prop) (as : List α) :
    (∀ a ∈ as, P a) ∨ ∃ before a after, as = before ++ a :: after ∧ (∀ b ∈ before, P b) ∧ ¬P a := by
  induction as with
  | nil => exact .inl nofun
  | cons a as ih =>
    by_cases ha : P a
    · rcases ih with hall | ⟨before, b, after, rfl, hbefore, hb⟩
      · exact .inl (List.forall_mem_cons.2 ⟨ha, hall⟩)
      · exact .inr ⟨a :: before, b, after, rfl, List.forall_mem_cons.2 ⟨ha, hbefore⟩, hb⟩
    · exact .inr ⟨[], a, as, rfl, nofun, ha⟩

/-! ### What a client waits for -/

/-- The number of elements that a client wants to send in a step. -/
def Network.Client.Step.sizes : Step → List Nat
  | .bytes _ => []
  | .transfer values => [values.size]

/-- The numbers of elements that a client wants to send after the envelope. -/
def Network.Client.Request.sizes (r : Request) : List Nat := r.allSteps.flatMap Step.sizes

theorem map_toNat_counts {steps : List Step}
    (h : ∀ values, Step.transfer values ∈ steps → values.size < UInt32.size) :
    (Transcript.counts (steps.flatMap Step.transcript)).map UInt32.toNat =
      steps.flatMap Step.sizes := by
  induction steps with
  | nil => rfl
  | cons step steps ih =>
    have hrest := ih fun values hmem => h values (List.mem_cons_of_mem _ hmem)
    rw [List.flatMap_cons, List.flatMap_cons, Transcript.counts_append, List.map_append, hrest]
    congr 1
    cases step with
    | bytes bs => simp [Step.transcript, Step.sizes]
    | transfer values =>
      have hsize := UInt32.toNat_ofNat_of_lt' (h values (List.mem_cons_self ..))
      simp [Step.transcript, Transcript.transfer, Step.sizes, hsize]

/-! ### Verdicts -/

/-- What becomes of a call whose client sends some bytes and wants to send some numbers of
elements. -/
inductive Verdict (accept : Arguments → Nat → Nat) (d : Dialogue (Except Error Arguments))
    (bytes : Bytes) (sizes : List Nat) (received : Arguments) : Prop
  | completes {t : Transcript} (hreaches : Completes accept d t (.ok received))
      (hbytes : t.bytes = bytes) (hcounts : t.counts.map UInt32.toNat = sizes)
  | refuses {t : Transcript} {n : UInt32} {size : Nat} {later : List Nat}
      {d' : Dialogue (Except Error Arguments)} (hreaches : Reaches accept d (t ++ [.ready n]) d')
      (hbytes : t.bytes <+: bytes) (hcounts : sizes = t.counts.map UInt32.toNat ++ size :: later)
      (hne : n.toNat ≠ size)

namespace CallSite

variable {site : CallSite} {accept : Arguments → Nat → Nat} {parts : List Part}

theorem verdict_of_completes (hop : site.operation.IsDescribed)
    (hcall : site.operation.IsCall parts) (htransferable : ∀ p ∈ parts, p.IsTransferable)
    (hready : ∀ values, Part.buffer values ∈ parts →
      min (accept (site.operation.received parts).dropLast values.size)
        (transferLimit values.type) = values.size) :
    Verdict accept
      (site.decode site.operation.layout (Request.ofParts parts).envelope.bytes).run
      (Request.ofParts parts).transcript.bytes (Request.ofParts parts).sizes
      (site.operation.received parts) := by
  obtain ⟨henvelope, htranscript⟩ := Request.ofParts_eq hop hcall
  have hcompletes := completes_decode_of_ready hop hcall htransferable hready
  rw [← henvelope, ← htranscript] at hcompletes
  exact .completes hcompletes rfl
    (map_toNat_counts fun values => Network.Client.size_lt_of_mem_allSteps htransferable)

theorem verdict_of_vector (hop : site.operation.IsDescribed) {before after : List Part}
    {values : Elements} (hcall : site.operation.IsCall (before ++ .vector values :: after))
    (htransferable : ∀ q ∈ before, q.IsTransferable) (hsize : values.size < UInt64.size)
    (hlimit : transferLimit values.type < values.size) :
    Verdict accept
      (site.decode site.operation.layout
        (Request.ofParts (before ++ .vector values :: after)).envelope.bytes).run
      (Request.ofParts (before ++ .vector values :: after)).transcript.bytes
      (Request.ofParts (before ++ .vector values :: after)).sizes
      (site.operation.received (before ++ .vector values :: after)) := by
  have hrefused : IsRefused site accept
      (site.operation.received (before ++ .vector values :: after)).dropLast (.vector values) values
      (transferLimit values.type) site.vectorReceive :=
    .vector values (by rw [Nat.mod_eq_of_lt hsize, Nat.min_eq_right (Nat.le_of_lt hlimit)])
      (Nat.ne_of_lt hlimit)
  have hannounced : transferLimit values.type ≠ (Part.vector values).announced := by
    rw [Part.announced, Nat.mod_eq_of_lt hsize]
    exact Nat.ne_of_lt hlimit
  have hcompletes := completes_decode_refused hop hcall htransferable hrefused hannounced
  obtain ⟨steps, rest, hall, hsteps, hvectors⟩ := Request.exists_steps hop hcall hrefused
  -- the counts before the refusal are the sizes of the vectors that went through
  have hcounts : (Part.untilTransfer before (.vector values)).counts.map UInt32.toNat =
      steps.flatMap Step.sizes := by
    rw [← hsteps]
    exact map_toNat_counts fun values' hmem =>
      Part.size_lt_of_le_transferLimit (htransferable _ (hvectors values' hmem))
  have hn : (UInt32.ofNat (transferLimit values.type)).toNat = transferLimit values.type :=
    UInt32.toNat_ofNat_of_lt' hrefused.ready_lt
  rw [← (Request.ofParts_eq hop hcall).1] at hcompletes
  have hsizes : (Request.ofParts (before ++ .vector values :: after)).sizes =
      (Part.untilTransfer before (.vector values)).counts.map UInt32.toNat ++
        values.size :: rest.flatMap Step.sizes := by
    rw [Request.sizes, hall, hcounts, List.flatMap_append]
    rfl
  refine .refuses hcompletes ?_ hsizes ?_
  · rw [Request.transcript, hall, List.flatMap_append, Transcript.bytes_append, hsteps]
    exact List.prefix_append _ _
  · rw [hn]
    exact Nat.ne_of_lt hlimit

/-- Whatever number of elements the device is ready for, the client is told it. -/
theorem exists_reaches_receiveBuffer (site : CallSite) (accept : Arguments → Nat → Nat)
    {found : Arguments} {b : Buffer} {n : Nat}
    (hfound : found.find? b.length = some (.scalar (Scalar.ofBits .u32 n))) :
    ∃ d, Reaches accept (site.receiveBuffer found b).run
      [.ready (UInt32.ofNat (min (accept found (n % UInt32.size)) (transferLimit b.element)))]
      d := by
  unfold receiveBuffer
  rw [word_of_find? hfound]
  have hgo {β : Type} {x : Exchange β} {f : β → Exchange Elements} {a : β} {u : Transcript}
      (hx : Completes accept x.run [] (.ok a)) (hf : ∃ d, Reaches accept (f a).run u d) :
      ∃ d, Reaches accept (x >>= f).run u d :=
    hf.imp fun d hd => Exchange.reaches_bind hx hd
  refine hgo (Exchange.completes_lift _) (hgo (Exchange.completes_consent _ _) ?_)
  simp only [UInt32.toNat_ofNat']
  exact ⟨_, Exchange.reaches_bind (Exchange.completes_acknowledge _) (.refl _)⟩

theorem verdict_of_buffer (hop : site.operation.IsDescribed) {b : Buffer} {values : Elements}
    (hbuffer : site.operation.buffer? = some b)
    (hparts : ArePassed site.operation.arguments.dropLast parts) (htype : values.type = b.element)
    (hfits : site.operation.Fits) :
    Verdict accept
      (site.decode site.operation.layout
        (Request.ofParts (parts ++ [.buffer values])).envelope.bytes).run
      (Request.ofParts (parts ++ [.buffer values])).transcript.bytes
      (Request.ofParts (parts ++ [.buffer values])).sizes
      (site.operation.received (parts ++ [.buffer values])) := by
  have hcall : site.operation.IsCall (parts ++ [.buffer values]) :=
    .buffered hbuffer hparts htype hfits
  obtain ⟨others, length, harguments, hlength⟩ := hop.exists_isLengthOf hbuffer
  rw [harguments, List.dropLast_concat] at hparts
  have hnone := flatMap_transfer_of_arePassed hparts hlength.noVector
  have htransferable : ∀ p ∈ parts, p.IsTransferable := by
    intro p hp
    have htransfer := List.flatMap_eq_nil_iff.1 hnone p hp
    cases p with
    | scalar | array => trivial
    | vector | buffer => cases htransfer
  let found := (site.operation.received (parts ++ [.buffer values])).dropLast
  by_cases hready : min (accept found values.size) (transferLimit values.type) = values.size
  · refine verdict_of_completes hop hcall (fun p hp => ?_) fun values' hmem => ?_
    · rcases List.mem_append.1 hp with hp | hp
      · exact htransferable p hp
      · rw [List.mem_singleton.1 hp]
        exact Nat.le_trans (Nat.le_of_eq hready.symm) (Nat.min_le_right _ _)
    · rcases List.mem_append.1 hmem with hmem | hmem
      · cases List.flatMap_eq_nil_iff.1 hnone _ hmem
      · cases List.mem_singleton.1 hmem
        exact hready
  · have hfound := find?_length values harguments hlength hparts
    obtain ⟨d, hreceive⟩ := exists_reaches_receiveBuffer site accept hfound
    have hreaches := reaches_decode_of_receiveBuffer hbuffer harguments hlength hparts hfits
      htransferable (Dialogue.reaches_bind (ExceptT.bindCont fun values' => pure
        (named site.operation.arguments (counted parts values) ++
          [(b.pointer, ArgumentValue.buffer values')])) hreceive)
    have hall : (Request.ofParts (parts ++ [.buffer values])).allSteps = [.transfer values] := by
      rw [Request.ofParts, List.foldl_concat, Request.foldl_add_of_transfer_nil (r := {}) hnone rfl]
      rfl
    rw [← (Request.ofParts_eq hop hcall).1, ← List.nil_append [Event.ready _]] at hreaches
    have hsizes : (Request.ofParts (parts ++ [.buffer values])).sizes = [values.size] := by
      rw [Request.sizes, hall]
      rfl
    refine .refuses hreaches List.nil_prefix hsizes ?_
    -- the count fits a word, so that it is the size only if the size does too
    intro heq
    refine hready ?_
    have hlt : min (accept (named site.operation.arguments (counted parts values))
        (values.size % UInt32.size)) (transferLimit b.element) < UInt32.size :=
      Part.size_lt_of_le_transferLimit (Nat.min_le_right _ _)
    rw [UInt32.toNat_ofNat_of_lt' hlt] at heq
    have hmod : values.size % UInt32.size = values.size := Nat.mod_eq_of_lt (heq ▸ hlt)
    rw [hmod, ← (dropLast_received values hbuffer harguments hparts).2, ← htype] at heq
    exact heq

/-- Whatever its device is ready for, a call is read to its end or its client is told a number that
it gives up for. -/
theorem verdict (hop : site.operation.IsDescribed) (hcall : site.operation.IsCall parts)
    (hsized : ∀ values, .vector values ∈ parts → values.size < UInt64.size)
    (accept : Arguments → Nat → Nat) :
    Verdict accept
      (site.decode site.operation.layout (Request.ofParts parts).envelope.bytes).run
      (Request.ofParts parts).transcript.bytes (Request.ofParts parts).sizes
      (site.operation.received parts) := by
  cases hcall with
  | buffered hbuffer hparts htype hfits =>
    exact verdict_of_buffer hop hbuffer hparts htype hfits
  | plain hnone hparts hfits =>
    have hcall : site.operation.IsCall parts := .plain hnone hparts hfits
    have hkinds := Interface.isOf_of_arePassed hparts
    rcases List.all_or_first Part.IsTransferable parts with
      htransferable | ⟨before, p, after, rfl, hbefore, hp⟩
    · refine verdict_of_completes hop hcall htransferable fun values hmem => ?_
      obtain ⟨kind, hkind⟩ := hkinds _ hmem
      exact absurd hkind not_isOf_buffer
    · have hmem : p ∈ before ++ p :: after := by simp
      obtain ⟨kind, hkind⟩ := hkinds p hmem
      cases hkind with
      | scalar | array => exact absurd trivial hp
      | vector values =>
        exact verdict_of_vector hop hcall hbefore (hsized values hmem) (Nat.lt_of_not_le hp)

end CallSite

end Instrument
