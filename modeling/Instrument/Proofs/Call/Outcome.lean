import Instrument.Proofs.Call.Entries
import Instrument.Proofs.Call.PackOutcome

/-!
What comes of a call, whatever its sender does. A payload of the wrong size is refused before
anything else is done. Otherwise packs are read in their order, then the buffer, and the first
obstacle decides. Main statement: decoding a call of a described operation ends with just this
outcome, never looks beyond the payload, and never takes more from the stream at once than a pack or
the largest transfer, just if no size of the operation loses anything.
-/

namespace Instrument.CallSite

open Dialogue (Answers Channel Loads)
open Exchange (Ends ends_bind ends_bind_of_error ends_bind_pure loads_bind)
open Interface (Argument ArgumentKind Buffer Operation PlacedPack extents kindsAt)
open Wire (Elements PayloadReader Scalar ScalarType TupleFormat)

variable {w : Answers} {c c' c'' : Channel} {site : CallSite} {payload : Bytes} {p : PlacedPack}
  {ps : List PlacedPack} {taken rest : List Argument} {found : Arguments}

/-! ### Packs in a row -/

/-- What comes of packs in a row, after some arguments that are found. -/
inductive PacksOutcome (w : Answers) (site : CallSite) (payload : Bytes) :
    Arguments → List PlacedPack → Channel → Except Error Arguments → Channel → Prop
  | nil (found : Arguments) (c : Channel) : PacksOutcome w site payload found [] c (.ok found) c
  | stop {found : Arguments} {p : PlacedPack} {ps : List PlacedPack} {c c' : Channel} {e : Error}
    (h : site.PackOutcome w payload p c (.error e) c') :
    PacksOutcome w site payload found (p :: ps) c (.error e) c'
  | next {found more : Arguments} {p : PlacedPack} {ps : List PlacedPack} {c c' c'' : Channel}
    {result : Except Error Arguments} (h : site.PackOutcome w payload p c (.ok more) c')
    (hrest : PacksOutcome w site payload (found ++ more) ps c' result c'') :
    PacksOutcome w site payload found (p :: ps) c result c''

theorem ends_readPacks (hplaced : Generator.ArePlaced site.operation payload ps rest)
    {result : Except Error Arguments} (h : site.PacksOutcome w payload found ps c result c') :
    Ends w (site.readPacks payload found ps) c result c' := by
  induction h generalizing rest with
  | nil found c => rfl
  | stop h =>
    cases hplaced with
    | cons hfirst _ => exact ends_bind_of_error (ends_readPack hfirst h) _
  | next h _ ih =>
    cases hplaced with
    | cons hfirst hrest => exact ends_bind (ends_readPack hfirst h) (ih hrest)

theorem exists_packsOutcome (hplaced : Generator.ArePlaced site.operation payload ps rest)
    (w : Answers) (found : Arguments) (c : Channel) :
    ∃ result c', site.PacksOutcome w payload found ps c result c' := by
  induction hplaced generalizing found c with
  | nil => exact ⟨_, _, .nil found c⟩
  | cons hfirst _ ih =>
    obtain ⟨result, c', hpack⟩ := exists_packOutcome hfirst w c
    cases result with
    | error e => exact ⟨_, _, .stop hpack⟩
    | ok more =>
      obtain ⟨result, c'', hrest⟩ := ih (found ++ more) c'
      exact ⟨_, _, .next hpack hrest⟩

/-! ### Calls -/

/-- What comes of a call. -/
inductive Outcome (w : Answers) (site : CallSite) (payload : Bytes) (c : Channel) :
    Except Error Arguments → Channel → Prop
  | size (hsize : payload.length ≠ site.operation.layout.payloadSize) :
    Outcome w site payload c (.error (.invalidPayloadSize site.device site.operation.name
      site.operation.layout.payloadSize payload.length)) c
  | stopped {e : Error} {c' : Channel} (hsize : payload.length = site.operation.layout.payloadSize)
    (hpacks : site.PacksOutcome w payload [] site.operation.layout.packs c (.error e) c') :
    Outcome w site payload c (.error e) c'
  | plain {found : Arguments} {c' : Channel}
    (hsize : payload.length = site.operation.layout.payloadSize)
    (hpacks : site.PacksOutcome w payload [] site.operation.layout.packs c (.ok found) c')
    (hnone : site.operation.buffer? = none) : Outcome w site payload c (.ok found) c'
  | buffered {found others : Arguments} {b : Buffer} {length : Scalar}
    {result : Except Error Elements} {c' c'' : Channel}
    (hsize : payload.length = site.operation.layout.payloadSize)
    (hpacks : site.PacksOutcome w payload [] site.operation.layout.packs c (.ok found) c')
    (hbuffer : site.operation.buffer? = some b)
    (hlength : found = others ++ [(b.length, .scalar length)])
    (htransfer : (site.bufferTransfer b length.bits (w.accept found length.bits)).Outcome w
      (c'.askedFor found length.bits) result c'') :
    Outcome w site payload c
      (result.map fun values => found ++ [(b.pointer, .buffer values)]) c''

variable {result : Except Error Arguments}

theorem ends_receiveBuffer {b : Buffer} {length : Scalar} {result : Except Error Elements}
    (hlt : length.bits < UInt32.size)
    (hword : found.word b.length = .ok (UInt32.ofNat length.bits))
    (h : (site.bufferTransfer b length.bits (w.accept found length.bits)).Outcome w
      (c.askedFor found length.bits) result c') :
    Ends w (site.receiveBuffer found b) c result c' := by
  have hbits : (UInt32.ofNat length.bits).toNat = length.bits := UInt32.toNat_ofNat_of_lt' hlt
  have hlift : Ends w (.lift (.ok (UInt32.ofNat length.bits))) c (.ok (.ofNat length.bits)) c := rfl
  rw [receiveBuffer, hword]
  refine ends_bind hlift ?_
  simp only [hbits]
  exact ends_bind rfl (Transfer.ends_of_outcome h)

/-- A call is decoded with the outcome that it has. -/
theorem ends_decode (hop : site.operation.IsDescribed) (hfits : site.operation.Fits)
    (h : site.Outcome w payload c result c') :
    Ends w (site.decode site.operation.layout payload) c result c' := by
  unfold decode
  cases h with
  | size hsize =>
    rw [if_pos hsize]
    rfl
  | stopped hsize hpacks =>
    rw [if_neg (not_not.2 hsize)]
    exact ends_bind_of_error (ends_readPacks (Generator.arePlaced_layout hfits hsize) hpacks) _
  | plain hsize hpacks hnone =>
    rw [if_neg (not_not.2 hsize)]
    refine ends_bind (ends_readPacks (Generator.arePlaced_layout hfits hsize) hpacks) ?_
    rw [hnone]
    rfl
  | @buffered found others b length result _ _ hsize hpacks hbuffer hlength htransfer =>
    rw [if_neg (not_not.2 hsize)]
    have hreads := ends_readPacks (Generator.arePlaced_layout hfits hsize) hpacks
    refine ends_bind hreads ?_
    have hfound := forall₂_isEntryOf_of_ends hreads
    obtain ⟨others', length', hlength', hlt, hword, -⟩ := exists_length_entry hop hbuffer hfound
    obtain ⟨-, hsame⟩ := List.append_inj' (hlength.symm.trans hlength') rfl
    cases hsame
    rw [hbuffer]
    exact ends_bind_pure (ends_receiveBuffer hlt hword htransfer) _

theorem exists_outcome (hop : site.operation.IsDescribed) (hfits : site.operation.Fits)
    (w : Answers) (payload : Bytes) (c : Channel) :
    ∃ result c', site.Outcome w payload c result c' := by
  by_cases hsize : payload.length = site.operation.layout.payloadSize
  · have hplaced := Generator.arePlaced_layout hfits hsize
    obtain ⟨result, c', hpacks⟩ : ∃ result c',
        site.PacksOutcome w payload [] site.operation.layout.packs c result c' :=
      exists_packsOutcome hplaced w [] c
    cases result with
    | error e => exact ⟨_, _, .stopped hsize hpacks⟩
    | ok found =>
      cases hbuffer : site.operation.buffer? with
      | none => exact ⟨_, _, .plain hsize hpacks hbuffer⟩
      | some b =>
        have hfound := forall₂_isEntryOf_of_ends (ends_readPacks hplaced hpacks)
        obtain ⟨others, length, hlength, -⟩ := exists_length_entry hop hbuffer hfound
        obtain ⟨result, c'', htransfer⟩ :=
          (site.bufferTransfer b length.bits (w.accept found length.bits)).exists_outcome w
            (c'.askedFor found length.bits)
        exact ⟨_, _, .buffered hsize hpacks hbuffer hlength htransfer⟩
  · exact ⟨_, _, .size hsize⟩

theorem ends_decode_iff (hop : site.operation.IsDescribed) (hfits : site.operation.Fits) :
    Ends w (site.decode site.operation.layout payload) c result c' ↔
      site.Outcome w payload c result c' := by
  refine ⟨fun h => ?_, ends_decode hop hfits⟩
  obtain ⟨result', c'', houtcome⟩ := exists_outcome hop hfits w payload c
  cases h.symm.trans (ends_decode hop hfits houtcome)
  exact houtcome

/-! ### Loads -/

/-- Whether so many bytes are those of a pack in the stream, or no more than the largest
transfer. -/
def IsLoadSize (packs : List PlacedPack) (size : Nat) : Prop :=
  size ≤ maxTransfer ∨ ∃ p ∈ packs, p.region = .reload ∧ size = p.size

theorem loads_exchange_isLoadSize (packs : List PlacedPack) (t : Transfer) :
    t.exchange.run.Loads (IsLoadSize packs) :=
  Dialogue.loads_mono (fun _ => .inl) t.loads_exchange

theorem loads_readSingle (packs : List PlacedPack) (size : Nat) (r : PayloadReader) (a : Argument) :
    (site.readSingle size r a).run.Loads (IsLoadSize packs) := by
  unfold readSingle
  split
  · refine loads_bind ?_ fun _ => trivial
    exact loads_bind trivial fun count =>
      loads_exchange_isLoadSize packs (site.vectorTransfer _ count.1.bits)
  · exact loads_bind trivial fun _ => trivial
  · exact loads_bind trivial fun _ => trivial

theorem loads_readPack {packs : List PlacedPack} (hp : p ∈ packs) :
    (site.readPack payload p).run.Loads (IsLoadSize packs) := by
  refine loads_bind ?_ fun bytes => ?_
  · cases hregion : p.region with
    | envelope offset =>
      simp only [packBytes, hregion]
      split <;> trivial
    | reload =>
      rw [packBytes, hregion]
      exact Exchange.loads_load (P := IsLoadSize packs) (.inr ⟨p, hp, hregion, rfl⟩) _
  · have hmapM (r : PayloadReader) (arguments : List Argument) :
        (arguments.mapM fun a => return (a.name, ← site.readSingle p.size r a) :
          Exchange Arguments).run.Loads (IsLoadSize packs) := by
      refine Exchange.loads_mapM (fun a => ?_) arguments
      exact loads_bind (loads_readSingle packs _ r a) fun _ => trivial
    simp only
    split
    · trivial
    · exact hmapM _ _
    · exact hmapM _ _

theorem loads_readPacks {packs : List PlacedPack} (found : Arguments) (h : ∀ p ∈ ps, p ∈ packs) :
    (site.readPacks payload found ps).run.Loads (IsLoadSize packs) := by
  induction ps generalizing found with
  | nil => trivial
  | cons p ps ih =>
    obtain ⟨hp, hps⟩ := List.forall_mem_cons.1 h
    exact loads_bind (loads_readPack hp) fun more => ih (found ++ more) hps

/-- Decoding takes at once either a pack or no more than the largest transfer. -/
theorem loads_decode (layout : Interface.Layout) :
    (site.decode layout payload).run.Loads (IsLoadSize layout.packs) := by
  unfold decode
  by_cases hsize : payload.length ≠ layout.payloadSize
  · rw [if_pos hsize]
    trivial
  · rw [if_neg hsize]
    refine loads_bind (loads_readPacks [] fun _ => id) fun found => ?_
    split
    · trivial
    · refine loads_bind ?_ fun _ => trivial
      exact loads_bind trivial fun requested => loads_bind (fun _ => trivial) fun accepted =>
        loads_exchange_isLoadSize _ (site.bufferTransfer _ requested.toNat accepted)

/-! ### Errors -/

/-- The errors that an obstacle can have. -/
inductive IsObstacle (site : CallSite) : Error → Prop
  | pack {p : PlacedPack} (hp : p ∈ site.operation.layout.packs) (hregion : p.region = .reload) :
    IsObstacle site (.bufferReload site.device site.operation.name p.size)
  | vector {a : Argument} (ha : a ∈ site.operation.arguments)
    (hvector : a.kind.category = .vector) : IsObstacle site site.vectorReceive
  | refused {b : Buffer} (hbuffer : site.operation.buffer? = some b) {requested ready : Nat}
    (hne : ready ≠ requested) :
    IsObstacle site
      (.device site.device site.operation.name (.bufferRefused requested ready))
  | buffer {b : Buffer} (hbuffer : site.operation.buffer? = some b) :
    IsObstacle site site.arrayExtract

theorem isObstacle_of_packOutcome (hp : p ∈ site.operation.layout.packs) {e : Error}
    (h : site.PackOutcome w payload p c (.error e) c') :
    (∃ c k, w.tell c k = .error e) ∨ site.IsObstacle e := by
  generalize hresult : Except.error e = result at h
  cases h with
  | missing hregion _ =>
    cases hresult
    exact .inr (.pack hp hregion)
  | scalars => cases hresult
  | array => cases hresult
  | @vector a element _ _ result _ _ ha hkind _ _ htransfer =>
    cases result with
    | ok values => cases hresult
    | error e' =>
      cases hresult
      have hmem : a ∈ site.arguments p.members := ha ▸ List.mem_singleton_self a
      obtain ⟨i, -, hi⟩ := List.mem_filterMap.1 hmem
      have hvector : site.IsObstacle site.vectorReceive :=
        .vector (List.mem_of_getElem? hi) (by rw [hkind]; rfl)
      rcases Transfer.error_of_outcome htransfer with htold | rfl | ⟨-, rfl⟩
      · exact .inl htold
      · exact .inr hvector
      · exact .inr hvector

theorem isObstacle_of_packsOutcome (hps : ∀ p ∈ ps, p ∈ site.operation.layout.packs) {e : Error}
    (h : site.PacksOutcome w payload found ps c (.error e) c') :
    (∃ c k, w.tell c k = .error e) ∨ site.IsObstacle e := by
  generalize hresult : Except.error e = result at h
  induction h with
  | nil => cases hresult
  | stop h =>
    cases hresult
    exact isObstacle_of_packOutcome (List.forall_mem_cons.1 hps).1 h
  | next _ _ ih => exact ih (List.forall_mem_cons.1 hps).2 hresult

theorem isObstacle_of_outcome (hsize : payload.length = site.operation.layout.payloadSize)
    {e : Error} (h : site.Outcome w payload c (.error e) c') :
    (∃ c k, w.tell c k = .error e) ∨ site.IsObstacle e := by
  generalize hresult : Except.error e = result at h
  cases h with
  | size hne => exact absurd hsize hne
  | stopped _ hpacks =>
    cases hresult
    exact isObstacle_of_packsOutcome (fun _ => id) hpacks
  | plain => cases hresult
  | @buffered _ _ b length result _ _ _ _ hbuffer _ htransfer =>
    cases result with
    | ok values => cases hresult
    | error e' =>
      cases hresult
      rcases Transfer.error_of_outcome htransfer with htold | rfl | ⟨hne, rfl⟩
      · exact .inl htold
      · exact .inr (.buffer hbuffer)
      · exact .inr (.refused hbuffer hne)

/-! ### Any call -/

/-- Whether a call is decoded with just the outcome that it has, whatever the payload, the stream
and the caller are: sizes count every byte, no pack reaches beyond a payload of the right size, no
load is larger than a pack or the largest transfer, and every error after a payload of the right
size is that of telling the caller a count or belongs to an obstacle. -/
structure DecodesSafely (site : CallSite) : Prop where
  sizes : ∀ p ∈ site.operation.layout.packs,
    p.size = extents (kindsAt (site.operation.arguments.map (·.kind)) p.members)
  inside : ∀ payload : Bytes, payload.length = site.operation.layout.payloadSize →
    ∀ p ∈ site.operation.layout.packs, Generator.IsInside payload p
  loads : ∀ payload : Bytes, (site.decode site.operation.layout payload).run.Loads
    (IsLoadSize site.operation.layout.packs)
  outcome : ∀ (payload : Bytes) (w : Answers) (c c' : Channel) (result : Except Error Arguments),
    Ends w (site.decode site.operation.layout payload) c result c' ↔
      site.Outcome w payload c result c'
  obstacle : ∀ (payload : Bytes) (w : Answers) (c c' : Channel) (e : Error),
    payload.length = site.operation.layout.payloadSize →
      Ends w (site.decode site.operation.layout payload) c (.error e) c' →
        (∃ c k, w.tell c k = .error e) ∨ site.IsObstacle e

/-- A call of a described operation is decoded safely just if the bytes of each pack and those of
the envelope are as many as a size can tell. -/
theorem decode_outcome (hop : site.operation.IsDescribed) :
    site.DecodesSafely ↔ site.operation.Fits := by
  constructor
  · intro h
    have hinside := h.inside (List.replicate site.operation.layout.payloadSize 0)
      List.length_replicate
    refine Interface.fits_of_packs (fun p hp => ?_) fun p hp start hregion => ?_
    · exact h.sizes p hp ▸ Interface.size_lt_of_mem_layout hp
    · have hend := hinside p hp start hregion
      rwa [List.length_replicate, h.sizes p hp] at hend
  · intro hfits
    exact ⟨fun p hp => hfits.size_eq hp,
      fun payload hsize p hp start hregion => hsize ▸ hfits.end_le hp hregion,
      fun _ => loads_decode _, fun _ _ _ _ _ => ends_decode_iff hop hfits,
      fun _ _ _ _ _ hsize h => isObstacle_of_outcome hsize ((ends_decode_iff hop hfits).1 h)⟩

/-- A sweep with a vector of one element more than the receiver is ready for. -/
def longSweep : Bytes := [0, 7] ++ [1, 0, 2, 0] ++ [0, 0, 0, 0, 1, 0, 0, 1]

theorem decode_outcome_longSweep :
    Operation.sweep.IsDescribed ∧
      Ends ⟨fun _ n => n, fun _ _ => .ok ()⟩
        (decode ⟨"Scope", .sweep⟩ Operation.sweep.layout longSweep) { incoming := [1, 2, 3] }
        (.error (.vectorReceive "Scope" "sweep"))
        { incoming := [1, 2, 3], acknowledged := [16777216] } := by
  have hsafe : DecodesSafely ⟨"Scope", .sweep⟩ :=
    (decode_outcome Operation.isDescribed_sweep).2 (by decide)
  refine ⟨Operation.isDescribed_sweep, (hsafe.outcome _ _ _ _ _).2 ?_⟩
  have hpacks : Operation.sweep.layout.packs = [⟨.scalar, [0], .envelope 0, 2⟩,
      ⟨.array, [1], .envelope 2, 4⟩, ⟨.vector, [2], .envelope 6, 8⟩,
      ⟨.scalar, [3], .reload, 1⟩] := by
    decide
  have hbytes (p : PlacedPack) (offset : Nat) (hregion : p.region = .envelope offset)
      (hinside : offset + p.size ≤ longSweep.length) (c : Channel) :
      BytesOf longSweep p c ((longSweep.drop offset).take p.size) c := .envelope hregion hinside
  refine .stopped (by decide) ?_
  rw [hpacks]
  refine .next (.scalars rfl (hbytes _ 0 rfl (by decide) _) rfl) ?_
  refine .next (@PackOutcome.array _ _ _ _ _ _ ⟨.i16, [1, 0, 2, 0], rfl⟩ _ rfl rfl
    (hbytes _ 2 rfl (by decide) _)) ?_
  exact .stop (@PackOutcome.vector _ _ _ _ _ _ _ _ _ (.error _) _ _ rfl rfl
    (hbytes _ 6 rfl (by decide) _) rfl
    (@Transfer.Outcome.refused _ _ _ 16777216 (by decide) rfl (by decide)))

/-! ### An array that leaves nothing of its size -/

/-- An operation with an array of `2 ^ 64 - 1` bytes and a byte behind it. -/
def longSet : Operation where
  name := "set"
  tag := "SET"
  id := 0
  resultType := "void"
  result := .void
  mode := .write
  arguments := [⟨"a", "std::array<uint8_t, 18446744073709551615>", false, false,
      .array .u8 18446744073709551615⟩,
    ⟨"b", "uint8_t", false, false, .scalar .u8⟩]
  buffer? := none
  lengthExpression? := none
  line := 3

/-- The class is accepted, its operation is called with an empty payload, and decoding looks for the
array beyond it. -/
theorem not_decodesSafely_longSet :
    Interface.Description.ofClass [] ⟨"Pump", 1, [⟨"set", 3, "void",
        [⟨some "a", "std::array<uint8_t, 18446744073709551615>"⟩, ⟨some "b", "uint8_t"⟩], true⟩]⟩ =
      .ok ⟨"Pump", "PUMP", 0, [longSet], none⟩ ∧
    longSet.layout.payloadSize = 0 ∧
    Ends ⟨fun _ n => n, fun _ _ => .ok ()⟩ (decode ⟨"Pump", longSet⟩ longSet.layout [])
      { incoming := [] } (.error (.system (.outOfRange 0 18446744073709551615 0)))
      { incoming := [] } ∧
    ¬DecodesSafely ⟨"Pump", longSet⟩ := by
  have hends : Ends ⟨fun _ n => n, fun _ _ => .ok ()⟩
      (decode ⟨"Pump", longSet⟩ longSet.layout []) { incoming := [] }
      (.error (.system (.outOfRange 0 18446744073709551615 0))) { incoming := [] } := by
    rfl
  refine ⟨rfl, by decide, hends, fun hsafe => ?_⟩
  rcases hsafe.obstacle _ _ _ _ _ (by decide) hends with ⟨_, _, htell⟩ | hobstacle
  · cases htell
  · cases hobstacle

end Instrument.CallSite
