import Instrument.Proofs.Call.Passing
import Instrument.Proofs.Interface.Plan
import Instrument.Proofs.Wire.Payload

/-!
Reading what is passed in a call. A pack is read from the bytes of the parts that it takes up,
wherever they travel; packs in a row are read one after the other. Main statement: the packs of an
operation are read from the envelope and from what follows it, whatever the arguments are.
-/

namespace Instrument

open Wire (Scalar Elements PayloadReader)
open Interface (Argument ArePassed Pack PlacedPack TakeUp packSize placeInEnvelope)
open Network.Client (Part)
open Dialogue (Completes)
open Transcript (ofBytes)

namespace CallSite

variable {site : CallSite} {accept : Arguments → Nat → Nat}

/-! ### Packs -/

/-- The names and the values of what is passed for some arguments. -/
def named (arguments : List Argument) (parts : List Part) : Arguments :=
  (arguments.map (·.name)).zip (parts.map Part.value)

theorem named_append {arguments arguments' : List Argument} {parts parts' : List Part}
    (h : ArePassed arguments parts) :
    named (arguments ++ arguments') (parts ++ parts') =
      named arguments parts ++ named arguments' parts' := by
  have hlen : (arguments.map (·.name)).length = (parts.map Part.value).length := by
    simpa using h.length_eq
  rw [named, List.map_append, List.map_append, List.zip_append hlen]
  rfl

theorem readScalars_of_arePassed (size : Nat) {arguments : List Argument} {parts : List Part}
    (h : ArePassed arguments parts) (hscalar : ∀ a ∈ arguments, a.kind.category = .scalar)
    {r : PayloadReader} (tail : Bytes)
    (hr : r.buffer.drop r.position = parts.flatMap Part.packed ++ tail) :
    site.readScalars size r arguments = .ok (named arguments parts) := by
  induction h generalizing r with
  | nil => rfl
  | @cons a p arguments parts hfirst _ ih =>
    have hcategory := hscalar a (List.mem_cons_self ..)
    generalize hkind : a.kind = kind at hfirst hcategory
    cases hfirst with
    | array | vector => cases hcategory
    | scalar value =>
      rw [List.flatMap_cons, List.append_assoc] at hr
      obtain ⟨r', hread, hdrop⟩ := PayloadReader.readScalar?_of_drop hr
      have helement : a.kind.element = value.type := by rw [hkind]; rfl
      have hrest := ih (fun a ha => hscalar a (List.mem_cons_of_mem _ ha)) hdrop
      simp only [readScalars, helement, hread, hrest]
      rfl

theorem completes_receiveVector {values : Elements} (h : (Part.vector values).IsTransferable)
    {r : PayloadReader} (hr : r.buffer.drop r.position = (Part.vector values).packed) :
    Completes accept (site.receiveVector values.type r).run (.transfer values) (.ok values) := by
  have hlimit := Part.transferLimit_le values.type
  have hsize : values.size ≤ transferLimit values.type := h
  rw [← List.append_nil (Part.packed _)] at hr
  obtain ⟨r', hread, _⟩ := PayloadReader.readScalar?_of_drop hr
  have hbits : (Scalar.ofBits .u64 values.size).bits = values.size :=
    Nat.mod_eq_of_lt (Nat.lt_of_le_of_lt (Nat.le_trans hsize hlimit) (by decide))
  rw [Scalar.type_ofBits] at hread
  unfold receiveVector
  rw [hread, ← List.nil_append (Transcript.transfer _)]
  refine Exchange.completes_bind (Exchange.completes_require _ _) ?_
  simp only [hbits, Nat.min_eq_left hsize, ne_eq, not_true_eq_false, if_false]
  refine Exchange.completes_bind (t := [.ready _]) (Exchange.completes_acknowledge _) ?_
  rw [← List.append_nil (List.map _ _), ← values.length_raw]
  refine Exchange.completes_bind (Exchange.completes_load _ _) ?_
  rw [values.ofBytes?_raw]
  exact Exchange.completes_require _ _

/-- The argument with a pack of its own is read from its bytes and its transfer. -/
theorem completes_readSingle {a : Argument} {p : Part} (h : Part.IsOf a.kind p)
    (hcategory : a.kind.category ≠ .scalar) (htransferable : p.IsTransferable) :
    Completes accept (site.readSingle p.packed.length (PayloadReader.ofBytes p.packed) a).run
      p.transfer (.ok p.value) := by
  generalize hkind : a.kind = kind at h hcategory
  cases h with
  | scalar => exact absurd rfl hcategory
  | array values =>
    obtain ⟨r, hread⟩ := PayloadReader.readElements?_raw values
    have hcount : (Part.array values).packed.length / values.type.width = values.size := rfl
    simp only [readSingle, hkind]
    rw [hcount, Part.packed, hread]
    exact Exchange.completes_bind (Exchange.completes_require _ _) (Exchange.completes_pure _)
  | vector values =>
    simp only [readSingle, hkind]
    rw [← List.append_nil (Part.transfer _)]
    exact Exchange.completes_bind
      (completes_receiveVector htransferable List.drop_zero) (Exchange.completes_pure _)

/-- A pack takes up some arguments, for which some parts are passed. -/
inductive IsLoad (site : CallSite) : Pack → List Argument → List Part → Prop
  | scalars {members : List Nat} {arguments : List Argument} {parts : List Part}
      (hmembers : site.arguments members = arguments)
      (hscalar : ∀ a ∈ arguments, a.kind.category = .scalar)
      (hparts : ArePassed arguments parts) (hheld : Part.AreHeld parts) :
      IsLoad site ⟨.scalar, members⟩ arguments parts
  | single {members : List Nat} {a : Argument} {p : Part} (hmembers : site.arguments members = [a])
      (hne : a.kind.category ≠ .scalar) (hpart : Part.IsOf a.kind p) (hheld : Part.AreHeld [p]) :
      IsLoad site ⟨a.kind.category, members⟩ [a] [p]

theorem flatMap_transfer_of_arePassed {arguments : List Argument} {parts : List Part}
    (h : ArePassed arguments parts) (hvector : ∀ a ∈ arguments, a.kind.category ≠ .vector) :
    parts.flatMap Part.transfer = [] := by
  induction h with
  | nil => rfl
  | @cons a p _ _ hfirst _ ih =>
    rw [List.flatMap_cons, Part.transfer_of_isOf hfirst (hvector a (List.mem_cons_self ..)),
      List.nil_append]
    exact ih fun a ha => hvector a (List.mem_cons_of_mem _ ha)

/-- What follows a part of the payload begins inside it. -/
theorem offset_lt {payload before inside after : Bytes} {size : Nat} (hsize : inside.length = size)
    (hpayload : payload = before ++ (inside ++ after)) (hheld : payload.length < UInt64.size) :
    before.length + size < UInt64.size := by
  rw [hpayload, List.length_append, List.length_append, hsize] at hheld
  omega

namespace IsLoad

variable {pack : Pack} {arguments : List Argument} {parts : List Part}

theorem arePassed (h : IsLoad site pack arguments parts) : ArePassed arguments parts := by
  cases h with
  | scalars _ _ hparts => exact hparts
  | single _ _ hpart => exact .cons hpart .nil

theorem held (h : IsLoad site pack arguments parts) : Part.AreHeld parts := by
  cases h <;> assumption

theorem arguments_members (h : IsLoad site pack arguments parts) :
    site.arguments pack.members = arguments := by
  cases h <;> assumption

theorem length_packed (h : IsLoad site pack arguments parts) :
    (parts.flatMap Part.packed).length =
      packSize (site.operation.arguments.map (·.kind)) pack.members := by
  have hlength := Interface.length_flatMap_packed h.arePassed
  have hkinds : Interface.kindsAt (site.operation.arguments.map (·.kind)) pack.members =
      arguments.map (·.kind) := by
    rw [← h.arguments_members, CallSite.arguments, List.map_filterMap]
    simp only [Interface.kindsAt, List.getElem?_map]
  rw [Interface.packSize_eq_wrap, hkinds, ← hlength, Interface.wrap_of_lt h.held]

theorem transfer_of_ne_vector (h : IsLoad site pack arguments parts)
    (hvector : pack.category ≠ .vector) : parts.flatMap Part.transfer = [] := by
  refine flatMap_transfer_of_arePassed h.arePassed ?_
  cases h with
  | scalars _ hscalar => simp +contextual [hscalar]
  | single => simpa using hvector

/-- The bytes of a pack that travels in the envelope are there. -/
theorem completes_packBytes_envelope (h : IsLoad site pack arguments parts)
    {payload before : Bytes} (tail : Bytes)
    (hpayload : payload = before ++ (parts.flatMap Part.packed ++ tail))
    (hheld : payload.length < UInt64.size) :
    Completes accept (site.packBytes payload ⟨pack.category, pack.members, .envelope before.length,
        packSize (site.operation.arguments.map (·.kind)) pack.members⟩).run []
      (.ok (parts.flatMap Part.packed)) := by
  have hlength := congrArg List.length hpayload
  rw [List.length_append, List.length_append] at hlength
  simp only [packBytes, ← h.length_packed, Interface.wrap_of_lt (offset_lt rfl hpayload hheld)]
  rw [if_pos (by omega), Nat.add_sub_cancel_left, hpayload, List.drop_left, List.take_left]
  exact Exchange.completes_pure _

/-- The bytes of a pack that travels on its own are loaded. -/
theorem completes_packBytes_reload (h : IsLoad site pack arguments parts) (payload : Bytes) :
    Completes accept (site.packBytes payload ⟨pack.category, pack.members, .reload,
        packSize (site.operation.arguments.map (·.kind)) pack.members⟩).run
      (ofBytes (parts.flatMap Part.packed)) (.ok (parts.flatMap Part.packed)) := by
  simp only [packBytes, ← h.length_packed]
  exact Exchange.completes_load _ _

/-- A pack is read once its bytes are there. -/
theorem completes_readPack (h : IsLoad site pack arguments parts)
    (htransferable : ∀ p ∈ parts, p.IsTransferable) {payload : Bytes}
    {placed : PlacedPack} {t : Transcript} (hcategory : placed.category = pack.category)
    (hmembers : placed.members = pack.members)
    (hsize : placed.size = (parts.flatMap Part.packed).length)
    (hbytes : Completes accept (site.packBytes payload placed).run t
      (.ok (parts.flatMap Part.packed))) :
    Completes accept (site.readPack payload placed).run (t ++ parts.flatMap Part.transfer)
      (.ok (named arguments parts)) := by
  refine Exchange.completes_bind hbytes ?_
  simp only [hcategory, hmembers, hsize, h.arguments_members]
  cases h with
  | scalars _ hscalar hparts =>
    have hnone := flatMap_transfer_of_arePassed hparts (by simp +contextual [hscalar])
    rw [hnone, readScalars_of_arePassed _ hparts hscalar []
      (by simp [PayloadReader.ofBytes])]
    exact Exchange.completes_lift _
  | @single _ a p _ hne hpart =>
    have hsingle : Completes accept
        (site.readSingle p.packed.length (PayloadReader.ofBytes p.packed) a).run
        p.transfer (.ok p.value) :=
      completes_readSingle hpart hne (htransferable p (List.mem_singleton_self p))
    -- a single member is read whole, with the transfer that belongs to it
    have hread : Completes accept
        ([a].mapM fun a => return (a.name, ← site.readSingle p.packed.length
          (PayloadReader.ofBytes p.packed) a) : Exchange Arguments).run
        p.transfer (.ok [(a.name, p.value)]) := by
      rw [← List.append_nil p.transfer, ← List.append_nil p.transfer]
      exact Exchange.completes_bind (Exchange.completes_bind hsingle (Exchange.completes_pure _))
        (Exchange.completes_pure _)
    rw [List.flatMap_singleton, List.flatMap_singleton]
    cases hkind : a.kind.category with
    | scalar => exact absurd hkind hne
    | array => exact hread
    | vector => exact hread

theorem flatMap_transcript (h : IsLoad site pack arguments parts) :
    parts.flatMap Part.transcript =
      ofBytes (parts.flatMap Part.packed) ++ parts.flatMap Part.transfer := by
  cases h with
  | single => simp [Part.transcript]
  | scalars _ hscalar hparts hheld =>
    have hnone := flatMap_transfer_of_arePassed hparts (by simp +contextual [hscalar])
    rw [hnone, List.append_nil]
    clear hparts hheld
    induction parts with
    | nil => rfl
    | cons p ps ih =>
      obtain ⟨hp, hps⟩ := List.append_eq_nil_iff.1 hnone
      rw [List.flatMap_cons, List.flatMap_cons, Transcript.ofBytes_append, ih hps, Part.transcript,
        hp, List.append_nil]

/-- Only the number of elements of the first vector travels in the envelope. -/
theorem envelope_of_vector (h : IsLoad site pack arguments parts)
    (hvector : pack.category = .vector) (rest : List Part) :
    Part.inEnvelope (parts ++ rest) = parts.flatMap Part.packed ∧
      Part.afterEnvelope (parts ++ rest) =
        parts.flatMap Part.transfer ++ rest.flatMap Part.transcript := by
  cases h with
  | scalars => cases hvector
  | @single _ a p _ _ hpart =>
    generalize a.kind = kind at hpart hvector
    cases hpart with
    | scalar | array => cases hvector
    | vector values =>
      constructor
      · simp [Part.inEnvelope]
      · simp [Part.afterEnvelope, Part.transfer]

end IsLoad

/-! ### Packs in a row -/

/-- Packs in a row take up some arguments. -/
inductive AreLoads (site : CallSite) : List Pack → List Argument → List Part → Prop
  | nil : AreLoads site [] [] []
  | cons {pack : Pack} {packs : List Pack} {arguments arguments' : List Argument}
      {parts parts' : List Part} (hfirst : IsLoad site pack arguments parts)
      (hrest : AreLoads site packs arguments' parts') :
      AreLoads site (pack :: packs) (arguments ++ arguments') (parts ++ parts')

/-- Packs that take up some arguments are loaded with what is passed for these. -/
theorem areLoads_of_takeUp {packs : List Pack} {arguments : List Argument} {parts : List Part}
    (h : TakeUp site.operation.arguments packs arguments) (hparts : ArePassed arguments parts)
    (hfits : ∀ pack ∈ packs, Interface.extents (Interface.kindsAt
      (site.operation.arguments.map (·.kind)) pack.members) < UInt64.size) :
    AreLoads site packs arguments parts := by
  induction h generalizing parts with
  | nil =>
    obtain rfl := List.forall₂_nil_left_iff.1 hparts
    exact .nil
  | @cons _ _ taken _ hfirst _ ih =>
    have hthese := List.forall₂_take taken.length hparts
    have hthose := List.forall₂_drop taken.length hparts
    rw [List.take_left] at hthese
    rw [List.drop_left] at hthose
    obtain ⟨hfirstFits, hrestFits⟩ := List.forall_mem_cons.1 hfits
    have hheld : Part.AreHeld (parts.take taken.length) := by
      rwa [Part.AreHeld, Interface.length_flatMap_packed hthese, ← hfirst.kinds_eq]
    rw [← List.take_append_drop taken.length parts]
    refine .cons ?_ (ih hthose hrestFits)
    generalize parts.take taken.length = passed at hthese hheld
    cases hfirst with
    | scalars hmembers hscalar => exact .scalars hmembers hscalar hthese hheld
    | single hmembers hne =>
      cases hthese with
      | cons hpart hnone =>
        obtain rfl := List.forall₂_nil_left_iff.1 hnone
        exact .single hmembers hne hpart hheld

namespace AreLoads

variable {packs : List Pack} {arguments : List Argument} {parts : List Part}

/-- Packs that are loaded from the stream are read one after the other. -/
theorem completes_readPacks_reload (h : AreLoads site packs arguments parts)
    (htransferable : ∀ p ∈ parts, p.IsTransferable) (payload : Bytes) (found : Arguments) :
    Completes accept (site.readPacks payload found (packs.map fun p => ⟨p.category, p.members,
        .reload, packSize (site.operation.arguments.map (·.kind)) p.members⟩)).run
      (parts.flatMap Part.transcript) (.ok (found ++ named arguments parts)) := by
  induction h generalizing found with
  | nil =>
    rw [show named [] [] = [] from rfl, List.append_nil]
    exact Exchange.completes_pure _
  | cons hfirst hrest ih =>
    obtain ⟨hthese, hthose⟩ := List.forall_mem_append.1 htransferable
    rw [List.map_cons, List.flatMap_append, hfirst.flatMap_transcript,
      named_append hfirst.arePassed, ← List.append_assoc found]
    exact Exchange.completes_bind (hfirst.completes_readPack hthese rfl rfl
      hfirst.length_packed.symm (hfirst.completes_packBytes_reload payload)) (ih hthose _)

/-- Packs that begin in the envelope are read from it up to the first vector, and from the stream
after that. -/
theorem completes_readPacks (h : AreLoads site packs arguments parts)
    (htransferable : ∀ p ∈ parts, p.IsTransferable) {payload : Bytes} (before : Bytes)
    (hpayload : payload = before ++ Part.inEnvelope parts) (hheld : payload.length < UInt64.size)
    (found : Arguments) :
    Completes accept (site.readPacks payload found (placeInEnvelope
        (site.operation.arguments.map (·.kind)) before.length packs).1).run
      (Part.afterEnvelope parts) (.ok (found ++ named arguments parts)) := by
  induction h generalizing before found with
  | nil =>
    rw [show named [] [] = [] from rfl, List.append_nil]
    exact Exchange.completes_pure _
  | @cons pack packs arguments arguments' parts parts' hfirst hrest ih =>
    obtain ⟨hthese, hthose⟩ := List.forall_mem_append.1 htransferable
    have hsize := hfirst.length_packed
    rw [named_append hfirst.arePassed, ← List.append_assoc found]
    -- Loading the first pack is the same in both cases; the rest is reloaded after a vector.
    have hread (tail : Bytes) (htail : payload = before ++ (parts.flatMap Part.packed ++ tail)) :
        Completes accept (site.readPack payload _).run ([] ++ parts.flatMap Part.transfer) (.ok _) :=
      hfirst.completes_readPack hthese rfl rfl hsize.symm
        (hfirst.completes_packBytes_envelope tail htail hheld)
    by_cases hvector : pack.category = .vector
    · obtain ⟨hin, hafter⟩ := hfirst.envelope_of_vector hvector parts'
      rw [hin] at hpayload
      simp only [placeInEnvelope, hvector, if_true, hafter]
      exact Exchange.completes_bind (hvector ▸ hread [] (by simpa using hpayload))
        (hrest.completes_readPacks_reload hthose payload _)
    · have hnone := hfirst.transfer_of_ne_vector hvector
      rw [Part.inEnvelope_append hnone] at hpayload
      have hreads := ih hthose (before ++ parts.flatMap Part.packed)
        (by rw [hpayload, List.append_assoc]) (found ++ named arguments parts)
      rw [List.length_append, hsize] at hreads
      have hoffset := offset_lt hsize hpayload hheld
      simp only [placeInEnvelope, hvector, if_false, Interface.wrap_of_lt hoffset]
      have hfirstRead := hread _ hpayload
      rw [hnone, List.append_nil] at hfirstRead
      rw [Part.afterEnvelope_append hnone, ← List.nil_append (Part.afterEnvelope _)]
      exact Exchange.completes_bind hfirstRead hreads

end AreLoads

end CallSite

end Instrument
