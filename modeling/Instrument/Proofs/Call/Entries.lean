import Mathlib.Data.List.Forall2
import Instrument.Proofs.Call.Parallel
import Instrument.Proofs.Call.Telling
import Instrument.Proofs.Interface.Described
import Instrument.Proofs.Interface.Fitting

/-!
What is found in a call. Main statements: packs that are read have an entry for each argument, with
its name and, if it is a scalar, with its type; and the number of elements of a buffer is the last
of these entries.
-/

namespace Instrument.CallSite

open Dialogue (Answers Channel)
open Exchange (Ends exists_of_ends_bind)
open Interface (Argument ArgumentKind Buffer PlacedPack TakesUp TakeUp)
open Wire (PayloadReader Scalar ScalarType)

variable {w : Answers} {c c' : Channel} {site : CallSite} {payload : Bytes} {p : PlacedPack}
  {ps : List PlacedPack} {taken rest : List Argument} {found all more : Arguments}

/-- Whether an entry is the one of an argument; of a scalar, the type is the declared one. -/
def IsEntryOf (a : Argument) (entry : String × ArgumentValue) : Prop :=
  entry.1 = a.name ∧
    ∀ type, a.kind = .scalar type → ∃ value : Scalar, entry.2 = .scalar value ∧ value.type = type

theorem isEntryOf_of_ne_scalar {a : Argument} (hne : a.kind.category ≠ .scalar)
    (value : ArgumentValue) : IsEntryOf a (a.name, value) := by
  refine ⟨rfl, fun type hkind => ?_⟩
  rw [hkind] at hne
  exact absurd rfl hne

/-! ### Packs -/

theorem type_of_readScalar? {r r' : PayloadReader} {type : ScalarType} {value : Scalar}
    (h : r.readScalar? type = some (value, r')) : value.type = type := by
  simp only [PayloadReader.readScalar?, Scalar.decodeBE?, Option.bind_eq_bind,
    Option.bind_eq_some_iff, Option.map_eq_some_iff] at h
  obtain ⟨_, -, _, ⟨_, -, rfl⟩, h⟩ := h
  cases h
  rfl

theorem forall₂_isEntryOf_of_readScalars {arguments : List Argument} {size : Nat}
    {r : PayloadReader} (h : site.readScalars size r arguments = .ok more) :
    List.Forall₂ IsEntryOf arguments more := by
  induction arguments generalizing r more with
  | nil =>
    cases h
    exact .nil
  | cons a arguments ih =>
    unfold readScalars at h
    split at h
    · cases h
    next value r' hread =>
    cases hrest : site.readScalars size r' arguments with
    | error e =>
      rw [hrest] at h
      cases h
    | ok others =>
      rw [hrest] at h
      cases h
      refine .cons ⟨rfl, fun type hkind => ⟨value, rfl, ?_⟩⟩ (ih hrest)
      rw [type_of_readScalar? hread, hkind, ArgumentKind.element]

/-- A pack that is read has an entry for each of its arguments. -/
theorem forall₂_isEntryOf_of_ends_readPack
    (htakes : TakesUp site.operation.arguments ⟨p.category, p.members⟩ taken)
    (h : Ends w (site.readPack payload p) c (.ok more) c') :
    List.Forall₂ IsEntryOf taken more := by
  obtain ⟨bytes, c₁, -, h⟩ := exists_of_ends_bind h
  have harguments : site.arguments p.members = taken := htakes.members_eq
  simp only [harguments] at h
  generalize p.category = category at h htakes
  cases htakes with
  | scalars =>
    cases hread : site.readScalars p.size (.ofBytes bytes) taken with
    | error e =>
      rw [hread] at h
      cases h
    | ok entries =>
      rw [hread] at h
      cases h
      exact forall₂_isEntryOf_of_readScalars hread
  | @single _ a _ hne =>
    -- arrays and vectors are read by one loop over their only argument
    have hloop (h : Ends w ([a].mapM fun a => return (a.name, ← site.readSingle p.size
        (.ofBytes bytes) a) : Exchange Arguments) c₁ (.ok more) c') :
        List.Forall₂ IsEntryOf [a] more := by
      rw [List.mapM_cons, List.mapM_nil] at h
      simp only [pure_bind, bind_assoc] at h
      obtain ⟨value, c₂, -, h⟩ := exists_of_ends_bind h
      cases h
      exact .cons (isEntryOf_of_ne_scalar hne value) .nil
    cases hkind : a.kind.category with
    | scalar => exact absurd hkind hne
    | array | vector =>
      rw [hkind] at h
      exact hloop h

theorem forall₂_isEntryOf_of_ends_readPacks
    (htake : TakeUp site.operation.arguments (ps.map PlacedPack.pack) rest)
    {before : List Argument} (hfound : List.Forall₂ IsEntryOf before found)
    (h : Ends w (site.readPacks payload found ps) c (.ok all) c') :
    List.Forall₂ IsEntryOf (before ++ rest) all := by
  induction ps generalizing before rest found c with
  | nil =>
    cases htake
    cases h
    rwa [List.append_nil]
  | cons p ps ih =>
    cases htake with
    | cons htakes htake =>
      obtain ⟨more, c₁, hpack, hrest⟩ := exists_of_ends_bind h
      rw [← List.append_assoc]
      exact ih htake (List.rel_append hfound (forall₂_isEntryOf_of_ends_readPack htakes hpack))
        hrest

/-- What is read of all packs has an entry for each argument of the operation. -/
theorem forall₂_isEntryOf_of_ends
    (h : Ends w (site.readPacks payload [] site.operation.layout.packs) c (.ok found) c') :
    List.Forall₂ IsEntryOf site.operation.arguments found :=
  forall₂_isEntryOf_of_ends_readPacks (Interface.takeUp_layout site.operation) .nil h

theorem map_fst_of_forall₂ {arguments : List Argument}
    (h : List.Forall₂ IsEntryOf arguments found) : found.map (·.1) = arguments.map (·.name) := by
  induction h with
  | nil => rfl
  | cons hfirst _ ih => rw [List.map_cons, List.map_cons, hfirst.1, ih]

/-! ### The length of a buffer -/

/-- The number of elements of a buffer is the last entry. -/
theorem exists_length_entry (hop : site.operation.IsDescribed) {b : Buffer}
    (hbuffer : site.operation.buffer? = some b)
    (hfound : List.Forall₂ IsEntryOf site.operation.arguments found) :
    ∃ others length, found = others ++ [(b.length, .scalar length)] ∧
      length.bits < UInt32.size ∧ found.word b.length = .ok (UInt32.ofNat length.bits) ∧
      length.type = .u32 ∧ found.find? b.length = some (.scalar length) := by
  obtain ⟨before, a, harguments, hlength⟩ := hop.exists_isLengthOf hbuffer
  rw [harguments] at hfound
  have hothers := List.forall₂_take_append _ _ _ hfound.flip
  have hlast := List.forall₂_drop_append _ _ _ hfound.flip
  have hsplit := List.take_append_drop before.length found
  generalize found.take before.length = others at hothers hsplit
  generalize found.drop before.length = last at hlast hsplit
  cases hlast with
  | @cons entry _ _ _ hentry hnil =>
    cases hnil
    obtain ⟨name, value⟩ := entry
    obtain ⟨hname, hvalue⟩ := hentry
    obtain ⟨length, rfl, htype⟩ := hvalue .u32 hlength.kind
    obtain rfl : name = b.length := hname.trans hlength.name
    subst hsplit
    -- the length is found behind the others, since none of them has its name
    have hnone : others.find? (·.1 == b.length) = none := by
      rw [List.find?_eq_none]
      intro entry hentry
      have hmem := List.mem_map_of_mem (f := (·.1)) hentry
      rw [map_fst_of_forall₂ hothers.flip] at hmem
      obtain ⟨other, hother, heq⟩ := List.mem_map.1 hmem
      simpa [← heq] using hlength.unique other hother
    have hfind : Arguments.find? (others ++ [(b.length, .scalar length)]) b.length =
        some (.scalar length) := by
      simp [Arguments.find?, hnone]
    have hlt : length.bits < ScalarType.u32.cardinality := htype ▸ length.bits_lt
    refine ⟨others, length, rfl, hlt, ?_, htype, hfind⟩
    rw [Arguments.word, Arguments.scalar, hfind]
    simp [htype, Except.map]

end Instrument.CallSite
