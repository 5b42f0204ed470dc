import Instrument.Proofs.Interface.Plan

/-!
Sizes that fit. A size is what is left of a number of bytes on 64 bits. Main statements: the size of
a pack and that of the envelope are what is left of the number of bytes that their arguments take;
and if these numbers fit, each pack lies where the packs before it end.
-/

namespace Instrument.Interface

/-! ### Numbers as sizes -/

theorem wrap_lt (n : Nat) : wrap n < UInt64.size := Nat.mod_lt n (by decide)

theorem wrap_of_lt {n : Nat} (h : n < UInt64.size) : wrap n = n := Nat.mod_eq_of_lt h

theorem wrap_eq_self_iff {n : Nat} : wrap n = n ↔ n < UInt64.size :=
  ⟨fun h => h ▸ wrap_lt n, wrap_of_lt⟩

/-- What is lost of a part is lost of the whole. -/
@[simp] theorem wrap_wrap_add (m n : Nat) : wrap (wrap m + n) = wrap (m + n) :=
  Nat.mod_add_mod m UInt64.size n

@[simp] theorem wrap_add_wrap (m n : Nat) : wrap (m + wrap n) = wrap (m + n) :=
  Nat.add_mod_mod m n UInt64.size

/-! ### Bytes of arguments -/

/-- The number of bytes that an argument takes in its pack. -/
def ArgumentKind.extent : ArgumentKind → Nat
  | scalar type => type.width
  | array element length => element.width * length
  | vector _ => vectorCountSize

/-- The number of bytes that some arguments take together. -/
def extents (kinds : List ArgumentKind) : Nat := kinds.foldr (fun kind n => kind.extent + n) 0

/-- The arguments up to the first vector, or all if there is none. -/
def upToVector (kinds : List ArgumentKind) : List ArgumentKind :=
  kinds.take (kinds.findIdx (·.category == .vector) + 1)

/-- The arguments at some positions. -/
abbrev kindsAt (kinds : List ArgumentKind) (members : List Nat) : List ArgumentKind :=
  members.filterMap (kinds[·]?)

theorem extents_cons (kind : ArgumentKind) (kinds : List ArgumentKind) :
    extents (kind :: kinds) = kind.extent + extents kinds := rfl

theorem extents_append (kinds kinds' : List ArgumentKind) :
    extents (kinds ++ kinds') = extents kinds + extents kinds' := by
  induction kinds with
  | nil => exact (Nat.zero_add _).symm
  | cons kind kinds ih => rw [List.cons_append, extents_cons, extents_cons, ih, Nat.add_assoc]

theorem ArgumentKind.size_eq_wrap (kind : ArgumentKind) : kind.size = wrap kind.extent := by
  cases kind with
  | scalar type => cases type <;> rfl
  | array | vector => rfl

/-- Of a pack of arguments, the size is what is left of their bytes. -/
theorem packSize_eq_wrap (kinds : List ArgumentKind) (members : List Nat) :
    packSize kinds members = wrap (extents (kindsAt kinds members)) := by
  induction members with
  | nil => rfl
  | cons i members ih =>
    have hstep : packSize kinds (i :: members) =
        wrap ((kinds[i]?.map ArgumentKind.size).getD 0 + packSize kinds members) := rfl
    rw [hstep, ih, wrap_add_wrap]
    cases h : kinds[i]? with
    | none => simp [h]
    | some kind =>
      rw [kindsAt, kindsAt, List.filterMap_cons_some h, extents_cons, Option.map_some,
        Option.getD_some, kind.size_eq_wrap, wrap_wrap_add]

theorem upToVector_append {kinds : List ArgumentKind} (h : ∀ kind ∈ kinds, kind.category ≠ .vector)
    (rest : List ArgumentKind) : upToVector (kinds ++ rest) = kinds ++ upToVector rest := by
  have hnone : kinds.findIdx (·.category == .vector) = kinds.length :=
    List.findIdx_eq_length.2 fun kind hkind => by simpa using h kind hkind
  rw [upToVector, List.findIdx_append, hnone, if_neg (Nat.lt_irrefl _), Nat.add_right_comm,
    Nat.add_comm, List.take_length_add_append, ← upToVector]

theorem upToVector_cons_of_vector {kind : ArgumentKind} (h : kind.category = .vector)
    (rest : List ArgumentKind) : upToVector (kind :: rest) = [kind] := by
  simp [upToVector, List.findIdx_cons, h]

/-! ### The envelope -/

variable {kinds : List ArgumentKind} {p : PlacedPack} {ps : List Pack} {offset : Nat}

/-- A placed pack without its place. -/
def PlacedPack.pack (p : PlacedPack) : Pack := ⟨p.category, p.members⟩

theorem map_pack_placeInEnvelope (offset : Nat) (ps : List Pack) :
    (placeInEnvelope kinds offset ps).1.map PlacedPack.pack = ps := by
  induction ps generalizing offset with
  | nil => rfl
  | cons p ps ih =>
    simp only [placeInEnvelope]
    split
    · simp [PlacedPack.pack, Function.comp_def]
    · exact congrArg (p :: ·) (ih _)

/-- The packs of an operation take up its arguments. -/
theorem takeUp_layout (op : Operation) :
    TakeUp op.arguments (op.layout.packs.map PlacedPack.pack) op.arguments := by
  have htakes := takeUp_packs op.arguments
  rwa [← map_pack_placeInEnvelope 0 (packs _)] at htakes

theorem size_of_mem_placeInEnvelope (h : p ∈ (placeInEnvelope kinds offset ps).1) :
    p.size = wrap (extents (kindsAt kinds p.members)) := by
  rw [← packSize_eq_wrap]
  induction ps generalizing offset with
  | nil => cases h
  | cons q ps ih =>
    simp only [placeInEnvelope] at h
    split at h
    · rcases List.mem_cons.1 h with rfl | h
      · rfl
      · obtain ⟨q', -, rfl⟩ := List.mem_map.1 h
        rfl
    · rcases List.mem_cons.1 h with rfl | h
      · rfl
      · exact ih h

/-- The packs that lie in the envelope: those up to the first vector. -/
def envelopePacks : List Pack → List Pack
  | [] => []
  | p :: ps => if p.category = .vector then [p] else p :: envelopePacks ps

/-- The number of bytes that some packs take together. -/
def packExtents (kinds : List ArgumentKind) (ps : List Pack) : Nat :=
  ps.foldr (fun p n => extents (kindsAt kinds p.members) + n) 0

theorem packExtents_cons (kinds : List ArgumentKind) (p : Pack) (ps : List Pack) :
    packExtents kinds (p :: ps) = extents (kindsAt kinds p.members) + packExtents kinds ps := rfl

/-- The packs in the envelope are those of the arguments up to the first vector. -/
theorem packExtents_envelopePacks_of_isPlan (before : List ArgumentKind) {index : Nat}
    {categories : List Category} (h : IsPlan index categories ps) {rest : List ArgumentKind}
    (hkinds : kinds = before ++ rest) (hindex : before.length = index)
    (hcategories : rest.map ArgumentKind.category = categories) :
    packExtents kinds (envelopePacks ps) = extents (upToVector rest) := by
  induction h generalizing before rest with
  | nil =>
    obtain rfl := List.map_eq_nil_iff.1 hcategories
    rfl
  | @scalars index _ _ n _ ih =>
    obtain ⟨inside, after, rfl, hinside, hafter⟩ := List.map_eq_append_iff.1 hcategories
    have hlength : inside.length = n := by simpa using congrArg List.length hinside
    have hscalar : ∀ kind ∈ inside, kind.category ≠ .vector := by
      intro kind hkind hvector
      have hscalar := List.eq_of_mem_replicate (hinside ▸ List.mem_map_of_mem hkind)
      rw [hvector] at hscalar
      cases hscalar
    -- the members of a pack are places in the whole list, here behind those before it
    have hmembers : kindsAt kinds (List.range' index n) = inside := by
      rw [kindsAt, hkinds, ← List.append_assoc, ← hindex, ← hlength, filterMap_range']
    have hrest := ih (before ++ inside) (hkinds.trans (List.append_assoc ..).symm)
      (by rw [List.length_append, hindex, hlength]) hafter
    rw [envelopePacks, if_neg (by simp), packExtents_cons, hmembers, hrest,
      upToVector_append hscalar, extents_append]
  | @single index _ _ _ _ _ ih =>
    obtain ⟨kind, after, rfl, rfl, hafter⟩ := List.map_eq_cons_iff.1 hcategories
    have hmembers : kindsAt kinds [index] = [kind] := by
      rw [kindsAt, hkinds, List.append_cons, ← hindex]
      exact filterMap_range' before [kind] after
    have hrest := ih (before ++ [kind]) (hkinds.trans (List.append_cons ..))
      (by rw [List.length_append, hindex]; rfl) hafter
    rw [envelopePacks]
    split
    · next hvector =>
      rw [packExtents_cons, hmembers, upToVector_cons_of_vector hvector]
      rfl
    · next hvector =>
      have hup : upToVector ([kind] ++ after) = [kind] ++ upToVector after :=
        upToVector_append (by simpa using hvector) after
      rw [packExtents_cons, hmembers, hrest, ← extents_append]
      exact congrArg extents hup.symm

theorem packExtents_envelopePacks (kinds : List ArgumentKind) :
    packExtents kinds (envelopePacks (packs (kinds.map ArgumentKind.category))) =
      extents (upToVector kinds) :=
  packExtents_envelopePacks_of_isPlan [] (isPlan_packs _) (List.nil_append kinds).symm rfl rfl

theorem snd_placeInEnvelope (kinds : List ArgumentKind) (hoffset : offset < UInt64.size)
    (ps : List Pack) :
    (placeInEnvelope kinds offset ps).2 = wrap (offset + packExtents kinds (envelopePacks ps)) := by
  induction ps generalizing offset with
  | nil => exact (wrap_of_lt hoffset).symm
  | cons p ps ih =>
    simp only [placeInEnvelope, envelopePacks, packSize_eq_wrap, wrap_add_wrap]
    split
    · rfl
    · rw [ih (wrap_lt _), wrap_wrap_add, packExtents_cons, Nat.add_assoc]

/-- The size of the envelope is what is left of the bytes up to the first vector. -/
theorem payloadSize_layout (kinds : List ArgumentKind) :
    (layout kinds).payloadSize = wrap (extents (upToVector kinds)) := by
  have htotal := snd_placeInEnvelope kinds (by decide : 0 < UInt64.size)
    (packs (kinds.map ArgumentKind.category))
  rwa [Nat.zero_add, packExtents_envelopePacks] at htotal

/-- Packs whose ends are numbers of 64 bits lie one after the other. -/
theorem packExtents_lt_of_ends (hoffset : offset < UInt64.size)
    (h : ∀ p ∈ (placeInEnvelope kinds offset ps).1, ∀ start, p.region = .envelope start →
      start + extents (kindsAt kinds p.members) < UInt64.size) :
    offset + packExtents kinds (envelopePacks ps) < UInt64.size := by
  induction ps generalizing offset with
  | nil => exact hoffset
  | cons p ps ih =>
    simp only [placeInEnvelope, envelopePacks, packSize_eq_wrap, wrap_add_wrap] at h ⊢
    split at h
    · next hvector =>
      rw [if_pos hvector]
      exact h _ (List.mem_cons_self ..) offset rfl
    · next hvector =>
      obtain ⟨hfirst, hrest⟩ := List.forall_mem_cons.1 h
      have hend := hfirst offset rfl
      rw [wrap_of_lt hend] at hrest
      rw [if_neg hvector, packExtents_cons, ← Nat.add_assoc]
      exact ih hend hrest

/-- Every pack in the envelope ends in it if its size is a number of 64 bits. -/
theorem end_le_of_packExtents_lt
    (hfits : offset + packExtents kinds (envelopePacks ps) < UInt64.size)
    (h : p ∈ (placeInEnvelope kinds offset ps).1) {start : Nat}
    (hregion : p.region = .envelope start) :
    start + extents (kindsAt kinds p.members) ≤ offset + packExtents kinds (envelopePacks ps) := by
  induction ps generalizing offset with
  | nil => cases h
  | cons q ps ih =>
    simp only [placeInEnvelope, envelopePacks, packSize_eq_wrap, wrap_add_wrap] at h hfits ⊢
    split at h
    · next hvector =>
      rw [if_pos hvector]
      rcases List.mem_cons.1 h with rfl | h
      · cases hregion
        exact Nat.le_refl _
      · obtain ⟨q', -, rfl⟩ := List.mem_map.1 h
        cases hregion
    · next hvector =>
      rw [if_neg hvector, packExtents_cons, ← Nat.add_assoc] at hfits ⊢
      rcases List.mem_cons.1 h with rfl | h
      · cases hregion
        exact Nat.le_add_right _ _
      · have hend := Nat.lt_of_le_of_lt (Nat.le_add_right _ _) hfits
        rw [wrap_of_lt hend] at h
        exact ih hfits h

/-! ### Layouts that fit -/

/-- Whether the bytes of every pack, and those of the envelope, are as many as a size can tell. -/
structure Fits (kinds : List ArgumentKind) : Prop where
  packs : ∀ p ∈ packs (kinds.map ArgumentKind.category),
    extents (kindsAt kinds p.members) < UInt64.size
  envelope : extents (upToVector kinds) < UInt64.size

instance (kinds : List ArgumentKind) : Decidable (Fits kinds) :=
  decidable_of_iff
    ((∀ p ∈ packs (kinds.map ArgumentKind.category),
      extents (kindsAt kinds p.members) < UInt64.size) ∧ extents (upToVector kinds) < UInt64.size)
    ⟨fun h => ⟨h.1, h.2⟩, fun h => ⟨h.packs, h.envelope⟩⟩

/-- Whether no size of an operation loses anything. -/
abbrev Operation.Fits (op : Operation) : Prop := Interface.Fits (op.arguments.map (·.kind))

theorem Fits.payloadSize_eq (h : Fits kinds) :
    (layout kinds).payloadSize = extents (upToVector kinds) :=
  (payloadSize_layout kinds).trans (wrap_of_lt h.envelope)

theorem payloadSize_lt (kinds : List ArgumentKind) : (layout kinds).payloadSize < UInt64.size :=
  payloadSize_layout kinds ▸ wrap_lt _

theorem size_lt_of_mem_layout (h : p ∈ (layout kinds).packs) : p.size < UInt64.size :=
  size_of_mem_placeInEnvelope h ▸ wrap_lt _

theorem mem_packs_of_mem_layout (h : p ∈ (layout kinds).packs) :
    p.pack ∈ packs (kinds.map ArgumentKind.category) := by
  have hmem := List.mem_map_of_mem (f := PlacedPack.pack) h
  rwa [layout, map_pack_placeInEnvelope] at hmem

theorem Fits.size_eq (h : Fits kinds) (hp : p ∈ (layout kinds).packs) :
    p.size = extents (kindsAt kinds p.members) :=
  (size_of_mem_placeInEnvelope hp).trans (wrap_of_lt (h.packs _ (mem_packs_of_mem_layout hp)))

/-- Every pack in the envelope lies in it. -/
theorem Fits.end_le (h : Fits kinds) (hp : p ∈ (layout kinds).packs) {start : Nat}
    (hregion : p.region = .envelope start) : start + p.size ≤ (layout kinds).payloadSize := by
  have hextents := packExtents_envelopePacks kinds
  have hlt : 0 + packExtents kinds
      (envelopePacks (Interface.packs (kinds.map ArgumentKind.category))) < UInt64.size := by
    rw [Nat.zero_add, hextents]
    exact h.envelope
  have hend := end_le_of_packExtents_lt hlt hp hregion
  rwa [Nat.zero_add, hextents, ← h.size_eq hp, ← h.payloadSize_eq] at hend

/-- Sizes fit if those of the packs count every byte and no pack reaches beyond the envelope. -/
theorem fits_of_packs (hsize : ∀ p ∈ (layout kinds).packs,
      extents (kindsAt kinds p.members) < UInt64.size)
    (hend : ∀ p ∈ (layout kinds).packs, ∀ start, p.region = .envelope start →
      start + extents (kindsAt kinds p.members) ≤ (layout kinds).payloadSize) : Fits kinds := by
  constructor
  · intro pack hpack
    rw [← map_pack_placeInEnvelope 0 (packs _)] at hpack
    obtain ⟨p, hp, rfl⟩ := List.mem_map.1 hpack
    exact hsize p hp
  · have hextents := packExtents_lt_of_ends (by decide : 0 < UInt64.size)
      fun p hp start hregion => Nat.lt_of_le_of_lt (hend p hp start hregion) (payloadSize_lt kinds)
    rwa [Nat.zero_add, packExtents_envelopePacks] at hextents

/-- Arguments that take up all packs take no more bytes in one pack than all together. -/
theorem fits_of_extents_lt {arguments : List Argument}
    (h : extents (arguments.map (·.kind)) < UInt64.size) : Fits (arguments.map (·.kind)) := by
  have htakes := takeUp_packs arguments
  have hpacks {packs : List Pack} {rest : List Argument} (htakes : TakeUp arguments packs rest) :
      ∀ p ∈ packs, extents (kindsAt (arguments.map (·.kind)) p.members) ≤
        extents (rest.map (·.kind)) := by
    induction htakes with
    | nil => simp
    | cons hfirst _ ih =>
      rw [List.map_append, extents_append]
      refine List.forall_mem_cons.2 ⟨?_, fun p hp => ?_⟩
      · rw [kindsAt, hfirst.kinds_eq]
        exact Nat.le_add_right _ _
      · exact Nat.le_trans (ih p hp) (Nat.le_add_left _ _)
  refine ⟨fun p hp => Nat.lt_of_le_of_lt (hpacks htakes p hp) h, Nat.lt_of_le_of_lt ?_ h⟩
  have hsplit := List.take_append_drop
    ((arguments.map (·.kind)).findIdx (·.category == .vector) + 1) (arguments.map (·.kind))
  have hsum := congrArg extents hsplit
  rw [extents_append] at hsum
  rw [upToVector]
  omega

end Instrument.Interface
