import Mathlib
import Instrument.Proofs.Interface.Fitting

/-!
What determines where arguments travel. Main statements: the packs of some arguments are the only
partition of them in which neighbouring scalars share a pack and every array and vector has its
own; their layout is the only one that places these packs one after the other, in the envelope up to
the first vector and in the stream after it, with sizes and offsets as 64 bits keep them; and it is
the one that counts every byte if and only if the sizes fit.
-/

namespace Instrument.Interface

/-! ### Packs -/

/-- Packs that divide arguments of given categories among themselves, the first of which has the
position `index`. -/
structure IsPartition (index : Nat) (categories : List Category) (ps : List Pack) : Prop where
  members : ps.flatMap (·.members) = List.range' index categories.length
  nonempty : ∀ p ∈ ps, p.members ≠ []
  category : ∀ p ∈ ps, ∀ i ∈ p.members, categories[i - index]? = some p.category
  single : ∀ p ∈ ps, p.category ≠ .scalar → p.members.length = 1
  separate : ps.IsChain fun p q => ¬(p.category = .scalar ∧ q.category = .scalar)

/-- A partition as it is made from left to right: scalars as far as they go, or one argument of
another category. -/
inductive IsCut : Nat → List Category → List Pack → Prop
  | nil (index : Nat) : IsCut index [] []
  | scalars {index : Nat} {rest : List Category} {ps : List Pack} (n : Nat)
      (hmaximal : rest.head? ≠ some .scalar) (h : IsCut (index + (n + 1)) rest ps) :
      IsCut index (List.replicate (n + 1) .scalar ++ rest)
        (⟨.scalar, List.range' index (n + 1)⟩ :: ps)
  | single {index : Nat} {category : Category} {rest : List Category} {ps : List Pack}
      (hcategory : category ≠ .scalar) (h : IsCut (index + 1) rest ps) :
      IsCut index (category :: rest) (⟨category, [index]⟩ :: ps)

/-- Waiting scalars share a pack in front of what does not begin with a scalar. -/
theorem isCut_scalarPack_append {start n : Nat} {rest : List Category} {ps : List Pack}
    (hmaximal : rest.head? ≠ some .scalar) (h : IsCut (start + n) rest ps) :
    IsCut start (List.replicate n .scalar ++ rest) (scalarPack (List.range' start n) ++ ps) := by
  cases n with
  | zero => simpa [scalarPack] using h
  | succ n => simpa [scalarPack] using IsCut.scalars n hmaximal h

theorem isCut_packsFrom (start n : Nat) (categories : List Category) :
    IsCut start (List.replicate n .scalar ++ categories)
      (packsFrom (List.range' start n) (start + n) categories) := by
  induction categories generalizing start n with
  | nil =>
    rw [packsFrom, ← List.append_nil (scalarPack _)]
    exact isCut_scalarPack_append (by simp) (.nil _)
  | cons category rest ih =>
    cases category with
    | scalar =>
      have hwaiting : List.range' start n ++ [start + n] = List.range' start (n + 1) := by
        rw [List.range'_concat, Nat.one_mul]
      have hcategories : List.replicate n Category.scalar ++ .scalar :: rest =
          List.replicate (n + 1) .scalar ++ rest := by
        rw [List.replicate_succ', List.append_assoc, List.singleton_append]
      rw [packsFrom, hwaiting, hcategories]
      exact ih start (n + 1)
    | array =>
      exact isCut_scalarPack_append (by simp) (.single (by decide) (ih (start + n + 1) 0))
    | vector =>
      exact isCut_scalarPack_append (by simp) (.single (by decide) (ih (start + n + 1) 0))

/-- Scalars in front wait for their pack. -/
theorem packsFrom_replicate_append (waiting : List Nat) (index n : Nat) (rest : List Category) :
    packsFrom waiting index (List.replicate n .scalar ++ rest) =
      packsFrom (waiting ++ List.range' index n) (index + n) rest := by
  induction n generalizing waiting index with
  | zero => simp
  | succ n ih =>
    rw [List.replicate_succ, List.cons_append, packsFrom, ih, List.range'_succ, List.append_assoc,
      List.singleton_append, Nat.add_assoc, Nat.add_comm 1 n]

/-- What waits is packed before what is no scalar. -/
theorem packsFrom_of_head?_ne {waiting : List Nat} (index : Nat) {rest : List Category}
    (h : rest.head? ≠ some .scalar) :
    packsFrom waiting index rest = scalarPack waiting ++ packsFrom [] index rest := by
  match rest with
  | [] => simp [packsFrom, scalarPack]
  | .scalar :: _ => exact absurd rfl h
  | .array :: _ | .vector :: _ => simp [packsFrom, scalarPack]

/-- There is one way to go from left to right. -/
theorem IsCut.eq_packsFrom {index : Nat} {categories : List Category} {ps : List Pack}
    (h : IsCut index categories ps) : ps = packsFrom [] index categories := by
  induction h with
  | nil => rfl
  | scalars n hmaximal _ ih =>
    rw [packsFrom_replicate_append, packsFrom_of_head?_ne _ hmaximal, ← ih]
    rfl
  | @single index category rest ps hcategory _ ih =>
    cases category with
    | scalar => exact absurd rfl hcategory
    | array | vector => simp [packsFrom, scalarPack, ← ih]

/-- A partition begins with the category of its first argument. -/
theorem IsCut.head?_category {index : Nat} {categories : List Category} {ps : List Pack}
    (h : IsCut index categories ps) : ps.head?.map (·.category) = categories.head? := by
  cases h <;> simp [List.replicate_succ]

theorem IsCut.isPartition {index : Nat} {categories : List Category} {ps : List Pack}
    (h : IsCut index categories ps) : IsPartition index categories ps := by
  induction h with
  | nil index => exact ⟨rfl, by simp, by simp, by simp, .nil⟩
  | @scalars index rest ps n hmaximal hrest ih =>
    refine ⟨?_, ?_, ?_, ?_, ?_⟩
    · rw [List.flatMap_cons, ih.members, List.range'_append_1, List.length_append,
        List.length_replicate]
    · exact List.forall_mem_cons.2 ⟨by simp, ih.nonempty⟩
    · refine List.forall_mem_cons.2 ⟨fun i hi => ?_, fun p hp i hi => ?_⟩
      · obtain ⟨hle, hlt⟩ := List.mem_range'_1.1 hi
        rw [List.getElem?_append_left (by simp; omega), List.getElem?_replicate_of_lt (by omega)]
      · have hmem : i ∈ List.range' (index + (n + 1)) rest.length :=
          ih.members ▸ List.mem_flatMap.2 ⟨p, hp, hi⟩
        obtain ⟨hle, -⟩ := List.mem_range'_1.1 hmem
        rw [List.getElem?_append_right (by simp; omega), List.length_replicate,
          Nat.sub_sub, ih.category p hp i hi]
    · exact List.forall_mem_cons.2 ⟨fun hne => absurd rfl hne, ih.single⟩
    · refine List.isChain_cons.2 ⟨?_, ih.separate⟩
      -- a run of scalars is maximal, so no further pack of scalars follows it
      rintro q hq ⟨-, hscalar⟩
      have hhead := hrest.head?_category
      rw [hq, Option.map_some, hscalar] at hhead
      exact hmaximal hhead.symm
  | @single index category rest ps hcategory hrest ih =>
    refine ⟨?_, ?_, ?_, ?_, ?_⟩
    · rw [List.flatMap_cons, ih.members, List.length_cons, List.range'_succ, List.singleton_append]
    · exact List.forall_mem_cons.2 ⟨by simp, ih.nonempty⟩
    · refine List.forall_mem_cons.2 ⟨fun i hi => ?_, fun p hp i hi => ?_⟩
      · rw [List.mem_singleton.1 hi, Nat.sub_self]
        rfl
      · have hmem : i ∈ List.range' (index + 1) rest.length :=
          ih.members ▸ List.mem_flatMap.2 ⟨p, hp, hi⟩
        obtain ⟨hle, -⟩ := List.mem_range'_1.1 hmem
        rw [List.getElem?_cons, if_neg (by omega), Nat.sub_sub, ih.category p hp i hi]
    · exact List.forall_mem_cons.2 ⟨fun _ => rfl, ih.single⟩
    · exact List.isChain_cons.2 ⟨fun q _ hboth => hcategory hboth.1, ih.separate⟩

/-- The first pack of a partition holds neighbours of one category. -/
theorem IsPartition.first {index : Nat} {categories : List Category} {p : Pack} {ps : List Pack}
    (h : IsPartition index categories (p :: ps)) :
    p.members = List.range' index p.members.length ∧
      ∃ rest, categories = List.replicate p.members.length p.category ++ rest ∧
        IsPartition (index + p.members.length) rest ps := by
  have hmembers := h.members
  rw [List.flatMap_cons] at hmembers
  have hlength : p.members.length ≤ categories.length := by
    have hboth := congrArg List.length hmembers
    rw [List.length_append, List.length_range'] at hboth
    omega
  obtain ⟨n, hn⟩ := Nat.exists_eq_add_of_le hlength
  rw [hn, ← List.range'_append_1] at hmembers
  obtain ⟨hfirst, hothers⟩ := List.append_inj hmembers (by simp)
  -- the members come first in order, so that they are the first places
  have htake : categories.take p.members.length = List.replicate p.members.length p.category := by
    refine List.ext_getElem? fun i => ?_
    by_cases hi : i < p.members.length
    · have hmem : index + i ∈ p.members := by
        rw [hfirst]
        exact List.mem_range'_1.2 (by omega)
      rw [List.getElem?_take_of_lt hi, List.getElem?_replicate_of_lt hi,
        ← h.category p (List.mem_cons_self ..) _ hmem, Nat.add_sub_cancel_left]
    · rw [List.getElem?_eq_none (by simp; omega), List.getElem?_eq_none (by simp; omega)]
  refine ⟨hfirst, categories.drop p.members.length, ?_, ?_⟩
  · rw [← htake, List.take_append_drop]
  · refine ⟨?_, (List.forall_mem_cons.1 h.nonempty).2, fun q hq i hi => ?_,
      (List.forall_mem_cons.1 h.single).2, h.separate.tail⟩
    · rw [hothers, List.length_drop, hn, Nat.add_sub_cancel_left]
    · have hmem : i ∈ List.range' (index + p.members.length) n :=
        hothers ▸ List.mem_flatMap.2 ⟨q, hq, hi⟩
      obtain ⟨hle, -⟩ := List.mem_range'_1.1 hmem
      rw [List.getElem?_drop, ← h.category q (List.mem_cons_of_mem p hq) i hi]
      congr 1
      omega

/-- Every partition can be made from left to right. -/
theorem IsPartition.isCut {index : Nat} {categories : List Category} {ps : List Pack}
    (h : IsPartition index categories ps) : IsCut index categories ps := by
  induction ps generalizing index categories with
  | nil =>
    have hlength := congrArg List.length h.members
    rw [List.length_range'] at hlength
    obtain rfl := List.length_eq_zero_iff.1 hlength.symm
    exact .nil index
  | cons p ps ih =>
    obtain ⟨hmembers, rest, rfl, hrest⟩ := h.first
    have hcut := ih hrest
    obtain ⟨category, members⟩ := p
    have hnonempty : members ≠ [] := h.nonempty _ (List.mem_cons_self ..)
    by_cases hscalar : category = .scalar
    · subst hscalar
      have hmaximal : rest.head? ≠ some .scalar := by
        rw [← hcut.head?_category]
        intro hhead
        obtain ⟨q, hq, hcategory⟩ := Option.map_eq_some_iff.1 hhead
        exact (List.isChain_cons.1 h.separate).1 q hq ⟨rfl, hcategory⟩
      obtain ⟨n, hn⟩ := Nat.exists_eq_succ_of_ne_zero (mt List.length_eq_zero_iff.1 hnonempty)
      simp only [hn] at hmembers hcut ⊢
      rw [hmembers]
      exact .scalars n hmaximal hcut
    · have hone : members.length = 1 := h.single _ (List.mem_cons_self ..) hscalar
      simp only [hone] at hmembers hcut ⊢
      rw [hmembers]
      exact .single hscalar hcut

/-- The packs of arguments are the only partition of them. -/
theorem isPartition_iff {categories : List Category} {ps : List Pack} :
    IsPartition 0 categories ps ↔ ps = packs categories := by
  constructor
  · exact fun h => h.isCut.eq_packsFrom
  · rintro rfl
    exact (isCut_packsFrom 0 0 categories).isPartition

/-! ### Places -/

/-- Packs that lie one after the other, in the envelope from `offset` on up to the first vector.
Offsets are numbers that `round` has been applied to. -/
structure ArePlacedFrom (round : Nat → Nat) (offset : Nat) (ps : List PlacedPack) : Prop where
  envelope : ∀ before p after, ps = before ++ p :: after → (∀ q ∈ before, q.category ≠ .vector) →
    p.region = .envelope (round (offset + (before.map (·.size)).sum))
  reload : ∀ before p after, ps = before ++ p :: after → (∃ q ∈ before, q.category = .vector) →
    p.region = .reload

/-- What a layout of arguments has to be if its sizes and offsets are what `round` leaves of the
bytes: with `id` all of them, with `wrap` those that 64 bits can tell. -/
structure IsLayout (round : Nat → Nat) (kinds : List ArgumentKind) (l : Layout) : Prop where
  packs : IsPartition 0 (kinds.map ArgumentKind.category) (l.packs.map PlacedPack.pack)
  placed : ArePlacedFrom round 0 l.packs
  size : ∀ p ∈ l.packs, p.size = round (extents (kindsAt kinds p.members))
  count : ∀ p ∈ l.packs, p.category = .vector → p.size = 8
  hasVector : l.hasVector = true ↔ ∃ kind ∈ kinds, kind.category = .vector
  payloadSize : l.payloadSize = round (extents (upToVector kinds))

namespace ArePlacedFrom

variable {round : Nat → Nat} {offset : Nat} {p : PlacedPack} {ps : List PlacedPack}

theorem nil (round : Nat → Nat) (offset : Nat) : ArePlacedFrom round offset [] :=
  ⟨by simp, by simp⟩

/-- What follows a pack without a vector is placed behind it. -/
theorem cons (hregion : p.region = .envelope offset) (hcategory : p.category ≠ .vector)
    (hoffset : offset < UInt64.size) (h : ArePlacedFrom wrap (wrap (offset + p.size)) ps) :
    ArePlacedFrom wrap offset (p :: ps) := by
  constructor
  · intro before q after hsplit hbefore
    rcases List.cons_eq_append_iff.1 hsplit with ⟨rfl, hq⟩ | ⟨before, rfl, hps⟩
    · cases hq
      exact hregion.trans (congrArg Region.envelope (wrap_of_lt hoffset).symm)
    · rw [List.map_cons, List.sum_cons, ← Nat.add_assoc, ← wrap_wrap_add]
      exact h.envelope before q after hps (List.forall_mem_cons.1 hbefore).2
  · rintro before q after hsplit ⟨r, hr, hvector⟩
    rcases List.cons_eq_append_iff.1 hsplit with ⟨rfl, -⟩ | ⟨before, rfl, hps⟩
    · cases hr
    · rcases List.mem_cons.1 hr with rfl | hr
      · exact absurd hvector hcategory
      · exact h.reload before q after hps ⟨r, hr, hvector⟩

/-- What follows the pack of a vector is in the stream. -/
theorem cons_of_vector (hregion : p.region = .envelope offset) (hcategory : p.category = .vector)
    (hoffset : offset < UInt64.size) (h : ∀ q ∈ ps, q.region = .reload) :
    ArePlacedFrom wrap offset (p :: ps) := by
  constructor
  · intro before q after hsplit hbefore
    rcases List.cons_eq_append_iff.1 hsplit with ⟨rfl, hq⟩ | ⟨before, rfl, -⟩
    · cases hq
      exact hregion.trans (congrArg Region.envelope (wrap_of_lt hoffset).symm)
    · exact absurd hcategory (hbefore p (List.mem_cons_self ..))
  · rintro before q after hsplit ⟨r, hr, -⟩
    rcases List.cons_eq_append_iff.1 hsplit with ⟨rfl, -⟩ | ⟨before, rfl, hps⟩
    · cases hr
    · exact h q (by simp [hps])

/-- Packs of the sizes of a layout are placed alike whether or not offsets are kept on 64 bits, if
the bytes in the envelope are as many as a size can tell. -/
theorem of_sum_lt (h : ArePlacedFrom wrap 0 ps)
    (hsum : ∀ before p after, ps = before ++ p :: after → (∀ q ∈ before, q.category ≠ .vector) →
      (before.map (·.size)).sum < UInt64.size) : ArePlacedFrom id 0 ps := by
  refine ⟨fun before p after hsplit hbefore => ?_, h.reload⟩
  rw [h.envelope before p after hsplit hbefore, Nat.zero_add,
    wrap_of_lt (hsum before p after hsplit hbefore), id]

end ArePlacedFrom

variable {kinds : List ArgumentKind}

theorem arePlacedFrom_placeInEnvelope {offset : Nat} (hoffset : offset < UInt64.size)
    (ps : List Pack) : ArePlacedFrom wrap offset (placeInEnvelope kinds offset ps).1 := by
  induction ps generalizing offset with
  | nil => exact .nil wrap offset
  | cons p ps ih =>
    simp only [placeInEnvelope]
    split
    · next hvector =>
      refine .cons_of_vector rfl hvector hoffset fun q hq => ?_
      obtain ⟨p', -, rfl⟩ := List.mem_map.1 hq
      rfl
    · next hvector => exact .cons rfl hvector hoffset (ih (wrap_lt _))

/-! ### Layouts -/

/-- Of a vector only the count is in its pack. -/
theorem extents_of_vector {ps : List PlacedPack} {p : PlacedPack}
    (h : IsPartition 0 (kinds.map ArgumentKind.category) (ps.map PlacedPack.pack)) (hp : p ∈ ps)
    (hvector : p.category = .vector) : extents (kindsAt kinds p.members) = 8 := by
  have hpack : p.pack ∈ ps.map PlacedPack.pack := List.mem_map_of_mem hp
  have hlength : p.members.length = 1 := h.single _ hpack (by simp [PlacedPack.pack, hvector])
  obtain ⟨i, hi⟩ := List.length_eq_one_iff.1 hlength
  have hcategory := h.category _ hpack i (by simp [PlacedPack.pack, hi])
  rw [Nat.sub_zero, List.getElem?_map, Option.map_eq_some_iff] at hcategory
  obtain ⟨kind, hkind, hcategory⟩ := hcategory
  have hmembers : kindsAt kinds p.members = [kind] := by simp [kindsAt, hi, hkind]
  rw [hmembers]
  cases kind with
  | vector => rfl
  | scalar | array => cases hcategory.trans hvector

theorem isLayout_layout (kinds : List ArgumentKind) : IsLayout wrap kinds (layout kinds) := by
  have hpacks : IsPartition 0 (kinds.map ArgumentKind.category)
      ((layout kinds).packs.map PlacedPack.pack) :=
    isPartition_iff.2 (map_pack_placeInEnvelope 0 _)
  have hsize : ∀ p ∈ (layout kinds).packs, p.size = wrap (extents (kindsAt kinds p.members)) :=
    fun p hp => size_of_mem_placeInEnvelope hp
  refine ⟨hpacks, arePlacedFrom_placeInEnvelope (by decide) _, hsize, fun p hp hvector => ?_, ?_,
    payloadSize_layout kinds⟩
  · rw [hsize p hp, extents_of_vector hpacks hp hvector]
    rfl
  · simp [layout]

/-- Packs that are placed one after the other have one way to be. -/
theorem ArePlacedFrom.unique {round : Nat → Nat} {offset : Nat} {ps ps' : List PlacedPack}
    (h : ArePlacedFrom round offset ps) (h' : ArePlacedFrom round offset ps')
    (hpack : ps.map PlacedPack.pack = ps'.map PlacedPack.pack)
    (hsize : ps.map (·.size) = ps'.map (·.size)) : ps = ps' := by
  have hlength : ps.length = ps'.length := by simpa using congrArg List.length hpack
  have hcategory : ps.map (·.category) = ps'.map (·.category) := by
    simpa [Function.comp_def, PlacedPack.pack] using congrArg (List.map Pack.category) hpack
  refine List.ext_getElem hlength fun i hi hi' => ?_
  have hsplit : ps = ps.take i ++ ps[i] :: ps.drop (i + 1) := by simp
  have hsplit' : ps' = ps'.take i ++ ps'[i] :: ps'.drop (i + 1) := by simp
  have htake : (ps.take i).map (·.category) = (ps'.take i).map (·.category) := by
    rw [List.map_take, List.map_take, hcategory]
  -- the region is told by the categories and the sizes of the packs before it
  have hregion : ps[i].region = ps'[i].region := by
    by_cases hvector : ∃ q ∈ ps.take i, q.category = .vector
    · have hvector' : ∃ q ∈ ps'.take i, q.category = .vector := by
        rw [← List.mem_map, ← htake, List.mem_map]
        exact hvector
      rw [h.reload _ _ _ hsplit hvector, h'.reload _ _ _ hsplit' hvector']
    · have hvector' : ¬∃ q ∈ ps'.take i, q.category = .vector := by
        rw [← List.mem_map, ← htake, List.mem_map]
        exact hvector
      rw [h.envelope _ _ _ hsplit (by simpa using hvector),
        h'.envelope _ _ _ hsplit' (by simpa using hvector'), List.map_take, List.map_take, hsize]
  have hpacki : ps[i].pack = ps'[i].pack := by
    simpa [hi, hi'] using congrArg (·[i]?) hpack
  have hsizei : ps[i].size = ps'[i].size := by
    simpa [hi, hi'] using congrArg (·[i]?) hsize
  generalize ps[i] = p at *
  generalize ps'[i] = p' at *
  obtain ⟨category, members, region, size⟩ := p
  cases hpacki
  cases hregion
  cases hsizei
  rfl

/-- There is one layout with given packs, places and sizes. -/
theorem IsLayout.unique {round : Nat → Nat} {l l' : Layout} (h : IsLayout round kinds l)
    (h' : IsLayout round kinds l') : l = l' := by
  have hpack := (isPartition_iff.1 h.packs).trans (isPartition_iff.1 h'.packs).symm
  have hsizes {ps : List PlacedPack}
      (hps : ∀ p ∈ ps, p.size = round (extents (kindsAt kinds p.members))) :
      ps.map (·.size) =
        (ps.map PlacedPack.pack).map fun p => round (extents (kindsAt kinds p.members)) := by
    rw [List.map_map]
    exact List.map_congr_left hps
  have hpacks : l.packs = l'.packs :=
    h.placed.unique h'.placed hpack (by rw [hsizes h.size, hsizes h'.size, hpack])
  have hvector : l.hasVector = l'.hasVector :=
    Bool.eq_iff_iff.2 (h.hasVector.trans h'.hasVector.symm)
  have hpayload := h.payloadSize.trans h'.payloadSize.symm
  cases l
  cases hpacks
  cases hvector
  cases hpayload
  rfl

/-! ### Layouts that count every byte -/

/-- The packs hold all arguments in their order. -/
theorem IsPartition.flatMap_kindsAt {ps : List Pack}
    (h : IsPartition 0 (kinds.map ArgumentKind.category) ps) :
    ps.flatMap (fun p => kindsAt kinds p.members) = kinds := by
  have hall := filterMap_range' [] kinds []
  rw [List.append_nil, List.nil_append] at hall
  rw [← List.filterMap_flatMap, h.members, List.length_map]
  exact hall

theorem IsPartition.category_of_mem_kindsAt {ps : List Pack} {p : Pack}
    (h : IsPartition 0 (kinds.map ArgumentKind.category) ps) (hp : p ∈ ps) {kind : ArgumentKind}
    (hkind : kind ∈ kindsAt kinds p.members) : kind.category = p.category := by
  obtain ⟨i, hi, hkind⟩ := List.mem_filterMap.1 hkind
  have hcategory := h.category p hp i hi
  rw [Nat.sub_zero, List.getElem?_map, hkind, Option.map_some] at hcategory
  exact Option.some_inj.1 hcategory

theorem extents_flatMap {α : Type} (l : List α) (f : α → List ArgumentKind) :
    extents (l.flatMap f) = (l.map fun a => extents (f a)).sum := by
  induction l with
  | nil => rfl
  | cons a l ih => rw [List.flatMap_cons, extents_append, ih, List.map_cons, List.sum_cons]

/-- What lies in front of a pack in the envelope is a part of the envelope. -/
theorem IsPartition.sum_le {before after : List Pack} {p : Pack}
    (h : IsPartition 0 (kinds.map ArgumentKind.category) (before ++ p :: after))
    (hbefore : ∀ q ∈ before, q.category ≠ .vector) :
    (before.map fun q => extents (kindsAt kinds q.members)).sum ≤ extents (upToVector kinds) := by
  have hkinds := h.flatMap_kindsAt
  rw [List.flatMap_append] at hkinds
  have hnone : ∀ kind ∈ before.flatMap fun q => kindsAt kinds q.members,
      kind.category ≠ .vector := by
    intro kind hkind
    obtain ⟨q, hq, hkind⟩ := List.mem_flatMap.1 hkind
    rw [h.category_of_mem_kindsAt (List.mem_append_left _ hq) hkind]
    exact hbefore q hq
  have hup := upToVector_append hnone ((p :: after).flatMap fun q => kindsAt kinds q.members)
  rw [hkinds] at hup
  rw [hup, extents_append, ← extents_flatMap]
  exact Nat.le_add_right _ _

theorem isLayout_id_layout_iff : IsLayout id kinds (layout kinds) ↔ Fits kinds := by
  have hwrap := isLayout_layout kinds
  have hpacks := isPartition_iff.1 hwrap.packs
  constructor
  · intro h
    refine ⟨fun p hp => ?_, wrap_eq_self_iff.1 (hwrap.payloadSize.symm.trans h.payloadSize)⟩
    rw [← hpacks] at hp
    obtain ⟨placed, hplaced, rfl⟩ := List.mem_map.1 hp
    exact wrap_eq_self_iff.1 ((hwrap.size placed hplaced).symm.trans (h.size placed hplaced))
  · intro h
    have hsize : ∀ p ∈ (layout kinds).packs, p.size = extents (kindsAt kinds p.members) :=
      fun p hp => h.size_eq hp
    refine ⟨hwrap.packs, hwrap.placed.of_sum_lt fun before p after hsplit hbefore => ?_, hsize,
      hwrap.count, hwrap.hasVector, h.payloadSize_eq⟩
    have hpartition := hwrap.packs
    rw [hsplit, List.map_append, List.map_cons] at hpartition
    have hsum := hpartition.sum_le (by simpa [PlacedPack.pack] using hbefore)
    have hsizes : before.map (·.size) =
        (before.map PlacedPack.pack).map fun q => extents (kindsAt kinds q.members) := by
      rw [List.map_map]
      exact List.map_congr_left fun q hq => hsize q (hsplit ▸ List.mem_append_left _ hq)
    exact hsizes ▸ Nat.lt_of_le_of_lt hsum h.envelope

/-- The layout of arguments is the only one with these packs, places and sizes: neighbouring scalars
share a pack, packs up to the first vector lie in the envelope one after the other and all others
in the stream, and the envelope holds the arguments up to the first vector; sizes and offsets are
what 64 bits keep of the bytes. They count every byte if and only if the bytes of each pack and
those of the envelope are fewer than `2 ^ 64`. -/
theorem isLayout_iff (kinds : List ArgumentKind) :
    (∀ l, IsLayout wrap kinds l ↔ l = layout kinds) ∧
      ((∀ l, IsLayout id kinds l ↔ l = layout kinds) ↔ Fits kinds) := by
  have honly {round : Nat → Nat} (h : IsLayout round kinds (layout kinds)) (l : Layout) :
      IsLayout round kinds l ↔ l = layout kinds :=
    ⟨fun hl => hl.unique h, fun heq => heq ▸ h⟩
  refine ⟨honly (isLayout_layout kinds), fun h => ?_, fun h => honly (isLayout_id_layout_iff.2 h)⟩
  exact isLayout_id_layout_iff.1 ((h _).2 rfl)

/-- An array of `2 ^ 64 - 1` bytes and a byte behind it: nothing is left of their size. -/
theorem not_isLayout_longArray :
    ¬IsLayout id [.array .u8 18446744073709551615, .scalar .u8]
      (layout [.array .u8 18446744073709551615, .scalar .u8]) := by
  rw [isLayout_id_layout_iff]
  decide

example : layout [.scalar .u32, .scalar .bool, .vector .u32, .scalar .u16, .array .u8 4] =
    ⟨[⟨.scalar, [0, 1], .envelope 0, 5⟩, ⟨.vector, [2], .envelope 5, 8⟩,
      ⟨.scalar, [3], .reload, 2⟩, ⟨.array, [4], .reload, 4⟩], true, 13⟩ := by
  decide

end Instrument.Interface
