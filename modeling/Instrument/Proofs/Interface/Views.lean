import Instrument.Proofs.Interface.DeviceNames

/-!
When a table of devices can be built, and what its views show. Main statement: devices are numbered
just if their tags differ from each other and from that of the control device, and else the first
device is told whose tag is taken; the devices of a table have the numbers from 1 on in their order;
and the discovery table, the names and the catalogue show the same devices and operations at the
same places.
-/

namespace Instrument.Interface

open Discovery (Entry)

/-! ### Tags that are taken -/

/-- The first device of a list whose tag is taken, by one of those that are seen or by a device
before it. -/
def IsFirstTaken (seen : List String) (found : List Description) (d : Description) : Prop :=
  ∃ before after, found = before ++ d :: after ∧ (seen ++ before.map (·.tag)).Nodup ∧
    d.tag ∈ seen ++ before.map (·.tag)

variable {seen : List String} {index : Nat} {first d : Description} {found : List Description}

theorem isFirstTaken_cons_self (hseen : seen.Nodup) (hd : d.tag ∈ seen) :
    IsFirstTaken seen (d :: found) d :=
  ⟨[], found, rfl, by simpa using hseen, by simpa using hd⟩

/-- A device before it would have a tag that is taken, too. -/
theorem IsFirstTaken.eq_of_mem (h : IsFirstTaken seen (first :: found) d)
    (hfirst : first.tag ∈ seen) : d = first := by
  obtain ⟨before, after, hfound, hnodup, -⟩ := h
  cases before with
  | nil => exact (List.cons.inj hfound).1.symm
  | cons other before =>
    obtain ⟨rfl, -⟩ := List.cons.inj hfound
    exact absurd rfl ((List.nodup_append.1 hnodup).2.2 _ hfirst _ (List.mem_cons_self ..))

/-- A tag in front of others may as well be one of those that are seen. -/
theorem isFirstTaken_cons_iff (hfirst : first.tag ∉ seen) :
    IsFirstTaken seen (first :: found) d ↔ IsFirstTaken (first.tag :: seen) found d := by
  have hmove (before : List Description) :
      (seen ++ (first :: before).map (·.tag)).Perm ((first.tag :: seen) ++ before.map (·.tag)) :=
    List.perm_middle
  constructor
  · rintro ⟨before, after, hfound, hnodup, hmem⟩
    cases before with
    | nil =>
      obtain ⟨rfl, rfl⟩ := List.cons.inj hfound
      exact absurd (by simpa using hmem) hfirst
    | cons other before =>
      obtain ⟨rfl, rfl⟩ := List.cons.inj hfound
      exact ⟨before, after, rfl, (hmove before).nodup_iff.1 hnodup, (hmove before).mem_iff.1 hmem⟩
  · rintro ⟨before, after, rfl, hnodup, hmem⟩
    exact ⟨first :: before, after, rfl, (hmove before).nodup_iff.2 hnodup,
      (hmove before).mem_iff.2 hmem⟩

/-- A device whose tag is free gets the next number. -/
theorem numberFrom_cons_of_free (hfirst : first.tag ∉ seen)
    (hcount : firstDeviceId + index < UInt16.size) :
    numberFrom seen index (first :: found) =
      (numberFrom (first.tag :: seen) (index + 1) found).map
        ({ first with id := UInt16.ofNat (firstDeviceId + index) } :: ·) := by
  rw [numberFrom, if_neg (by simpa using hfirst), if_neg (Nat.not_le.2 hcount)]
  rfl

/-- Devices are numbered if their tags are free, and else the first one is told whose tag is
taken. -/
theorem numberFrom_cases (hseen : seen.Nodup)
    (hcount : firstDeviceId + index + found.length ≤ UInt16.size) :
    (seen ++ found.map (·.tag)).Nodup ∧ (∃ numbered, numberFrom seen index found = .ok numbered) ∨
      ∃ d, IsFirstTaken seen found d ∧
        numberFrom seen index found = .error (.duplicateDevice d.name) := by
  induction found generalizing seen index with
  | nil => exact .inl ⟨by simpa using hseen, [], rfl⟩
  | cons first found ih =>
    rw [List.length_cons] at hcount
    by_cases hfirst : first.tag ∈ seen
    · refine .inr ⟨first, isFirstTaken_cons_self hseen hfirst, ?_⟩
      rw [numberFrom, if_pos (by simpa using hfirst)]
    have hmove : (seen ++ (first :: found).map (·.tag)).Perm
        ((first.tag :: seen) ++ found.map (·.tag)) := List.perm_middle
    have hmore : firstDeviceId + (index + 1) + found.length ≤ UInt16.size := by omega
    rw [numberFrom_cons_of_free hfirst (by omega), hmove.nodup_iff]
    rcases ih (List.nodup_cons.2 ⟨hfirst, hseen⟩) hmore with
      ⟨hnodup, numbered, hok⟩ | ⟨d, hd, herror⟩
    · exact .inl ⟨hnodup, _, by rw [hok]; rfl⟩
    · exact .inr ⟨d, (isFirstTaken_cons_iff hfirst).2 hd, by rw [herror]; rfl⟩

/-- No device has a tag that is taken if all tags differ. -/
theorem IsFirstTaken.not_nodup (h : IsFirstTaken seen found d) :
    ¬(seen ++ found.map (·.tag)).Nodup := by
  obtain ⟨before, after, rfl, -, hmem⟩ := h
  rw [List.map_append, List.map_cons, ← List.append_assoc, List.nodup_append]
  exact fun hnodup => hnodup.2.2 _ hmem _ (List.mem_cons_self ..) rfl

/-- There is but one first device whose tag is taken. -/
theorem IsFirstTaken.unique {d' : Description} (h : IsFirstTaken seen found d)
    (h' : IsFirstTaken seen found d') : d = d' := by
  induction found generalizing seen with
  | nil =>
    obtain ⟨before, after, hnil, -⟩ := h
    cases before <;> cases hnil
  | cons first found ih =>
    by_cases hfirst : first.tag ∈ seen
    · rw [h.eq_of_mem hfirst, h'.eq_of_mem hfirst]
    · exact ih ((isFirstTaken_cons_iff hfirst).1 h) ((isFirstTaken_cons_iff hfirst).1 h')

/-! ### Views -/

/-- Numbers that are places are counted from none on. -/
theorem AreListed.ids {operations : List Operation} (h : AreListed operations) :
    operations.map (·.id.toNat) = List.range operations.length := by
  refine List.ext_getElem (by simp) fun i hi _ => ?_
  rw [List.length_map] at hi
  obtain ⟨hlt, hid⟩ := h.id i _ (List.getElem?_eq_getElem hi)
  rw [List.getElem_map, hid, List.getElem_range, UInt16.toNat_ofNat_of_lt' hlt]

namespace DeviceTable

/-- The devices that a table can hold beside the control device. -/
def capacity : Nat := UInt16.size - firstDeviceId

/-- Devices are given numbers just if their tags differ from each other and from that of the control
device; and else the first device is told whose tag is taken. -/
theorem ofDescriptions_cases (hcount : found.length ≤ capacity) :
    ((∃ t, ofDescriptions found = .ok t) ↔
      control.tag ∉ found.map (·.tag) ∧ (found.map (·.tag)).Nodup) ∧
    ∀ e, ofDescriptions found = .error e ↔
      ∃ d, IsFirstTaken [control.tag] found d ∧ e = .duplicateDevice d.name := by
  have hroom : firstDeviceId + 0 + found.length ≤ UInt16.size := by
    have : capacity + firstDeviceId = UInt16.size := rfl
    omega
  rw [← List.nodup_cons, ← List.singleton_append]
  rcases numberFrom_cases (List.nodup_singleton control.tag) hroom with
    ⟨hnodup, users, hok⟩ | ⟨d, hd, herror⟩
  · have hbuilt : ofDescriptions found = .ok ⟨users⟩ := by rw [ofDescriptions, hok]; rfl
    refine ⟨iff_of_true ⟨_, hbuilt⟩ hnodup, fun e => ?_⟩
    rw [hbuilt]
    constructor
    · intro h
      cases h
    · rintro ⟨d, hd, -⟩
      exact absurd hnodup hd.not_nodup
  · have hrefused : ofDescriptions found = .error (.duplicateDevice d.name) := by
      rw [ofDescriptions, herror]
      rfl
    rw [hrefused]
    refine ⟨iff_of_false ?_ hd.not_nodup, fun e => ⟨?_, ?_⟩⟩
    · rintro ⟨t, ht⟩
      cases ht
    · rintro ⟨⟩
      exact ⟨d, hd, rfl⟩
    · rintro ⟨d', hd', rfl⟩
      rw [hd.unique hd']

/-- The row of the discovery table that a row of names shows: empty names do not count. -/
def rowOfNames (row : UInt16 × String × List String) : Entry :=
  ⟨row.1, row.2.1, row.2.2.takeWhile (· ≠ "")⟩

/-- The row of the discovery table that the signatures of a device show. -/
def rowOfSignatures (d : Signature.Device) : Entry :=
  ⟨d.id, d.tag, d.functions.map fun f => String.ofList (Text.upper f.name.toList)⟩

/-- Whether the views of a table show the same. -/
structure Agrees (t : DeviceTable) (found : List Description) : Prop where
  /-- The devices stand in the order in which they are given, with the numbers from 1 on. -/
  devices : t.devices = control :: found.mapIdx fun i d => { d with id := UInt16.ofNat (i + 2) }
  ids : t.discovery.entries.map (·.id.toNat) = List.range' 1 (found.length + 1)
  /-- The numbers of operations are their places. -/
  operations : ∀ d ∈ t.devices, d.operations.map (·.id.toNat) = List.range d.operations.length
  /-- The discovery table can be read off each of the other views. -/
  names : t.names.map rowOfNames = t.discovery.entries
  catalogue : t.catalogue.map rowOfSignatures = t.discovery.entries
  functions : ∀ d ∈ t.catalogue, d.functions.map (·.id.toNat) = List.range d.functions.length
  /-- All rows of names are as long as the longest one, and filled up with empty names. -/
  width : t.discovery.width = t.width ∧ ∀ row ∈ t.names, row.2.2.length = t.width ∧
    ∀ name ∈ row.2.2.dropWhile (· ≠ ""), name = ""

variable {t : DeviceTable}

/-- No operation of a table of declared devices has an empty tag. -/
theorem ne_empty_of_mem (hfound : AreDeclared found) (h : ofDescriptions found = .ok t)
    (hd : d ∈ t.devices) : ∀ tag ∈ operationTags d, tag ≠ "" := by
  have hrow : d.row ∈ t.discovery.entries := by
    rw [t.entries_discovery]
    exact List.mem_map_of_mem hd
  rintro _ htag rfl
  exact ((isWritable_discovery hfound h).entries _ hrow).operations "" htag |>.ne_nil rfl

/-- The names of a device are filled up with empty names. -/
theorem takeWhile_filled {tags : List String} (htags : ∀ tag ∈ tags, tag ≠ "") (n : Nat) :
    (tags ++ List.replicate n "").takeWhile (· ≠ "") = tags ∧
      (tags ++ List.replicate n "").dropWhile (· ≠ "") = List.replicate n "" := by
  have hfull : ∀ tag ∈ tags, decide (tag ≠ "") = true := by simpa using htags
  rw [List.takeWhile_append_of_pos hfull, List.dropWhile_append_of_pos hfull]
  cases n <;> simp [List.replicate_succ]

/-- The numbers of the devices are counted from 1 on. -/
theorem ids_devices (h : ofDescriptions found = .ok t) :
    t.devices.map (·.id.toNat) = List.range' 1 (found.length + 1) := by
  have hlength : t.devices.length = found.length + 1 :=
    congrArg (· + 1) (length_numberFrom (users_of_ofDescriptions h))
  refine List.ext_getElem (by simp [hlength]) fun i hi _ => ?_
  rw [List.length_map] at hi
  obtain ⟨hlt, hid⟩ := id_of_getElem? h (List.getElem?_eq_getElem hi)
  rw [List.getElem_map, hid, List.getElem_range', UInt16.toNat_ofNat_of_lt' hlt]
  omega

theorem width_discovery (t : DeviceTable) : t.discovery.width = t.width := by
  simp only [discovery, Discovery.Table.ofEntries, width, Discovery.longest, List.foldr_map]
  simp [operationTags]

/-- A row of names is as long as the longest one. -/
theorem length_filled (hd : d ∈ t.devices) :
    (operationTags d ++ List.replicate (t.width - (operationTags d).length) "").length =
      t.width := by
  have hle := t.discovery.length_le d.row (t.entries_discovery ▸ List.mem_map_of_mem hd)
  rw [t.width_discovery] at hle
  have htags : (operationTags d).length ≤ t.width := hle
  rw [List.length_append, List.length_replicate]
  omega

/-- The views of a table of declared devices show the same. -/
theorem agrees (hfound : AreDeclared found) (h : ofDescriptions found = .ok t) :
    t.Agrees found := by
  -- each view is a map over the devices, so each part is settled device by device
  have hlisted : ∀ d ∈ t.devices, AreListed d.operations := fun d => areListed_of_mem hfound h
  have hfilled (d : Description) (hd : d ∈ t.devices) (n : Nat) :=
    takeWhile_filled (ne_empty_of_mem hfound h hd) n
  constructor
  case devices =>
    rw [devices, (numbered_of_numberFrom (users_of_ofDescriptions h)).1]
    simp only [firstDeviceId, Nat.add_comm 2]
  case ids =>
    rw [t.entries_discovery, List.map_map]
    exact ids_devices h
  case operations => exact fun d hd => (hlisted d hd).ids
  case names =>
    rw [names, List.map_map, t.entries_discovery]
    refine List.map_congr_left fun d hd => ?_
    simp only [Function.comp_apply, rowOfNames, (hfilled d hd _).1]
    rfl
  case catalogue =>
    rw [catalogue, List.map_map, t.entries_discovery]
    refine List.map_congr_left fun d hd => ?_
    have htags : d.operations.map (fun op => String.ofList (Text.upper op.name.toList)) =
        operationTags d := List.map_congr_left fun op hop => ((hlisted d hd).tag op hop).symm
    simp only [Function.comp_apply, rowOfSignatures, List.map_map, Description.row, ← htags]
    rfl
  case functions =>
    intro s hs
    obtain ⟨d, hd, rfl⟩ := List.mem_map.1 hs
    simpa [functionSignature, Function.comp_def] using (hlisted d hd).ids
  case width =>
    refine ⟨t.width_discovery, fun row hrow => ?_⟩
    obtain ⟨d, hd, rfl⟩ := List.mem_map.1 hrow
    refine ⟨length_filled hd, fun name hname => ?_⟩
    rw [(hfilled d hd _).2] at hname
    exact List.eq_of_mem_replicate hname

/-- Declared devices are given numbers just if their tags differ from each other and from that of
the control device, and else the first one is told whose tag is taken; and the views of the table
that is built show the same devices and operations at the same places, with the same numbers. -/
theorem ofDescriptions_views (hfound : AreDeclared found) (hcount : found.length ≤ capacity) :
    ((∃ t, ofDescriptions found = .ok t) ↔
      control.tag ∉ found.map (·.tag) ∧ (found.map (·.tag)).Nodup) ∧
    (∀ e, ofDescriptions found = .error e ↔
      ∃ d, IsFirstTaken [control.tag] found d ∧ e = .duplicateDevice d.name) ∧
    ∀ t, ofDescriptions found = .ok t → t.Agrees found :=
  ⟨(ofDescriptions_cases hcount).1, (ofDescriptions_cases hcount).2, fun _ => agrees hfound⟩

/-- The views of the table of two meters agree; if both meters are declared twice, the first one is
told. -/
theorem ofDescriptions_views_meters :
    meters.Agrees [firstMeter 0, secondMeter 0] ∧
      ofDescriptions [firstMeter 0, secondMeter 0, firstMeter 0, secondMeter 0] =
        .error (.duplicateDevice "AB") := by
  have hdeclared := areDeclared_of_descriptions descriptions_metersSource
  constructor
  · exact (ofDescriptions_views hdeclared (by decide)).2.2 meters ofDescriptions_meters
  · refine ((ofDescriptions_views (hdeclared.append hdeclared) (by decide)).2.1 _).2
      ⟨firstMeter 0, ⟨[firstMeter 0, secondMeter 0], [secondMeter 0], rfl, ?_, ?_⟩, rfl⟩
    · decide
    · decide

end DeviceTable

end Instrument.Interface
