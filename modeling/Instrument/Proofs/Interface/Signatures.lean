import Instrument.Proofs.Interface.DeviceNames

/-!
How the signature of a call is found. A call is sent under the numbers that the discovery table
tells, while its signature is looked up in the catalogue, by other rules. Main statement: the two
mean the same operation just if no device in front of the one that is called has the name for its
class, or the tag of such a class for its tag, and the operation is the first one of the device that
has the name in any case.
-/

namespace Instrument.Interface

open Success Discovery

/-! ### The operation that is called -/

/-- Whether a call by two names is sent under the number of a device and that of its operation at
the place `i`. -/
def DeviceTable.IsSentTo (t : DeviceTable) (device operation : String) (d : Description) (i : Nat) :
    Prop :=
  ∃ entry id, t.discovery.find? device = some entry ∧
    entry.operationId? (capitals operation) = some id ∧ t.find? entry.id = some d ∧ id.toNat = i

section

variable {found : List Description} {t : DeviceTable} {device operation : String} {d : Description}
  {i : Nat}

/-- A call is sent to the device that is addressed, for the first operation that has the tag. -/
theorem isSentTo_iff (h : DeviceTable.ofDescriptions found = .ok t) :
    t.IsSentTo device operation d i ↔
      t.addressed? device = some d ∧ i < UInt16.size ∧
        d.operations.findIdx? (·.tag == capitals operation) = some i := by
  unfold DeviceTable.IsSentTo
  simp only [find?_discovery, Option.map_eq_some_iff]
  constructor
  · rintro ⟨_, id, ⟨d', hd', rfl⟩, hid, hfind, rfl⟩
    have hsame : d' = d := by
      have hfind' := (DeviceTable.find?_eq_some_iff h).2 ⟨mem_of_addressed? hd', rfl⟩
      exact Option.some.inj (hfind'.symm.trans hfind)
    subst hsame
    exact ⟨hd', id.toNat_lt, operationId?_row_eq_some_iff.1 hid⟩
  · rintro ⟨hd, hlt, hfound⟩
    refine ⟨_, UInt16.ofNat i, ⟨d, hd, rfl⟩, ?_, ?_, UInt16.toNat_ofNat_of_lt' hlt⟩
    · rwa [operationId?_row_eq_some_iff, UInt16.toNat_ofNat_of_lt' hlt]
    · exact (DeviceTable.find?_eq_some_iff h).2 ⟨mem_of_addressed? hd, rfl⟩

/-! ### The operation whose signature is found -/

/-- Whether the catalogue answers a name with the signatures of a device, if not with those of a
device in front of it. -/
def Description.answersTo (d : Description) (name : String) : Bool :=
  d.name == name || d.tag == name || d.tag == deviceTag name

/-- The device and the place of its operation whose signature the catalogue tells. -/
def DeviceTable.signed? (t : DeviceTable) (device operation : String) :
    Option (Description × Nat) := do
  let d ← t.devices.find? (·.answersTo device)
  let i ← d.operations.findIdx? (capitals ·.name == capitals operation)
  return (d, i)

theorem capitals_beq (name other : String) :
    (capitals name == capitals other) = (asciiUpper name.toList == asciiUpper other.toList) := by
  rw [Bool.eq_iff_iff, beq_iff_eq, beq_iff_eq]
  exact String.ofList_inj

theorem find?_catalogue (t : DeviceTable) (device operation : String) :
    Signature.find? t.catalogue device operation =
      (t.signed? device operation).bind fun place =>
        place.1.operations[place.2]?.map DeviceTable.functionSignature := by
  have hfunctions (d : Description) :
      ((d.operations.map DeviceTable.functionSignature).find? fun f =>
        asciiUpper f.name.toList == asciiUpper operation.toList) =
      (d.operations.findIdx? (capitals ·.name == capitals operation)).bind fun i =>
        d.operations[i]?.map DeviceTable.functionSignature := by
    simp only [List.find?_map, Function.comp_def, capitals_beq, DeviceTable.functionSignature]
    rw [List.find?_eq_bind_findIdx?_getElem?, Option.map_bind]
    rfl
  have hdevices : t.catalogue.find? (fun e => e.className == device || e.tag == device ||
      e.tag == deviceTag device) = (t.devices.find? (·.answersTo device)).map fun d =>
        ⟨d.name, d.tag, d.id, d.operations.map DeviceTable.functionSignature⟩ := by
    rw [DeviceTable.catalogue, List.find?_map]
    rfl
  simp only [Signature.find?, hdevices, DeviceTable.signed?, bind]
  cases t.devices.find? (·.answersTo device) with
  | none => rfl
  | some d =>
    simp only [Option.map_some, Option.bind_some, hfunctions]
    cases d.operations.findIdx? (capitals ·.name == capitals operation) <;> rfl

/-! ### Agreement -/

/-- Whether no device in front of a device has a name for its class, or the tag of such a class for
its tag. -/
def DeviceTable.IsFirst (t : DeviceTable) (name : String) (d : Description) : Prop :=
  ∀ b ∈ t.devices, b.id < d.id → b.name ≠ name ∧ b.tag ≠ deviceTag name

/-- Whether the tag of the operation at a place is its name in capitals, and that of none in front
of it. -/
def Description.IsFirstNamed (d : Description) (i : Nat) : Prop :=
  ∃ op, d.operations[i]? = some op ∧ capitals op.name = op.tag ∧
    ∀ j < i, ∀ other, d.operations[j]? = some other → capitals other.name ≠ op.tag

/-- The catalogue answers with the device that is addressed, if it is the first. -/
theorem find?_answersTo_iff (h : DeviceTable.ofDescriptions found = .ok t)
    (haddressed : t.addressed? device = some d) :
    t.devices.find? (·.answersTo device) = some d ↔ t.IsFirst device d := by
  have hd := mem_of_addressed? haddressed
  have hanswers : d.answersTo device = true := by
    rcases Option.or_eq_some_iff.1 haddressed with hfind | ⟨-, hfind⟩
    · have htag : d.tag = device := by simpa using List.find?_some hfind
      simp [Description.answersTo, htag]
    · have htag : d.tag = deviceTag device := by simpa using List.find?_some hfind
      simp [Description.answersTo, htag]
  -- No other device has the name itself for its tag, or that one would be addressed.
  have htag : ∀ b ∈ t.devices, b.tag = device → b = d := by
    intro b hb hbtag
    have hfind := (find?_tag_eq_some_iff h hb device).2 hbtag
    rw [DeviceTable.addressed?, hfind] at haddressed
    exact Option.some.inj haddressed
  obtain ⟨k, hk⟩ := List.getElem?_of_mem hd
  rw [List.find?_eq_some_iff_getElem]
  constructor
  · rintro ⟨-, i, hi, hget, hbefore⟩ b hb hlt
    obtain ⟨j, hj⟩ := List.getElem?_of_mem hb
    have hij := (DeviceTable.id_lt_iff h hj (List.getElem?_eq_some_iff.2 ⟨hi, hget⟩)).1 hlt
    obtain ⟨hjlt, rfl⟩ := List.getElem?_eq_some_iff.1 hj
    have hnot := hbefore j hij
    simp only [Description.answersTo, Bool.not_eq_true', Bool.or_eq_false_iff,
      beq_eq_false_iff_ne] at hnot
    exact ⟨hnot.1.1, hnot.2⟩
  · intro hfirst
    obtain ⟨hklt, hget⟩ := List.getElem?_eq_some_iff.1 hk
    refine ⟨hanswers, k, hklt, hget, ?_⟩
    intro j hj
    have hjget : t.devices[j]? = some t.devices[j] := List.getElem?_eq_getElem (by omega)
    have hlt := (DeviceTable.id_lt_iff h hjget hk).2 hj
    obtain ⟨hname, hderived⟩ := hfirst _ (List.getElem_mem _) hlt
    have hother : t.devices[j].tag ≠ device := by
      intro hsame
      have heq := htag _ (List.getElem_mem _) hsame
      rw [heq] at hlt
      exact UInt16.lt_irrefl _ hlt
    simp [Description.answersTo, hname, hderived, hother]

/-- The catalogue answers with the operation that is called, if it is the first. -/
theorem findIdx?_capitals_iff
    (hcalled : d.operations.findIdx? (·.tag == capitals operation) = some i) :
    d.operations.findIdx? (capitals ·.name == capitals operation) = some i ↔ d.IsFirstNamed i := by
  rw [List.findIdx?_eq_some_iff_getElem] at hcalled ⊢
  obtain ⟨hi, htag, -⟩ := hcalled
  have htag : d.operations[i].tag = capitals operation := by simpa using htag
  constructor
  · rintro ⟨_, hname, hbefore⟩
    refine ⟨d.operations[i], List.getElem?_eq_getElem hi, by rw [htag]; simpa using hname, ?_⟩
    intro j hj other hother hsame
    obtain ⟨hjlt, rfl⟩ := List.getElem?_eq_some_iff.1 hother
    exact hbefore j hj (by rw [← htag]; simpa using hsame)
  · rintro ⟨op, hop, hname, hbefore⟩
    obtain ⟨_, rfl⟩ := List.getElem?_eq_some_iff.1 hop
    refine ⟨hi, by rw [← htag]; simpa using hname, ?_⟩
    intro j hj hsame
    refine hbefore j hj _ (List.getElem?_eq_getElem (by omega)) ?_
    rw [htag]
    simpa using hsame

/-- The signature that is found for a call is that of the operation that the call is sent for, just
if the device and the operation are the first that the catalogue answers the names with. -/
theorem find?_catalogue_iff (h : DeviceTable.ofDescriptions found = .ok t)
    (hsent : t.IsSentTo device operation d i) {f : Signature.Function}
    (hfound : Signature.find? t.catalogue device operation = some f) :
    ∃ e j op, t.signed? device operation = some (e, j) ∧ e.operations[j]? = some op ∧
      f = DeviceTable.functionSignature op ∧
      ((e, j) = (d, i) ↔ t.IsFirst device d ∧ d.IsFirstNamed i) := by
  rw [find?_catalogue, Option.bind_eq_some_iff] at hfound
  obtain ⟨⟨e, j⟩, hsigned, hfunction⟩ := hfound
  obtain ⟨op, hop, rfl⟩ := Option.map_eq_some_iff.1 hfunction
  refine ⟨e, j, op, hsigned, hop, rfl, ?_⟩
  obtain ⟨haddressed, -, hcalled⟩ := (isSentTo_iff h).1 hsent
  rw [← find?_answersTo_iff h haddressed, ← findIdx?_capitals_iff hcalled]
  simp only [DeviceTable.signed?, Option.bind_eq_bind, Option.bind_eq_some_iff, Option.pure_def,
    Option.some.injEq, Prod.mk.injEq] at hsigned
  obtain ⟨e', he', j', hj', rfl, rfl⟩ := hsigned
  rw [he', Prod.mk.injEq]
  constructor
  · rintro ⟨rfl, rfl⟩
    exact ⟨rfl, hj'⟩
  · rintro ⟨hdevice, hplace⟩
    obtain rfl := Option.some.inj hdevice
    rw [hj'] at hplace
    exact ⟨rfl, Option.some.inj hplace⟩

end

theorem isSentTo_meters {device : String}
    (h : meters.addressed? device = some (secondMeter 3)) :
    meters.IsSentTo device "level" (secondMeter 3) 0 :=
  (isSentTo_iff ofDescriptions_meters).2 ⟨h, by decide, by decide⟩

/-- A call of the second meter by its class is checked against its own signature. -/
theorem find?_catalogue_iff_meters :
    ∃ e j op, meters.signed? "Ab" "level" = some (e, j) ∧ e.operations[j]? = some op ∧
      DeviceTable.functionSignature (meterOperation "uint8_t" (.scalar .u8) 7) =
        DeviceTable.functionSignature op ∧ (e, j) = (secondMeter 3, 0) := by
  obtain ⟨e, j, op, hsigned, hop, hf, hiff⟩ := find?_catalogue_iff ofDescriptions_meters
    (isSentTo_meters (by decide)) (by decide : Signature.find? meters.catalogue "Ab" "level" =
      some (DeviceTable.functionSignature (meterOperation "uint8_t" (.scalar .u8) 7)))
  refine ⟨e, j, op, hsigned, hop, hf, hiff.2 ⟨?_, ?_⟩⟩
  · unfold DeviceTable.IsFirst
    decide
  · exact ⟨_, rfl, by decide, fun j hj => absurd hj (Nat.not_lt_zero j)⟩

/-- A call of the second meter by its tag is checked against the signature of the first. -/
theorem find?_catalogue_meters :
    DeviceTable.ofDescriptions [firstMeter 0, secondMeter 0] = .ok meters ∧
      meters.IsSentTo "AB" "level" (secondMeter 3) 0 ∧
      Signature.find? meters.catalogue "AB" "level" =
        some (DeviceTable.functionSignature (meterOperation "uint16_t" (.scalar .u16) 3)) ∧
      DeviceTable.functionSignature (meterOperation "uint16_t" (.scalar .u16) 3) ≠
        DeviceTable.functionSignature (meterOperation "uint8_t" (.scalar .u8) 7) :=
  ⟨rfl, isSentTo_meters (by decide), by decide, by decide⟩

end Instrument.Interface
