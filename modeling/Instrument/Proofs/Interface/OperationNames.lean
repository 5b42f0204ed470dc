import Instrument.Proofs.Interface.Numbering
import Instrument.Proofs.Text.Case

/-!
How the names of operations are resolved. A call puts the name of an operation into ASCII capitals
and looks it up in the row of its device. Main statement: an operation that headers declare is found
under its name and under its tag just if the tag is the name in ASCII capitals and no operation in
front of it is listed under the same tag.
-/

namespace Instrument.Interface

/-- The spelling under which a call looks an operation up. -/
def capitals (name : String) : String := String.ofList (asciiUpper name.toList)

/-- The row of a device in the discovery table. -/
def Description.row (d : Description) : Discovery.Entry :=
  ⟨d.id, d.tag, DeviceTable.operationTags d⟩

theorem DeviceTable.entries_discovery (t : DeviceTable) :
    t.discovery.entries = t.devices.map Description.row := rfl

/-- Whether an operation of a device is what its name and its tag stand for: calls by either are
sent under its number, and the name finds the operation itself. -/
structure Description.Resolves (d : Description) (op : Operation) : Prop where
  byName : d.row.operationId? (capitals op.name) = some op.id
  byTag : d.row.operationId? (capitals op.tag) = some op.id
  named : d.operationNamed? op.name = some op

/-! ### Looking up a tag -/

section

variable {d : Description} {i : Nat} {op : Operation}

/-- A spelling leads to the number of the first operation that has it for a tag. -/
theorem operationId?_row_eq_some_iff {spelling : String} {id : UInt16} :
    d.row.operationId? spelling = some id ↔
      d.operations.findIdx? (·.tag == spelling) = some id.toNat := by
  rw [Discovery.Entry.operationId?, Option.bind_eq_some_iff, Description.row,
    DeviceTable.operationTags, List.findIdx?_map]
  constructor
  · rintro ⟨j, hj, hid⟩
    split at hid
    · next hlt =>
      obtain rfl := Option.some.inj hid
      rw [UInt16.toNat_ofNat_of_lt' hlt]
      exact hj
    · cases hid
  · intro hfound
    exact ⟨id.toNat, hfound, by rw [if_pos id.toNat_lt, UInt16.ofNat_toNat]⟩

/-- Whether no operation in front of a place is listed under a tag. -/
def Description.IsFree (d : Description) (i : Nat) (tag : String) : Prop :=
  ∀ j < i, ∀ other : Operation, d.operations[j]? = some other → other.tag ≠ tag

/-- A spelling leads to an operation just if it is the tag of this one and of none before. -/
theorem operationId?_row_iff (hlisted : AreListed d.operations) (hop : d.operations[i]? = some op)
    (spelling : String) :
    d.row.operationId? spelling = some op.id ↔ op.tag = spelling ∧ d.IsFree i spelling := by
  obtain ⟨hlt, hid⟩ := hlisted.id i op hop
  obtain ⟨hi, hget⟩ := List.getElem?_eq_some_iff.1 hop
  rw [operationId?_row_eq_some_iff, hid, UInt16.toNat_ofNat_of_lt' hlt,
    List.findIdx?_eq_some_iff_getElem]
  constructor
  · rintro ⟨_, htag, hbefore⟩
    refine ⟨by simpa [hget] using htag, ?_⟩
    intro j hj other hother hsame
    obtain ⟨hjlt, rfl⟩ := List.getElem?_eq_some_iff.1 hother
    exact hbefore j hj (by simpa using hsame)
  · rintro ⟨htag, hfree⟩
    refine ⟨hi, by simpa [hget] using htag, ?_⟩
    intro j hj hsame
    exact hfree j hj _ (List.getElem?_eq_getElem (by omega)) (by simpa using hsame)

/-- The tag of an operation is in capitals already. -/
theorem capitals_tag (hlisted : AreListed d.operations) (hop : op ∈ d.operations) :
    capitals op.tag = op.tag := by
  rw [hlisted.tag op hop, capitals, String.toList_ofList]
  exact congrArg String.ofList (Text.map_toUpper_upper _)

/-- A name leads to its operation, if its tag is its name in capitals and no operation in front of
it has that tag: an operation in front of it cannot have the name either for a tag. -/
theorem operationNamed?_of_isFree (hlisted : AreListed d.operations)
    (hop : d.operations[i]? = some op) (htag : capitals op.name = op.tag)
    (hfree : d.IsFree i op.tag) : d.operationNamed? op.name = some op := by
  obtain ⟨hi, hget⟩ := List.getElem?_eq_some_iff.1 hop
  rw [Description.operationNamed?, List.find?_eq_some_iff_getElem]
  refine ⟨by simp, i, hi, hget, ?_⟩
  intro j hj
  have hother : d.operations[j]? = some d.operations[j] := List.getElem?_eq_getElem (by omega)
  have hmem : d.operations[j] ∈ d.operations := List.getElem_mem _
  have hname : d.operations[j].name ≠ op.name := by
    intro hsame
    have hnodup := List.pairwise_iff_getElem.1 hlisted.nodup j i (by simp; omega) (by simpa) hj
    simp only [List.getElem_map] at hnodup
    exact hnodup (by rw [hsame, hget])
  have hother_tag : d.operations[j].tag ≠ op.name := by
    intro hsame
    refine hfree j hj _ hother ?_
    rw [← htag, ← hsame, capitals_tag hlisted hmem]
  simp [hname, hother_tag]

end

/-! ### Names of declared operations -/

/-- An operation is what its name and its tag stand for just if its tag is its name in ASCII
capitals and no operation in front of it has the same tag. -/
theorem resolves_iff {found : List Description} {t : DeviceTable} {d : Description} {i : Nat}
    {op : Operation} (hfound : AreDeclared found) (ht : DeviceTable.ofDescriptions found = .ok t)
    (hd : d ∈ t.devices) (hop : d.operations[i]? = some op) :
    d.Resolves op ↔ capitals op.name = op.tag ∧ d.IsFree i op.tag := by
  have hlisted := DeviceTable.areListed_of_mem hfound ht hd
  have hcapitals := capitals_tag hlisted (List.mem_of_getElem? hop)
  constructor
  · rintro ⟨hname, -, -⟩
    obtain ⟨htag, hfree⟩ := (operationId?_row_iff hlisted hop _).1 hname
    exact ⟨htag.symm, htag ▸ hfree⟩
  · rintro ⟨htag, hfree⟩
    refine ⟨?_, ?_, operationNamed?_of_isFree hlisted hop htag hfree⟩
    · exact (operationId?_row_iff hlisted hop _).2 ⟨htag.symm, htag ▸ hfree⟩
    · exact (operationId?_row_iff hlisted hop _).2 ⟨hcapitals.symm, hcapitals.symm ▸ hfree⟩

/-- A pump that tells two levels, under names that differ in the case of a letter. -/
def pumpSource : String :=
  "class Pump \x7b\n  public:\n    uint8_t level();\n    uint8_t Level();\n\x7d;\n"

/-- What the pump tells. -/
def pumpOperation (id : UInt16) (name : String) (line : Nat) : Operation :=
  ⟨name, "LEVEL", id, "uint8_t", .scalar .u8, .read, [], none, none, line⟩

/-- The pump without a number. -/
def pumpDescription : Description :=
  ⟨"Pump", "PUMP", 0, [pumpOperation 0 "level" 3, pumpOperation 1 "Level" 4], none⟩

theorem descriptions_pumpSource :
    descriptions "devlink" "pump.hpp" pumpSource = .ok [pumpDescription] := by
  rw [← Success.toOption_eq_some_iff]
  decide +kernel

/-- The first of the two operations is what its name stands for, the second is not. -/
theorem resolves_iff_pump :
    ∃ d, DeviceTable.ofDescriptions [pumpDescription] = .ok ⟨[d]⟩ ∧
      d.Resolves (pumpOperation 0 "level" 3) ∧ ¬d.Resolves (pumpOperation 1 "Level" 4) := by
  refine ⟨{ pumpDescription with id := 2 }, rfl, ?_, ?_⟩
  · refine (resolves_iff (i := 0) (areDeclared_of_descriptions descriptions_pumpSource) rfl
      (List.mem_cons_of_mem _ (List.mem_singleton_self _)) rfl).2 ⟨by decide, ?_⟩
    intro j hj
    omega
  · intro hresolves
    have hfree := (resolves_iff (i := 1) (areDeclared_of_descriptions descriptions_pumpSource) rfl
      (List.mem_cons_of_mem _ (List.mem_singleton_self _)) rfl).1 hresolves
    exact hfree.2 0 (by decide) _ rfl rfl

/-- A call of the second operation is sent under the number of the first. -/
theorem operationId?_row_pump :
    descriptions "devlink" "pump.hpp" pumpSource = .ok [pumpDescription] ∧
      DeviceTable.ofDescriptions [pumpDescription] = .ok ⟨[{ pumpDescription with id := 2 }]⟩ ∧
      pumpDescription.operations[1]? = some (pumpOperation 1 "Level" 4) ∧
      { pumpDescription with id := 2 }.row.operationId? (capitals "Level") = some 0 := by
  exact ⟨descriptions_pumpSource, rfl, rfl, by decide⟩

end Instrument.Interface
