import Instrument.Proofs.Discovery
import Instrument.Proofs.Interface.OperationNames

/-!
How the names of devices are resolved. Main statement: the discovery table of declared devices is
read back from its text; a tag finds its device in it; and the name of a class finds the device of
that class just if the name is no tag of another device.
-/

namespace Instrument.Interface

open Success Discovery

/-! ### Names as fields of a row -/

theorem isField_ofList {cs : List Char} (hne : cs ≠ []) (h : ∀ c ∈ cs, Text.IsFieldChar c) :
    IsField (String.ofList cs) where
  ne_nil := by simpa using hne
  trimmed := by
    rw [String.toList_ofList]
    exact Text.trim_of_forall fun c hc => (h c hc).1
  colon := by
    rw [String.toList_ofList]
    exact fun hmem => (h ':' hmem).2 rfl
  newline := by
    rw [String.toList_ofList]
    exact fun hmem => absurd (h '\n' hmem).1 (by decide)

theorem isFieldChar_of_isMethodName {s : String} (h : Header.IsMethodName s) :
    ∀ c ∈ s.toList, Text.IsFieldChar c := by
  obtain ⟨word, hword, rfl | rfl⟩ := h
  · exact fun c hc => Text.isFieldChar_of_isWordChar (hword.isWordChar c hc)
  · intro c hc
    rw [String.toList_append, List.mem_append] at hc
    rcases hc with hc | hc
    · obtain rfl := List.mem_singleton.1 hc
      decide
    · exact Text.isFieldChar_of_isWordChar (hword.isWordChar c hc)

/-- The tag of an operation can stand in a row. -/
theorem isField_upper {s : String} (h : Header.IsMethodName s) :
    IsField (String.ofList (Text.upper s.toList)) := by
  have hne : s.toList ≠ [] := by
    obtain ⟨word, hword, rfl | rfl⟩ := h
    · exact hword.ne_nil
    · simp
  exact isField_ofList (Text.upper_ne_nil hne)
    (Text.isFieldChar_of_mem_upper (isFieldChar_of_isMethodName h))

/-- The tag of a class can stand in a row. -/
theorem isField_deviceTag {s : String} (h : Header.IsName s) : IsField (deviceTag s) := by
  have hfield : ∀ x ∈ (deviceTag s).toList, Text.IsFieldChar x := by
    intro x hx
    rcases exists_of_mem_deviceTag hx with rfl | ⟨c, hc, rfl | rfl⟩
    · decide
    · exact Text.isFieldChar_of_isWordChar (h.isWordChar x hc)
    · exact Text.isFieldChar_toUpper (Text.isFieldChar_of_isWordChar (h.isWordChar c hc))
  simpa using isField_ofList (deviceTag_ne_nil h.ne_nil) hfield

/-- The tags of a device that a class declares can stand in a row. -/
theorem Description.IsOfClass.isWritable {d : Description} (h : d.IsOfClass) :
    d.row.IsWritable := by
  obtain ⟨_, c, hnamed, hof⟩ := h
  obtain ⟨hname, htag⟩ := fields_of_ofClass hof
  refine ⟨?_, ?_⟩
  · change IsField d.tag
    rw [htag, hname]
    exact isField_deviceTag hnamed.name
  · intro tag hmem
    obtain ⟨op, hop, rfl⟩ := List.mem_map.1 hmem
    obtain ⟨method, hmethod, hsame⟩ := exists_method_of_ofClass hof op hop
    rw [(areListed_of_ofClass hof).tag op hop, hsame]
    exact isField_upper (hnamed.methods method hmethod)

/-! ### The table as text -/

section

variable {found : List Description} {t : DeviceTable}

theorem AreListed.length_le {operations : List Operation} (h : AreListed operations) :
    operations.length ≤ UInt16.size := by
  rcases Nat.eq_zero_or_pos operations.length with hnil | hpos
  · omega
  · have hlast : operations[operations.length - 1]? = some operations[operations.length - 1] :=
      List.getElem?_eq_getElem (by omega)
    have := (h.id _ _ hlast).1
    omega

/-- The discovery table of declared devices can be written. -/
theorem isWritable_discovery (hfound : AreDeclared found)
    (h : DeviceTable.ofDescriptions found = .ok t) : t.discovery.IsWritable := by
  have hrows : ∀ e ∈ t.discovery.entries, ∃ d ∈ t.devices, d.row = e := by
    intro e he
    rw [t.entries_discovery, List.mem_map] at he
    exact he
  constructor
  · refine Nat.lt_of_le_of_lt (longest_le (n := UInt16.size) ?_) (by decide)
    intro e he
    obtain ⟨d, hd, rfl⟩ := hrows e he
    simpa [Description.row, DeviceTable.operationTags] using
      (DeviceTable.areListed_of_mem hfound h hd).length_le
  · intro e he
    obtain ⟨d, hd, rfl⟩ := hrows e he
    obtain ⟨d', hd', id, rfl⟩ := DeviceTable.exists_of_mem hfound h hd
    exact ⟨hd'.isWritable.name, hd'.isWritable.operations⟩

/-! ### Looking up a device -/

/-- The device that a call addresses by a name: the one with this name for its tag, or else the one
with the tag of a class of this name. -/
def DeviceTable.addressed? (t : DeviceTable) (name : String) : Option Description :=
  (t.devices.find? (·.tag == name)).or (t.devices.find? (·.tag == deviceTag name))

theorem find?_discovery (t : DeviceTable) (name : String) :
    t.discovery.find? name = (t.addressed? name).map Description.row := by
  have hfind (tag : String) : t.discovery.entries.find? (·.name == tag) =
      (t.devices.find? (·.tag == tag)).map Description.row := by
    rw [t.entries_discovery, List.find?_map]
    rfl
  rw [Table.find?, hfind, hfind, DeviceTable.addressed?]
  cases t.devices.find? (·.tag == name) <;> rfl

theorem findId?_discovery (t : DeviceTable) (id : UInt16) :
    t.discovery.findId? id = (t.find? id).map Description.row := by
  rw [Table.findId?, t.entries_discovery, List.find?_map]
  rfl

theorem mem_of_addressed? {name : String} {d : Description} (h : t.addressed? name = some d) :
    d ∈ t.devices := by
  rcases Option.or_eq_some_iff.1 h with hfind | ⟨-, hfind⟩
  · exact List.mem_of_find?_eq_some hfind
  · exact List.mem_of_find?_eq_some hfind

theorem find?_tag_eq_some_iff (h : DeviceTable.ofDescriptions found = .ok t) {d : Description}
    (hd : d ∈ t.devices) (tag : String) :
    t.devices.find? (·.tag == tag) = some d ↔ d.tag = tag :=
  (find?_key_iff (DeviceTable.nodup_tags h)).trans (and_iff_right hd)

/-- A device is addressed by its tag. -/
theorem addressed?_tag (h : DeviceTable.ofDescriptions found = .ok t) {d : Description}
    (hd : d ∈ t.devices) : t.addressed? d.tag = some d := by
  rw [DeviceTable.addressed?, (find?_tag_eq_some_iff h hd _).2 rfl]
  rfl

/-- A device is addressed by the name of its class, if the name is no tag of another device. -/
theorem addressed?_name_iff (hfound : AreDeclared found)
    (h : DeviceTable.ofDescriptions found = .ok t) {d : Description} (hd : d ∈ t.devices) :
    t.addressed? d.name = some d ↔ ∀ other ∈ t.devices, other.tag = d.name → other = d := by
  rw [DeviceTable.addressed?, ← DeviceTable.tag_of_mem hfound h hd]
  cases hname : t.devices.find? (·.tag == d.name) with
  | none =>
    have hnone : ∀ other ∈ t.devices, other.tag ≠ d.name := by
      simpa using List.find?_eq_none.1 hname
    rw [Option.none_or, (find?_tag_eq_some_iff h hd _).2 rfl]
    exact ⟨fun _ other hother htag => absurd htag (hnone other hother), fun _ => rfl⟩
  | some first =>
    have hfirst : first ∈ t.devices := List.mem_of_find?_eq_some hname
    have htag : first.tag = d.name := by simpa using List.find?_some hname
    rw [Option.some_or, Option.some_inj]
    constructor
    · rintro rfl other hother hother_tag
      exact DeviceTable.eq_of_tag_eq h hother hd (hother_tag.trans htag.symm)
    · exact fun hfree => hfree first hfirst htag

/-- The discovery table of declared devices is read back from its text, and a tag finds its device
in it, while the name of a class finds the device of this class just if the name is no tag of
another device. -/
theorem find?_discovery_iff (hfound : AreDeclared found)
    (h : DeviceTable.ofDescriptions found = .ok t) {d : Description} (hd : d ∈ t.devices) :
    Table.ofText t.discovery.text.toList = .ok t.discovery ∧
      t.discovery.findId? d.id = some d.row ∧ t.discovery.find? d.tag = some d.row ∧
      (t.discovery.find? d.name = some d.row ↔
        ∀ other ∈ t.devices, other.tag = d.name → other = d) := by
  refine ⟨(isWritable_discovery hfound h).ofText_text, ?_, ?_, ?_⟩
  · rw [findId?_discovery, (DeviceTable.find?_eq_some_iff h).2 ⟨hd, rfl⟩, Option.map_some]
  · rw [find?_discovery, addressed?_tag h hd, Option.map_some]
  rw [find?_discovery, ← addressed?_name_iff hfound h hd]
  constructor
  · intro hrow
    obtain ⟨other, haddressed, hsame⟩ := Option.map_eq_some_iff.1 hrow
    rw [haddressed, DeviceTable.eq_of_id_eq h (mem_of_addressed? haddressed) hd
      (congrArg Entry.id hsame)]
  · intro haddressed
    rw [haddressed, Option.map_some]

end

/-- Two meters, the class of one of which is the tag of the other. -/
def metersSource : String :=
  "class AB \x7b\n  public:\n    uint16_t level();\n\x7d;\n" ++
  "class Ab \x7b\n  public:\n    uint8_t level();\n\x7d;\n"

/-- What a meter tells. -/
def meterOperation (resultType : String) (result : WireType) (line : Nat) : Operation :=
  ⟨"level", "LEVEL", 0, resultType, result, .read, [], none, none, line⟩

/-- The meter whose class is called like the tag of the other. -/
def firstMeter (id : UInt16) : Description :=
  ⟨"AB", "A_B", id, [meterOperation "uint16_t" (.scalar .u16) 3], none⟩

/-- The meter with that tag. -/
def secondMeter (id : UInt16) : Description :=
  ⟨"Ab", "AB", id, [meterOperation "uint8_t" (.scalar .u8) 7], none⟩

theorem descriptions_metersSource :
    descriptions "devlink" "meters.hpp" metersSource = .ok [firstMeter 0, secondMeter 0] := by
  rw [← toOption_eq_some_iff]
  decide +kernel

/-- The table of the two meters. -/
def meters : DeviceTable := ⟨[firstMeter 2, secondMeter 3]⟩

theorem ofDescriptions_meters :
    DeviceTable.ofDescriptions [firstMeter 0, secondMeter 0] = .ok meters := rfl

/-- The name of its class finds the second meter, but not the first. -/
theorem find?_discovery_iff_meters :
    meters.discovery.find? "Ab" = some (secondMeter 3).row ∧
      meters.discovery.find? "AB" ≠ some (firstMeter 2).row := by
  have hdeclared := areDeclared_of_descriptions descriptions_metersSource
  constructor
  · refine (find?_discovery_iff hdeclared ofDescriptions_meters (d := secondMeter 3)
      (by simp [meters, DeviceTable.devices])).2.2.2.2 ?_
    decide
  · intro hfind
    have hfree := (find?_discovery_iff hdeclared ofDescriptions_meters (d := firstMeter 2)
      (by simp [meters, DeviceTable.devices])).2.2.2.1 hfind
    exact absurd (hfree (secondMeter 3) (by simp [meters, DeviceTable.devices]) rfl) (by decide)

/-- The name of the class of the first meter finds the second one. -/
theorem find?_discovery_meters :
    descriptions "devlink" "meters.hpp" metersSource = .ok [firstMeter 0, secondMeter 0] ∧
      DeviceTable.ofDescriptions [firstMeter 0, secondMeter 0] = .ok meters ∧
      meters.discovery.find? (firstMeter 2).name = some (secondMeter 3).row :=
  ⟨descriptions_metersSource, rfl, by decide⟩

end Instrument.Interface
