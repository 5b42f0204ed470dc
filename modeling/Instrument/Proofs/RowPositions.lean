import Instrument.Proofs.Discovery

/-!
The places of operations in the row of their device. A row that is read keeps the fields that are
not empty, and the number of an operation is its place among those. Main statement: this is its
place in the row just if no empty field stands in front of it and the place is a number of 16 bits;
an empty field in front of it gives it the number of another place.
-/

namespace Instrument.Discovery.Entry

open Success

/-- The fields of a row after the number and the name of the device, without the blanks around
them. -/
def operationFields (line : List Char) : List (List Char) :=
  (Text.after? ['#'] (Text.trim line)).elim [] fun body =>
    ((Text.pieces (· == ':') body).map Text.trim).drop 2

/-- The fields that are not empty. -/
def named (fields : List (List Char)) : List (List Char) := fields.filter (!·.isEmpty)

variable {line field : List Char} {before after : List (List Char)} {e : Entry}

theorem operations_of_ofLine (h : ofLine line = .ok e) :
    e.operations = (named (operationFields line)).map String.ofList := by
  simp only [ofLine] at h
  split at h
  · cases h
  next body hbody =>
  split at h
  · cases h
  split at h
  · cases h
  next name operations htail =>
  split at h
  · cases h
  have hfields : operationFields line = operations := by
    rw [operationFields, hbody, Option.elim_some, ← List.drop_tail, htail]
    rfl
  cases h
  rw [hfields, named]

/-- A row has no more names than fields, and as many just if no field is empty. -/
theorem length_named_eq_iff (fields : List (List Char)) :
    (named fields).length = fields.length ↔ [] ∉ fields := by
  rw [named, List.length_filter_eq_length_iff]
  constructor
  · intro h hmem
    exact absurd (h [] hmem) (by decide)
  · rintro h (_ | ⟨c, f⟩) hf
    · exact absurd hf h
    · rfl

/-- A name that stands for the first time has its place among the names. -/
theorem findIdx?_named (hne : field ≠ []) (hfirst : field ∉ before) :
    ((named (before ++ field :: after)).map String.ofList).findIdx? (· == String.ofList field) =
      some (named before).length := by
  have hbefore : ∀ s ∈ (named before).map String.ofList, (s == String.ofList field) = false := by
    intro s hs
    obtain ⟨f, hf, rfl⟩ := List.mem_map.1 hs
    rw [beq_eq_false_iff_ne]
    intro heq
    obtain rfl : f = field := String.ofList_injective heq
    exact hfirst (List.mem_filter.1 hf).1
  have hnamed : named (before ++ field :: after) = named before ++ field :: named after := by
    rw [named, List.filter_append, List.filter_cons_of_pos (by simpa using hne), named, named]
  rw [hnamed, List.map_append, List.map_cons, List.findIdx?_append,
    List.findIdx?_eq_none_iff.2 hbefore, List.findIdx?_cons]
  simp

/-- An operation that a row names has the number of its place among the names; that is its place in
the row just if no empty field stands in front of it and the place is a number of 16 bits. -/
theorem operationId?_eq_place_iff (h : ofLine line = .ok e)
    (hfields : operationFields line = before ++ field :: after) (hne : field ≠ [])
    (hfirst : field ∉ before) :
    ((e.operationId? (String.ofList field)).map UInt16.toNat =
      if (named before).length < UInt16.size then some (named before).length else none) ∧
    ((e.operationId? (String.ofList field)).map UInt16.toNat = some before.length ↔
      [] ∉ before ∧ before.length < UInt16.size) := by
  have hid : (e.operationId? (String.ofList field)).map UInt16.toNat =
      if (named before).length < UInt16.size then some (named before).length else none := by
    rw [operationId?, operations_of_ofLine h, hfields, findIdx?_named hne hfirst, Option.bind_some]
    split
    · next hlt => exact congrArg some (UInt16.toNat_ofNat_of_lt' hlt)
    · rfl
  refine ⟨hid, ?_⟩
  rw [hid, ← length_named_eq_iff]
  constructor
  · intro heq
    split at heq
    · next hlt =>
      have hlength := Option.some.inj heq
      exact ⟨hlength, hlength ▸ hlt⟩
    · cases heq
  · rintro ⟨hlength, hlt⟩
    rw [if_pos (hlength ▸ hlt), hlength]

/-- A row with blanks and a name that comes twice, filled up with empty fields. -/
def paddedRow : List Char := " #2: MATH :ADD: SUBTRACT :ADD:::".toList

theorem operationId?_eq_place_iff_paddedRow :
    ofLine paddedRow = .ok ⟨2, "MATH", ["ADD", "SUBTRACT", "ADD"]⟩ ∧
    operationFields paddedRow =
      ["ADD".toList] ++ "SUBTRACT".toList :: ["ADD".toList, [], [], []] ∧
    ((⟨2, "MATH", ["ADD", "SUBTRACT", "ADD"]⟩ : Entry).operationId? "SUBTRACT").map UInt16.toNat =
      some 1 := by
  have hline : ofLine paddedRow = .ok ⟨2, "MATH", ["ADD", "SUBTRACT", "ADD"]⟩ := by
    rw [← toOption_eq_some_iff]
    decide +kernel
  have hfields : operationFields paddedRow =
      ["ADD".toList] ++ "SUBTRACT".toList :: ["ADD".toList, [], [], []] := by decide +kernel
  exact ⟨hline, hfields,
    (operationId?_eq_place_iff hline hfields (by decide) (by decide)).2.2 (by decide)⟩

/-- A row with an empty field between two names is read, and the second name gets the number of the
empty field. -/
theorem operationId?_after_gap :
    ofLine "#2:MATH:ADD::SUBTRACT:".toList = .ok ⟨2, "MATH", ["ADD", "SUBTRACT"]⟩ ∧
    operationFields "#2:MATH:ADD::SUBTRACT:".toList =
      ["ADD".toList, []] ++ "SUBTRACT".toList :: [[]] ∧
    (⟨2, "MATH", ["ADD", "SUBTRACT"]⟩ : Entry).operationId? "SUBTRACT" = some 1 := by
  refine ⟨?_, by decide +kernel, by decide⟩
  rw [← toOption_eq_some_iff]
  decide +kernel

end Instrument.Discovery.Entry
