import Instrument.Wire.Scalar

/-!
Element buffers: values of one type, stored as they travel, the lowest byte first. Main
statements: writing values and reading them gives the same values, and reading a buffer and
writing it gives the same bytes once every truth value is 0 or 1.
-/

namespace Instrument.Wire

/-- A whole number of elements of one type, as bytes. -/
structure Elements where
  type : ScalarType
  raw : Bytes
  whole : raw.length % type.width = 0
deriving DecidableEq, Repr

namespace Elements

/-- Wraps bytes; `none` if they are not a whole number of elements. -/
def ofBytes? (type : ScalarType) (raw : Bytes) : Option Elements :=
  if h : raw.length % type.width = 0 then some ⟨type, raw, h⟩ else none

/-- The number of elements. -/
def size (e : Elements) : Nat := e.raw.length / e.type.width

/-- The values of consecutive fields of one type; a field that is not whole is left out. -/
def readAll (type : ScalarType) (bytes : Bytes) : List Scalar :=
  match _h : split? type.width bytes with
  | none => []
  | some (field, rest) => Scalar.ofBits type (valueLE field) :: readAll type rest
termination_by bytes.length
decreasing_by
  have := type.width_pos
  obtain ⟨hlen, rfl⟩ := split?_eq_some_iff.1 _h
  simp only [List.length_append]
  omega

/-- The elements in order. -/
def toList (e : Elements) : List Scalar := readAll e.type e.raw

/-- The bytes of some values, each of one type. -/
def writeAll (values : List Scalar) : Bytes := values.flatMap Scalar.encodeLE

theorem length_writeAll {type : ScalarType} {values : List Scalar}
    (h : ∀ v ∈ values, v.type = type) : (writeAll values).length = values.length * type.width := by
  induction values with
  | nil => simp [writeAll]
  | cons v vs ih =>
    have hv := h v (by simp)
    have := ih fun w hw => h w (by simp [hw])
    simp only [writeAll] at this ⊢
    simp [this, hv, Nat.succ_mul, Nat.add_comm]

/-- The values as one type, each by its bit pattern. -/
def ofList (type : ScalarType) (values : List Scalar) : Elements where
  type := type
  raw := writeAll (values.map fun v => Scalar.ofBits type v.bits)
  whole := by
    rw [@length_writeAll type _ (by simp)]
    exact Nat.mul_mod_left ..

/-- The elements, if they are of type `type`. -/
def toListOf? (type : ScalarType) (e : Elements) : Option (List Scalar) :=
  if e.type = type then some e.toList else none

/-- The buffer with the same elements in which every truth value is 0 or 1. -/
def normalized (e : Elements) : Elements := ofList e.type e.toList

theorem length_raw (e : Elements) : e.raw.length = e.size * e.type.width :=
  (Nat.div_mul_cancel (Nat.dvd_of_mod_eq_zero e.whole)).symm

theorem ofBytes?_raw (e : Elements) : ofBytes? e.type e.raw = some e := by
  rw [ofBytes?, dif_pos e.whole]

theorem readAll_nil (type : ScalarType) : readAll type [] = [] := by
  have h : split? type.width [] = none := split?_eq_none_iff.2 type.width_pos
  rw [readAll]
  split <;> simp_all

theorem length_readAll (type : ScalarType) (bytes : Bytes) :
    (readAll type bytes).length = bytes.length / type.width := by
  fun_induction readAll type bytes with
  | case1 bytes h =>
    have hlt := split?_eq_none_iff.1 h
    rw [Nat.div_eq_of_lt hlt, List.length_nil]
  | case2 bytes field rest h ih =>
    obtain ⟨hlen, rfl⟩ := split?_eq_some_iff.1 h
    rw [List.length_cons, ih, List.length_append, hlen, Nat.add_comm type.width,
      Nat.add_div_right _ type.width_pos]

theorem length_toList (e : Elements) : e.toList.length = e.size := length_readAll e.type e.raw

theorem readAll_encodeLE_append (v : Scalar) (rest : Bytes) :
    readAll v.type (v.encodeLE ++ rest) = v :: readAll v.type rest := by
  have h : split? v.type.width (v.encodeLE ++ rest) = some (v.encodeLE, rest) :=
    split?_eq_some_iff.2 ⟨by simp, rfl⟩
  rw [readAll]
  split
  · simp_all
  · next h' =>
    rw [h] at h'
    cases h'
    simp [Scalar.valueLE_encodeLE]

theorem readAll_writeAll {type : ScalarType} {values : List Scalar}
    (h : ∀ v ∈ values, v.type = type) : readAll type (writeAll values) = values := by
  induction values with
  | nil => exact readAll_nil type
  | cons v vs ih =>
    have hv := h v (by simp)
    have hvs := ih fun w hw => h w (by simp [hw])
    subst hv
    rw [show writeAll (v :: vs) = v.encodeLE ++ writeAll vs from rfl, readAll_encodeLE_append, hvs]

theorem raw_ofList {type : ScalarType} {values : List Scalar}
    (h : ∀ v ∈ values, v.type = type) : (ofList type values).raw = writeAll values := by
  have hmap : values.map (fun v => Scalar.ofBits type v.bits) = values := by
    conv => rhs; rw [← List.map_id values]
    apply List.map_congr_left
    intro v hv
    rw [← h v hv, Scalar.ofBits_bits]
    rfl
  simp only [ofList, hmap]

theorem toList_ofList {type : ScalarType} {values : List Scalar}
    (h : ∀ v ∈ values, v.type = type) : (ofList type values).toList = values :=
  (congrArg (readAll type) (raw_ofList h)).trans (readAll_writeAll h)

end Elements

end Instrument.Wire
