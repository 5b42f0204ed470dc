import Instrument.Interface.DeviceTable
import Instrument.Proofs.Header.Names
import Instrument.Proofs.Interface.Described
import Mathlib.Data.List.Nodup

/-!
How devices and operations are numbered and listed. Main statements: the operations of a class that
is described have their places for numbers, their names differ, and each is listed under its name
in upper case; the devices of a table have their places for numbers, counted from 1, and the number
of a device finds it.
-/

namespace Instrument.Interface

open Success

/-! ### Operations -/

/-- Whether operations have their places for numbers, different names, and their names in upper
case for tags. -/
structure AreListed (operations : List Operation) : Prop where
  id : ∀ (i : Nat) (op : Operation), operations[i]? = some op →
    i < UInt16.size ∧ op.id = UInt16.ofNat i
  nodup : (operations.map (·.name)).Nodup
  tag : ∀ op ∈ operations, op.tag = String.ofList (Text.upper op.name.toList)

theorem areListed_nil : AreListed [] where
  id := by simp
  nodup := by simp
  tag := by simp

theorem AreListed.concat {operations : List Operation} {op : Operation}
    (h : AreListed operations) (hname : ∀ other ∈ operations, other.name ≠ op.name)
    (hcount : operations.length < UInt16.size) (hid : op.id = UInt16.ofNat operations.length)
    (htag : op.tag = String.ofList (Text.upper op.name.toList)) :
    AreListed (operations ++ [op]) where
  id := by
    intro i op' hget
    rcases Nat.lt_trichotomy i operations.length with hlt | rfl | hgt
    · rw [List.getElem?_append_left hlt] at hget
      exact h.id i op' hget
    · rw [List.getElem?_concat_length] at hget
      cases hget
      exact ⟨hcount, hid⟩
    · rw [List.getElem?_eq_none (by simp; omega)] at hget
      cases hget
  nodup := by
    rw [List.map_append, List.nodup_append]
    refine ⟨h.nodup, by simp, ?_⟩
    rintro _ hname' _ hlast rfl
    obtain ⟨other, hother, hsame⟩ := List.mem_map.1 hname'
    have hop : other.name = op.name := by simpa [hsame] using hlast
    exact hname other hother hop
  tag := by
    intro op' hmem
    rcases List.mem_append.1 hmem with hmem | hmem
    · exact h.tag op' hmem
    · rw [List.mem_singleton.1 hmem]
      exact htag

theorem fields_of_operation {method : Header.Method} {id : UInt16} {directive? : Option Directive}
    {op : Operation} (h : operation method id directive? = .ok op) :
    op.name = method.name ∧ op.tag = String.ofList (Text.upper method.name.toList) ∧
      op.id = id := by
  obtain ⟨_, _, _, _, -, -, -, -, rfl⟩ := operation_eq_ok h
  exact ⟨rfl, rfl, rfl⟩

/-- The operations of a class are numbered by their places. -/
theorem areListed_of_ofClass {all : List Pragma} {c : Header.Class} {d : Description}
    (h : Description.ofClass all c = .ok d) : AreListed d.operations := by
  refine operations_induction (P := AreListed) areListed_nil ?_ h
  intro operations method directive? op _ hoperations hop hfresh hcount
  obtain ⟨hname, htag, hid⟩ := fields_of_operation hop
  exact hoperations.concat (hname ▸ hfresh) hcount hid (hname ▸ htag)

theorem fields_of_ofClass {all : List Pragma} {c : Header.Class} {d : Description}
    (h : Description.ofClass all c = .ok d) : d.name = c.name ∧ d.tag = deviceTag d.name := by
  simp only [Description.ofClass, bind_eq_ok_iff, pure_eq_ok_iff] at h
  obtain ⟨_, -, rfl⟩ := h
  exact ⟨rfl, rfl⟩

/-- The operations of a class are named after its methods. -/
theorem exists_method_of_ofClass {all : List Pragma} {c : Header.Class} {d : Description}
    (h : Description.ofClass all c = .ok d) :
    ∀ op ∈ d.operations, ∃ method ∈ c.methods, op.name = method.name := by
  intro op hop
  obtain ⟨method, directive?, hsource, hdeclared⟩ := exists_isSource h hop
  exact ⟨method, hsource.mem, (fields_of_operation hdeclared).1⟩

/-! ### Devices that headers declare -/

/-- Whether a device is such as headers declare: it is the description of a class that a header
holds, next to the pragmas of that header. -/
def Description.IsDeclared (d : Description) : Prop :=
  ∃ (space source : List Char) (classes : List Header.Class) (c : Header.Class),
    Header.classes source = .ok classes ∧ c ∈ classes ∧
      Description.ofClass (pragmas space source) c = .ok d

/-- Whether all devices are such as headers declare. -/
def AreDeclared (found : List Description) : Prop := ∀ d ∈ found, d.IsDeclared

/-- What a header declares is declared. -/
theorem areDeclared_of_descriptions {space origin source : String} {found : List Description}
    (h : descriptions space origin source = .ok found) : AreDeclared found := by
  unfold descriptions at h
  split at h
  · cases h
  · cases h
  · next classes _ hclasses =>
    intro d hd
    obtain ⟨c, hc, hof⟩ := exists_of_mapM h d hd
    exact ⟨space.toList, source.toList, classes, c, hclasses, hc, hof⟩

/-- Devices of several headers are declared, too. -/
theorem AreDeclared.append {found more : List Description} (hfound : AreDeclared found)
    (hmore : AreDeclared more) : AreDeclared (found ++ more) := by
  intro d hd
  rcases List.mem_append.1 hd with hd | hd
  · exact hfound d hd
  · exact hmore d hd

/-- Whether a device is what some class declares, the names of which are words. -/
def Description.IsOfClass (d : Description) : Prop :=
  ∃ (all : List Pragma) (c : Header.Class), c.IsNamed ∧ Description.ofClass all c = .ok d

theorem Description.IsDeclared.isOfClass {d : Description} (h : d.IsDeclared) : d.IsOfClass := by
  obtain ⟨space, source, classes, c, hclasses, hc, hof⟩ := h
  exact ⟨_, c, Header.isNamed_of_classes hclasses c hc, hof⟩

/-- A class that declares the control device. -/
def controlClass : Header.Class where
  name := "Control"
  line := 1
  methods :=
    [⟨"get_version", 3, "const char *", [], true⟩,
     ⟨"get_discovery_table", 4, "const char *", [], true⟩,
     ⟨"get_stats", 5, "const char *", [], true⟩,
     ⟨"get_dev_status", 6, "const char *", [], true⟩,
     ⟨"get_running_sessions", 7, "const char *", [], true⟩,
     ⟨"subscribe_broadcast", 8, "void", [⟨some "channel", "uint32_t"⟩], true⟩,
     ⟨"broadcast_ping", 9, "void", [], true⟩]

theorem isNamed_controlClass : controlClass.IsNamed where
  name := by decide
  methods := by
    have hnames : ∀ m ∈ controlClass.methods, Header.IsName m.name := by decide
    exact fun m hm => ⟨m.name, hnames m hm, .inl rfl⟩

/-- The control device is what a class declares, under its own number. -/
theorem isOfClass_control : Description.IsOfClass { control with id := 0 } :=
  ⟨[], controlClass, isNamed_controlClass, rfl⟩

/-! ### Device tables -/

theorem numbered_of_numberFrom {seen : List String} {index : Nat}
    {found numbered : List Description} (h : numberFrom seen index found = .ok numbered) :
    numbered = found.mapIdx (fun i d => { d with id := UInt16.ofNat (firstDeviceId + index + i) }) ∧
      ∀ i < found.length, firstDeviceId + index + i < UInt16.size := by
  induction found generalizing seen index numbered with
  | nil =>
    cases h
    simp
  | cons d rest ih =>
    rw [numberFrom] at h
    split at h
    · cases h
    split at h
    · cases h
    next hcount =>
    simp only [bind_eq_ok_iff, pure_eq_ok_iff] at h
    obtain ⟨more, hmore, rfl⟩ := h
    obtain ⟨rfl, hbound⟩ := ih hmore
    refine ⟨?_, ?_⟩
    · rw [List.mapIdx_cons]
      simp only [Nat.add_zero, Nat.add_assoc, Nat.add_comm 1]
    · intro i hi
      cases i with
      | zero => omega
      | succ i =>
        have := hbound i (by simpa using hi)
        omega

/-- Of entries that differ in a key, the one that is found for a key is the one that has it. -/
theorem find?_key_iff {α κ : Type} [BEq κ] [LawfulBEq κ] {key : α → κ} {l : List α}
    (hnodup : (l.map key).Nodup) {k : κ} {a : α} :
    l.find? (key · == k) = some a ↔ a ∈ l ∧ key a = k := by
  constructor
  · intro hfind
    exact ⟨List.mem_of_find?_eq_some hfind, by simpa using List.find?_some hfind⟩
  · rintro ⟨ha, rfl⟩
    have hsome : (l.find? (key · == key a)).isSome := by
      rw [List.find?_isSome]
      exact ⟨a, ha, by simp⟩
    obtain ⟨a', ha'⟩ := Option.isSome_iff_exists.1 hsome
    have hkey : key a' = key a := by simpa using List.find?_some ha'
    rw [ha', List.inj_on_of_nodup_map hnodup (List.mem_of_find?_eq_some ha') ha hkey]

namespace DeviceTable

variable {found : List Description} {t : DeviceTable}

theorem users_of_ofDescriptions (h : ofDescriptions found = .ok t) :
    numberFrom [control.tag] 0 found = .ok t.users := by
  obtain ⟨users, husers, rfl⟩ := map_eq_ok_iff.1 h
  exact husers

/-- The devices have their places for numbers. -/
theorem id_of_getElem? (h : ofDescriptions found = .ok t) {i : Nat} {d : Description}
    (hd : t.devices[i]? = some d) : i + 1 < UInt16.size ∧ d.id = UInt16.ofNat (i + 1) := by
  obtain ⟨husers, hbound⟩ := numbered_of_numberFrom (users_of_ofDescriptions h)
  cases i with
  | zero =>
    cases hd
    exact ⟨by decide, rfl⟩
  | succ i =>
    have huser : t.users[i]? = some d := hd
    rw [husers, List.getElem?_mapIdx] at huser
    obtain ⟨d', hd', rfl⟩ := Option.map_eq_some_iff.1 huser
    have hi := hbound i (List.getElem?_eq_some_iff.1 hd').1
    simp only [firstDeviceId] at hi ⊢
    refine ⟨by omega, ?_⟩
    congr 1
    omega

/-- Numbers grow along the table. -/
theorem id_lt_iff (h : ofDescriptions found = .ok t) {i j : Nat} {d d' : Description}
    (hd : t.devices[i]? = some d) (hd' : t.devices[j]? = some d') : d.id < d'.id ↔ i < j := by
  obtain ⟨hlt, hidi⟩ := id_of_getElem? h hd
  obtain ⟨hlt', hidj⟩ := id_of_getElem? h hd'
  rw [hidi, hidj, UInt16.lt_iff_toNat_lt, UInt16.toNat_ofNat_of_lt' hlt,
    UInt16.toNat_ofNat_of_lt' hlt']
  omega

/-- Every device of a table of declared devices is what a class declares, its number aside. -/
theorem exists_of_mem (hfound : AreDeclared found) (h : ofDescriptions found = .ok t)
    {d : Description} (hd : d ∈ t.devices) :
    ∃ d' : Description, d'.IsOfClass ∧ ∃ id, d = { d' with id := id } := by
  rcases List.mem_cons.1 hd with rfl | hd
  · exact ⟨_, isOfClass_control, controlId, rfl⟩
  rw [(numbered_of_numberFrom (users_of_ofDescriptions h)).1] at hd
  obtain ⟨i, hi, rfl⟩ := List.mem_mapIdx.1 hd
  exact ⟨found[i], (hfound _ (List.getElem_mem hi)).isOfClass, _, rfl⟩

/-- Devices have different numbers. -/
theorem nodup_ids (h : ofDescriptions found = .ok t) : (t.devices.map (·.id)).Nodup := by
  rw [List.Nodup, List.pairwise_map, List.pairwise_iff_getElem]
  intro i j hi hj hij
  have hlt := (id_lt_iff h (List.getElem?_eq_getElem hi) (List.getElem?_eq_getElem hj)).2 hij
  exact UInt16.ne_of_lt hlt

/-- Devices with the same number are the same. -/
theorem eq_of_id_eq (h : ofDescriptions found = .ok t) {d d' : Description} (hd : d ∈ t.devices)
    (hd' : d' ∈ t.devices) (hid : d.id = d'.id) : d = d' :=
  List.inj_on_of_nodup_map (nodup_ids h) hd hd' hid

/-- Devices with the same tag are the same. -/
theorem eq_of_tag_eq (h : ofDescriptions found = .ok t) {d d' : Description} (hd : d ∈ t.devices)
    (hd' : d' ∈ t.devices) (htag : d.tag = d'.tag) : d = d' :=
  List.inj_on_of_nodup_map (nodup_tags h) hd hd' htag

/-- A number finds the device that has it. -/
theorem find?_eq_some_iff (h : ofDescriptions found = .ok t) {d : Description} {id : UInt16} :
    t.find? id = some d ↔ d ∈ t.devices ∧ d.id = id := find?_key_iff (nodup_ids h)

/-- In a table of declared devices, the operations of each are numbered by their places. -/
theorem areListed_of_mem (hfound : AreDeclared found) (h : ofDescriptions found = .ok t)
    {d : Description} (hd : d ∈ t.devices) : AreListed d.operations := by
  obtain ⟨d', ⟨_, _, -, hof⟩, id, rfl⟩ := exists_of_mem hfound h hd
  exact (areListed_of_ofClass hof :)

/-- In a table of declared devices, the tag of each is that of its class. -/
theorem tag_of_mem (hfound : AreDeclared found) (h : ofDescriptions found = .ok t)
    {d : Description} (hd : d ∈ t.devices) : d.tag = deviceTag d.name := by
  obtain ⟨d', ⟨_, _, -, hof⟩, id, rfl⟩ := exists_of_mem hfound h hd
  exact (fields_of_ofClass hof).2

end DeviceTable

end Instrument.Interface
