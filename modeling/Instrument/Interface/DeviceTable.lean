import Instrument.Interface.Describe
import Instrument.Signature.Catalogue

/-!
The table of all devices of a server. The control device has the number 1, the others follow from
2 on in the order in which they are given. Main statement: the tags in a table differ.
-/

namespace Instrument.Interface

/-- The number of the control device. -/
def controlId : UInt16 := 1

/-- The number of the first device after the control device. -/
def firstDeviceId : Nat := 2

/-- The declaration of the control device. -/
def controlDeclaration : String :=
  "class Control \x7b\n" ++
  "  public:\n" ++
  "    const char* get_version();\n" ++
  "    const char* get_discovery_table();\n" ++
  "    const char* get_stats();\n" ++
  "    const char* get_dev_status();\n" ++
  "    const char* get_running_sessions();\n" ++
  "    void subscribe_broadcast(uint32_t channel);\n" ++
  "    void broadcast_ping();\n" ++
  "\x7d;\n"

/-- An operation of the control device that takes no arguments. -/
def controlOperation (id : UInt16) (name tag resultType : String) (result : WireType)
    (mode : Mode) (line : Nat) : Operation :=
  ⟨name, tag, id, resultType, result, mode, [], none, none, line⟩

/-- An operation of the control device that answers with text. -/
def controlText (id : UInt16) (name tag : String) (line : Nat) : Operation :=
  controlOperation id name tag "const char *" .cString .readText line

/-- The control device, which every server has. -/
def control : Description where
  name := "Control"
  tag := "CONTROL"
  id := controlId
  operations :=
    [controlText 0 "get_version" "GET_VERSION" 3,
     controlText 1 "get_discovery_table" "GET_DISCOVERY_TABLE" 4,
     controlText 2 "get_stats" "GET_STATS" 5,
     controlText 3 "get_dev_status" "GET_DEV_STATUS" 6,
     controlText 4 "get_running_sessions" "GET_RUNNING_SESSIONS" 7,
     { controlOperation 5 "subscribe_broadcast" "SUBSCRIBE_BROADCAST" "void" .void .write 8 with
       arguments := [⟨"channel", "uint32_t", false, false, .scalar .u32⟩] },
     controlOperation 6 "broadcast_ping" "BROADCAST_PING" "void" .void .write 9]
  healthCheck? := none

/-- The control device is what its declaration says, with its number. -/
theorem descriptions_controlDeclaration :
    (descriptions "devlink" "<control>" controlDeclaration).toOption =
      some [{ control with id := 0 }] := by
  decide +kernel

/-- Devices with their numbers, the first of which is `index` places behind the first device. A
tag that is in `seen` or stands twice is refused. -/
def numberFrom (seen : List String) (index : Nat) :
    List Description → Except DeclarationError (List Description)
  | [] => .ok []
  | d :: rest =>
    if seen.contains d.tag then .error (.duplicateDevice d.name)
    else if UInt16.size ≤ firstDeviceId + index then .error .tooManyDevices
    else do
      let rest ← numberFrom (d.tag :: seen) (index + 1) rest
      return { d with id := UInt16.ofNat (firstDeviceId + index) } :: rest

/-- Numbering leaves the tags as they are and makes sure that they differ. -/
theorem tags_of_numberFrom {seen : List String} {index : Nat} {found numbered : List Description}
    (h : numberFrom seen index found = .ok numbered) :
    numbered.map (·.tag) = found.map (·.tag) ∧ (numbered.map (·.tag)).Nodup ∧
      ∀ tag ∈ numbered.map (·.tag), tag ∉ seen := by
  induction found generalizing seen index numbered with
  | nil => cases h; simp
  | cons d rest ih =>
    simp only [numberFrom, bind, Except.bind] at h
    split at h
    · cases h
    · next hseen =>
      split at h
      · cases h
      · split at h
        · cases h
        · next more hmore =>
          cases h
          obtain ⟨htags, hnodup, hfresh⟩ := ih hmore
          refine ⟨by simp [htags], ?_, ?_⟩
          · refine List.nodup_cons.2 ⟨fun hmem => ?_, hnodup⟩
            exact hfresh d.tag hmem (List.mem_cons_self ..)
          · intro tag htag
            rcases List.mem_cons.1 htag with rfl | htag
            · simpa using hseen
            · exact fun hmem => hfresh tag htag (List.mem_cons_of_mem _ hmem)

theorem length_numberFrom {seen : List String} {index : Nat} {found numbered : List Description}
    (h : numberFrom seen index found = .ok numbered) : numbered.length = found.length := by
  simpa using congrArg List.length (tags_of_numberFrom h).1

/-- All devices in the order of their numbers, the control device aside. -/
structure DeviceTable where
  users : List Description
deriving DecidableEq, Repr

namespace DeviceTable

/-- Numbers devices. -/
def ofDescriptions (found : List Description) : Except DeclarationError DeviceTable :=
  (numberFrom [control.tag] 0 found).map DeviceTable.mk

/-- All devices in the order of their numbers. -/
def devices (t : DeviceTable) : List Description := control :: t.users

/-- The number of operations of the device that has most. -/
def width (t : DeviceTable) : Nat :=
  t.devices.foldr (fun d n => max d.operations.length n) 0

/-- The tags of the operations of a device. -/
def operationTags (d : Description) : List String := d.operations.map (·.tag)

/-- The number, the tag and the tags of the operations of each device, filled up with empty tags
to the width of the table. -/
def names (t : DeviceTable) : List (UInt16 × String × List String) :=
  t.devices.map fun d =>
    let tags := operationTags d
    (d.id, d.tag, tags ++ List.replicate (t.width - tags.length) "")

/-- The discovery table. -/
def discovery (t : DeviceTable) : Discovery.Table :=
  .ofEntries (t.devices.map fun d => ⟨d.id, d.tag, operationTags d⟩)

/-- The signature of an operation. -/
def functionSignature (op : Operation) : Signature.Function where
  name := op.name
  id := op.id
  resultType := op.resultType
  mode := op.mode.text
  returns := Signature.shape op.result (op.mode == .readArray)
  arguments := op.arguments.map fun a => ⟨a.name, a.type⟩

/-- The catalogue of signatures. -/
def catalogue (t : DeviceTable) : Signature.Catalogue :=
  t.devices.map fun d => ⟨d.name, d.tag, d.id, d.operations.map functionSignature⟩

/-- The device with a given number. -/
def find? (t : DeviceTable) (id : UInt16) : Option Description := t.devices.find? (·.id == id)

theorem nodup_tags {found : List Description} {t : DeviceTable}
    (h : ofDescriptions found = .ok t) : (t.devices.map (·.tag)).Nodup := by
  simp only [ofDescriptions] at h
  cases hnumbered : numberFrom [control.tag] 0 found with
  | error e => rw [hnumbered] at h; cases h
  | ok users =>
    rw [hnumbered] at h
    cases h
    obtain ⟨_, hnodup, hfresh⟩ := tags_of_numberFrom hnumbered
    refine List.nodup_cons.2 ⟨fun hmem => ?_, hnodup⟩
    exact hfresh control.tag hmem (List.mem_cons_self ..)

end DeviceTable

end Instrument.Interface
