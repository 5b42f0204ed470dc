import Instrument.Device.Control
import Instrument.Signature.Document

/-!
The devices of a running server. Each is known by the number that its description has in the
device table; the control device has a description and no state. Main statement: there are as many
states as devices besides the control device.
-/

namespace Instrument

open Interface (Description DeviceTable DeclarationError)

/-- The description that the declaration at place `index` gives; it has to declare one class. -/
def describeOne (index : Nat) (declaration : String) : Except DeclarationError Description := do
  let origin := "<device " ++ toString index ++ ">"
  match ← Interface.descriptions "devlink" origin declaration with
  | [d] => return d
  | found => throw (.parse origin ⟨1, .classCount found.length⟩)

/-- The descriptions that some declarations give, the first of which has the place `index`. -/
def describeFrom (index : Nat) : List String → Except DeclarationError (List Description)
  | [] => .ok []
  | declaration :: rest => do
    let first ← describeOne index declaration
    return first :: (← describeFrom (index + 1) rest)

theorem length_describeFrom {index : Nat} {declarations : List String} {found : List Description}
    (h : describeFrom index declarations = .ok found) : found.length = declarations.length := by
  induction declarations generalizing index found with
  | nil => cases h; rfl
  | cons declaration rest ih =>
    simp only [describeFrom, bind, Except.bind] at h
    split at h
    · simp at h
    · split at h
      · simp at h
      · next hrest =>
        cases h
        simp [ih hrest]

/-- The device table of a server and the states of its devices, in the order of the table. -/
structure Fleet (δ : Type) where
  table : DeviceTable
  devices : List δ
  length_eq : devices.length = table.users.length

namespace Fleet

variable {δ : Type} [Device δ]

/-- Describes and numbers devices. -/
def ofDevices (devices : List δ) : Except DeclarationError (Fleet δ) :=
  match hfound : describeFrom 0 (devices.map Device.declaration) with
  | .error e => .error e
  | .ok found =>
    match htable : Interface.numberFrom [Interface.control.tag] 0 found with
    | .error e => .error e
    | .ok users => .ok ⟨⟨users⟩, devices, by
        simp [Interface.length_numberFrom htable, length_describeFrom hfound]⟩

omit [Device δ] in
/-- The description of the device with a given number, and its place among the states if it is not
the control device. -/
def find? (fleet : Fleet δ) (id : UInt16) : Option (Description × Option Nat) :=
  if id = Interface.controlId then some (Interface.control, none)
  else (fleet.table.users.findIdx? (·.id == id)).bind fun i =>
    fleet.table.users[i]?.map fun d => (d, some i)

omit [Device δ] in
/-- The fleet with another state of the device at a place. -/
def set (fleet : Fleet δ) (place : Nat) (d : δ) : Fleet δ :=
  ⟨fleet.table, fleet.devices.set place d, by simp [fleet.length_eq]⟩

/-- Whether the device at a place has failed; the control device never has. -/
def isFailed (fleet : Fleet δ) (place : Option Nat) : Bool :=
  (place.bind (fleet.devices[·]?)).any Device.isFailed

omit [Device δ] in
/-- The discovery text. -/
def discovery (fleet : Fleet δ) : String := fleet.table.discovery.text

omit [Device δ] in
/-- The catalogue of signatures as text. -/
def catalogue (fleet : Fleet δ) : String := Signature.toText fleet.table.catalogue

/-- The state of one device in words. -/
def statusLine (d : Description) (failed : Bool) : String :=
  toString d.id.toNat ++ ":" ++ d.tag ++ ":" ++ (if failed then "FAIL" else "OK") ++ "\n"

/-- The states of all devices in words. -/
def status (fleet : Fleet δ) : String :=
  statusLine Interface.control false ++
    String.join ((fleet.table.users.zip fleet.devices).map fun (d, state) =>
      statusLine d (Device.isFailed state)) ++ "EODS"

end Fleet

end Instrument
