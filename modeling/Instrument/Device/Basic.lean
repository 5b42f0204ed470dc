import Instrument.Call.Decode
import Instrument.Interface.DeviceTable

/-!
Devices: what a server needs of them. A device declares its operations, executes them one at a
time, tells whether it has failed, and says how many elements it takes into a buffer.
-/

namespace Instrument

/-- A kind of devices, by the states that they can be in. -/
class Device (δ : Type) where
  /-- The declaration of the device's class. -/
  declaration : δ → String
  /-- The answer to a call, and the state after it. -/
  execute : δ → Interface.Operation → Arguments → Except Error Reply × δ
  /-- Whether the device has failed. -/
  isFailed : δ → Bool := fun _ => false
  /-- How many elements are taken into a buffer. Any other number than was asked for refuses the
  call. -/
  acceptBuffer : δ → Interface.Operation → Arguments → Nat → Nat := fun _ _ _ requested => requested

/-- The error of a device that declares an operation and does not have it. -/
def notImplemented (device : String) (op : Interface.Operation) : Error :=
  .device device op.name .notImplemented

instance {α β : Type} [Device α] [Device β] : Device (α ⊕ β) where
  declaration
    | .inl d => Device.declaration d
    | .inr d => Device.declaration d
  execute
    | .inl d, op, args => (Device.execute d op args).map id Sum.inl
    | .inr d, op, args => (Device.execute d op args).map id Sum.inr
  isFailed
    | .inl d => Device.isFailed d
    | .inr d => Device.isFailed d
  acceptBuffer
    | .inl d => Device.acceptBuffer d
    | .inr d => Device.acceptBuffer d

end Instrument
