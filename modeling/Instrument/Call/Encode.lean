import Instrument.Call.Decode
import Instrument.Text.Utf8

/-!
Writing the reply of a call, after it is checked against what the operation declares. Truth values
travel as numbers of four bytes, text ends with a zero byte, and elements whose number the caller
does not know follow that number.
-/

namespace Instrument

open Wire (Elements bytesBE bytesLE)

/-- Elements after their number. -/
def counted (values : Elements) : Except Error Bytes :=
  if values.size < UInt32.size then .ok (bytesBE 4 values.size ++ values.raw)
  else .error (.payloadTooLarge values.raw.length)

/-- The bytes of the value of an operation that sends one; `none` if it is not of the declared
type. -/
def encodeValue? (declared : WireType) (reply : Reply) : Option (Except Error Bytes) :=
  match declared, reply with
  | .scalar type, .scalar value =>
    if value.type ≠ type then none
    else if type = .bool then some (.ok (bytesLE 4 value.bits))
    else some (.ok value.encodeLE)
  | .array element length, .elements values =>
    if values.type = element ∧ values.size = length then some (.ok values.raw) else none
  | .vector element, .elements values =>
    if values.type = element then some (counted values) else none
  | .tuple fields, .tuple values => some (Wire.TupleFormat.write ⟨.big, fields⟩ values)
  | _, _ => none

namespace CallSite

/-- The bytes to send for a reply, `none` where nothing is sent. -/
def encode (site : CallSite) (reply : Reply) : Except Error (Option Bytes) :=
  let op := site.operation
  let encoded? : Option (Except Error (Option Bytes)) :=
    match op.mode, reply with
    | .write, .none => some (.ok none)
    | .read, reply => (encodeValue? op.result reply).map (·.map some)
    | .readText, .text text => some (.ok (some (Text.utf8 text ++ [0])))
    | .readArray, .elements values =>
      if op.result.element? = some values.type then some ((counted values).map some) else none
    | _, _ => none
  encoded?.getD (.error (.device site.device op.name (.replyMismatch reply op.resultType)))

end CallSite

end Instrument
