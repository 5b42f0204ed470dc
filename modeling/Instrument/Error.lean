import Instrument.Call.Reply
import Instrument.Discovery
import Instrument.Interface.Error
import Instrument.SystemError
import Instrument.Wire.TupleFormat

/-!
What can go wrong in calls, on either side. Some errors leave the two ends of a connection at
different places in the stream of bytes; after such an error the connection is of no further use.
-/

namespace Instrument

open Wire (ScalarType TupleFormat PackFault)

/-- Why a device refuses a call. -/
inductive DeviceFault where
  | notImplemented
  | bufferRefused (requested accepted : Nat)
  | replyMismatch (reply : Reply) (declared : String)
  | outsideWindow (words : Nat) (offset : UInt32) (size : Nat)
  | bitIndex (index : UInt32)
  /-- A reason of the device's own. -/
  | other (reason : String)
deriving DecidableEq, Repr

/-- The reason in words. -/
def DeviceFault.message : DeviceFault → String
  | notImplemented => "operation declared but not implemented"
  | bufferRefused requested accepted =>
    "buffer of " ++ toString requested ++ " elements refused, " ++ toString accepted ++ " accepted"
  | replyMismatch reply declared =>
    "reply " ++ reply.diagnostic ++ " does not match the declared " ++ declared
  | outsideWindow words offset size =>
    toString words ++ " words at offset 0x" ++ String.ofList (Text.hex offset.toNat) ++
      " outside the " ++ toString size ++ " byte window"
  | bitIndex index => "bit index " ++ toString index.toNat ++ " out of range"
  | other reason => reason

/-- An error of a call, a session or a client. -/
inductive Error where
  | system (e : SystemError)
  | connectionBroken
  | connectionUnusable
  | discoveryTimeout (milliseconds : Nat)
  | malformedDiscovery (fault : Discovery.Fault)
  | timeout (marker : String) (milliseconds : Nat)
  | unknownDevice (name : String)
  | unknownOperation (device operation : String)
  | unknownCommand (device operation : UInt16)
  | invalidHandshake (acknowledged : UInt32) (expected : Nat)
  | invalidPayloadSize (device operation : String) (expected received : Nat)
  | bufferReload (device operation : String) (size : Nat)
  | vectorReceive (device operation : String)
  | arrayExtract (device operation : String)
  | invalidBool (operation : String) (value : UInt32)
  | lengthMismatch (operation : String) (expected received : Nat)
  | elementType (operation : String) (expected received : ScalarType)
  | returnType (operation expected declared : String)
  | argumentType (operation : String) (index : Nat) (expected found : String)
  | reservedField (value : UInt32)
  | payloadTooLarge (size : Nat)
  | invalidFormat (c : Char)
  | unsupportedType (text : String)
  | invalidUtf8
  | invalidJson
  | missingArgument (name : String)
  | declaration (e : Interface.DeclarationError)
  | device (device operation : String) (fault : DeviceFault)
deriving DecidableEq, Repr

namespace Error

/-- A device and an operation in front of a message. -/
def about (device operation : String) : String := "[" ++ device ++ " - " ++ operation ++ "] "

/-- A number of 32 bits in base sixteen, with all its digits. -/
def hexWord (n : UInt32) : String :=
  let digits := Text.hex n.toNat
  "0x" ++ String.ofList (List.replicate (8 - digits.length) '0' ++ digits)

/-- The error in words. -/
def message : Error → String
  | system e => "i/o error: " ++ e.message
  | connectionBroken => "socket connection broken"
  | connectionUnusable => "connection unusable after a previous fatal error"
  | discoveryTimeout ms =>
    "discovery table not received within " ++ Text.duration ms ++ " (after one retry)"
  | malformedDiscovery fault => "malformed discovery table: " ++ fault.message
  | timeout marker ms =>
    "timed out after " ++ Text.duration ms ++ " waiting for " ++ Text.quoted marker
  | unknownDevice name => "device " ++ name ++ " unknown"
  | unknownOperation dev operation =>
    "operation " ++ operation ++ " unknown for device " ++ dev
  | unknownCommand dev operation =>
    "no operation " ++ toString operation.toNat ++ " on device " ++ toString dev.toNat
  | invalidHandshake acknowledged expected =>
    "invalid handshake: server ready for " ++ toString acknowledged.toNat ++
      " elements, client buffer holds " ++ toString expected
  | invalidPayloadSize dev operation expected received =>
    about dev operation ++ "invalid payload size: expected " ++ toString expected ++
      " bytes, received " ++ toString received ++ " bytes"
  | bufferReload dev operation size =>
    about dev operation ++ "failed to load buffer of " ++ toString size ++ " bytes"
  | vectorReceive dev operation => about dev operation ++ "failed to receive vector"
  | arrayExtract dev operation => about dev operation ++ "failed to extract array"
  | invalidBool operation value =>
    "type error in " ++ operation ++ ": expected bool, received " ++ toString value.toNat
  | lengthMismatch operation expected received =>
    "length mismatch in " ++ operation ++ ": expected " ++ toString expected ++
      " elements, received " ++ toString received
  | elementType operation expected received =>
    "dtype mismatch in " ++ operation ++ ": expected " ++ expected.elementName ++
      ", received " ++ received.elementName
  | returnType operation expected declared =>
    "type error in " ++ operation ++ ": call site expects " ++ expected ++
      ", server declares " ++ declared
  | argumentType operation index expected found =>
    "argument " ++ toString index ++ " of " ++ operation ++ ": expected " ++ expected ++
      ", found " ++ found
  | reservedField value => "reserved envelope field must be zero, found " ++ hexWord value
  | payloadTooLarge size =>
    "payload of " ++ toString size ++ " bytes exceeds the command buffer"
  | invalidFormat c => "invalid format character " ++ Text.quotedChar c
  | unsupportedType text => "type " ++ Text.quoted text ++ " has no wire encoding"
  | invalidUtf8 => "received string is not valid utf-8"
  | invalidJson => "json decode failed"
  | missingArgument name => "argument " ++ name ++ " missing from the decoded call"
  | declaration e => "device declaration rejected: " ++ e.message
  | device dev operation fault => about dev operation ++ fault.message

/-- Whether the stream of bytes can no longer be trusted after the error. -/
def isFatal : Error → Bool
  | system _ | connectionBroken | connectionUnusable | invalidHandshake .. | discoveryTimeout _
  | returnType .. | timeout .. => true
  | _ => false

end Error

/-! ### Tuples -/

/-- The format that a text stands for. -/
def Wire.TupleFormat.read (text : String) : Except Error TupleFormat :=
  (TupleFormat.ofText text.toList).mapError .invalidFormat

/-- The values of the tuple at the beginning of some bytes. -/
def Wire.TupleFormat.unpack (format : TupleFormat) (bytes : Bytes) :
    Except Error (List Wire.Scalar) :=
  match format.unpack? bytes with
  | some values => .ok values
  | none => .error (.lengthMismatch ("tuple " ++ format.text) format.size bytes.length)

/-- The error that stands for a fault of the values of a tuple. -/
def Error.ofPackFault (format : TupleFormat) : PackFault → Error
  | .fieldCount expected found =>
    .argumentType format.text (min expected found) (toString expected ++ " fields")
      (toString found ++ " fields")
  | .fieldType index expected found =>
    .argumentType format.text index expected.cppName found.cppName

/-- The bytes of a tuple. -/
def Wire.TupleFormat.write (format : TupleFormat) (values : List Wire.Scalar) :
    Except Error Bytes :=
  (format.pack values).mapError (Error.ofPackFault format)

end Instrument
