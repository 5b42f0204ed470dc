import Instrument.Header.Token
import Instrument.WireType

/-!
What can be wrong with the declaration of a device, and how it is told.
-/

namespace Instrument.Interface

/-- Why a declared type is refused. -/
inductive Refusal where
  | unsupported (reason : Unsupported)
  /-- The type can travel, but not as an argument. -/
  | notAnArgument (type : WireType)
deriving DecidableEq, Repr

/-- The reason in words. -/
def Refusal.message : Refusal → String
  | unsupported reason => reason.message
  | notAnArgument type => type.text ++ " is not accepted as an argument"

/-- What can be wrong with a health check. -/
inductive HealthCheckFault where
  | result
  | parameters
  | repeated
deriving DecidableEq, Repr

/-- The fault in words. -/
def HealthCheckFault.message : HealthCheckFault → String
  | result => "Failure indicator function must return a bool"
  | parameters => "Failure indicator function must not have argument"
  | repeated => "only one failure indicator function per device"

/-- What can be wrong with a known directive where it stands. -/
inductive DirectiveFault where
  | excludeParameters (text : String)
  | healthCheckParameters (text : String)
  | parameterCount (found : Nat)
  | notAReference (text : String)
  | notAPointer (name : String)
  | notAParameter (name : String)
  | lengthType (name : String)
  | lengthNotLast (name : String)
  | notTransferable (type : String)
  | missingLength
  /-- A pointer is the result of an operation without a directive. -/
  | unannotated (type : String)
deriving DecidableEq, Repr

namespace DirectiveFault

/-- The directive at fault. -/
def keyword : DirectiveFault → String
  | excludeParameters _ => "exclude"
  | healthCheckParameters _ => "is_failed"
  | parameterCount _ | notAReference _ | notAPointer _ | notAParameter _ | lengthType _
  | lengthNotLast _ => "write_array"
  | notTransferable _ | missingLength | unannotated _ => "read_array"

/-- The fault in words. -/
def message : DirectiveFault → String
  | excludeParameters text | healthCheckParameters text => "unexpected parameters '" ++ text ++ "'"
  | parameterCount found => "expected 2 parameters, found " ++ toString found
  | notAReference text => "'" ++ text ++ "' is not of the form arg\x7b<name>\x7d"
  | notAPointer name => "'" ++ name ++ "' is not a pointer parameter"
  | notAParameter name => "'" ++ name ++ "' is not a parameter"
  | lengthType name => "length '" ++ name ++ "' must be a uint32_t"
  | lengthNotLast name => "length '" ++ name ++ "' must be the last parameter"
  | notTransferable type => "return type '" ++ type ++ "' is not an array, vector or pointer"
  | missingLength => "a pointer result needs a length expression"
  | unannotated type => "pointer result '" ++ type ++ "' requires a read_array annotation"

end DirectiveFault

/-- What can be wrong with one operation. -/
inductive OperationFault where
  | unsupportedType (type : String) (reason : Refusal)
  | healthCheck (line : Nat) (fault : HealthCheckFault)
  | unknownDirective (line : Nat) (text : String)
  | malformedDirective (line : Nat) (fault : DirectiveFault)
  | pointerArgument (name : String)
  | overloaded
  | tooMany
  | bufferWithVector (pointer : String)
deriving DecidableEq, Repr

/-- The fault in words, after the names of the device and the operation. -/
def OperationFault.message : OperationFault → String
  | unsupportedType type reason =>
    ": unsupported type '" ++ type ++ "' (" ++ reason.message ++ ")"
  | healthCheck line fault => " (line " ++ toString line ++ "): " ++ fault.message
  | unknownDirective line text =>
    " (line " ++ toString line ++ "): unknown pragma directive '" ++ text ++ "'"
  | malformedDirective line fault =>
    " (line " ++ toString line ++ "): malformed " ++ fault.keyword ++ " annotation: " ++
      fault.message
  | pointerArgument name =>
    ": pointer argument '" ++ name ++ "' requires a write_array annotation"
  | overloaded => ": overloaded operations are not supported"
  | tooMany => ": more than 65536 operations in one device"
  | bufferWithVector pointer =>
    ": write_array buffer '" ++ pointer ++ "' cannot be combined with a vector argument"

/-- What can be wrong with the declarations of some devices. -/
inductive DeclarationError where
  | parse (origin : String) (error : Header.ParseError)
  | operation (device operation : String) (fault : OperationFault)
  | duplicateDevice (name : String)
  | tooManyDevices
deriving DecidableEq, Repr

/-- The error in words. -/
def DeclarationError.message : DeclarationError → String
  | parse origin error =>
    origin ++ ":" ++ toString error.line ++ ": " ++ error.fault.message
  | operation device name fault => device ++ "::" ++ name ++ fault.message
  | duplicateDevice name => "device " ++ name ++ " declared more than once"
  | tooManyDevices => "configuration error: too many devices"

end Instrument.Interface
