import Instrument.WireType

/-!
What a device offers: its operations, with their arguments and results as they count on the wire.
-/

namespace Instrument.Interface

open Wire (ScalarType)

/-- How the value of an argument travels. -/
inductive Category where
  | scalar | array | vector
deriving DecidableEq, Repr

/-- The type of an argument as it counts on the wire. -/
inductive ArgumentKind where
  | scalar (type : ScalarType)
  | array (element : ScalarType) (length : Nat)
  | vector (element : ScalarType)
deriving DecidableEq, Repr

namespace ArgumentKind

/-- How a value of this type travels. -/
def category : ArgumentKind → Category
  | scalar _ => .scalar
  | array .. => .array
  | vector _ => .vector

/-- The type of the elements, or of the value itself. -/
def element : ArgumentKind → ScalarType
  | scalar type | array type _ | vector type => type

end ArgumentKind

/-- A declared argument; `type` is its text without reference and `const` marks. -/
structure Argument where
  name : String
  type : String
  byReference : Bool
  isConst : Bool
  kind : ArgumentKind
deriving DecidableEq, Repr

/-- A pointer parameter that takes a transfer of elements: its place among the parameters and the
name of the argument that holds its length. -/
structure Buffer where
  pointer : String
  position : Nat
  length : String
  element : ScalarType
  isConst : Bool
deriving DecidableEq, Repr

/-- What an operation sends back. -/
inductive Mode where
  /-- Nothing. -/
  | write
  /-- One value. -/
  | read
  /-- Text. -/
  | readText
  /-- A transfer of elements. -/
  | readArray
deriving DecidableEq, Repr

/-- The name of a mode in catalogues. -/
def Mode.text : Mode → String
  | write => "WRITE"
  | read => "READ"
  | readText => "READ_CSTR"
  | readArray => "READ_ARRAY"

/-- A declared operation. -/
structure Operation where
  name : String
  /-- The name in upper case, by which the operation is listed. -/
  tag : String
  id : UInt16
  resultType : String
  result : WireType
  mode : Mode
  /-- The arguments in the order of their declaration; a buffer is none of them. -/
  arguments : List Argument
  buffer? : Option Buffer
  /-- The length of a pointer result. -/
  lengthExpression? : Option String
  line : Nat
deriving DecidableEq, Repr

/-- The names of the parameters in the order of their declaration, the buffer among them. -/
def Operation.callOrder (op : Operation) : List String :=
  let names := op.arguments.map (·.name)
  match op.buffer? with
  | none => names
  | some b => names.take b.position ++ b.pointer :: names.drop b.position

/-- What a device offers. -/
structure Description where
  name : String
  /-- The name by which the device is listed. -/
  tag : String
  id : UInt16
  operations : List Operation
  /-- The method that tells whether the device has failed. -/
  healthCheck? : Option String
deriving DecidableEq, Repr

namespace Description

/-- The operation with a given number. -/
def operation? (d : Description) (id : UInt16) : Option Operation := d.operations[id.toNat]?

/-- The first operation with a given name or tag. -/
def operationNamed? (d : Description) (name : String) : Option Operation :=
  d.operations.find? fun op => op.name == name || op.tag == name

end Description

end Instrument.Interface
