import Instrument.Error

/-!
The arguments of a call, by the names of their parameters.
-/

namespace Instrument

open Wire (ScalarType Scalar Elements)

/-- A value that was passed to an operation. -/
inductive ArgumentValue where
  | scalar (value : Scalar)
  | array (values : Elements)
  | vector (values : Elements)
  /-- A transfer of elements into a buffer. -/
  | buffer (values : Elements)
deriving DecidableEq, Repr

/-- The arguments of one call, in the order in which they were read. -/
abbrev Arguments := List (String × ArgumentValue)

namespace Arguments

/-- The argument with a given name. -/
def find? (args : Arguments) (name : String) : Option ArgumentValue :=
  (List.find? (·.1 == name) args).map (·.2)

/-- The place of an argument, or the place after all if there is none of that name. -/
def place (args : Arguments) (name : String) : Nat :=
  (args.findIdx? (·.1 == name)).getD args.length

/-- The scalar argument of a given type with a given name. -/
def scalar (args : Arguments) (type : ScalarType) (name : String) : Except Error Scalar :=
  let refuse (found : String) :=
    .error (.argumentType name (args.place name) type.cppName found)
  match args.find? name with
  | some (.scalar value) => if value.type = type then .ok value else refuse value.type.cppName
  | some _ => refuse "buffer"
  | none => .error (.missingArgument name)

/-- The 32-bit unsigned argument with a given name. -/
def word (args : Arguments) (name : String) : Except Error UInt32 :=
  (args.scalar .u32 name).map fun value => UInt32.ofNat value.bits

/-- The elements of the argument with a given name. -/
def elements (args : Arguments) (name : String) : Except Error Elements :=
  match args.find? name with
  | some (.array values) | some (.vector values) | some (.buffer values) => .ok values
  | some (.scalar value) =>
    .error (.argumentType name (args.place name) "elements" value.type.cppName)
  | none => .error (.missingArgument name)

/-- The elements of a given type of the argument with a given name. -/
def values (args : Arguments) (type : ScalarType) (name : String) : Except Error (List Scalar) := do
  let found ← args.elements name
  match found.toListOf? type with
  | some values => .ok values
  | none => .error (.elementType name type found.type)

end Arguments

end Instrument
