import Instrument.Discovery
import Instrument.WireType

/-!
The catalogue of signatures: what each operation of each device takes and sends back. A client
with a catalogue can tell what a reply looks like before it reads any of it.
-/

namespace Instrument.Signature

/-- What a reply looks like on the wire. Types of elements and formats of tuples are kept as the
catalogue spells them. -/
inductive ReturnShape where
  | void
  | scalar (dtype : String)
  | array (dtype : String) (length : UInt64)
  /-- Elements after their number. -/
  | vector (dtype : String)
  /-- A transfer of elements. -/
  | buffer (dtype : String)
  | string
  | tuple (format : String)
deriving DecidableEq, Repr

/-- The shape in words. -/
def ReturnShape.text : ReturnShape → String
  | void => "void"
  | scalar dtype => dtype
  | array dtype length => "array<" ++ dtype ++ ", " ++ toString length.toNat ++ ">"
  | vector dtype => "vector<" ++ dtype ++ ">"
  | buffer dtype => "buffer<" ++ dtype ++ ">"
  | string => "string"
  | tuple format => "tuple<" ++ format ++ ">"

/-- The shape of a result that is one value or text. -/
def directShape : WireType → ReturnShape
  | .void | .unsupported _ => .void
  | .scalar type => .scalar type.elementName
  | .array element length => .array element.elementName (UInt64.ofNat length)
  | .vector element | .pointer element => .vector element.elementName
  | .cString | .string => .string
  | .tuple fields => .tuple (String.ofList (fields.map Wire.ScalarType.tag))

/-- The shape of a result; `transfer` tells that it is a transfer of elements. -/
def shape (type : WireType) (transfer : Bool) : ReturnShape :=
  match transfer, type.element? with
  | true, some element => .buffer element.elementName
  | _, _ => directShape type

/-- An argument of an operation. -/
structure Argument where
  name : String
  type : String
deriving DecidableEq, Repr

/-- The signature of an operation. -/
structure Function where
  name : String
  id : UInt16
  resultType : String
  mode : String
  returns : ReturnShape
  arguments : List Argument
deriving DecidableEq, Repr

/-- The signatures of a device. -/
structure Device where
  className : String
  tag : String
  id : UInt16
  functions : List Function
deriving DecidableEq, Repr

/-- The signatures of all devices. -/
abbrev Catalogue := List Device

/-- The signature of an operation, by the name of the operation in any case and the class name or
tag of its device. Of devices, the first that fits counts. -/
def find? (catalogue : Catalogue) (device operation : String) : Option Function := do
  let tag := deviceTag device
  let found ← catalogue.find? fun d => d.className == device || d.tag == device || d.tag == tag
  found.functions.find? fun f => asciiUpper f.name.toList == asciiUpper operation.toList

end Instrument.Signature
