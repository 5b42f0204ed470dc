import Instrument.Json.Parser
import Instrument.Json.Printer
import Instrument.Json.Value
import Instrument.Signature.Catalogue

/-!
Catalogues as JSON documents. A record is written as an object; it is also read from the array of
its fields. In an object, members with other keys do not count.
-/

namespace Instrument.Signature

open Json (Tree)

/-! ### Writing -/

/-- The document of a shape, which names its kind first. -/
def ReturnShape.document : ReturnShape → Tree
  | void => .record [("kind", .text "void")]
  | scalar dtype => .record [("kind", .text "scalar"), ("dtype", .text dtype)]
  | array dtype length =>
    .record [("kind", .text "array"), ("dtype", .text dtype), ("len", .nat length.toNat)]
  | vector dtype => .record [("kind", .text "vector"), ("dtype", .text dtype)]
  | buffer dtype => .record [("kind", .text "buffer"), ("dtype", .text dtype)]
  | string => .record [("kind", .text "string")]
  | tuple format => .record [("kind", .text "tuple"), ("format", .text format)]

/-- The document of an argument. -/
def Argument.document (a : Argument) : Tree :=
  .record [("name", .text a.name), ("type", .text a.type)]

/-- The document of an operation. -/
def Function.document (f : Function) : Tree :=
  .record [("name", .text f.name), ("id", .nat f.id.toNat), ("ret_type", .text f.resultType),
    ("io_type", .text f.mode), ("returns", f.returns.document),
    ("args", .array (f.arguments.map Argument.document))]

/-- The document of a device. -/
def Device.document (d : Device) : Tree :=
  .record [("class", .text d.className), ("tag", .text d.tag), ("id", .nat d.id.toNat),
    ("functions", .array (d.functions.map Function.document))]

/-- The text of a catalogue. -/
def toText (catalogue : Catalogue) : String :=
  String.ofList ((Tree.array (catalogue.map Device.document)).toText ++ ['\n'])

/-! ### Reading -/

/-- The keys and values of members all of whose keys are text. -/
def keyed? : List (Option String × Tree) → Option (List (String × Tree))
  | [] => some []
  | (key, value) :: rest => do return (← key, value) :: (← keyed? rest)

/-- The value of a key that stands exactly once. -/
def single? (members : List (String × Tree)) (key : String) : Option Tree :=
  match members.filter (·.1 == key) with
  | [(_, value)] => some value
  | _ => none

/-- The fields of a record, in the order of their names. -/
def fields? (names : List String) : Tree → Option (List Tree)
  | .object members => do
    let members ← keyed? members
    names.mapM (single? members)
  | .array items => if items.length = names.length then some items else none
  | _ => none

/-- A field that is text. -/
def text? : Tree → Option String
  | .string text? => text?
  | _ => none

/-- A field that is a natural number below a limit. -/
def nat? (limit : Nat) : Tree → Option Nat
  | .number n =>
    let value := Text.digitsValue n.whole
    if !n.negative && n.fraction.isEmpty && n.exponent?.isNone && value < limit then some value
    else none
  | _ => none

/-- A field that is a list. -/
def list? {α : Type} (item? : Tree → Option α) : Tree → Option (List α)
  | .array items => items.mapM item?
  | _ => none

/-- The levels of arrays and objects around a shape. -/
def shapeDepth : Nat := 4

/-- The kind of a shape and the tree of its other fields. -/
def splitKind? (tree : Tree) : Option (String × Tree) :=
  match tree with
  | .object members => do
    let members ← keyed? members
    let kind ← text? (← single? members "kind")
    return (kind, .record (members.filter (·.1 != "kind")))
  | .array (kind :: fields) => do return (← text? kind, .array fields)
  | _ => none

/-- A shape without fields; an object may have other members, an array may not. -/
def bare? (shape : ReturnShape) : Tree → Option ReturnShape
  | .array (_ :: _) => none
  | _ => some shape

/-- Reads a shape. All that stands in it has to be a value, even what does not count. -/
def ReturnShape.ofDocument? (tree : Tree) : Option ReturnShape := do
  let _ ← tree.value? (Json.maxDepth - shapeDepth)
  let (kind, rest) ← splitKind? tree
  match kind with
  | "void" => bare? .void rest
  | "string" => bare? .string rest
  | "scalar" =>
    let [dtype] ← fields? ["dtype"] rest | none
    return .scalar (← text? dtype)
  | "array" =>
    let [dtype, length] ← fields? ["dtype", "len"] rest | none
    return .array (← text? dtype) (UInt64.ofNat (← nat? Text.limit64 length))
  | "vector" =>
    let [dtype] ← fields? ["dtype"] rest | none
    return .vector (← text? dtype)
  | "buffer" =>
    let [dtype] ← fields? ["dtype"] rest | none
    return .buffer (← text? dtype)
  | "tuple" =>
    let [format] ← fields? ["format"] rest | none
    return .tuple (← text? format)
  | _ => none

/-- Reads an argument. -/
def Argument.ofDocument? (tree : Tree) : Option Argument := do
  let [name, type] ← fields? ["name", "type"] tree | none
  return ⟨← text? name, ← text? type⟩

/-- Reads a number of 16 bits. -/
def id? (tree : Tree) : Option UInt16 := (nat? Text.limit16 tree).map UInt16.ofNat

/-- Reads an operation. -/
def Function.ofDocument? (tree : Tree) : Option Function := do
  let [name, id, resultType, mode, returns, arguments] ←
    fields? ["name", "id", "ret_type", "io_type", "returns", "args"] tree | none
  return ⟨← text? name, ← id? id, ← text? resultType, ← text? mode,
    ← ReturnShape.ofDocument? returns, ← list? Argument.ofDocument? arguments⟩

/-- Reads a device. -/
def Device.ofDocument? (tree : Tree) : Option Device := do
  let [className, tag, id, functions] ← fields? ["class", "tag", "id", "functions"] tree | none
  return ⟨← text? className, ← text? tag, ← id? id, ← list? Function.ofDocument? functions⟩

/-- Reads a catalogue. -/
def ofText? (text : String) : Option Catalogue := do
  list? Device.ofDocument? (← Tree.ofText? text.toList)

end Instrument.Signature
