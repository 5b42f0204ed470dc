import Instrument.Call.Decode
import Instrument.Generator.Marshal
import Instrument.Wire.TupleFormat

/-!
The function that rebuilds the arguments of an operation, as a program: its instructions name the
buffers, the variables and the fields that they read and write, and running it does what the text
says with these names. A program that reads beyond the end of a buffer, names what is not there,
declares a name twice or writes a value of another type than that of the field has no meaning. Main
statement: the text of the function is the text of its program.
-/

namespace Instrument.Generator

open Interface (Description Operation)
open Wire (Elements Scalar ScalarType TupleFormat)

/-! ### Instructions and their text -/

/-- A line of the function, the lines that give up with a message counted to the test before
them. -/
inductive Instruction where
  /-- Makes sure, when the function is compiled, that the envelope can hold the payload. -/
  | assertSize (size : Nat)
  /-- Gives up if the payload has another size. -/
  | requireSize (size : Nat)
  /-- Declares a buffer and fills it from the stream, or gives up. -/
  | load (buffer : String) (size : Nat)
  /-- Declares a tuple with the fields that lie at an offset of a buffer. -/
  | deserialize (tuple : String) (types : List ScalarType) (buffer : String) (offset : Nat)
  /-- Sets a field to a component of a tuple. -/
  | assign (field : String) (position : Nat) (tuple : String)
  /-- Sets a field to the elements that lie at an offset of a buffer. -/
  | extract (element : ScalarType) (length : Nat) (buffer : String) (offset : Nat) (field : String)
  /-- Declares a number of elements, which lies at an offset of a buffer. -/
  | count (number : String) (buffer : String) (offset : Nat)
  /-- Sets a field to elements that are transferred, or gives up. -/
  | receive (field : String) (number : String)
deriving DecidableEq, Repr

namespace Instruction

/-- The lines of an instruction; `context` begins its messages. -/
def lines (context : String) : Instruction → List String
  | assertSize size =>
    ["    static_assert(" ++ toString size ++ " <= Command::BUFFER_SIZE, \"" ++ context ++
      " Payload exceeds the command buffer\");"]
  | requireSize size =>
    ("    if (cmd.payload_size != " ++ toString size ++ ") \x7b") ::
      failWith (context ++ " Invalid payload size. Expected " ++ toString size ++
        " bytes. Received %u bytes.") ", cmd.payload_size"
  | load buffer size =>
    ["    Buffer<" ++ toString size ++ "> " ++ buffer ++ ";",
     "    if (cmd.session->load_buffer(" ++ buffer ++ ") < 0) \x7b"] ++
    failWith (context ++ " Failed to load buffer of " ++ toString size ++ " bytes") ""
  | deserialize tuple types buffer offset =>
    ["    auto " ++ tuple ++ " = cmd.session->deserialize<" ++
      ", ".intercalate (types.map ScalarType.cppName) ++ ">(" ++ buffer ++ ", " ++
      toString offset ++ ");"]
  | assign field position tuple =>
    ["    args." ++ field ++ " = std::get<" ++ toString position ++ ">(" ++ tuple ++ ");"]
  | extract element length buffer offset field =>
    ("    if (!cmd.session->extract_array<" ++ element.cppName ++ ", " ++ toString length ++ ">(" ++
      buffer ++ ", " ++ toString offset ++ ", args." ++ field ++ ")) \x7b") ::
    failWith (context ++ " Failed to extract array") ""
  | count number buffer offset =>
    ["    auto " ++ number ++ " = std::get<0>(cmd.session->deserialize<uint64_t>(" ++ buffer ++
      ", " ++ toString offset ++ "));"]
  | receive field number =>
    ("    if (cmd.session->recv_vector(args." ++ field ++ ", " ++ number ++ ") < 0) \x7b") ::
    failWith (context ++ " Failed to receive vector") ""

/-- The field that an instruction sets. -/
def field? : Instruction → Option String
  | assign field .. | extract _ _ _ _ field | receive field _ => some field
  | _ => none

end Instruction

/-! ### The program of an operation -/

/-- The name of the payload of the envelope. -/
def payloadName : String := "cmd.buffer"

/-- Bytes of a buffer. -/
structure Span where
  buffer : String
  offset : Nat
  length : Nat
deriving DecidableEq, Repr

/-- The bytes that an instruction reads. -/
def Instruction.read? : Instruction → Option Span
  | deserialize _ types buffer offset => some ⟨buffer, offset, TupleFormat.size ⟨.big, types⟩⟩
  | extract element length buffer offset _ => some ⟨buffer, offset, element.width * length⟩
  | count _ buffer offset => some ⟨buffer, offset, ScalarType.u64.width⟩
  | _ => none

/-- The buffer whose size an instruction tells, with this size: that of the payload is tested, that
of any other buffer is the one with which it is declared. -/
def Instruction.size? : Instruction → Option (String × Nat)
  | requireSize size => some (payloadName, size)
  | load buffer size => some (buffer, size)
  | _ => none

/-- Whether all that some instructions read lies in buffers whose sizes they tell. -/
def ReadsInside (instructions : List Instruction) : Prop :=
  ∀ span ∈ instructions.filterMap Instruction.read?,
    ∃ size, (span.buffer, size) ∈ instructions.filterMap Instruction.size? ∧
      span.offset + span.length ≤ size

/-- What is declared for a pack: a buffer, the tuple of its scalars, the number of elements of its
vector. -/
inductive Role where
  | buffer | tuple | count
deriving DecidableEq, Repr

/-- The name of what is declared for a pack. -/
def Role.name : Role → Nat → String
  | buffer, pack => "buff" ++ toString pack
  | tuple, pack => "pack" ++ toString pack
  | count, pack => "length" ++ toString pack

/-- The buffer of a place. -/
def Place.buffer : Place → String
  | envelope _ => payloadName
  | loaded pack => Role.buffer.name pack

/-- The offset of a place in its buffer. -/
def Place.offset : Place → Nat
  | envelope offset => offset
  | loaded _ => 0

/-- The instructions of a statement. -/
def Statement.instructions : Statement → List Instruction
  | checkSize size bounded => (if bounded then [.assertSize size] else []) ++ [.requireSize size]
  | load pack size => [.load (Role.buffer.name pack) size]
  | unpack pack place fields =>
    .deserialize (Role.tuple.name pack) (fields.map (·.2)) place.buffer place.offset ::
      fields.zipIdx.map fun (field, i) => .assign field.1 i (Role.tuple.name pack)
  | extract place element length field => [.extract element length place.buffer place.offset field]
  | receive pack place field =>
    [.count (Role.count.name pack) place.buffer place.offset, .receive field (Role.count.name pack)]

/-- The instructions that rebuild the arguments of an operation, in groups. -/
def program (op : Operation) : List (List Instruction) :=
  (statements op).map (·.flatMap Statement.instructions)

theorem Place.text_eq (place : Place) :
    place.text = place.buffer ++ ", " ++ toString place.offset := by
  cases place with
  | envelope offset => rfl
  | loaded pack =>
    have hzero : ", 0" = ", " ++ toString 0 := by decide
    rw [text, hzero, ← String.append_assoc]
    rfl

/-- The text of a statement is that of its instructions. -/
theorem Statement.lines_eq (context : String) (s : Statement) :
    s.lines context = s.instructions.flatMap (Instruction.lines context) := by
  cases s with
  | checkSize size bounded => cases bounded <;> simp [lines, instructions, Instruction.lines]
  | load pack size => simp [lines, instructions, Instruction.lines, Role.name]
  | unpack pack place fields =>
    have hauto : "    auto pack" = "    auto " ++ "pack" := by decide
    have hget : ">(pack" = ">(" ++ "pack" := by decide
    simp [lines, instructions, Instruction.lines, Place.text_eq, Role.name, String.append_assoc,
      hauto, hget, Function.comp_def, List.flatMap_map, -String.reduceAppend]
    exact List.map_eq_flatMap
  | extract place element length field =>
    simp [lines, instructions, Instruction.lines, Place.text_eq, String.append_assoc]
  | receive pack place field =>
    have hauto : "    auto length" = "    auto " ++ "length" := by decide
    have hlength : ", length" = ", " ++ "length" := by decide
    simp [lines, instructions, Instruction.lines, Place.text_eq, Role.name, String.append_assoc,
      hauto, hlength, -String.reduceAppend]

/-- The function that rebuilds the arguments of an operation by a program, as text: a blank line
stands between two groups of instructions. -/
def functionText (d : Description) (op : Operation) (groups : List (List Instruction)) : String :=
  unlines (
    ["int " ++ servingClass d ++ "::parse_arg_" ++ op.name ++ "(Command& cmd, " ++
      argumentsType op ++ "& args) \x7b"] ++
    [""].intercalate (groups.map (·.flatMap (Instruction.lines (messageContext d op)))) ++
    ["    return 0;", "\x7d"])

/-- The text of the function that rebuilds the arguments is that of its program. -/
theorem parseFunction_eq (d : Description) (op : Operation) :
    parseFunction d op = functionText d op (program op) := by
  have hgroups : (statements op).map (·.flatMap (Statement.lines (messageContext d op))) =
      (program op).map (·.flatMap (Instruction.lines (messageContext d op))) := by
    rw [program, List.map_map]
    refine List.map_congr_left fun group _ => ?_
    rw [Function.comp_apply, List.flatMap_assoc]
    exact congrArg (group.flatMap ·) (funext fun s => s.lines_eq _)
  rw [parseFunction, hgroups]
  rfl

/-! ### Running a program -/

/-- Why a function ends before its end. -/
inductive Halt where
  /-- It gives up. -/
  | refused
  /-- What it does next has no meaning. -/
  | undefined
deriving DecidableEq, Repr

/-- What a function does that can end before its end. -/
abbrev Script := ExceptT Halt Dialogue

namespace Script

/-- Takes a number of bytes from the stream, or gives up. -/
def load (size : Nat) : Script Bytes :=
  ExceptT.mk (.load size fun
    | some taken => .done (.ok taken)
    | none => .done (.error .refused))

/-- Tells the caller how many elements are taken, or gives up. -/
def acknowledge (count : Nat) : Script Unit :=
  ExceptT.mk (.acknowledge (UInt32.ofNat count) fun
    | .ok () => .done (.ok ())
    | .error _ => .done (.error .refused))

/-- Goes on with a value that is there. -/
def need {α : Type} (value? : Option α) : Script α :=
  match value? with
  | some value => pure value
  | none => throw .undefined

/-- Takes elements whose number is known: as many as the caller is told. -/
def receive (element : ScalarType) (count : Nat) : Script Elements := do
  let ready := min count (transferLimit element)
  acknowledge ready
  if ready ≠ count then throw .refused
  let raw ← load (count * element.width)
  match Elements.ofBytes? element raw with
  | some values => return values
  | none => throw .refused

end Script

/-- What a name stands for. -/
inductive Local where
  | bytes (bs : Bytes)
  | scalars (values : List Scalar)
  | count (n : Nat)
deriving DecidableEq, Repr

/-- The fields of the structure that holds the arguments, with their types. -/
abbrev Fields := List (String × WireType)

/-- The fields of the structure that holds the arguments of an operation. -/
def argumentFields (op : Operation) : Fields :=
  op.arguments.map fun a => (a.name, WireType.classify a.type.toList)

/-- The type of the field with a given name; no structure has two fields of one name. -/
def Fields.type? (fields : Fields) (name : String) : Option WireType :=
  match fields.filter (·.1 == name) with
  | [(_, type)] => some type
  | _ => none

/-- A function while it runs: the names that are declared, the last one first, and the fields that
are set, in their order. -/
structure Frame where
  payloadSize : Nat
  locals : List (String × Local)
  assigned : Arguments := []
deriving DecidableEq, Repr

namespace Frame

/-- A function that begins with a payload. -/
def ofPayload (payload : Bytes) : Frame := ⟨payload.length, [(payloadName, .bytes payload)], []⟩

/-- What a name stands for. -/
def local? (f : Frame) (name : String) : Option Local :=
  (f.locals.find? (·.1 == name)).map (·.2)

/-- Declares a name that is not declared yet. -/
def declare? (f : Frame) (name : String) (value : Local) : Option Frame :=
  if (f.local? name).isNone then some { f with locals := (name, value) :: f.locals } else none

/-- The bytes from an offset of a buffer on. -/
def bytesAt? (f : Frame) (buffer : String) (offset : Nat) : Option Bytes :=
  match f.local? buffer with
  | some (.bytes bs) => if offset ≤ bs.length then some (bs.drop offset) else none
  | _ => none

/-- A component of a tuple. -/
def component? (f : Frame) (tuple : String) (position : Nat) : Option Scalar :=
  match f.local? tuple with
  | some (.scalars values) => values[position]?
  | _ => none

/-- A number of elements. -/
def count? (f : Frame) (number : String) : Option Nat :=
  match f.local? number with
  | some (.count n) => some n
  | _ => none

/-- Sets a field of a given type. -/
def assign? (fields : Fields) (f : Frame) (field : String) (type : WireType)
    (value : ArgumentValue) : Option Frame :=
  if fields.type? field = some type then some { f with assigned := f.assigned ++ [(field, value)] }
  else none

end Frame

/-- Runs an instruction of a function that sets some fields. -/
def Instruction.run (fields : Fields) (f : Frame) : Instruction → Script Frame
  | assertSize _ => return f
  | requireSize size => if f.payloadSize ≠ size then throw .refused else return f
  | load buffer size => do
    let bs ← Script.load size
    .need (f.declare? buffer (.bytes bs))
  | deserialize tuple types buffer offset => .need do
    let bs ← f.bytesAt? buffer offset
    let values ← TupleFormat.unpackFields? .big types bs
    f.declare? tuple (.scalars values)
  | assign field position tuple => .need do
    let value ← f.component? tuple position
    f.assign? fields field (.scalar value.type) (.scalar value)
  | extract element length buffer offset field => .need do
    let bs ← f.bytesAt? buffer offset
    let (raw, _) ← Wire.split? (length * element.width) bs
    let values ← Elements.ofBytes? element raw
    f.assign? fields field (.array element length) (.array values)
  | count number buffer offset => .need do
    let bs ← f.bytesAt? buffer offset
    let n ← Scalar.decodeBE? .u64 bs
    f.declare? number (.count n.bits)
  | receive field number => do
    match fields.type? field, f.count? number with
    | some (.vector element), some n =>
      let values ← Script.receive element n
      .need (f.assign? fields field (.vector element) (.vector values))
    | _, _ => throw .undefined

/-- Runs instructions one after the other. -/
def runAll (fields : Fields) (instructions : List Instruction) (f : Frame) : Script Frame :=
  instructions.foldlM (Instruction.run fields) f

/-- Runs the function that rebuilds the arguments of an operation from a payload and the stream. -/
def rebuild (op : Operation) (payload : Bytes) : Script Frame :=
  runAll (argumentFields op) (program op).flatten (.ofPayload payload)

end Instrument.Generator
