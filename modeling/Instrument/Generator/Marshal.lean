import Instrument.Interface.Layout
import Instrument.Interface.LengthExpression
import Instrument.Text.Case

/-!
The marshalling source of an operation: a structure for its arguments, a function that rebuilds
them from what a client sends, and a function that makes the call and sends the result. The
rebuilding is a list of statements before it is text.
-/

namespace Instrument.Generator

open Interface (Argument ArgumentKind Description Mode Operation PlacedPack)
open Wire (ScalarType)

/-- Lines as text, each with its end. -/
def unlines (lines : List String) : String := String.join (lines.map (· ++ "\n"))

/-! ### Statements -/

/-- Where a statement reads: in the envelope at an offset, or at the beginning of what was loaded
for a pack. -/
inductive Place where
  | envelope (offset : Nat)
  | loaded (pack : Nat)
deriving DecidableEq, Repr

/-- A statement of the function that rebuilds arguments. -/
inductive Statement where
  /-- Refuses an envelope whose payload has another size; `bounded` tells that nothing follows the
  envelope. -/
  | checkSize (size : Nat) (bounded : Bool)
  /-- Loads the bytes of a pack from the stream. -/
  | load (pack size : Nat)
  /-- Reads scalars in a row into their fields. -/
  | unpack (pack : Nat) (place : Place) (fields : List (String × ScalarType))
  /-- Reads the elements of an array into its field. -/
  | extract (place : Place) (element : ScalarType) (length : Nat) (field : String)
  /-- Reads the number of elements of a vector and takes the transfer into its field. -/
  | receive (pack : Nat) (place : Place) (field : String)
deriving DecidableEq, Repr

/-- The arguments that are read together in a pack. -/
def members (op : Operation) (p : PlacedPack) : List Argument :=
  p.members.filterMap (op.arguments[·]?)

/-- The statements that read one argument with a pack of its own. -/
def readSingle (pack : Nat) (place : Place) (a : Argument) : Statement :=
  match a.kind with
  | .scalar type => .unpack pack place [(a.name, type)]
  | .array element length => .extract place element length a.name
  | .vector _ => .receive pack place a.name

/-- The statements that read a pack. -/
def packStatements (op : Operation) (pack : Nat) (p : PlacedPack) : List Statement :=
  let (load, place) := match p.region with
    | .envelope offset => ([], Place.envelope offset)
    | .reload => ([Statement.load pack p.size], .loaded pack)
  load ++
    match p.category with
    | .scalar => [.unpack pack place ((members op p).map fun a => (a.name, a.kind.element))]
    | .array | .vector => (members op p).map (readSingle pack place)

/-- The statements that rebuild the arguments of an operation: the first group checks the
envelope, and one group reads each pack. -/
def statements (op : Operation) : List (List Statement) :=
  let layout := op.layout
  [.checkSize layout.payloadSize (!layout.hasVector)] ::
    layout.packs.zipIdx.map fun (p, i) => packStatements op i p

/-! ### Statements as text -/

/-- The buffer and the offset of a place. -/
def Place.text : Place → String
  | envelope offset => "cmd.buffer, " ++ toString offset
  | loaded pack => "buff" ++ toString pack ++ ", 0"

/-- The lines after a condition that end the function with a message. -/
def failWith (message : String) (values : String) : List String :=
  ["        log_error(\"" ++ message ++ "\\n\"" ++ values ++ ");",
   "        return -1;",
   "    \x7d"]

/-- The lines of a statement; `context` begins its messages. -/
def Statement.lines (context : String) : Statement → List String
  | checkSize size bounded =>
    (if bounded then
      ["    static_assert(" ++ toString size ++ " <= Command::BUFFER_SIZE, \"" ++ context ++
        " Payload exceeds the command buffer\");"]
    else []) ++
    ["    if (cmd.payload_size != " ++ toString size ++ ") \x7b"] ++
    failWith (context ++ " Invalid payload size. Expected " ++ toString size ++
      " bytes. Received %u bytes.") ", cmd.payload_size"
  | load pack size =>
    let buffer := "buff" ++ toString pack
    ["    Buffer<" ++ toString size ++ "> " ++ buffer ++ ";",
     "    if (cmd.session->load_buffer(" ++ buffer ++ ") < 0) \x7b"] ++
    failWith (context ++ " Failed to load buffer of " ++ toString size ++ " bytes") ""
  | unpack pack place fields =>
    ("    auto pack" ++ toString pack ++ " = cmd.session->deserialize<" ++
      ", ".intercalate (fields.map (·.2.cppName)) ++ ">(" ++ place.text ++ ");") ::
    fields.zipIdx.map fun (field, i) =>
      "    args." ++ field.1 ++ " = std::get<" ++ toString i ++ ">(pack" ++ toString pack ++ ");"
  | extract place element length field =>
    ("    if (!cmd.session->extract_array<" ++ element.cppName ++ ", " ++ toString length ++ ">(" ++
      place.text ++ ", args." ++ field ++ ")) \x7b") ::
    failWith (context ++ " Failed to extract array") ""
  | receive pack place field =>
    ["    auto length" ++ toString pack ++
      " = std::get<0>(cmd.session->deserialize<uint64_t>(" ++ place.text ++ "));",
     "    if (cmd.session->recv_vector(args." ++ field ++ ", length" ++ toString pack ++
      ") < 0) \x7b"] ++
    failWith (context ++ " Failed to receive vector") ""

/-! ### Functions -/

/-- The class that serves a device. -/
def servingClass (d : Description) : String := d.name ++ "Device"

/-- The structure that holds the arguments of an operation. -/
def argumentsType (op : Operation) : String := "Args_" ++ op.name

/-- How the messages about an operation begin. -/
def messageContext (d : Description) (op : Operation) : String :=
  "[" ++ d.name ++ " - " ++ op.name ++ "]"

/-- The declaration of the structure that holds the arguments. -/
def argumentsStruct (op : Operation) : String :=
  unlines (["    struct " ++ argumentsType op ++ " \x7b"] ++
    op.arguments.map (fun a => "        " ++ a.type ++ " " ++ a.name ++ ";") ++ ["    \x7d;"])

/-- The function that rebuilds the arguments. -/
def parseFunction (d : Description) (op : Operation) : String :=
  let groups := (statements op).map (·.flatMap (Statement.lines (messageContext d op)))
  unlines (["int " ++ servingClass d ++ "::parse_arg_" ++ op.name ++ "(Command& cmd, " ++
      argumentsType op ++ "& args) \x7b"] ++
    [""].intercalate groups ++ ["    return 0;", "\x7d"])

/-- The call of the method. -/
def methodCall (op : Operation) : String :=
  let argument (name : String) :=
    if op.buffer?.any (·.pointer == name) then "args_" ++ name else "args." ++ name
  "THIS->" ++ op.name ++ "(" ++ ", ".intercalate (op.callOrder.map argument) ++ ")"

/-- The lines that make the call and send its result. -/
def sendLines (op : Operation) : List String :=
  let call := methodCall op
  match op.mode with
  | .write => ["    " ++ call ++ ";", "    return 0;"]
  | .read => ["    return cmd.session->send(" ++ call ++ ");"]
  | .readText => ["    return cmd.session->send_cstr(" ++ call ++ ");"]
  | .readArray =>
    match op.result, op.lengthExpression? with
    | .pointer _, some length =>
      ["    auto ptr = " ++ call ++ ";",
       "    return cmd.session->send_array(ptr, " ++
        String.ofList (Interface.lengthSource length.toList) ++ ");"]
    | _, _ => ["    return cmd.session->send_array(" ++ call ++ ");"]

/-- The function that serves an operation. -/
def executeFunction (d : Description) (op : Operation) : String :=
  let declareBuffer := op.buffer?.toList.map fun b =>
    "    " ++ (if b.isConst then "const " else "") ++ b.element.cppName ++ "* args_" ++ b.pointer ++
      " = nullptr;"
  let receiveBuffer := op.buffer?.toList.flatMap fun b =>
    ("    if (cmd.session->recv_array(args_" ++ b.pointer ++ ", args." ++ b.length ++
      ") < 0) \x7b") :: failWith (messageContext d op ++ " Failed to receive array") ""
  unlines (["int " ++ servingClass d ++ "::execute_" ++ op.name ++ "(Command& cmd) \x7b",
      "    " ++ argumentsType op ++ " args;"] ++ declareBuffer ++
    ["    if (parse_arg_" ++ op.name ++ "(cmd, args) < 0) \x7b",
      "        return -1;", "    \x7d"] ++
    receiveBuffer ++ sendLines op ++ ["\x7d"])

/-- The tag of a device in lower case. -/
def lowerTag (d : Description) : String := String.ofList (Text.lower d.tag.toList)

/-- The functions that serve a device: the choice of the operation, and the health check. -/
def serveFunctions (d : Description) : String :=
  let lock := "    std::lock_guard<std::mutex> lock(mutex);"
  unlines (["int " ++ servingClass d ++ "::execute(Command& cmd) \x7b", lock, "",
      "    switch (cmd.operation) \x7b"] ++
    d.operations.flatMap (fun op =>
      ["      case " ++ op.tag ++ ":", "        return execute_" ++ op.name ++ "(cmd);"]) ++
    ["      case " ++ lowerTag d ++ "_op_num:",
     "      default:",
     "        log_error(\"" ++ d.tag ++ ": Unknown operation %u\\n\", cmd.operation);",
     "        return -1;",
     "    \x7d",
     "\x7d",
     "",
     "bool " ++ servingClass d ++ "::is_failed() \x7b"] ++
    (match d.healthCheck? with
      | some method => [lock, "    return THIS->" ++ method ++ "();"]
      | none => ["    return false;"]) ++
    ["\x7d"])

end Instrument.Generator
