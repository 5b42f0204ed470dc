import Instrument.Envelope
import Instrument.Interface.DeviceTable
import Instrument.Json.Parser
import Instrument.Json.Value
import Instrument.Network.Connection
import Instrument.Wire.Payload

/-!
The client. Connecting fetches the discovery table; a call finds the numbers of its device and its
operation there before anything is sent. Replies are read as the call site asks, checked against the
catalogue of signatures if one is loaded. After an error that leaves the stream at an unknown place
the client is of no further use.
-/

namespace Instrument.Network

open Wire (ScalarType Scalar Elements Payload TupleFormat)
open Signature (ReturnShape)

/-- How sending fails. -/
inductive SendFault where
  /-- No more bytes are taken. -/
  | broken
  | system (e : SystemError)
deriving DecidableEq, Repr

/-- The error of a client that cannot send. -/
def SendFault.error : SendFault → Error
  | broken => .connectionBroken
  | system e => .system e

/-- What comes of sending bytes. -/
structure Reaction (σ : Type) where
  peer : σ
  /-- What arrives from then on. -/
  arriving : List Arrival
  /-- Whether the stream ends after that. -/
  ended : Bool
  /-- How many bytes were taken before sending failed, if it did. -/
  fault? : Option (Nat × SendFault)
deriving DecidableEq, Repr

/-- What a client is connected through: what comes of sending bytes while others are arriving. -/
class Link (σ : Type) where
  carry : σ → List Arrival → Bytes → Reaction σ

/-- A peer that takes all bytes that it is sent and whose answer arrives behind what is on the way,
without a pause. The result of a reaction tells what it answers and whether its stream ends after
that. -/
class Peer (σ : Type) where
  react : σ → Bytes → σ × Bytes × Bool

instance {σ : Type} [Peer σ] : Link σ where
  carry p arriving bytes :=
    let (peer, arrived, ended) := Peer.react p bytes
    ⟨peer, chunks (Arrival.flatten arriving ++ arrived), ended, none⟩

/-- How long a client waits, in milliseconds: for the discovery table in each of two attempts, for
the end of text, and for the number of elements that the server takes. -/
structure ClientConfig where
  discoveryTimeout : Nat := 5000
  stringTimeout : Nat := 5000
  handshakeTimeout : Nat := 5000
deriving DecidableEq, Repr

/-- A client and its peer. -/
structure Client (σ : Type) where
  connection : Connection
  peer : σ
  config : ClientConfig
  table : Discovery.Table := .ofEntries []
  catalogue? : Option Signature.Catalogue := none
  usable : Bool := true

/-- What a client does; its state outlives a failure. -/
abbrev ClientM (σ α : Type) := ExceptT Error (StateM (Client σ)) α

namespace Client

variable {σ α : Type} [Link σ]

/-! ### The stream -/

omit [Link σ] in
/-- The client after a reaction to bytes that it sent, as far as they were taken. -/
def reacted (c : Client σ) (bytes : Bytes) (r : Reaction σ) : Client σ :=
  { c with
    peer := r.peer
    connection := { c.connection.send (bytes.take (r.fault?.elim bytes.length Prod.fst)) with
      arriving := r.arriving
      closed := c.connection.closed || r.ended } }

/-- Sends bytes, unless there are none. -/
def send (bytes : Bytes) : ClientM σ Unit := do
  if bytes.isEmpty then return
  let c ← get
  let r := Link.carry c.peer c.connection.arriving bytes
  set (c.reacted bytes r)
  match r.fault? with
  | none => return
  | some (_, fault) => throw fault.error

omit [Link σ] in
/-- Receives from the connection. -/
def receive (take : Connection → Except Error α × Connection) : ClientM σ α := do
  let c ← get
  let (result, connection) := take c.connection
  set { c with connection := connection }
  liftExcept result
where
  /-- A result, or a failure. -/
  liftExcept (result : Except Error α) : ClientM σ α :=
    match result with
    | .ok value => pure value
    | .error e => throw e

omit [Link σ] in
/-- Goes on with a result, or fails. -/
def lift (result : Except Error α) : ClientM σ α :=
  match result with
  | .ok value => pure value
  | .error e => throw e

omit [Link σ] in
/-- After a failure that leaves the stream at an unknown place the client is not usable. -/
def checked (act : ClientM σ α) : ClientM σ α :=
  tryCatch act fun e => do
    if e.isFatal then modify fun c => { c with usable := false }
    throw e

/-! ### Connecting -/

/-- The bytes that end a discovery table. -/
def tableEnd : String := "\n" ++ Discovery.Table.endLine ++ "\n"

/-- The number of the operation that sends the discovery table. -/
def discoveryOperation : UInt16 := 1

omit [Link σ] in
/-- Waits for the discovery table; there is none if the time runs out. -/
def awaitTable : ClientM σ (Option Bytes) := do
  let c ← get
  tryCatch
    (do return some (← receive (·.untilMarker (Text.utf8 tableEnd) c.config.discoveryTimeout)))
    fun
      | .timeout .. => return none
      | e => throw e

/-- Requests the discovery table and takes what stands before its end. A second request is sent
only if nothing of an answer to the first has arrived in time. -/
def requestTable : ClientM σ Bytes := do
  let request ← lift (envelope Interface.controlId discoveryOperation [])
  send request
  match ← awaitTable with
  | some raw => return raw
  | none =>
    if (← get).connection.buffer.isEmpty then send request
    match ← awaitTable with
    | some raw => return raw
    | none => throw (.discoveryTimeout (← get).config.discoveryTimeout)

/-- Fetches the discovery table, with the zero byte that ends its text. -/
def fetchTable : ClientM σ Discovery.Table := do
  let raw ← requestTable
  let timeout := (← get).config.stringTimeout
  let _ ← receive (·.untilMarker [0] timeout)
  match Text.ofUtf8? raw with
  | none => throw .invalidUtf8
  | some text =>
    lift ((Discovery.Table.ofText (text ++ tableEnd).toList).mapError .malformedDiscovery)

/-- Connects a client: the table is fetched, or why it is not. -/
def connect (connection : Connection) (peer : σ) (config : ClientConfig) :
    Except Error Unit × Client σ :=
  let client : Client σ := { connection := connection, peer := peer, config := config }
  (do let table ← fetchTable; modify fun c => { c with table := table } : ClientM σ Unit).run.run
    client

/-! ### Requests -/

/-- An argument of a call, in the order of their declaration. -/
inductive Part where
  | scalar (value : Scalar)
  | array (values : Elements)
  | vector (values : Elements)
  /-- The elements for a pointer parameter, which also tell its length. -/
  | buffer (values : Elements)
deriving DecidableEq, Repr

/-- What is sent after the envelope. -/
inductive Step where
  | bytes (bytes : Bytes)
  /-- Elements that are sent once the server is ready to take that many. -/
  | transfer (values : Elements)
deriving DecidableEq, Repr

/-- A call while its arguments are added. -/
structure Request where
  envelope : Payload := {}
  steps : List Step := []
  /-- What comes after the last vector. -/
  pending : Payload := {}
  /-- Whether there was a vector. -/
  streaming : Bool := false
  buffer? : Option Elements := none
deriving DecidableEq, Repr

namespace Request

/-- Adds to the envelope, or behind the last vector. -/
def put (r : Request) (f : Payload → Payload) : Request :=
  if r.streaming then { r with pending := f r.pending } else { r with envelope := f r.envelope }

/-- Adds an argument. -/
def add (r : Request) : Part → Request
  | .scalar value => r.put (·.putScalar value)
  | .array values => r.put (·.putElements values)
  | .vector values =>
    let r := r.put (·.putScalar (Scalar.ofBits .u64 values.size))
    let before := if r.streaming then [Step.bytes r.pending.bytes] else []
    { r with
      steps := r.steps ++ before ++ [.transfer values], pending := {}, streaming := true }
  | .buffer values =>
    { r.put (·.putScalar (Scalar.ofBits .u32 values.size)) with buffer? := some values }

/-- The request with some arguments. -/
def ofParts (parts : List Part) : Request := parts.foldl add {}

/-- All that is sent after the envelope. -/
def allSteps (r : Request) : List Step :=
  r.steps ++ (if r.pending.bytes.isEmpty then [] else [.bytes r.pending.bytes]) ++
    r.buffer?.toList.map .transfer

end Request

/-- Does one step of a request. -/
def perform : Step → ClientM σ Unit
  | .bytes bytes => send bytes
  | .transfer values => do
    let timeout := (← get).config.handshakeTimeout
    let raw ← receive (·.exactlyWithin 4 timeout)
    let ready := UInt32.ofNat (Wire.valueBE raw)
    if ready.toNat ≠ values.size then throw (.invalidHandshake ready values.size)
    send values.raw

/-- Sends a request. -/
def transmit (device operation : UInt16) (r : Request) : ClientM σ Unit := do
  send (← lift (envelope device operation r.envelope.bytes))
  r.allSteps.forM perform

/-! ### Calls -/

/-- A call that was sent, and the signature that its reply has to have. -/
structure Response where
  operation : String
  signature? : Option Signature.Function
deriving DecidableEq, Repr

/-- The shape of the reply, as far as it is known. -/
def Response.declared? (r : Response) : Option ReturnShape := r.signature?.map (·.returns)

/-- Makes a call up to its reply. Nothing is sent if the device or the operation is not in the
discovery table. -/
def call (device operation : String) (parts : List Part) : ClientM σ Response := do
  let c ← get
  if !c.usable then throw .connectionUnusable
  let some entry := c.table.find? device | throw (.unknownDevice device)
  let some id := entry.operationId? (String.ofList (asciiUpper operation.toList))
    | throw (.unknownOperation device operation)
  checked (transmit entry.id id (Request.ofParts parts))
  return ⟨operation, c.catalogue?.bind fun catalogue =>
    Signature.find? catalogue device operation⟩

omit [Link σ] in
/-- Fails if the declared shape is known and does not fit. -/
def expectShape (r : Response) (fits : ReturnShape → Bool) (expected : String) :
    ClientM σ Unit :=
  match r.declared? with
  | some shape =>
    if fits shape then pure ()
    else checked (throw (.returnType r.operation expected shape.text))
  | none => pure ()

/-- A call of an operation that sends nothing back. -/
def exec (device operation : String) (parts : List Part) : ClientM σ Unit := do
  expectShape (← call device operation parts) (· == .void) "void"

/-! ### Replies -/

section Replies

omit [Link σ]

/-- Reads bytes of a reply. -/
def read (n : Nat) : ClientM σ Bytes := checked (receive (·.exactly n))

/-- Reads a truth value, which travels as a number of four bytes. -/
def readBool (r : Response) : ClientM σ Bool := do
  expectShape r (fun | .scalar dtype => dtype == "bool" | _ => false) "bool"
  match UInt32.ofNat (Wire.valueLE (← read 4)) with
  | 0 => return false
  | 1 => return true
  | value => throw (.invalidBool r.operation value)

/-- Reads a value. -/
def readScalar (r : Response) (type : ScalarType) : ClientM σ Scalar := do
  if type = .bool then return Scalar.ofBool (← readBool r)
  expectShape r (fun | .scalar dtype => dtype == type.elementName | _ => false) type.elementName
  return Scalar.ofBits type (Wire.valueLE (← read type.width))

/-- The declared type of the elements, if it is known and another than `type`. -/
def Response.otherElement? (r : Response) (type : ScalarType) : Option ScalarType :=
  let dtype? := match r.declared? with
    | some (.array dtype _) | some (.vector dtype) | some (.buffer dtype) => some dtype
    | _ => none
  (dtype?.bind ScalarType.ofElementName?).filter (· != type)

/-- The elements that some bytes hold. -/
def valuesOf (r : Response) (type : ScalarType) (raw : Bytes) : ClientM σ (List Scalar) :=
  match Elements.ofBytes? type raw with
  | some values => return values.toList
  | none => throw (.elementType r.operation type type)

/-- Reads an array of a given length. If the declared array is another, it is read and the call
fails. The products have no bound here. What is proved is about replies that conform, and these hold
as many bytes as the products say, so that none of 64 bits or more matters. -/
def readArray (r : Response) (type : ScalarType) (length : Nat) : ClientM σ (List Scalar) := do
  expectShape r (fun | .array .. => true | _ => false) "array"
  if let some (.array _ declared) := r.declared? then
    if let some other := r.otherElement? type then
      let _ ← read (declared.toNat * other.width)
      throw (.elementType r.operation type other)
    if declared.toNat ≠ length then
      let _ ← read (declared.toNat * type.width)
      throw (.lengthMismatch r.operation length declared.toNat)
  valuesOf r type (← read (length * type.width))

/-- Reads elements after their number. -/
def readCounted (r : Response) (type : ScalarType) : ClientM σ (List Scalar) := do
  let count := (← checked (receive (·.word))).toNat
  if let some other := r.otherElement? type then
    let _ ← read (count * other.width)
    throw (.elementType r.operation type other)
  valuesOf r type (← read (count * type.width))

/-- Whether elements follow their number. -/
def isCounted : ReturnShape → Bool
  | .vector _ | .buffer _ => true
  | _ => false

/-- Reads a vector of any length. -/
def readVector (r : Response) (type : ScalarType) : ClientM σ (List Scalar) := do
  expectShape r isCounted "vector"
  readCounted r type

/-- Reads a transfer of a given number of elements. -/
def readBuffer (r : Response) (type : ScalarType) (length : Nat) : ClientM σ (List Scalar) := do
  expectShape r isCounted "buffer"
  let values ← readCounted r type
  if values.length ≠ length then throw (.lengthMismatch r.operation length values.length)
  return values

/-- Reads text, which ends with a zero byte. -/
def readText (r : Response) : ClientM σ String := do
  expectShape r (· == .string) "string"
  let timeout := (← get).config.stringTimeout
  let raw ← checked (receive (·.untilMarker [0] timeout))
  match Text.ofUtf8? raw with
  | some text => return text
  | none => throw .invalidUtf8

/-- Reads text that holds a JSON value. -/
def readJson (r : Response) : ClientM σ Json.Value := do
  let text ← readText r
  match (Json.Tree.ofText? text.toList).bind (Json.Tree.value? Json.maxDepth) with
  | some value => return value
  | none => throw .invalidJson

/-- Reads a tuple of a given format. -/
def readTuple (r : Response) (format : String) : ClientM σ (List Scalar) := do
  let format ← lift (TupleFormat.read format)
  let isSame (declared : String) : Bool :=
    match TupleFormat.ofText declared.toList with
    | .ok declared => declared == format
    | .error _ => false
  expectShape r (fun | .tuple declared => isSame declared | _ => false)
    ("tuple<" ++ format.text ++ ">")
  lift (format.unpack (← read format.size))

end Replies

/-! ### The control device -/

/-- Calls an operation of the control device that answers with text. -/
def controlText (operation : String) : ClientM σ String := do
  readText (← call "CONTROL" operation [])

/-- The version of the server. -/
def getVersion : ClientM σ String := controlText "GET_VERSION"

/-- The discovery table of the server. -/
def getTable : ClientM σ Discovery.Table := do
  let text ← controlText "GET_DISCOVERY_TABLE"
  checked (lift ((Discovery.Table.ofText text.toList).mapError .malformedDiscovery))

/-- What the server counts about its listeners. -/
def getStats : ClientM σ String := controlText "GET_STATS"

/-- Which devices have failed. -/
def getDeviceStatus : ClientM σ String := controlText "GET_DEV_STATUS"

/-- The sessions of the server. -/
def getSessions : ClientM σ String := controlText "GET_RUNNING_SESSIONS"

/-- Subscribes to the events of a channel. -/
def subscribe (channel : UInt32) : ClientM σ Unit :=
  exec "CONTROL" "SUBSCRIBE_BROADCAST" [.scalar (Scalar.ofUInt32 channel)]

/-- Asks the server for an event. -/
def ping : ClientM σ Unit := exec "CONTROL" "BROADCAST_PING" []

omit [Link σ] in
/-- Waits for the next event: its channel and its number. -/
def nextEvent : ClientM σ (UInt32 × UInt32) := do
  if !(← get).usable then throw .connectionUnusable
  let raw ← checked (receive (·.exactly 8))
  return (UInt32.ofNat (Wire.valueBE (raw.take 4)), UInt32.ofNat (Wire.valueBE (raw.drop 4)))

omit [Link σ] in
/-- Loads a catalogue of signatures, against which replies are checked from then on. -/
def loadSignatures (catalogue : Signature.Catalogue) : ClientM σ Unit :=
  modify fun c => { c with catalogue? := some catalogue }

end Client

/-! ### Peers -/

/-- A peer that reacts to nothing but, once it has received enough bytes, sends what it holds
back. -/
structure LatePeer where
  received : Nat := 0
  enough : Nat := 24
  late? : Option Bytes
  /-- Whether its stream stays open after the last byte. -/
  staysOpen : Bool
deriving DecidableEq, Repr

instance : Peer LatePeer where
  react p bytes :=
    let received := p.received + bytes.length
    match p.late? with
    | some late =>
      if p.enough ≤ received then
        ({ p with received := received, late? := none }, late, !p.staysOpen)
      else ({ p with received := received }, [], false)
    | none => ({ p with received := received }, [], false)

end Instrument.Network
