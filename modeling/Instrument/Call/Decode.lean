import Instrument.Call.Dialogue
import Instrument.Envelope
import Instrument.Interface.Layout
import Instrument.Wire.Payload

/-!
Reading the arguments of a call. Packs are read in their order, from the envelope or from the
stream; the elements of a vector and of a buffer follow once their number is acknowledged.
-/

namespace Instrument

open Wire (ScalarType Scalar Elements PayloadReader)

/-- The largest transfer of elements in bytes. -/
def maxTransfer : Nat := 64 * 1024 * 1024

/-- The largest number of elements in one transfer. -/
def transferLimit (element : ScalarType) : Nat := maxTransfer / element.width

/-- A device and one of its operations, as errors name them. -/
structure CallSite where
  device : String
  operation : Interface.Operation
deriving DecidableEq, Repr

namespace CallSite

/-- The error of a transfer into a vector. -/
def vectorReceive (site : CallSite) : Error := .vectorReceive site.device site.operation.name

/-- The error of a transfer into an array. -/
def arrayExtract (site : CallSite) : Error := .arrayExtract site.device site.operation.name

/-- The arguments at given positions. -/
def arguments (site : CallSite) (members : List Nat) : List Interface.Argument :=
  members.filterMap (site.operation.arguments[·]?)

/-- The bytes of a pack. In the envelope they are a slice of the payload, which has to have one that
begins and ends there. -/
def packBytes (site : CallSite) (payload : Bytes) (p : Interface.PlacedPack) : Exchange Bytes :=
  match p.region with
  | .envelope offset =>
    let stop := Interface.wrap (offset + p.size)
    if offset ≤ stop ∧ stop ≤ payload.length then
      pure ((payload.drop offset).take (stop - offset))
    else throw (.system (.outOfRange offset stop payload.length))
  | .reload => .load p.size (.bufferReload site.device site.operation.name p.size)

/-- The scalar arguments that lie in a row. -/
def readScalars (site : CallSite) (size : Nat) (r : PayloadReader) :
    List Interface.Argument → Except Error Arguments
  | [] => .ok []
  | a :: rest =>
    match r.readScalar? a.kind.element with
    | none =>
      .error (.invalidPayloadSize site.device site.operation.name size r.buffer.length)
    | some (value, r) => (readScalars site size r rest).map ((a.name, .scalar value) :: ·)

/-- Takes the elements of a vector whose number is read from its pack. -/
def receiveVector (site : CallSite) (element : ScalarType) (r : PayloadReader) :
    Exchange Elements := do
  let (count, _) ← .require (r.readScalar? .u64) site.vectorReceive
  let ready := min count.bits (transferLimit element)
  .acknowledge ready
  if ready ≠ count.bits then throw site.vectorReceive
  let raw ← .load (count.bits * element.width) site.vectorReceive
  .require (Elements.ofBytes? element raw) site.vectorReceive

/-- The argument with a pack of its own. -/
def readSingle (site : CallSite) (size : Nat) (r : PayloadReader) (a : Interface.Argument) :
    Exchange ArgumentValue :=
  match a.kind with
  | .vector element => return .vector (← site.receiveVector element r)
  | .scalar element | .array element _ => do
    let (values, _) ← .require (r.readElements? element (size / element.width)) site.arrayExtract
    return .array values

/-- The arguments of a pack. -/
def readPack (site : CallSite) (payload : Bytes) (p : Interface.PlacedPack) :
    Exchange Arguments := do
  let r := PayloadReader.ofBytes (← site.packBytes payload p)
  let arguments := site.arguments p.members
  match p.category with
  | .scalar => .lift (site.readScalars p.size r arguments)
  | .array | .vector => arguments.mapM fun a => return (a.name, ← site.readSingle p.size r a)

/-- The arguments of some packs, after those that are read already. -/
def readPacks (site : CallSite) (payload : Bytes) (found : Arguments) :
    List Interface.PlacedPack → Exchange Arguments
  | [] => pure found
  | p :: ps => do
    let more ← site.readPack payload p
    site.readPacks payload (found ++ more) ps

/-- Takes the elements of a buffer, whose number is one of the arguments. The device may take fewer
and thereby refuse the call. -/
def receiveBuffer (site : CallSite) (found : Arguments) (b : Interface.Buffer) :
    Exchange Elements := do
  let requested := (← .lift (found.word b.length)).toNat
  let accepted ← .consent found requested
  let ready := min accepted (transferLimit b.element)
  .acknowledge ready
  if ready ≠ requested then
    throw (.device site.device site.operation.name (.bufferRefused requested ready))
  let raw ← .load (requested * b.element.width) site.arrayExtract
  .require (Elements.ofBytes? b.element raw) site.arrayExtract

/-- Reads the arguments of a call whose envelope holds `payload`. -/
def decode (site : CallSite) (layout : Interface.Layout) (payload : Bytes) :
    Exchange Arguments := do
  if payload.length ≠ layout.payloadSize then
    throw (.invalidPayloadSize site.device site.operation.name layout.payloadSize payload.length)
  let found ← site.readPacks payload [] layout.packs
  match site.operation.buffer? with
  | none => return found
  | some b => return found ++ [(b.pointer, .buffer (← site.receiveBuffer found b))]

/-- Reads a command from its header on. -/
def command (site : CallSite) : Exchange Arguments := do
  let raw ← .load EnvelopeHeader.size .connectionBroken
  let header ← .lift (EnvelopeHeader.ofBytes raw)
  let payload ← .load header.payloadSize.toNat .connectionBroken
  site.decode site.operation.layout payload

end CallSite

end Instrument
