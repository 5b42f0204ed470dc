import Instrument.Device.Basic

/-!
The control device, through which a client asks about the server itself and subscribes to events.
Its operations read what the server knows and ask the server to act.
-/

namespace Instrument.Control

open Wire (Scalar TupleFormat)

/-- The version that the server reports. -/
def version : String := "0.1.0"

/-- The number of the operation that reports on all devices. -/
def statusOperation : UInt16 := 3

/-- The number of the operation that asks for an event. -/
def pingOperation : UInt16 := 6

/-- The channel on which the server sends its own events. -/
def serverChannel : UInt32 := 0

/-- The event that answers a ping. -/
def pingEvent : UInt32 := 0

/-- What the server knows about itself, as text. -/
structure Report where
  discovery : String
  stats : String
  status : String
  sessions : String
deriving DecidableEq, Repr

/-- What an operation of the control device asks the server to do. -/
inductive Request where
  | subscribe (session : Nat) (channel : UInt32)
  | broadcast (channel : UInt32) (payload : Bytes)
deriving DecidableEq, Repr

/-- The bytes of an event on a channel. -/
def eventPayload (channel event : UInt32) : Bytes :=
  (Scalar.ofUInt32 channel).encodeBE ++ (Scalar.ofUInt32 event).encodeBE

/-- The bytes of the event that answers a ping. -/
def pingBytes : Bytes := eventPayload serverChannel pingEvent

/-- The answer to a call, and what the server is asked to do. Operations are told by their
numbers. -/
def execute (op : Interface.Operation) (args : Arguments) (session : Nat) (report : Report) :
    Except Error (Reply × List Request) :=
  match op.id.toNat with
  | 0 => .ok (.text version, [])
  | 1 => .ok (.text report.discovery, [])
  | 2 => .ok (.text report.stats, [])
  | 3 => .ok (.text report.status, [])
  | 4 => .ok (.text report.sessions, [])
  | 5 => (args.word "channel").map fun channel => (.none, [.subscribe session channel])
  | 6 => .ok (.none, [.broadcast serverChannel pingBytes])
  | _ => .error (.unknownCommand Interface.controlId op.id)

end Instrument.Control
