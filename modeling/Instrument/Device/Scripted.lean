import Instrument.Device.Basic

/-!
Devices that answer from a script: each operation has a fixed reply, gives back one of its
arguments, or fails.
-/

namespace Instrument

/-- What a scripted operation does. -/
inductive ScriptedReply where
  | reply (reply : Reply)
  /-- Gives back the argument of this name. -/
  | echo (argument : String)
  | fail (reason : String)
deriving DecidableEq, Repr

/-- A scripted device; operations without a line in the script are not implemented. -/
structure Scripted where
  /-- The name under which operations are refused. -/
  name : String
  declaration : String
  script : List (String × ScriptedReply)
  failed : Bool
  /-- The largest number of elements that is taken into a buffer. -/
  acceptMax? : Option Nat
deriving DecidableEq, Repr

namespace Scripted

/-- A device that implements none of its operations. -/
def bare (declaration : String) : Scripted := ⟨"Plain", declaration, [], false, none⟩

/-- An argument as a reply. -/
def echo (args : Arguments) (name : String) : Except Error Reply :=
  match args.find? name with
  | some (.scalar value) => .ok (.scalar value)
  | some (.array values) | some (.vector values) | some (.buffer values) => .ok (.elements values)
  | none => .error (.missingArgument name)

/-- The answer to a call. -/
def answer (d : Scripted) (op : Interface.Operation) (args : Arguments) : Except Error Reply :=
  match d.script.lookup op.name with
  | some (.reply reply) => .ok reply
  | some (.echo name) => echo args name
  | some (.fail reason) => .error (.device "Script" "call" (.other reason))
  | none => .error (notImplemented d.name op)

instance : Device Scripted where
  declaration d := d.declaration
  execute d op args := (d.answer op args, d)
  isFailed d := d.failed
  acceptBuffer d _ _ requested := d.acceptMax?.elim requested (min requested)

end Scripted

end Instrument
