import Instrument.Discovery
import Instrument.Header.Parser
import Instrument.Interface.Operation
import Instrument.Interface.Pragma
import Instrument.Text.Case

/-!
From the declaration of a class and the pragmas above its methods to the description of a device.
Operations are numbered in the order of their declaration.
-/

namespace Instrument.Interface

/-! ### Results -/

/-- The type of a result; marks are taken off all but pointers. -/
def resultType (text : String) : WireType :=
  let bare := (Unqualified.of text.toList).type
  WireType.classify (if bare.getLast? = some '*' then text.toList else bare)

/-- What an operation sends back, and the length of a pointer result. -/
def resultMode (method : Header.Method) (result : WireType) (directive? : Option Directive) :
    Except OperationFault (Mode × Option String) :=
  let fault (f : DirectiveFault) := OperationFault.malformedDirective (method.line - 1) f
  match directive? with
  | some (.readArray length) =>
    match result.element?, result, length with
    | none, _, _ => .error (fault (.notTransferable method.returnType))
    | some _, .pointer _, none => .error (fault .missingLength)
    | some _, _, _ => .ok (.readArray, length)
  | _ =>
    match result with
    | .void => .ok (.write, none)
    | .cString | .string => .ok (.readText, none)
    | .pointer _ => .error (fault (.unannotated method.returnType))
    | _ => .ok (.read, none)

/-! ### Parameters -/

/-- The pointer and the length that a directive names. -/
def transfer? : Option Directive → Option (String × String)
  | some (.writeArray pointer length) => some (pointer, length)
  | _ => none

/-- One parameter, the place `index` among all: an argument, or the buffer of a transfer. -/
def parameter (transfer : Option (String × String)) (index : Nat) (p : Header.Parameter) :
    Except OperationFault (Argument ⊕ Buffer) :=
  let name := p.name?.getD ("arg" ++ toString index)
  let bare := Unqualified.of p.type.toList
  let argument (kind : ArgumentKind) : Argument :=
    ⟨name, String.ofList bare.type, bare.byReference, bare.isConst, kind⟩
  match WireType.classify bare.type with
  | .scalar type => .ok (.inl (argument (.scalar type)))
  | .array element length => .ok (.inl (argument (.array element length)))
  | .vector element => .ok (.inl (argument (.vector element)))
  | .pointer element =>
    match transfer.filter (·.1 == name) with
    | some (_, length) => .ok (.inr ⟨name, index, length, element, bare.isConst⟩)
    | none => .error (.pointerArgument name)
  | .unsupported reason => .error (.unsupportedType p.type (.unsupported reason))
  | other => .error (.unsupportedType p.type (.notAnArgument other))

/-- All parameters, the first of which has the place `index`. -/
def parametersFrom (transfer : Option (String × String)) (index : Nat) :
    List Header.Parameter → Except OperationFault (List Argument × Option Buffer)
  | [] => .ok ([], none)
  | p :: ps => do
    let first ← parameter transfer index p
    let (arguments, buffer?) ← parametersFrom transfer (index + 1) ps
    match first with
    | .inl argument => return (argument :: arguments, buffer?)
    | .inr buffer => return (arguments, buffer?.or (some buffer))

/-- Whether the parameters fit the transfer that a directive names. -/
def transferFault? (line : Nat) (transfer : Option (String × String)) (arguments : List Argument)
    (buffer? : Option Buffer) : Option OperationFault :=
  let fault (f : DirectiveFault) := some (OperationFault.malformedDirective line f)
  match transfer with
  | none => none
  | some (pointer, length) =>
    match buffer?, arguments.findIdx? (·.name == length) with
    | none, _ => fault (.notAPointer pointer)
    | some _, none => fault (.notAParameter length)
    | some buffer, some index =>
      if (arguments[index]?.map (·.kind)) ≠ some (.scalar .u32) then fault (.lengthType length)
      else if index + 1 ≠ arguments.length then fault (.lengthNotLast length)
      else if arguments.any (·.kind.category == .vector) then
        some (.bufferWithVector buffer.pointer)
      else none

/-! ### Operations -/

/-- The operation that a method declares. -/
def operation (method : Header.Method) (id : UInt16) (directive? : Option Directive) :
    Except OperationFault Operation := do
  let result := resultType method.returnType
  if let .unsupported reason := result then
    throw (.unsupportedType method.returnType (.unsupported reason))
  let (mode, lengthExpression?) ← resultMode method result directive?
  let transfer := transfer? directive?
  let (arguments, buffer?) ← parametersFrom transfer 0 method.parameters
  if let some fault := transferFault? (method.line - 1) transfer arguments buffer? then
    throw fault
  return {
    name := method.name
    tag := String.ofList (Text.upper method.name.toList)
    id := id
    resultType := method.returnType
    result := result
    mode := mode
    arguments := arguments
    buffer? := buffer?
    lengthExpression? := lengthExpression?
    line := method.line }

/-- What is wrong with a health check. -/
def healthCheckFault? (method : Header.Method) (repeated : Bool) : Option HealthCheckFault :=
  if method.returnType ≠ "bool" then some .result
  else if !method.parameters.isEmpty then some .parameters
  else if repeated then some .repeated
  else none

/-- The operations and the health check that are found so far. -/
structure Draft where
  operations : List Operation := []
  healthCheck? : Option String := none
deriving DecidableEq, Repr

/-- Adds what a method declares under a directive. -/
def Draft.add (draft : Draft) (method : Header.Method) :
    Option Directive → Except OperationFault Draft
  | some .exclude => .ok draft
  | some .healthCheck =>
    match healthCheckFault? method draft.healthCheck?.isSome with
    | some fault => .error (.healthCheck method.line fault)
    | none => .ok { draft with healthCheck? := some method.name }
  | directive? => do
    if draft.operations.any (·.name == method.name) then throw .overloaded
    let count := draft.operations.length
    if UInt16.size ≤ count then throw .tooMany
    let op ← operation method (UInt16.ofNat count) directive?
    return { draft with operations := draft.operations ++ [op] }

/-- The directive above a method. -/
def directiveAbove? (all : List Pragma) (line : Nat) : Except OperationFault (Option Directive) :=
  match pragmaAbove? all line with
  | none => .ok none
  | some p =>
    match Directive.ofText p.directive.toList with
    | .ok directive => .ok (some directive)
    | .error e => .error (e.fault p)

/-- Whether a method of a class can be an operation: it is public and neither makes nor ends
objects. -/
def isCandidate (className : String) (method : Header.Method) : Bool :=
  method.isPublic && method.name != className && method.name != "~" ++ className

/-- Adds a method of a class. -/
def Draft.addMethod (all : List Pragma) (className : String) (draft : Draft)
    (method : Header.Method) : Except DeclarationError Draft :=
  if isCandidate className method then
    match directiveAbove? all method.line >>= draft.add method with
    | .ok draft => .ok draft
    | .error fault => .error (.operation className method.name fault)
  else .ok draft

/-- The description of the device that a class declares; it has no number yet. -/
def Description.ofClass (all : List Pragma) (c : Header.Class) :
    Except DeclarationError Description := do
  let draft ← c.methods.foldlM (Draft.addMethod all c.name) {}
  return ⟨c.name, deviceTag c.name, 0, draft.operations, draft.healthCheck?⟩

/-- The devices that a header declares, in order; `origin` names the header in errors. -/
def descriptions («namespace» origin source : String) :
    Except DeclarationError (List Description) :=
  match Header.classes source.toList with
  | .error e => .error (.parse origin e)
  | .ok [] => .error (.parse origin ⟨1, .noClass⟩)
  | .ok found => found.mapM (Description.ofClass (pragmas «namespace».toList source.toList))

end Instrument.Interface
