import Instrument.Interface.Error
import Instrument.Text.Letter

/-!
Annotations of operations. A pragma stands on the line above a declaration and carries a
directive; a pragma with no declaration right below it has no effect.
-/

namespace Instrument.Interface

/-- A pragma, with its line counted from 1. -/
structure Pragma where
  line : Nat
  directive : String
deriving DecidableEq, Repr

/-- A text without the blanks in front of it, if there are any or nothing is left. -/
def afterBlank? (cs : List Char) : Option (List Char) :=
  match cs with
  | [] => some []
  | c :: _ => if Text.isBlank c then some (Text.trimStart cs) else none

/-- The directive on a line that holds a pragma of a namespace. -/
def directiveOn? («namespace» line : List Char) : Option (List Char) := do
  let rest ← Text.after? ['#'] (Text.trimStart line)
  let rest ← Text.after? "pragma".toList (Text.trimStart rest)
  if rest.isEmpty then none
  let rest ← Text.after? «namespace» (← afterBlank? rest)
  return Text.trim (← afterBlank? rest)

/-- The pragmas of a namespace among some lines, the first of which has number `line`. -/
def pragmasFrom («namespace» : List Char) (line : Nat) : List (List Char) → List Pragma
  | [] => []
  | text :: rest =>
    ((directiveOn? «namespace» text).map fun d => ⟨line, String.ofList d⟩).toList ++
      pragmasFrom «namespace» (line + 1) rest

/-- The pragmas of a namespace in a header. -/
def pragmas («namespace» source : List Char) : List Pragma :=
  pragmasFrom «namespace» 1 (Text.lines source)

/-- The pragma on the line above a declaration. -/
def pragmaAbove? (all : List Pragma) (line : Nat) : Option Pragma :=
  all.find? fun p => p.line + 1 == line

/-- What a pragma asks for. -/
inductive Directive where
  /-- The method is no operation. -/
  | exclude
  /-- The method tells whether the device has failed. -/
  | healthCheck
  /-- The result is a transfer of elements. -/
  | readArray (length : Option String)
  /-- A pointer parameter takes a transfer of elements. -/
  | writeArray (pointer length : String)
deriving DecidableEq, Repr

/-- Why a text is no directive. -/
inductive DirectiveError where
  | unknown
  | malformed (fault : DirectiveFault)
deriving DecidableEq, Repr

/-- The name in a reference to a parameter. -/
def reference (word : List Char) : Except DirectiveError String :=
  let name? := do
    let name := Text.trim (← Text.before? ['}'] (← Text.after? "arg\x7b".toList word))
    if name.isEmpty || !name.all Text.isWordChar then none else some name
  match name? with
  | some name => .ok (String.ofList name)
  | none => .error (.malformed (.notAReference (String.ofList word)))

/-- The directive that a text stands for. -/
def Directive.ofText (text : List Char) : Except DirectiveError Directive :=
  let text := Text.trim text
  let keyword := String.ofList (text.takeWhile fun c => !Text.isBlank c)
  let rest := Text.trim (text.dropWhile fun c => !Text.isBlank c)
  match keyword with
  | "exclude" =>
    if rest.isEmpty then .ok .exclude
    else .error (.malformed (.excludeParameters (String.ofList rest)))
  | "is_failed" =>
    if rest.isEmpty then .ok .healthCheck
    else .error (.malformed (.healthCheckParameters (String.ofList rest)))
  | "read_array" => .ok (.readArray (if rest.isEmpty then none else some (String.ofList rest)))
  | "write_array" =>
    match Text.words rest with
    | [pointer, length] => do return .writeArray (← reference pointer) (← reference length)
    | words => .error (.malformed (.parameterCount words.length))
  | _ => .error .unknown

/-- What is wrong with an operation under a pragma that holds no directive. -/
def DirectiveError.fault (p : Pragma) : DirectiveError → OperationFault
  | unknown => .unknownDirective p.line p.directive
  | malformed fault => .malformedDirective p.line fault

end Instrument.Interface
