import Instrument.Text.Number
import Instrument.Wire.ScalarType

/-!
Declared types as they count on the wire. A type is read from its canonical text, in which words
are separated by single spaces; integers whose width depends on the platform are refused wherever
they stand.
-/

namespace Instrument

open Wire (ScalarType)

/-- Why a declared type has no place on the wire. -/
inductive Unsupported where
  | platformInteger (type : String)
  | pointee (type : String)
  | arrayElement (type : String)
  | arrayLength (length : String)
  | arrayParameters
  | vectorElement (type : String)
  | vectorParameters
  | tupleField (type : String)
  | template (name : String)
  | unknown (type : String)
deriving DecidableEq, Repr

/-- A declared type as it counts on the wire. A pointer stands for a buffer whose length is told
apart from it. -/
inductive WireType where
  | void
  | scalar (type : ScalarType)
  | array (element : ScalarType) (length : Nat)
  | vector (element : ScalarType)
  | cString
  | string
  | tuple (fields : List ScalarType)
  | pointer (element : ScalarType)
  | unsupported (reason : Unsupported)
deriving DecidableEq, Repr

/-- The reason in words. -/
def Unsupported.message : Unsupported → String
  | platformInteger type => "platform-width integer '" ++ type ++ "', use an exact-width type"
  | pointee type => "pointer to '" ++ type ++ "'"
  | arrayElement type => "array element '" ++ type ++ "'"
  | arrayLength length => "array length '" ++ length ++ "' must be a positive literal"
  | arrayParameters => "std::array takes two parameters"
  | vectorElement type => "vector element '" ++ type ++ "'"
  | vectorParameters => "std::vector takes one parameter"
  | tupleField type => "tuple field '" ++ type ++ "'"
  | template name => "template '" ++ name ++ "'"
  | unknown type => "unknown type '" ++ type ++ "'"

namespace WireType

/-- The element type of arrays, vectors and pointers. -/
def element? : WireType → Option ScalarType
  | array element _ | vector element | pointer element => some element
  | _ => none

/-- The canonical text of a type. -/
def text : WireType → String
  | void => "void"
  | scalar type => type.cppName
  | array element length => "std::array<" ++ element.cppName ++ ", " ++ toString length ++ ">"
  | vector element => "std::vector<" ++ element.cppName ++ ">"
  | cString => "const char *"
  | string => "std::string"
  | tuple fields => "std::tuple<" ++ ", ".intercalate (fields.map ScalarType.cppName) ++ ">"
  | pointer element => element.cppName ++ " *"
  | unsupported reason => "unsupported (" ++ reason.message ++ ")"

/-- Integer types whose width differs between platforms. -/
def platformIntegers : List String :=
  ["short", "int", "unsigned", "long", "unsigned short", "short unsigned", "unsigned int",
   "int unsigned", "unsigned long", "long unsigned", "long long", "unsigned long long",
   "long long unsigned", "signed", "signed int", "signed short", "signed long", "size_t",
   "std::size_t"]

/-- Whether a text spells a platform-width integer, `const` in front of it or not. -/
def isPlatformInteger (type : List Char) : Bool :=
  let type := Text.trim type
  let type := (Text.after? "const ".toList type).getD type
  platformIntegers.any (·.toList == type)

/-- The scalar type that a template parameter spells. -/
def parameter? (type : List Char) : Option ScalarType :=
  if isPlatformInteger type then none else ScalarType.ofCpp? type

/-- The pieces of a parameter list between commas that no angle brackets enclose. The first
`unseen` characters neither separate nor enclose. -/
def splitParameters : Nat → Nat → List Char → List (List Char)
  | _, _, [] => [[]]
  | unseen, depth, c :: cs =>
    if unseen = 0 ∧ c = ',' ∧ depth = 0 then [] :: splitParameters 0 0 cs
    else
      let depth :=
        if unseen ≠ 0 then depth
        else if c = '<' then depth + 1
        else if c = '>' then depth - 1
        else depth
      match splitParameters (unseen - 1) depth cs with
      | [] => [[c]]
      | piece :: rest => (c :: piece) :: rest

/-- Splits `std::name<a, b>` into the name and its parameters. As many characters after the
bracket are unseen as the text before it takes more bytes than characters. -/
def template? (type : List Char) : Option (List Char × List (List Char)) :=
  let outer := type.takeWhile (· != '<')
  match type.dropWhile (· != '<') with
  | [] => none
  | _ :: inside =>
    (Text.before? ['>'] inside).map fun inside =>
      let extra := outer.foldr (fun c n => c.utf8Size - 1 + n) 0
      let name := Text.trim outer
      let name := (Text.after? "std::".toList name).getD name
      (name, (splitParameters extra 0 inside).map Text.trim)

/-- The type that a template with parameters spells. -/
def ofTemplate (name : List Char) (parameters : List (List Char)) : WireType :=
  if name = "array".toList then
    match parameters with
    | [element, length] =>
      match parameter? element, Text.number? Text.limit64 length with
      | none, _ => unsupported (.arrayElement (String.ofList element))
      | some type, some (n + 1) => array type (n + 1)
      | some _, _ => unsupported (.arrayLength (String.ofList length))
    | _ => unsupported .arrayParameters
  else if name = "vector".toList then
    match parameters with
    | [element] =>
      match parameter? element with
      | some type => vector type
      | none => unsupported (.vectorElement (String.ofList element))
    | _ => unsupported .vectorParameters
  else if name = "tuple".toList then
    match parameters.find? (parameter? · |>.isNone) with
    | some field => unsupported (.tupleField (String.ofList field))
    | none => tuple (parameters.filterMap parameter?)
  else unsupported (.template (String.ofList name))

/-- The type that a text spells. -/
def classify (type : List Char) : WireType :=
  let type := Text.trim type
  if type = "void".toList then void
  else if type = "char *".toList ∨ type = "const char *".toList then cString
  else if type = "std::string".toList ∨ type = "string".toList ∨
      type = "const std::string".toList then string
  else if isPlatformInteger type then unsupported (.platformInteger (String.ofList type))
  else
    match Text.before? ['*'] type with
    | some pointee =>
      let pointee := Text.trim pointee
      let pointee := (Text.after? "const ".toList pointee).getD pointee
      match ScalarType.ofCpp? pointee with
      | some .bool | none => unsupported (.pointee (String.ofList pointee))
      | some element => pointer element
    | none =>
      match template? type with
      | some (name, parameters) => ofTemplate name parameters
      | none =>
        match ScalarType.ofCpp? type with
        | some type => scalar type
        | none => unsupported (.unknown (String.ofList type))

end WireType

/-- A parameter type without its reference and `const` marks, and which of them it had. -/
structure Unqualified where
  type : List Char
  byReference : Bool
  isConst : Bool
deriving DecidableEq, Repr

/-- Takes references off the end, and one `const` off the beginning or off the end; a `const`
after a pointer stays. -/
def Unqualified.of (type : List Char) : Unqualified :=
  let type := Text.trim type
  let byReference := type.getLast? == some '&'
  let type := if byReference then Text.dropEndWhile (fun c => c == '&' || Text.isBlank c) type
    else type
  let front := Text.after? "const ".toList type
  let type := (front.map Text.trimStart).getD type
  let back := if type.getLast? = some '*' then none else Text.before? " const".toList type
  ⟨(back.map Text.trimEnd).getD type, byReference, front.isSome || back.isSome⟩

end Instrument
