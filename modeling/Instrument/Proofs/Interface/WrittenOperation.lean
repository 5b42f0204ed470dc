import Instrument.Interface.Describe
import Instrument.Proofs.Header.Annotated
import Instrument.Proofs.Interface.Described

/-!
Operations of written methods. Main statement: a written method that keeps the rules of the
directive above it declares the operation that its parts tell.
-/

namespace Instrument

open Wire (ScalarType)

/-! ### Results -/

/-- The type of a result is read back from its text. -/
theorem MarkedType.IsWritable.resultType_text {m : MarkedType} (h : m.IsWritable) :
    Interface.resultType m.text = m.type := by
  have hread := h.classify_unqualified
  by_cases hcString : m.type = .cString
  · have hreference : m.byReference = false := by
      rw [Bool.eq_false_iff]
      exact fun hreference => (h.reference hreference).1 hcString
    rw [m.text_eq, hcString, h.constant hcString, hreference]
    decide
  cases hpointer : m.type.isPointer with
  | true =>
    have hreference : m.byReference = false := by
      rw [Bool.eq_false_iff]
      intro hreference
      rw [(h.reference hreference).2] at hpointer
      cases hpointer
    have hsupported := h.isSupported
    rw [m.text_eq, hreference]
    cases hw : m.type with
    | pointer element =>
      rw [hw] at hsupported
      cases element with
      | bool => exact absurd rfl hsupported
      | _ => cases m.isConst <;> decide
    | _ => simp [hw, WireType.isPointer] at hpointer
  | false =>
    have hlast := WireType.getLast?_text_ne h.isSupported hcString hpointer
    rw [h.unqualified_text hcString] at hread
    rw [Interface.resultType, h.unqualified_text hcString, if_neg hlast]
    exact hread

namespace Interface

open Header (WrittenParameter WrittenMethod AnnotatedMethod)

/-! ### What the parts of a method tell -/

/-- The type of an argument. -/
def argumentKind? : WireType → Option ArgumentKind
  | .scalar type => some (.scalar type)
  | .array element length => some (.array element length)
  | .vector element => some (.vector element)
  | _ => none

/-- The name of a parameter at a place; it has a name of its own if none is written. -/
def parameterName (p : WrittenParameter) (index : Nat) : String :=
  p.name?.getD ("arg" ++ toString index)

/-- The argument that a parameter tells. -/
def argument? (p : WrittenParameter) (index : Nat) : Option Argument :=
  (argumentKind? p.type.type).map fun kind =>
    ⟨parameterName p index, p.type.type.text, p.type.byReference, p.type.isConst, kind⟩

/-- The buffer that a parameter tells, given the name of its length. -/
def buffer? (length : String) (p : WrittenParameter) (index : Nat) : Option Buffer :=
  match p.type.type with
  | .pointer element => some ⟨parameterName p index, index, length, element, p.type.isConst⟩
  | _ => none

/-- The arguments that parameters tell, the first of which has the place `index`. -/
def argumentsFrom (index : Nat) (ps : List WrittenParameter) : List Argument :=
  (ps.zipIdx index).filterMap fun p => argument? p.1 p.2

/-- The buffers that parameters tell, the first of which has the place `index`. -/
def buffersFrom (length : String) (index : Nat) (ps : List WrittenParameter) : List Buffer :=
  (ps.zipIdx index).filterMap fun p => buffer? length p.1 p.2

/-- The arguments of a method. -/
def arguments (m : WrittenMethod) : List Argument := argumentsFrom 0 m.parameters

/-- The pointers among the parameters of a method. -/
def buffers (length : String) (m : WrittenMethod) : List Buffer :=
  buffersFrom length 0 m.parameters

/-- What an operation with a result sends back. -/
def modeOf : Option Directive → WireType → Mode
  | some (.readArray _), _ => .readArray
  | _, .void => .write
  | _, .cString | _, .string => .readText
  | _, _ => .read

/-- The length of a pointer result that a directive tells. -/
def lengthOf : Option Directive → Option String
  | some (.readArray length) => length
  | _ => none

/-- The buffer that takes the transfer that a directive tells. -/
def bufferOf : Option Directive → WrittenMethod → Option Buffer
  | some (.writeArray _ length), m => (buffers length m).head?
  | _, _ => none

/-- The operation that a method tells whose first line is `start`, with a number. -/
def operationOf (m : AnnotatedMethod Directive) (start id : Nat) : Operation where
  name := m.method.name
  tag := String.ofList (Text.upper m.method.name.toList)
  id := UInt16.ofNat id
  resultType := m.method.result.text
  result := m.method.result.type
  mode := modeOf m.above? m.method.result.type
  arguments := arguments m.method
  buffer? := bufferOf m.above? m.method
  lengthExpression? := lengthOf m.above?
  line := (m.declared start).line

/-! ### The rules of directives -/

/-- Whether a directive leaves a method among the operations. -/
def isOperation : Option Directive → Bool
  | some .exclude | some .healthCheck => false
  | _ => true

/-- Whether all parameters are arguments. -/
def TakesArguments (m : WrittenMethod) : Prop :=
  ∀ p ∈ m.parameters, (argumentKind? p.type.type).isSome = true

instance (m : WrittenMethod) : Decidable (TakesArguments m) :=
  inferInstanceAs (Decidable (∀ p ∈ m.parameters, _))

/-- What a method takes that receives a transfer of elements: one pointer, of the given name, and
for the last argument a number of 32 bits that alone has the name of the length; and no vector. -/
structure TakesTransfer (pointer length : String) (m : WrittenMethod) : Prop where
  parameters : ∀ p ∈ m.parameters,
    p.type.type.isPointer = true ∨ (argumentKind? p.type.type).isSome = true
  pointers : (buffers length m).map (·.pointer) = [pointer]
  last : (arguments m).getLast?.any (fun a => a.name == length && a.kind == .scalar .u32) = true
  unique : ∀ a ∈ (arguments m).dropLast, a.name ≠ length
  noVector : ∀ a ∈ arguments m, a.kind.category ≠ .vector

instance (pointer length : String) (m : WrittenMethod) :
    Decidable (TakesTransfer pointer length m) :=
  decidable_of_iff ((∀ p ∈ m.parameters,
        p.type.type.isPointer = true ∨ (argumentKind? p.type.type).isSome = true) ∧
      (buffers length m).map (·.pointer) = [pointer] ∧
      (arguments m).getLast?.any (fun a => a.name == length && a.kind == .scalar .u32) = true ∧
      (∀ a ∈ (arguments m).dropLast, a.name ≠ length) ∧
      ∀ a ∈ arguments m, a.kind.category ≠ .vector)
    ⟨fun ⟨hparameters, hpointers, hlast, hunique, hvector⟩ =>
        ⟨hparameters, hpointers, hlast, hunique, hvector⟩,
      fun h => ⟨h.parameters, h.pointers, h.last, h.unique, h.noVector⟩⟩

/-- Whether a method keeps the rules of the directive above it, if there is one. -/
def IsAllowed : Option Directive → WrittenMethod → Prop
  | some .exclude, _ => True
  | some .healthCheck, m => m.result = ⟨.scalar .bool, false, false⟩ ∧ m.parameters = []
  | some (.readArray length), m =>
    m.result.type.element?.isSome = true ∧
      (m.result.type.isPointer = true → length.isSome = true) ∧ TakesArguments m
  | some (.writeArray pointer length), m =>
    m.result.type.isPointer = false ∧ TakesTransfer pointer length m
  | none, m => m.result.type.isPointer = false ∧ TakesArguments m

instance (directive? : Option Directive) (m : WrittenMethod) : Decidable (IsAllowed directive? m) :=
  match directive? with
  | some .exclude => inferInstanceAs (Decidable True)
  | some .healthCheck | some (.writeArray ..) | none => inferInstanceAs (Decidable (_ ∧ _))
  | some (.readArray _) => inferInstanceAs (Decidable (_ ∧ _ ∧ _))

/-! ### Reading parameters -/

section

variable {p : WrittenParameter} (h : p.IsWritable) {index : Nat}
include h

theorem unqualified_parameter (hw : p.type.type ≠ .cString) :
    Unqualified.of p.parameter.type.toList =
      ⟨p.type.type.text.toList, p.type.byReference, p.type.isConst⟩ :=
  h.type.unqualified_text hw

/-- A parameter that tells an argument is read as this argument. -/
theorem parameter_of_argument? {a : Argument} (ha : argument? p index = some a)
    (transfer : Option (String × String)) :
    parameter transfer index p.parameter = .ok (.inl a) := by
  have hcString : p.type.type ≠ .cString := by
    intro hw
    simp [argument?, argumentKind?, hw] at ha
  unfold parameter
  extract_lets name bare argument
  have hbare : bare = ⟨p.type.type.text.toList, _, _⟩ := unqualified_parameter h hcString
  have hwire : WireType.classify bare.type = p.type.type := by
    rw [hbare]
    exact WireType.classify_text h.type.isSupported
  have hargument (kind : ArgumentKind) : argument kind = ⟨parameterName p index,
      p.type.type.text, p.type.byReference, p.type.isConst, kind⟩ := by
    simp only [argument, hbare, String.ofList_toList]
    rfl
  clear_value name bare argument
  rw [hwire]
  cases hw : p.type.type with
  | scalar | array | vector =>
    simp only [argument?, argumentKind?, hw, Option.map_some, Option.some.injEq] at ha
    simp only [hargument, hw, ← ha]
  | _ => simp [argument?, argumentKind?, hw] at ha

/-- A parameter that tells a buffer is read as this buffer. -/
theorem parameter_of_buffer? {b : Buffer} {length : String} (hb : buffer? length p index = some b) :
    parameter (some (b.pointer, length)) index p.parameter = .ok (.inr b) := by
  cases hw : p.type.type with
  | pointer element =>
    simp only [buffer?, hw, Option.some.injEq] at hb
    unfold parameter
    extract_lets name bare argument
    have hbare : bare = ⟨p.type.type.text.toList, _, _⟩ :=
      unqualified_parameter h (by simp [hw])
    have hwire : WireType.classify bare.type = .pointer element := by
      rw [hbare, ← hw]
      exact WireType.classify_text h.type.isSupported
    have hname : name = parameterName p index := rfl
    clear_value name bare argument
    rw [hwire]
    simp only [← hb, hname, hbare, Option.filter_some, beq_self_eq_true, if_true]
  | _ => simp [buffer?, hw] at hb

end

theorem buffer?_eq_none {p : WrittenParameter} {index : Nat}
    (h : (argument? p index).isSome = true) (length : String) : buffer? length p index = none := by
  cases hw : p.type.type with
  | pointer element => simp [argument?, argumentKind?, hw] at h
  | _ => simp [buffer?, hw]

theorem argument?_eq_none {p : WrittenParameter} {index : Nat} {length : String} {b : Buffer}
    (h : buffer? length p index = some b) : argument? p index = none := by
  cases hw : p.type.type with
  | pointer element => simp [argument?, argumentKind?, hw]
  | _ => simp [buffer?, hw] at h

/-- Parameters are read one after the other, each as it tells. -/
theorem parametersFrom_written {transfer : Option (String × String)} {length : String} {index : Nat}
    {ps : List WrittenParameter} (h : ∀ p ∈ ps, p.IsWritable)
    (htaken : ∀ p ∈ ps.zipIdx index, (argument? p.1 p.2).isSome = true ∨
      ∃ b, buffer? length p.1 p.2 = some b ∧ transfer = some (b.pointer, length)) :
    parametersFrom transfer index (ps.map (·.parameter)) =
      .ok (argumentsFrom index ps, (buffersFrom length index ps).getLast?) := by
  induction ps generalizing index with
  | nil => rfl
  | cons p ps ih =>
    rw [List.forall_mem_cons] at h
    rw [List.zipIdx_cons, List.forall_mem_cons] at htaken
    have hrest := ih h.2 htaken.2
    rw [List.map_cons, parametersFrom, argumentsFrom, buffersFrom, List.zipIdx_cons,
      List.filterMap_cons, List.filterMap_cons, ← argumentsFrom, ← buffersFrom]
    rcases htaken.1 with hargument | ⟨b, hb, rfl⟩
    · obtain ⟨a, ha⟩ := Option.isSome_iff_exists.1 hargument
      rw [parameter_of_argument? h.1 ha, ha, buffer?_eq_none hargument, hrest]
      rfl
    · rw [parameter_of_buffer? h.1 hb, hb, argument?_eq_none hb, hrest]
      cases hlast : (buffersFrom length (index + 1) ps).getLast? <;>
        simp [bind, Except.bind, List.getLast?_cons, hlast] <;> rfl

/-- The parameters of a method that takes arguments. -/
theorem parametersFrom_arguments {m : WrittenMethod} (h : ∀ p ∈ m.parameters, p.IsWritable)
    (htakes : TakesArguments m) :
    parametersFrom none 0 (m.parameters.map (·.parameter)) = .ok (arguments m, none) := by
  have hargument : ∀ p ∈ m.parameters.zipIdx 0, (argument? p.1 p.2).isSome = true := by
    intro p hp
    simpa [argument?] using htakes p.1 (List.fst_mem_of_mem_zipIdx hp)
  have hbuffers : buffersFrom "" 0 m.parameters = [] := by
    rw [buffersFrom, List.filterMap_eq_nil_iff]
    exact fun p hp => buffer?_eq_none (hargument p hp) ""
  have hread : parametersFrom none 0 (m.parameters.map (·.parameter)) =
      .ok (arguments m, (buffersFrom "" 0 m.parameters).getLast?) :=
    parametersFrom_written h fun p hp => .inl (hargument p hp)
  rw [hread, hbuffers]
  rfl

/-- The parameters of a method that takes a transfer. -/
theorem parametersFrom_transfer {m : WrittenMethod} (h : ∀ p ∈ m.parameters, p.IsWritable)
    {pointer length : String} (htakes : TakesTransfer pointer length m) :
    ∃ b, buffers length m = [b] ∧
      parametersFrom (some (pointer, length)) 0 (m.parameters.map (·.parameter)) =
        .ok (arguments m, some b) := by
  obtain ⟨b, hbuffers, hpointer⟩ := List.map_eq_singleton_iff.1 htakes.pointers
  refine ⟨b, hbuffers, ?_⟩
  have htaken : ∀ p ∈ m.parameters.zipIdx 0, (argument? p.1 p.2).isSome = true ∨
      ∃ b, buffer? length p.1 p.2 = some b ∧
        some (pointer, length) = some (b.pointer, length) := by
    intro p hp
    rcases htakes.parameters p.1 (List.fst_mem_of_mem_zipIdx hp) with hpointee | hargument
    · right
      obtain ⟨b', hb'⟩ : ∃ b', buffer? length p.1 p.2 = some b' := by
        cases hw : p.1.type.type with
        | pointer element =>
          exact ⟨⟨parameterName p.1 p.2, p.2, length, element, p.1.type.isConst⟩,
            by simp only [buffer?, hw]⟩
        | _ => simp [WireType.isPointer, hw] at hpointee
      have hmem : b' ∈ buffers length m := List.mem_filterMap.2 ⟨p, hp, hb'⟩
      rw [hbuffers, List.mem_singleton] at hmem
      exact ⟨b', hb', by rw [hmem, hpointer]⟩
    · left
      simpa [argument?] using hargument
  rw [parametersFrom_written h htaken, ← buffers, hbuffers]
  rfl

/-- Nothing is wrong with a transfer that a method takes. -/
theorem transferFault?_eq_none {m : WrittenMethod} {pointer length : String}
    (htakes : TakesTransfer pointer length m) (line : Nat) (b : Buffer) :
    transferFault? line (some (pointer, length)) (arguments m) (some b) = none := by
  obtain ⟨a, hlast, hfits⟩ := (Option.any_eq_true ..).1 htakes.last
  obtain ⟨others, hconcat⟩ := List.getLast?_eq_some_iff.1 hlast
  obtain ⟨hname, hkind⟩ : a.name = length ∧ a.kind = .scalar .u32 := by simpa using hfits
  have hunique : ∀ a ∈ others, a.name ≠ length := by
    have hunique := htakes.unique
    rwa [hconcat, List.dropLast_concat] at hunique
  have hindex : (arguments m).findIdx? (·.name == length) = some others.length := by
    have hnone : others.findIdx? (·.name == length) = none := by
      simpa [List.findIdx?_eq_none_iff] using hunique
    rw [hconcat, List.findIdx?_append, hnone]
    simp [hname]
  have hvector : (arguments m).any (·.kind.category == .vector) = false := by
    simpa [List.any_eq_false] using htakes.noVector
  have hget : (arguments m)[others.length]? = some a := by
    rw [hconcat]
    simp
  have hlength : others.length + 1 = (arguments m).length := by simp [hconcat]
  simp [transferFault?, hindex, hget, hkind, hlength, hvector]

/-! ### Reading operations -/

/-- What an operation sends back is what its result and its directive tell. -/
theorem resultMode_written {directive? : Option Directive} {m : WrittenMethod}
    (h : IsAllowed directive? m) (hoperation : isOperation directive? = true)
    (method : Header.Method) :
    resultMode method m.result.type directive? =
      .ok (modeOf directive? m.result.type, lengthOf directive?) := by
  have hpointee {element : ScalarType} (hw : m.result.type = .pointer element) :
      m.result.type.isPointer = true := by
    rw [hw]
    rfl
  cases directive? with
  | none =>
    cases hw : m.result.type with
    | pointer element => exact absurd (hpointee hw) (by simp [h.1])
    | _ => rfl
  | some directive =>
    cases directive with
    | exclude | healthCheck => cases hoperation
    | writeArray pointer length =>
      cases hw : m.result.type with
      | pointer element => exact absurd (hpointee hw) (by simp [h.1])
      | _ => rfl
    | readArray length =>
      obtain ⟨helement, hlength, -⟩ := h
      cases hw : m.result.type with
      | array | vector => rfl
      | pointer element =>
        obtain ⟨length, rfl⟩ := Option.isSome_iff_exists.1 (hlength (hpointee hw))
        rfl
      | _ => simp [hw, WireType.element?] at helement

/-- The parameters of a method under a directive are read as they tell, and nothing is wrong with
the transfer that the directive names. -/
theorem parametersFrom_allowed {directive? : Option Directive} {m : WrittenMethod}
    (hwritable : ∀ p ∈ m.parameters, p.IsWritable) (h : IsAllowed directive? m)
    (hoperation : isOperation directive? = true) :
    parametersFrom (transfer? directive?) 0 (m.parameters.map (·.parameter)) =
        .ok (arguments m, bufferOf directive? m) ∧
      ∀ line, transferFault? line (transfer? directive?) (arguments m) (bufferOf directive? m) =
        none := by
  cases directive? with
  | none => exact ⟨parametersFrom_arguments hwritable h.2, fun _ => rfl⟩
  | some directive =>
    cases directive with
    | exclude | healthCheck => cases hoperation
    | readArray length => exact ⟨parametersFrom_arguments hwritable h.2.2, fun _ => rfl⟩
    | writeArray pointer length =>
      obtain ⟨b, hbuffers, hread⟩ := parametersFrom_transfer hwritable h.2
      have hbuffer : bufferOf (some (.writeArray pointer length)) m = some b := by
        rw [bufferOf, hbuffers]
        rfl
      rw [hbuffer]
      exact ⟨hread, fun line => transferFault?_eq_none h.2 line b⟩

/-- A method declares the operation that it tells. -/
theorem operation_written {m : AnnotatedMethod Directive} (hwritable : m.method.IsWritable)
    (h : IsAllowed m.above? m.method) (hoperation : isOperation m.above? = true)
    (start id : Nat) :
    operation (m.declared start) (UInt16.ofNat id) m.above? = .ok (operationOf m start id) := by
  obtain ⟨hparameters, hfault⟩ := parametersFrom_allowed hwritable.parameters h hoperation
  have hmode := resultMode_written h hoperation (m.declared start)
  have hresult : resultType (m.declared start).returnType = m.method.result.type :=
    hwritable.result.resultType_text
  have hdeclared : (m.declared start).parameters = m.method.parameters.map (·.parameter) := rfl
  unfold operation
  simp only [hresult, hmode, hdeclared, hparameters]
  cases hw : m.method.result.type with
  | unsupported reason =>
    have hsupported := hwritable.result.isSupported
    rw [hw] at hsupported
    exact hsupported.elim
  | _ =>
    simp only [bind, Except.bind, hfault, operationOf, hw]
    rfl

end Interface

end Instrument
