import Instrument.Interface.Describe
import Instrument.Proofs.Success

/-!
What holds of every operation that a class declares. Main statements: the length of a buffer is
the last argument, a 32-bit number whose name no other argument has, and no vector comes with a
buffer; and the length of an array that is sent back fits in 64 bits.
-/

namespace Instrument

open Success

namespace WireType

theorem lt_limit_of_ofTemplate {name : List Char} {parameters : List (List Char)}
    {element : Wire.ScalarType} {length : Nat}
    (h : ofTemplate name parameters = .array element length) : length < Text.limit64 := by
  simp only [ofTemplate] at h
  split at h
  · split at h
    · split at h
      · cases h
      · next hnumber =>
        cases h
        exact Text.lt_of_number? hnumber
      · cases h
    · cases h
  · split at h
    · split at h
      · split at h <;> cases h
      · cases h
    · split at h
      · split at h <;> cases h
      · cases h

/-- The length of an array is a number of 64 bits. -/
theorem lt_limit_of_classify {type : List Char} {element : Wire.ScalarType} {length : Nat}
    (h : classify type = .array element length) : length < Text.limit64 := by
  simp only [classify] at h
  split at h
  · cases h
  split at h
  · cases h
  split at h
  · cases h
  split at h
  · cases h
  split at h
  · split at h <;> cases h
  · split at h
    · exact lt_limit_of_ofTemplate h
    · split at h <;> cases h

/-- Whether an array or a tuple has anything in it. -/
def IsFilled : WireType → Prop
  | array _ length => 0 < length
  | tuple fields => fields ≠ []
  | _ => True

theorem splitParameters_ne_nil (unseen depth : Nat) (cs : List Char) :
    splitParameters unseen depth cs ≠ [] := by
  cases cs with
  | nil => exact List.cons_ne_nil _ _
  | cons c cs =>
    simp only [splitParameters]
    split
    · exact List.cons_ne_nil _ _
    · split <;> exact List.cons_ne_nil _ _

theorem isFilled_ofTemplate (name : List Char) {parameters : List (List Char)}
    (hne : parameters ≠ []) : (ofTemplate name parameters).IsFilled := by
  unfold ofTemplate
  split
  · split
    · split
      · trivial
      · exact Nat.succ_pos _
      · trivial
    · trivial
  · split
    · split
      · split <;> trivial
      · trivial
    · split
      · split
        · trivial
        · next hall =>
          obtain ⟨first, rest, rfl⟩ := List.exists_cons_of_ne_nil hne
          have hfirst := List.find?_eq_none.1 hall first (List.mem_cons_self ..)
          obtain ⟨type, htype⟩ : ∃ type, parameter? first = some type := by
            simpa [Option.isNone_iff_eq_none, Option.ne_none_iff_exists'] using hfirst
          change List.filterMap parameter? (first :: rest) ≠ []
          rw [List.filterMap_cons_some htype]
          exact List.cons_ne_nil _ _
      · trivial

/-- Arrays and tuples are not empty. -/
theorem isFilled_classify (type : List Char) : (classify type).IsFilled := by
  simp only [classify]
  split
  · trivial
  split
  · trivial
  split
  · trivial
  split
  · trivial
  split
  · split <;> trivial
  split
  · next name parameters htemplate =>
    refine isFilled_ofTemplate name ?_
    unfold template? at htemplate
    extract_lets outer at htemplate
    split at htemplate
    · cases htemplate
    · obtain ⟨inside, -, hinside⟩ := Option.map_eq_some_iff.1 htemplate
      rw [← (Prod.mk.inj hinside).2]
      simp [splitParameters_ne_nil]
  · split <;> trivial

end WireType

namespace Interface

/-- Whether an operation is one of those that some class declares. -/
def Operation.IsDescribed (op : Operation) : Prop :=
  ∃ (all : List Pragma) (c : Header.Class) (d : Description),
    Description.ofClass all c = .ok d ∧ op ∈ d.operations

/-- Whether an operation comes from a method. -/
def Operation.IsDeclared (op : Operation) : Prop :=
  ∃ (method : Header.Method) (id : UInt16) (directive? : Option Directive),
    operation method id directive? = .ok op

/-- Whether a method under a directive is an operation. -/
def MakesOperation (directive? : Option Directive) : Prop :=
  directive? ≠ some .exclude ∧ directive? ≠ some .healthCheck

/-- What a method does to the operations that are found so far: it adds one that has its place for
its number, or nothing, as the directive says. -/
theorem operations_of_add {draft draft' : Draft} {method : Header.Method}
    {directive? : Option Directive} (h : draft.add method directive? = .ok draft') :
    ¬MakesOperation directive? ∧ draft'.operations = draft.operations ∨
      MakesOperation directive? ∧ ∃ op,
        operation method (UInt16.ofNat draft.operations.length) directive? = .ok op ∧
        (∀ other ∈ draft.operations, other.name ≠ method.name) ∧
        draft.operations.length < UInt16.size ∧ draft'.operations = draft.operations ++ [op] := by
  unfold Draft.add at h
  split at h
  · cases h
    exact .inl ⟨fun hmakes => hmakes.1 rfl, rfl⟩
  · split at h
    · cases h
    · cases h
      exact .inl ⟨fun hmakes => hmakes.2 rfl, rfl⟩
  · next hexclude hcheck =>
    simp only at h
    split at h
    · exact absurd h throw_bind_ne_ok
    next hfresh =>
    split at h
    · exact absurd h throw_bind_ne_ok
    next hcount =>
    simp only [bind_eq_ok_iff, pure_eq_ok_iff] at h
    obtain ⟨op, hop, rfl⟩ := h
    refine .inr ⟨⟨hexclude, hcheck⟩, op, hop, ?_, by omega, rfl⟩
    intro other hother hsame
    exact hfresh (List.any_eq_true.2 ⟨other, hother, by simp [hsame]⟩)

/-- Whether a method of a class can be an operation, and what stands above it. -/
structure IsSource (all : List Pragma) (c : Header.Class) (method : Header.Method)
    (directive? : Option Directive) : Prop where
  mem : method ∈ c.methods
  isCandidate : isCandidate c.name method = true
  above : directiveAbove? all method.line = .ok directive?

/-- A method that can be no operation changes nothing; any other counts as the directive above it
says. -/
theorem addMethod_cases {all : List Pragma} {c : Header.Class} {draft draft' : Draft}
    {method : Header.Method} (hmethod : method ∈ c.methods)
    (h : draft.addMethod all c.name method = .ok draft') :
    isCandidate c.name method = false ∧ draft' = draft ∨
      ∃ directive?, IsSource all c method directive? ∧
        draft.add method directive? = .ok draft' := by
  unfold Draft.addMethod at h
  split at h
  · next hcandidate =>
    split at h
    · next hadd =>
      cases h
      obtain ⟨directive?, habove, hadd⟩ := bind_eq_ok_iff.1 hadd
      exact .inr ⟨directive?, ⟨hmethod, hcandidate, habove⟩, hadd⟩
    · cases h
  · next hcandidate =>
    cases h
    exact .inl ⟨by simpa using hcandidate, rfl⟩

theorem operations_of_addMethod {all : List Pragma} {c : Header.Class} {draft draft' : Draft}
    {method : Header.Method} (hmethod : method ∈ c.methods)
    (h : draft.addMethod all c.name method = .ok draft') :
    draft'.operations = draft.operations ∨
      ∃ directive? op, IsSource all c method directive? ∧
        operation method (UInt16.ofNat draft.operations.length) directive? = .ok op ∧
        (∀ other ∈ draft.operations, other.name ≠ method.name) ∧
        draft.operations.length < UInt16.size ∧ draft'.operations = draft.operations ++ [op] := by
  rcases addMethod_cases hmethod h with ⟨-, rfl⟩ | ⟨directive?, hsource, hadd⟩
  · exact .inl rfl
  · rcases operations_of_add hadd with ⟨-, hsame⟩ | ⟨-, op, hop⟩
    · exact .inl hsame
    · exact .inr ⟨directive?, op, hsource, hop⟩

/-- What holds of the operations of a class: of none, and of those before with one more. -/
theorem operations_induction {P : List Operation → Prop} {all : List Pragma} {c : Header.Class}
    {d : Description} (hnil : P [])
    (hconcat : ∀ operations method directive? op, IsSource all c method directive? →
      P operations → operation method (UInt16.ofNat operations.length) directive? = .ok op →
      (∀ other ∈ operations, other.name ≠ method.name) → operations.length < UInt16.size →
      P (operations ++ [op]))
    (h : Description.ofClass all c = .ok d) : P d.operations := by
  simp only [Description.ofClass, bind_eq_ok_iff, pure_eq_ok_iff] at h
  obtain ⟨draft, hdraft, rfl⟩ := h
  refine foldlM_induction (P := fun draft => P draft.operations) ?_ hnil hdraft
  intro draft method hmethod draft' hoperations hadd
  rcases operations_of_addMethod hmethod hadd with
    hsame | ⟨directive?, op, hsource, hop, hfresh, hcount, hmore⟩
  · rwa [hsame]
  · rw [hmore]
    exact hconcat _ method directive? op hsource hoperations hop hfresh hcount

/-- What a method declares, one part after the other. -/
theorem operation_eq_ok {method : Header.Method} {id : UInt16} {directive? : Option Directive}
    {op : Operation} (h : operation method id directive? = .ok op) :
    ∃ mode lengthExpression? arguments buffer?,
      (∀ reason, resultType method.returnType ≠ .unsupported reason) ∧
      resultMode method (resultType method.returnType) directive? =
        .ok (mode, lengthExpression?) ∧
      parametersFrom (transfer? directive?) 0 method.parameters = .ok (arguments, buffer?) ∧
      transferFault? (method.line - 1) (transfer? directive?) arguments buffer? = none ∧
      op =
        { name := method.name
          tag := String.ofList (Text.upper method.name.toList)
          id := id
          resultType := method.returnType
          result := resultType method.returnType
          mode := mode
          arguments := arguments
          buffer? := buffer?
          lengthExpression? := lengthExpression?
          line := method.line } := by
  unfold operation at h
  simp only at h
  split at h
  -- every check throws, and what is thrown stays an error
  · exact absurd h throw_bind_ne_ok
  next hsupported =>
  simp only [bind_eq_ok_iff] at h
  obtain ⟨⟨mode, lengthExpression?⟩, hmode, ⟨arguments, buffer?⟩, harguments, h⟩ := h
  cases hfault : transferFault? (method.line - 1) (transfer? directive?) arguments buffer? with
  | some fault =>
    rw [hfault] at h
    exact absurd h throw_bind_ne_ok
  | none =>
    rw [hfault] at h
    obtain rfl := pure_eq_ok_iff.1 h
    exact ⟨mode, lengthExpression?, arguments, buffer?, hsupported, hmode, harguments, hfault, rfl⟩

theorem line_of_operation {method : Header.Method} {id : UInt16} {directive? : Option Directive}
    {op : Operation} (h : operation method id directive? = .ok op) : op.line = method.line := by
  obtain ⟨_, _, _, _, -, -, -, -, rfl⟩ := operation_eq_ok h
  rfl

/-- Every operation of a class comes from one of its methods. -/
theorem exists_isSource {all : List Pragma} {c : Header.Class} {d : Description}
    (h : Description.ofClass all c = .ok d) {op : Operation} (hop : op ∈ d.operations) :
    ∃ method directive?, IsSource all c method directive? ∧
      operation method op.id directive? = .ok op := by
  refine operations_induction (P := fun operations => ∀ op ∈ operations, ∃ method directive?,
    IsSource all c method directive? ∧ operation method op.id directive? = .ok op) (by simp)
    ?_ h op hop
  intro operations method directive? op hsource hoperations hdeclared _ _ op' hmem
  rcases List.mem_append.1 hmem with hmem | hmem
  · exact hoperations op' hmem
  · obtain rfl := List.mem_singleton.1 hmem
    obtain ⟨_, _, _, _, -, -, -, -, heq⟩ := operation_eq_ok hdeclared
    have hid : op'.id = UInt16.ofNat operations.length := congrArg (·.id) heq
    exact ⟨method, directive?, hsource, hid ▸ hdeclared⟩

theorem Operation.IsDescribed.isDeclared {op : Operation} (h : op.IsDescribed) :
    op.IsDeclared := by
  obtain ⟨all, c, d, hclass, hop⟩ := h
  obtain ⟨method, directive?, -, hdeclared⟩ := exists_isSource hclass hop
  exact ⟨method, op.id, directive?, hdeclared⟩

theorem eq_of_operation {method : Header.Method} {id : UInt16} {directive? : Option Directive}
    {op : Operation} (h : operation method id directive? = .ok op) :
    op.result = resultType method.returnType ∧
      resultMode method op.result directive? = .ok (op.mode, op.lengthExpression?) ∧
      parametersFrom (transfer? directive?) 0 method.parameters = .ok (op.arguments, op.buffer?) ∧
      transferFault? (method.line - 1) (transfer? directive?) op.arguments op.buffer? = none := by
  obtain ⟨_, _, _, _, -, hmode, harguments, hfault, rfl⟩ := operation_eq_ok h
  exact ⟨rfl, hmode, harguments, hfault⟩

/-- An operation that sends nothing has no result. -/
theorem Operation.IsDescribed.result_of_write {op : Operation} (h : op.IsDescribed)
    (hmode : op.mode = .write) : op.result = .void := by
  obtain ⟨method, id, directive?, hop⟩ := h.isDeclared
  obtain ⟨-, hresult, -⟩ := eq_of_operation hop
  rw [hmode] at hresult
  unfold resultMode at hresult
  extract_lets fault at hresult
  generalize op.result = result at hresult ⊢
  split at hresult
  · split at hresult <;> cases hresult
  · split at hresult <;> first | rfl | cases hresult

/-- An operation whose reply is text has text for a result. -/
theorem Operation.IsDescribed.result_of_readText {op : Operation} (h : op.IsDescribed)
    (hmode : op.mode = .readText) : op.result = .cString ∨ op.result = .string := by
  obtain ⟨method, id, directive?, hop⟩ := h.isDeclared
  obtain ⟨-, hresult, -⟩ := eq_of_operation hop
  rw [hmode] at hresult
  unfold resultMode at hresult
  extract_lets fault at hresult
  generalize op.result = result at hresult ⊢
  split at hresult
  · split at hresult <;> cases hresult
  · split at hresult <;> simp_all

/-- The length of an array that is sent is a number of 64 bits. -/
theorem Operation.IsDescribed.length_lt {op : Operation} (h : op.IsDescribed)
    {element : Wire.ScalarType} {length : Nat} (hresult : op.result = .array element length) :
    length < Text.limit64 := by
  obtain ⟨method, id, directive?, hop⟩ := h.isDeclared
  obtain ⟨htype, -⟩ := eq_of_operation hop
  rw [hresult, Interface.resultType] at htype
  exact WireType.lt_limit_of_classify htype.symm

/-- A value of the result of an operation takes at least one byte, if there is one. -/
theorem Operation.IsDescribed.isFilled {op : Operation} (h : op.IsDescribed) :
    op.result.IsFilled := by
  obtain ⟨method, id, directive?, hop⟩ := h.isDeclared
  obtain ⟨htype, -⟩ := eq_of_operation hop
  rw [htype, Interface.resultType]
  exact WireType.isFilled_classify _

/-- The type of an argument. -/
def ArgumentKind.type : ArgumentKind → WireType
  | scalar type => .scalar type
  | array element length => .array element length
  | vector element => .vector element

/-- The declared type of an argument, in words, is its type. -/
theorem classify_of_parameter {transfer : Option (String × String)} {index : Nat}
    {p : Header.Parameter} {a : Argument} (h : parameter transfer index p = .ok (.inl a)) :
    WireType.classify a.type.toList = a.kind.type := by
  unfold parameter at h
  extract_lets name bare argument at h
  have hargument (kind : ArgumentKind) : (argument kind).type.toList = bare.type :=
    String.toList_ofList
  cases htype : WireType.classify bare.type with
  | scalar | array | vector =>
    rw [htype] at h
    cases h
    rw [hargument, htype]
    rfl
  | pointer element =>
    rw [htype] at h
    simp only at h
    split at h <;> cases h
  | _ =>
    rw [htype] at h
    cases h

/-- The declared types of the arguments, in words, are their types. -/
theorem classify_of_parametersFrom {transfer : Option (String × String)} {index : Nat}
    {ps : List Header.Parameter} {arguments : List Argument} {buffer? : Option Buffer}
    (h : parametersFrom transfer index ps = .ok (arguments, buffer?)) :
    ∀ a ∈ arguments, WireType.classify a.type.toList = a.kind.type := by
  induction ps generalizing index arguments buffer? with
  | nil =>
    cases h
    simp
  | cons p ps ih =>
    simp only [parametersFrom, bind_eq_ok_iff] at h
    obtain ⟨first, hfirst, ⟨more, buffer?⟩, hmore, h⟩ := h
    cases first with
    | inl argument =>
      cases h
      exact List.forall_mem_cons.2 ⟨classify_of_parameter hfirst, ih hmore⟩
    | inr buffer =>
      cases h
      exact ih hmore

theorem Operation.IsDescribed.classify_type {op : Operation} (h : op.IsDescribed) :
    ∀ a ∈ op.arguments, WireType.classify a.type.toList = a.kind.type := by
  obtain ⟨method, id, directive?, hop⟩ := h.isDeclared
  exact classify_of_parametersFrom (eq_of_operation hop).2.2.1

theorem length_of_parameter {transfer : Option (String × String)} {index : Nat}
    {p : Header.Parameter} {b : Buffer} (h : parameter transfer index p = .ok (.inr b)) :
    transfer.map (·.2) = some b.length := by
  unfold parameter at h
  extract_lets name bare argument at h
  generalize WireType.classify bare.type = wire at h
  cases wire with
  | pointer element =>
    simp only at h
    split at h
    · next hfilter =>
      obtain rfl : _ = b := by simpa using h
      rw [(Option.filter_eq_some_iff.1 hfilter).1]
      rfl
    · simp at h
  | _ => simp at h

/-- A buffer has the length that the directive names. -/
theorem length_of_parametersFrom {transfer : Option (String × String)} {index : Nat}
    {ps : List Header.Parameter} {arguments : List Argument} {b : Buffer}
    (h : parametersFrom transfer index ps = .ok (arguments, some b)) :
    transfer.map (·.2) = some b.length := by
  induction ps generalizing index arguments b with
  | nil => cases h
  | cons p ps ih =>
    simp only [parametersFrom, bind_eq_ok_iff] at h
    obtain ⟨first, hfirst, ⟨more, buffer?⟩, hmore, h⟩ := h
    cases first with
    | inl argument =>
      cases h
      exact ih hmore
    | inr buffer =>
      cases buffer? with
      | none =>
        cases h
        exact length_of_parameter hfirst
      | some later =>
        cases h
        exact ih hmore

/-- What the transfer into a buffer asks of the arguments. -/
structure IsLengthOf (length : Argument) (b : Buffer) (others : List Argument) : Prop where
  name : length.name = b.length
  kind : length.kind = .scalar .u32
  unique : ∀ a ∈ others, a.name ≠ b.length
  noVector : ∀ a ∈ others, a.kind.category ≠ .vector

/-- The last argument of an operation with a buffer tells the length of the buffer. -/
theorem Operation.IsDescribed.exists_isLengthOf {op : Operation} (h : op.IsDescribed) {b : Buffer}
    (hb : op.buffer? = some b) :
    ∃ others length, op.arguments = others ++ [length] ∧ IsLengthOf length b others := by
  obtain ⟨method, id, directive?, hop⟩ := h.isDeclared
  obtain ⟨_, _, hparameters, hfault⟩ := eq_of_operation hop
  rw [hb] at hparameters hfault
  have hlength := length_of_parametersFrom hparameters
  cases htransfer : transfer? directive? with
  | none => rw [htransfer] at hlength; cases hlength
  | some named =>
    obtain ⟨pointer, length⟩ := named
    rw [htransfer] at hlength hfault
    cases hlength
    simp only [transferFault?] at hfault
    split at hfault
    · cases hfault
    · cases hfault
    -- each check that passed gives one of the facts about the length parameter
    next b' index hcases hindex =>
    split at hfault
    · cases hfault
    next hkind =>
    split at hfault
    · cases hfault
    next hlast =>
    split at hfault
    · cases hfault
    next hvector =>
    obtain ⟨hlt, hname, hbefore⟩ := List.findIdx?_eq_some_iff_getElem.1 hindex
    have hne : op.arguments ≠ [] := by rintro h; simp [h] at hlt
    have hindex' : index = op.arguments.length - 1 := by omega
    refine ⟨op.arguments.dropLast, op.arguments.getLast hne,
      (List.dropLast_concat_getLast hne).symm, ?_, ?_, ?_, ?_⟩
    · rw [List.getLast_eq_getElem]
      simpa [hindex'] using hname
    · have hget : op.arguments[index]? = some (op.arguments.getLast hne) := by
        rw [List.getElem?_eq_getElem hlt, List.getLast_eq_getElem]
        simp [hindex']
      simpa [hget] using hkind
    · intro a ha hsame
      obtain ⟨i, hi, rfl⟩ := List.getElem_of_mem ha
      rw [List.length_dropLast] at hi
      rw [List.getElem_dropLast] at hsame
      exact hbefore i (by omega) (by simpa using hsame)
    · intro a ha hsame
      refine hvector (List.any_eq_true.2 ⟨a, List.dropLast_subset _ ha, ?_⟩)
      simp [hsame]

/-! ### An operation that is described -/

/-- An operation with arguments that travel in each of the three ways. -/
def Operation.sweep : Operation where
  name := "sweep"
  tag := "SWEEP"
  id := 0
  resultType := "std::vector<float>"
  result := .vector .f32
  mode := .read
  arguments := [
    ⟨"gain", "uint16_t", false, false, .scalar .u16⟩,
    ⟨"window", "std::array<int16_t, 2>", false, false, .array .i16 2⟩,
    ⟨"taps", "std::vector<uint32_t>", true, true, .vector .u32⟩,
    ⟨"last", "bool", false, false, .scalar .bool⟩]
  buffer? := none
  lengthExpression? := none
  line := 2

theorem Operation.isDescribed_sweep : sweep.IsDescribed :=
  ⟨[], ⟨"Scope", 1, [⟨"sweep", 2, "std::vector<float>", [⟨some "gain", "uint16_t"⟩,
    ⟨some "window", "std::array<int16_t, 2>"⟩, ⟨some "taps", "const std::vector<uint32_t>&"⟩,
    ⟨some "last", "bool"⟩], true⟩]⟩, ⟨"Scope", "SCOPE", 0, [sweep], none⟩, rfl,
    List.mem_singleton_self sweep⟩

end Interface

end Instrument
