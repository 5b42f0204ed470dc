import Instrument.Proofs.Call.Outcome
import Instrument.Proofs.Interface.Numbering
import Instrument.Proofs.Interface.Parameters
import Instrument.Proofs.Interface.TypeWords

/-!
Operations that are accepted. Main statement: the operations of every class that is described are
well formed. Each has its place for its number and a name of its own; its mode is the one of its
result and of the directive above it; no type in it depends on the platform; its arguments are the
parameters that are no pointers; and a buffer has the last argument for its length, which is found
as a 32-bit number whenever the arguments are read.
-/

namespace Instrument

open Dialogue (Answers Channel)
open Exchange (Ends)
open Success

/-- Whether a type is that of a value that is sent at once, text aside. -/
def WireType.IsValue : WireType → Prop
  | scalar _ | array _ _ | vector _ | tuple _ => True
  | _ => False

namespace Interface

/-! ### What is sent back -/

/-- What a result and a directive come to: a mode, and the length of a pointer result. -/
inductive ResultsIn (result : WireType) (directive? : Option Directive) :
    Mode → Option String → Prop
  | readArray {length : Option String} (hdirective : directive? = some (.readArray length))
    (helement : result.element?.isSome) (hlength : ∀ element, result = .pointer element →
      length.isSome) : ResultsIn result directive? .readArray length
  | write (hdirective : ∀ length, directive? ≠ some (.readArray length))
    (hresult : result = .void) : ResultsIn result directive? .write none
  | readText (hdirective : ∀ length, directive? ≠ some (.readArray length))
    (hresult : result = .cString ∨ result = .string) : ResultsIn result directive? .readText none
  | read (hdirective : ∀ length, directive? ≠ some (.readArray length))
    (hresult : result.IsValue) : ResultsIn result directive? .read none

theorem resultsIn_of_resultMode {method : Header.Method} {result : WireType}
    {directive? : Option Directive} {mode : Mode} {lengthExpression? : Option String}
    (hsupported : ∀ reason, result ≠ .unsupported reason)
    (h : resultMode method result directive? = .ok (mode, lengthExpression?)) :
    ResultsIn result directive? mode lengthExpression? := by
  unfold resultMode at h
  extract_lets fault at h
  split at h
  · next length =>
    cases result with
    | array | vector =>
      cases h
      exact .readArray rfl rfl fun _ hresult => by cases hresult
    | pointer element =>
      cases length with
      | none => cases h
      | some text =>
        cases h
        exact .readArray rfl rfl fun _ _ => rfl
    | _ => cases h
  -- without that directive the type alone tells the mode
  · next hother =>
    have hdirective : ∀ length, directive? ≠ some (.readArray length) := fun length hsame =>
      hother length hsame
    cases result with
    | void => cases h; exact .write hdirective rfl
    | cString => cases h; exact .readText hdirective (.inl rfl)
    | string => cases h; exact .readText hdirective (.inr rfl)
    | pointer element => cases h
    | unsupported reason => exact absurd rfl (hsupported reason)
    | scalar | array | vector | tuple => cases h; exact .read hdirective trivial

namespace ResultsIn

variable {result : WireType} {directive? : Option Directive} {mode : Mode}
  {lengthExpression? : Option String} (h : ResultsIn result directive? mode lengthExpression?)
include h

theorem write_iff : mode = .write ↔ result = .void := by
  cases h with
  | readArray _ helement =>
    refine ⟨fun hmode => (by cases hmode), ?_⟩
    rintro rfl
    cases helement
  | write _ hresult => exact ⟨fun _ => hresult, fun _ => rfl⟩
  | readText _ hresult =>
    refine ⟨fun hmode => (by cases hmode), ?_⟩
    rintro rfl
    rcases hresult with hresult | hresult <;> cases hresult
  | read _ hresult =>
    refine ⟨fun hmode => (by cases hmode), ?_⟩
    rintro rfl
    cases hresult

theorem readText_iff : mode = .readText ↔ result = .cString ∨ result = .string := by
  cases h with
  | readArray _ helement =>
    refine ⟨fun hmode => (by cases hmode), ?_⟩
    rintro (rfl | rfl) <;> cases helement
  | write _ hresult =>
    refine ⟨fun hmode => (by cases hmode), ?_⟩
    rw [hresult]
    rintro (hother | hother) <;> cases hother
  | readText _ hresult => exact ⟨fun _ => hresult, fun _ => rfl⟩
  | read _ hresult =>
    refine ⟨fun hmode => (by cases hmode), ?_⟩
    rintro (rfl | rfl) <;> cases hresult

theorem readArray_iff : mode = .readArray ↔ ∃ length, directive? = some (.readArray length) := by
  cases h with
  | readArray hdirective => exact ⟨fun _ => ⟨_, hdirective⟩, fun _ => rfl⟩
  | write hdirective | readText hdirective | read hdirective =>
    exact ⟨fun hmode => (by cases hmode), fun ⟨length, hsame⟩ => absurd hsame (hdirective length)⟩

theorem element_of_readArray (hmode : mode = .readArray) : result.element?.isSome := by
  cases h with
  | readArray _ helement => exact helement
  | write | readText | read => cases hmode

theorem isValue_of_read (hmode : mode = .read) : result.IsValue := by
  cases h with
  | read _ hresult => exact hresult
  | readArray | write | readText => cases hmode

theorem lengthExpression?_of_readArray {length : Option String}
    (hannotated : directive? = some (.readArray length)) : lengthExpression? = length := by
  cases h with
  | readArray hdirective => cases hdirective.symm.trans hannotated; rfl
  | write hdirective | readText hdirective | read hdirective =>
    exact absurd hannotated (hdirective length)

theorem length_of_pointer {element : Wire.ScalarType} (hresult : result = .pointer element) :
    lengthExpression?.isSome := by
  subst hresult
  cases h with
  | readArray _ _ hlength => exact hlength element rfl
  | write _ hother => cases hother
  | readText _ hother => rcases hother with hother | hother <;> cases hother
  | read _ hvalue => cases hvalue

end ResultsIn

/-- Whether the result of an operation fits its mode and the directive above it. -/
structure Operation.HasResult (op : Operation) (all : List Pragma) : Prop where
  result : op.result = Interface.resultType op.resultType
  supported : ∀ reason, op.result ≠ .unsupported reason
  exactWidth : ∀ w ∈ Text.wordRuns op.resultType.toList, String.ofList w ∉ WireType.platformWords
  write : op.mode = .write ↔ op.result = .void
  readText : op.mode = .readText ↔ op.result = .cString ∨ op.result = .string
  readArray : op.mode = .readArray ↔
    ∃ length, directiveAbove? all op.line = .ok (some (.readArray length))
  element : op.mode = .readArray → op.result.element?.isSome
  read : op.mode = .read → op.result.IsValue
  annotated : ∀ length, directiveAbove? all op.line = .ok (some (.readArray length)) →
    op.lengthExpression? = length
  pointer : ∀ element, op.result = .pointer element → op.lengthExpression?.isSome

theorem hasResult_of_operation {all : List Pragma} {c : Header.Class} {method : Header.Method}
    {id : UInt16} {directive? : Option Directive} {op : Operation}
    (hsource : IsSource all c method directive?)
    (h : operation method id directive? = .ok op) : op.HasResult all := by
  obtain ⟨mode, lengthExpression?, arguments, buffer?, hsupported, hmode, -, -, heq⟩ :=
    operation_eq_ok h
  have htext : op.resultType = method.returnType := by rw [heq]
  have hresult : op.result = Interface.resultType method.returnType := by rw [heq]
  have hline : op.line = method.line := by rw [heq]
  rw [← hresult] at hsupported hmode
  have hresults : ResultsIn op.result directive? op.mode op.lengthExpression? := by
    have hmodes := resultsIn_of_resultMode hsupported hmode
    have hkept : op.mode = mode ∧ op.lengthExpression? = lengthExpression? := by
      rw [heq]
      exact ⟨rfl, rfl⟩
    rwa [hkept.1, hkept.2]
  have hspelled := WireType.isSpelled_resultType (hresult ▸ hsupported)
  have hannotated {length : Option String} :
      directiveAbove? all op.line = .ok (some (.readArray length)) ↔
        directive? = some (.readArray length) := by
    rw [hline, hsource.above, Except.ok.injEq]
  exact {
    result := htext ▸ hresult
    supported := hsupported
    exactWidth := htext ▸ WireType.not_mem_platformWords hspelled
    write := hresults.write_iff
    readText := hresults.readText_iff
    readArray := hresults.readArray_iff.trans (exists_congr fun _ => hannotated.symm)
    element := hresults.element_of_readArray
    read := hresults.isValue_of_read
    annotated := fun _ habove => hresults.lengthExpression?_of_readArray (hannotated.1 habove)
    pointer := fun _ => hresults.length_of_pointer }

/-! ### What is passed -/

/-- Whether the arguments and the buffer of an operation are the parameters of a method. -/
structure Operation.HasParameters (op : Operation) (method : Header.Method) : Prop where
  supported : ∀ p ∈ method.parameters, ∀ reason, parameterType p ≠ .unsupported reason
  exactWidth : ∀ p ∈ method.parameters, ∀ w ∈ Text.wordRuns p.type.toList,
    String.ofList w ∉ WireType.platformWords
  arguments : op.arguments.map (fun a => (a.name, a.kind.type)) =
    (method.parameters.mapIdx fun i p => (effectiveName i p, parameterType p)).filter
      fun entry => !entry.2.isPointer
  buffer : ∀ b, op.buffer? = some b → ∃ p, method.parameters[b.position]? = some p ∧
    effectiveName b.position p = b.pointer ∧ parameterType p = .pointer b.element
  noBuffer : op.buffer? = none → ∀ p ∈ method.parameters, (parameterType p).isPointer = false

/-- Whether the last argument of an operation tells the length of its buffer, which is found when
the arguments are read. -/
structure Operation.HasLength (op : Operation) (b : Buffer) : Prop where
  last : ∃ others length, op.arguments = others ++ [length] ∧ IsLengthOf length b others
  found : ∀ (device : String) (payload : Bytes) (w : Answers) (c c' : Channel) (found : Arguments),
    payload.length = op.layout.payloadSize →
      Ends w (CallSite.readPacks ⟨device, op⟩ payload [] op.layout.packs) c (.ok found) c' →
        ∃ others length, found = others ++ [(b.length, .scalar length)] ∧ length.type = .u32 ∧
          found.find? b.length = some (.scalar length)

/-- Whether an operation has a buffer just if the directive above it names one. -/
structure Operation.HasTransfer (op : Operation) (all : List Pragma) : Prop where
  annotated : ∀ b, op.buffer? = some b →
    directiveAbove? all op.line = .ok (some (.writeArray b.pointer b.length))
  buffer : ∀ pointer length, directiveAbove? all op.line = .ok (some (.writeArray pointer length)) →
    op.buffer?.isSome
  length : ∀ b, op.buffer? = some b → op.HasLength b

theorem hasParameters_of_operation {method : Header.Method} {id : UInt16}
    {directive? : Option Directive} {op : Operation}
    (h : operation method id directive? = .ok op) : op.HasParameters method := by
  obtain ⟨slots, hslots, harguments, hlast⟩ := exists_comeTo_of_operation h
  have hsupported : ∀ p ∈ method.parameters, ∀ reason, parameterType p ≠ .unsupported reason := by
    intro p hp
    obtain ⟨place, slot, -, hcomes⟩ := hslots.exists_slot p hp
    exact hcomes.supported
  refine ⟨hsupported, fun p hp => ?_, ?_, fun b hb => ?_, fun hnone p hp => ?_⟩
  · exact WireType.not_mem_platformWords
      (WireType.isSpelled_unqualified (WireType.isSpelled_classify (hsupported p hp)))
  · rw [harguments, hslots.arguments]
    simp only [Nat.zero_add]
  · obtain ⟨before, after, haround⟩ := exists_isAround h hb
    exact haround.exists_pointer
  · rw [hnone, eq_comm, List.getLast?_eq_none_iff] at hlast
    obtain ⟨place, slot, hslot, hcomes⟩ := hslots.exists_slot p hp
    cases slot with
    | inl a => exact hcomes.isPointer_argument
    | inr b =>
      have hb : b ∈ buffersOf slots := List.mem_filterMap.2 ⟨.inr b, hslot, rfl⟩
      rw [hlast] at hb
      cases hb

theorem hasLength_of_isDescribed {op : Operation} (hop : op.IsDescribed) {b : Buffer}
    (hbuffer : op.buffer? = some b) : op.HasLength b := by
  refine ⟨hop.exists_isLengthOf hbuffer, fun device payload w c c' found hsize hends => ?_⟩
  have hentries := @CallSite.forall₂_isEntryOf_of_ends w c c' ⟨device, op⟩ payload found hends
  obtain ⟨others, length, hfound, -, -, htype, hfind⟩ :=
    @CallSite.exists_length_entry ⟨device, op⟩ _ hop _ hbuffer hentries
  exact ⟨others, length, hfound, htype, hfind⟩

theorem transfer?_eq_some_iff {directive? : Option Directive} {pointer length : String} :
    transfer? directive? = some (pointer, length) ↔
      directive? = some (.writeArray pointer length) := by
  unfold transfer?
  split
  · simp
  · next hother =>
    refine ⟨fun h => (by cases h), ?_⟩
    rintro rfl
    exact absurd rfl (hother pointer length)

theorem hasTransfer_of_operation {all : List Pragma} {c : Header.Class} {method : Header.Method}
    {id : UInt16} {directive? : Option Directive} {op : Operation}
    (hsource : IsSource all c method directive?) (hop : op.IsDescribed)
    (h : operation method id directive? = .ok op) : op.HasTransfer all := by
  have hline := line_of_operation h
  refine ⟨fun b hb => ?_, fun pointer length habove => ?_, fun b => hasLength_of_isDescribed hop⟩
  · obtain ⟨slots, hslots, -, hlast⟩ := exists_comeTo_of_operation h
    have hmem := hslots.transfer_of_mem (List.mem_of_getLast? (hlast.symm.trans hb))
    rw [hline, hsource.above, transfer?_eq_some_iff.1 hmem]
  · rw [hline, hsource.above, Except.ok.injEq] at habove
    obtain ⟨-, -, -, hfault⟩ := eq_of_operation h
    rw [transfer?_eq_some_iff.2 habove] at hfault
    cases hbuffer : op.buffer? with
    | some b => rfl
    | none =>
      rw [hbuffer] at hfault
      cases hfault

/-! ### Accepted operations -/

/-- Whether an operation of a class is well formed. -/
structure Operation.IsWellFormed (op : Operation) (all : List Pragma) (c : Header.Class) :
    Prop where
  name : op.name ≠ c.name
  notDestructor : op.name ≠ "~" ++ c.name
  result : op.HasResult all
  parameters : ∃ method ∈ c.methods, op.name = method.name ∧ op.line = method.line ∧
    op.HasParameters method
  transfer : op.HasTransfer all

/-- The operations of every class that is described are well formed, with their places for numbers
and different names. -/
theorem isWellFormed_of_ofClass {all : List Pragma} {c : Header.Class} {d : Description}
    (h : Description.ofClass all c = .ok d) :
    (∀ (i : Nat) (op : Operation), d.operations[i]? = some op → op.id.toNat = i) ∧
      (d.operations.map (·.name)).Nodup ∧ ∀ op ∈ d.operations, op.IsWellFormed all c := by
  have hlisted := areListed_of_ofClass h
  refine ⟨fun i op hop => ?_, hlisted.nodup, fun op hop => ?_⟩
  · obtain ⟨hlt, hid⟩ := hlisted.id i op hop
    rw [hid, UInt16.toNat_ofNat_of_lt' hlt]
  · obtain ⟨method, directive?, hsource, hdeclared⟩ := exists_isSource h hop
    obtain ⟨_, _, _, _, -, -, -, -, heq⟩ := operation_eq_ok hdeclared
    have hname : op.name = method.name := congrArg (·.name) heq
    have hcandidate := hsource.isCandidate
    simp only [isCandidate, Bool.and_eq_true, bne_iff_ne] at hcandidate
    exact {
      name := hname ▸ hcandidate.1.2
      notDestructor := hname ▸ hcandidate.2
      result := hasResult_of_operation hsource hdeclared
      parameters := ⟨method, hsource.mem, hname, congrArg (·.line) heq,
        hasParameters_of_operation hdeclared⟩
      transfer := hasTransfer_of_operation hsource ⟨all, c, d, h, hop⟩ hdeclared }

/-- The annotations of a class with operations of several modes. -/
def panelPragmas : List Pragma :=
  [⟨2, "write_array arg\x7brow\x7d arg\x7bcount\x7d"⟩, ⟨4, "read_array 8"⟩]

/-- A class with operations of several modes. -/
def panelClass : Header.Class :=
  ⟨"Panel", 1,
    [⟨"draw", 3, "void", [⟨some "line", "uint8_t"⟩, ⟨some "row", "const uint8_t*"⟩,
        ⟨some "count", "uint32_t"⟩], true⟩,
      ⟨"keys", 5, "const uint16_t*", [], true⟩, ⟨"title", 6, "std::string", [], true⟩]⟩

/-- What the class declares. -/
def panel : Description :=
  ⟨"Panel", "PANEL", 0,
    [⟨"draw", "DRAW", 0, "void", .void, .write, [⟨"line", "uint8_t", false, false, .scalar .u8⟩,
        ⟨"count", "uint32_t", false, false, .scalar .u32⟩],
        some ⟨"row", 1, "count", .u8, true⟩, none, 3⟩,
      ⟨"keys", "KEYS", 1, "const uint16_t*", .pointer .u16, .readArray, [], none, some "8", 5⟩,
      ⟨"title", "TITLE", 2, "std::string", .string, .readText, [], none, none, 6⟩], none⟩

theorem isWellFormed_of_ofClass_panel :
    Description.ofClass panelPragmas panelClass = .ok panel ∧
      ∀ op ∈ panel.operations, op.IsWellFormed panelPragmas panelClass := by
  have hclass : Description.ofClass panelPragmas panelClass = .ok panel := by rfl
  obtain ⟨-, -, hall⟩ := isWellFormed_of_ofClass hclass
  exact ⟨hclass, hall⟩

end Interface

end Instrument
