import Mathlib.Data.List.Forall2
import Instrument.Call.Decode
import Instrument.Interface.Layout
import Instrument.Network.Client
import Instrument.Proofs.Call.Transcript
import Instrument.Proofs.Interface.Fitting

/-!
What is passed in a call: the values of a call as they are declared, as they travel, and as they
are received. A vector and a buffer travel in two pieces, first their number among the other
arguments and then, once it is acknowledged, their elements.
-/

namespace Instrument

open Network.Client (Part)
open Wire (Scalar Elements)
open Transcript (ofBytes)

/-- Elements that follow the acknowledgement of their number. -/
def Transcript.transfer (values : Elements) : Transcript :=
  .ready (UInt32.ofNat values.size) :: ofBytes values.raw

end Instrument

namespace Instrument.Network.Client.Part

open Wire (Scalar Elements)
open Transcript (ofBytes)
open Interface (ArgumentKind)

/-- The bytes that travel among those of the other arguments. -/
def packed : Part → Bytes
  | scalar value => value.encodeBE
  | array values => values.raw
  | vector values => (Scalar.ofBits .u64 values.size).encodeBE
  | buffer values => (Scalar.ofBits .u32 values.size).encodeBE

/-- What passes apart from the other arguments. -/
def transfer : Part → Transcript
  | scalar _ | array _ => []
  | vector values | buffer values => .transfer values

/-- All that passes for a part. -/
def transcript (p : Part) : Transcript := ofBytes p.packed ++ p.transfer

/-- The value that the receiver gets. -/
def value : Part → ArgumentValue
  | scalar value => .scalar value
  | array values => .array values
  | vector values => .vector values
  | buffer values => .buffer values

/-- The values of the parameters that a part supplies; a buffer also tells its length. -/
def values : Part → List ArgumentValue
  | buffer values => [.scalar (Scalar.ofBits .u32 values.size), .buffer values]
  | p => [p.value]

/-- Whether a part is a value of a declared kind. -/
inductive IsOf : ArgumentKind → Part → Prop
  | scalar (value : Scalar) : IsOf (.scalar value.type) (.scalar value)
  | array (values : Elements) : IsOf (.array values.type values.size) (.array values)
  | vector (values : Elements) : IsOf (.vector values.type) (.vector values)

/-- The bytes of some parts that travel in the envelope: up to the number of elements of the first
vector. -/
def inEnvelope : List Part → Bytes
  | [] => []
  | vector values :: _ => (vector values).packed
  | p :: ps => p.packed ++ inEnvelope ps

/-- What passes for some parts after the envelope. -/
def afterEnvelope : List Part → Transcript
  | [] => []
  | vector values :: ps => .transfer values ++ ps.flatMap transcript
  | p :: ps => p.transfer ++ afterEnvelope ps

/-- Whether a memory can hold the bytes of some parts. -/
abbrev AreHeld (parts : List Part) : Prop := (parts.flatMap packed).length < UInt64.size

/-- Whether there are no more elements than one transfer can hold. -/
def IsTransferable : Part → Prop
  | scalar _ | array _ => True
  | vector values | buffer values => values.size ≤ transferLimit values.type

theorem transferLimit_le (element : Wire.ScalarType) : transferLimit element ≤ 67108864 := by
  cases element <;> decide

/-- The number of elements that can be transferred fits an acknowledgement. -/
theorem size_lt_of_le_transferLimit {n : Nat} {element : Wire.ScalarType}
    (h : n ≤ transferLimit element) : n < UInt32.size :=
  Nat.lt_of_le_of_lt (Nat.le_trans h (transferLimit_le element)) (by decide)

/-- A part takes as many bytes as its kind says. -/
theorem length_packed_of_isOf {kind : ArgumentKind} {p : Part} (h : IsOf kind p) :
    p.packed.length = kind.extent := by
  cases h with
  | scalar value => exact value.length_encodeBE
  | array values => rw [packed, ArgumentKind.extent, values.length_raw, Nat.mul_comm]
  | vector values => exact Scalar.length_encodeBE _

/-- Only vectors and buffers pass in two pieces. -/
theorem transfer_of_isOf {kind : ArgumentKind} {p : Part} (h : IsOf kind p)
    (hkind : kind.category ≠ .vector) : p.transfer = [] := by
  cases h with
  | scalar | array => rfl
  | vector values => exact absurd rfl hkind

/-- What passes in one piece leaves the rest in the envelope. -/
theorem inEnvelope_append {parts : List Part} (h : parts.flatMap transfer = []) (rest : List Part) :
    inEnvelope (parts ++ rest) = parts.flatMap packed ++ inEnvelope rest := by
  induction parts with
  | nil => rfl
  | cons p ps ih =>
    rw [List.flatMap_cons, List.append_eq_nil_iff] at h
    cases p with
    | vector | buffer => cases h.1
    | scalar | array => simp [inEnvelope, ih h.2]

theorem afterEnvelope_append {parts : List Part} (h : parts.flatMap transfer = [])
    (rest : List Part) : afterEnvelope (parts ++ rest) = afterEnvelope rest := by
  induction parts with
  | nil => rfl
  | cons p ps ih =>
    rw [List.flatMap_cons, List.append_eq_nil_iff] at h
    cases p with
    | vector | buffer => cases h.1
    | scalar | array => exact ih h.2

theorem values_of_isOf {kind : ArgumentKind} {p : Part} (h : IsOf kind p) :
    p.values = [p.value] := by
  cases h <;> rfl

end Instrument.Network.Client.Part

namespace Instrument.Interface

open Network.Client (Part)
open Wire (Elements)

/-- Whether parts are values of some arguments, one for each in their order. -/
abbrev ArePassed (arguments : List Argument) (parts : List Part) : Prop :=
  List.Forall₂ (fun a p => Part.IsOf a.kind p) arguments parts

/-- Whether the parts are a call of an operation: a value for each argument, or, if there is a
buffer, for each argument but its length, and then the buffer. No size of the operation loses
anything, as is the case whenever a memory can hold the values (see `fits_of_areHeld`). -/
inductive Operation.IsCall (op : Operation) : List Part → Prop
  | plain {parts : List Part} (hbuffer : op.buffer? = none)
      (hparts : ArePassed op.arguments parts) (hfits : op.Fits) : IsCall op parts
  | buffered {parts : List Part} {b : Buffer} {values : Elements} (hbuffer : op.buffer? = some b)
      (hparts : ArePassed op.arguments.dropLast parts) (hvalues : values.type = b.element)
      (hfits : op.Fits) : IsCall op (parts ++ [.buffer values])

theorem Operation.IsCall.fits {op : Operation} {parts : List Part} (h : op.IsCall parts) :
    op.Fits := by
  cases h <;> assumption

/-- The names of what a call passes: the arguments in the order of their declaration, then the
buffer. -/
def Operation.passedNames (op : Operation) : List String :=
  op.arguments.map (·.name) ++ op.buffer?.toList.map (·.pointer)

/-- What the receiver of a call gets: one entry for each name. -/
def Operation.received (op : Operation) (parts : List Part) : Arguments :=
  op.passedNames.zip (parts.flatMap Part.values)

theorem isOf_of_arePassed {arguments : List Argument} {parts : List Part}
    (h : ArePassed arguments parts) : ∀ p ∈ parts, ∃ kind, Part.IsOf kind p := by
  induction h with
  | nil => simp
  | cons hfirst _ ih =>
    intro p hp
    rcases List.mem_cons.1 hp with rfl | hp
    · exact ⟨_, hfirst⟩
    · exact ih p hp

/-- Parts take as many bytes as the arguments that they are passed for. -/
theorem length_flatMap_packed {arguments : List Argument} {parts : List Part}
    (h : ArePassed arguments parts) :
    (parts.flatMap Part.packed).length = extents (arguments.map (·.kind)) := by
  induction h with
  | nil => rfl
  | cons hfirst _ ih =>
    rw [List.flatMap_cons, List.length_append, ih, Part.length_packed_of_isOf hfirst, List.map_cons,
      extents_cons]

/-- What lies in the envelope are the arguments up to the first vector. -/
theorem length_inEnvelope {arguments : List Argument} {parts : List Part}
    (h : ArePassed arguments parts) :
    (Part.inEnvelope parts).length = extents (upToVector (arguments.map (·.kind))) := by
  induction h with
  | nil => rfl
  | @cons a p arguments parts hfirst _ ih =>
    have hlength := Part.length_packed_of_isOf hfirst
    rw [List.map_cons]
    by_cases hvector : a.kind.category = .vector
    · rw [upToVector_cons_of_vector hvector]
      generalize a.kind = kind at hfirst hvector hlength
      cases hfirst with
      | scalar | array => cases hvector
      | vector => exact hlength
    · have hup : upToVector ([a.kind] ++ arguments.map (·.kind)) =
          [a.kind] ++ upToVector (arguments.map (·.kind)) :=
        upToVector_append (by simpa using hvector) _
      have hin : Part.inEnvelope ([p] ++ parts) = p.packed ++ Part.inEnvelope parts := by
        rw [Part.inEnvelope_append (by simpa using Part.transfer_of_isOf hfirst hvector),
          List.flatMap_singleton]
      rw [List.singleton_append] at hin
      rw [hin, List.length_append, hlength, ih, ← extents_cons]
      exact congrArg extents hup.symm

theorem flatMap_values_of_arePassed {arguments : List Argument} {parts : List Part}
    (h : ArePassed arguments parts) : parts.flatMap Part.values = parts.map Part.value := by
  induction h with
  | nil => rfl
  | cons hfirst _ ih =>
    rw [List.flatMap_cons, ih, Part.values_of_isOf hfirst, List.map_cons, List.singleton_append]

end Instrument.Interface
