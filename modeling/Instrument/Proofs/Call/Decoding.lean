import Instrument.Proofs.Call.Receiving
import Instrument.Proofs.Interface.Described

/-!
Decoding a whole call. Main statement: from the bytes of its envelope and what passes after it, a
call of a described operation is decoded to just the values that are passed, one for each parameter.
-/

namespace Instrument

open Wire (Scalar Elements)
open Interface (Argument ArePassed Buffer Operation)
open Network.Client (Part)
open Dialogue (Completes Reaches)

namespace CallSite

variable {site : CallSite} {accept : Arguments → Nat → Nat}

/-- The packs of an operation take up its arguments. -/
theorem areLoads_packs {parts : List Part} (hparts : ArePassed site.operation.arguments parts)
    (hfits : site.operation.Fits) :
    AreLoads site
      (Interface.packs ((site.operation.arguments.map (·.kind)).map Interface.ArgumentKind.category))
      site.operation.arguments parts :=
  areLoads_of_takeUp (Interface.takeUp_packs _) hparts hfits.packs

theorem length_inEnvelope_lt {parts : List Part}
    (hparts : ArePassed site.operation.arguments parts) (hfits : site.operation.Fits) :
    (Part.inEnvelope parts).length < UInt64.size :=
  Interface.length_inEnvelope hparts ▸ hfits.envelope

theorem payloadSize_layout {parts : List Part} (hparts : ArePassed site.operation.arguments parts)
    (hfits : site.operation.Fits) :
    site.operation.layout.payloadSize = (Part.inEnvelope parts).length := by
  rw [Interface.length_inEnvelope hparts]
  exact hfits.payloadSize_eq

/-- The packs of an operation are read from the envelope and from what follows it. -/
theorem completes_readPacks_layout (accept : Arguments → Nat → Nat) {parts : List Part}
    (hparts : ArePassed site.operation.arguments parts) (hfits : site.operation.Fits)
    (htransferable : ∀ p ∈ parts, p.IsTransferable) :
    Completes accept
      (site.readPacks (Part.inEnvelope parts) [] site.operation.layout.packs).run
      (Part.afterEnvelope parts) (.ok (named site.operation.arguments parts)) :=
  (areLoads_packs hparts hfits).completes_readPacks htransferable [] rfl
    (length_inEnvelope_lt hparts hfits) []

/-! ### Buffers -/

theorem find?_named_append {others : List Argument} (parts : List Part) {name : String}
    (hunique : ∀ a ∈ others, a.name ≠ name)
    (value : ArgumentValue) :
    Arguments.find? (named others parts ++ [(name, value)]) name = some value := by
  have hnone : List.find? (·.1 == name) (named others parts) = none := by
    rw [List.find?_eq_none]
    intro entry hentry
    obtain ⟨a, ha, hname⟩ := List.mem_map.1 (List.of_mem_zip hentry).1
    simpa [← hname] using hunique a ha
  simp [Arguments.find?, hnone]

theorem word_of_find? {found : Arguments} {name : String} {n : Nat}
    (h : found.find? name = some (.scalar (Scalar.ofBits .u32 n))) :
    found.word name = .ok (UInt32.ofNat n) := by
  have hbits : UInt32.ofNat (Scalar.ofBits .u32 n).bits = UInt32.ofNat n := UInt32.ofNat_mod_size
  rw [Arguments.word, Arguments.scalar, h]
  simp [hbits, Except.map]

/-- The elements of a buffer are received once the receiver is ready for as many as there are. -/
theorem completes_receiveBuffer {found : Arguments} {b : Buffer} {values : Elements}
    (htype : values.type = b.element)
    (hfound : found.find? b.length = some (.scalar (Scalar.ofBits .u32 values.size)))
    (hready : min (accept found values.size) (transferLimit values.type) = values.size) :
    Completes accept (site.receiveBuffer found b).run (.transfer values) (.ok values) := by
  have hlt : values.size < UInt32.size :=
    Part.size_lt_of_le_transferLimit (hready ▸ Nat.min_le_right _ _)
  have hrequested : (UInt32.ofNat values.size).toNat = values.size :=
    UInt32.toNat_ofNat_of_lt' hlt
  unfold receiveBuffer
  rw [word_of_find? hfound, ← List.nil_append (Transcript.transfer _)]
  refine Exchange.completes_bind (Exchange.completes_lift _) ?_
  simp only [hrequested, ← htype]
  rw [← List.nil_append (Transcript.transfer _)]
  refine Exchange.completes_bind (Exchange.completes_consent _ _) ?_
  simp only [hready, ne_eq, not_true_eq_false, if_false]
  refine Exchange.completes_bind (t := [.ready _]) (Exchange.completes_acknowledge _) ?_
  rw [← List.append_nil (List.map _ _), ← values.length_raw]
  refine Exchange.completes_bind (Exchange.completes_load _ _) ?_
  rw [values.ofBytes?_raw]
  exact Exchange.completes_require _ _

/-! ### Calls -/

/-- Decoding reads the packs and then, if there is one, the buffer. -/
theorem reaches_decode_of_readPacks {payload : Bytes} {found : Arguments} {t : Transcript}
    (hsize : site.operation.layout.payloadSize = payload.length)
    (hpacks : Completes accept (site.readPacks payload [] site.operation.layout.packs).run t
      (.ok found))
    {u : Transcript} {d : Dialogue (Except Error Arguments)}
    (hbuffer : Reaches accept (match site.operation.buffer? with
      | none => (return found : Exchange Arguments)
      | some b => do
        return found ++ [(b.pointer, ArgumentValue.buffer (← site.receiveBuffer found b))]).run
      u d) :
    Reaches accept (site.decode site.operation.layout payload).run (t ++ u) d := by
  unfold decode
  rw [if_neg (by simp [hsize])]
  exact Exchange.reaches_bind hpacks hbuffer

/-- Without a buffer, all is read from the packs. -/
theorem completes_decode_plain {parts : List Part} (hnone : site.operation.buffer? = none)
    (hparts : ArePassed site.operation.arguments parts) (hfits : site.operation.Fits)
    (htransferable : ∀ p ∈ parts, p.IsTransferable) :
    Completes accept (site.decode site.operation.layout (Part.inEnvelope parts)).run
      (Part.afterEnvelope parts) (.ok (site.operation.received parts)) := by
  have hpacks := completes_readPacks_layout accept hparts hfits htransferable
  have hreceived : site.operation.received parts = named site.operation.arguments parts := by
    simp [Operation.received, Operation.passedNames, hnone,
      Interface.flatMap_values_of_arePassed hparts, named]
  rw [hreceived, ← List.append_nil (Part.afterEnvelope _)]
  refine reaches_decode_of_readPacks (payloadSize_layout hparts hfits) hpacks ?_
  rw [hnone]
  exact Exchange.completes_pure _

section Buffered

variable {parts : List Part} {b : Buffer} {values : Elements} {others : List Argument}
  {length : Argument}

/-- The number of the elements of a buffer is passed as the last argument. -/
def counted (parts : List Part) (values : Elements) : List Part :=
  parts ++ [.scalar (Scalar.ofBits .u32 values.size)]

theorem arePassed_counted (values : Elements)
    (harguments : site.operation.arguments = others ++ [length])
    (hlength : Interface.IsLengthOf length b others) (hparts : ArePassed others parts) :
    ArePassed site.operation.arguments (counted parts values) := by
  have hword : Part.IsOf length.kind (.scalar (Scalar.ofBits .u32 values.size)) := by
    rw [hlength.kind]
    exact .scalar (Scalar.ofBits .u32 values.size)
  exact harguments ▸ List.rel_append hparts (.cons hword .nil)

/-- What is received before the elements of a buffer. -/
theorem dropLast_received (values : Elements) (hbuffer : site.operation.buffer? = some b)
    (harguments : site.operation.arguments = others ++ [length]) (hparts : ArePassed others parts) :
    site.operation.received (parts ++ [.buffer values]) =
      named site.operation.arguments (counted parts values) ++ [(b.pointer, .buffer values)] ∧
    (site.operation.received (parts ++ [.buffer values])).dropLast =
      named site.operation.arguments (counted parts values) := by
  have hlen : (others.map (·.name)).length = (parts.map Part.value).length := by
    simpa using hparts.length_eq
  have hreceived : site.operation.received (parts ++ [.buffer values]) =
      named site.operation.arguments (counted parts values) ++ [(b.pointer, .buffer values)] := by
    simp only [Operation.received, Operation.passedNames, hbuffer, harguments, named, counted,
      List.flatMap_append, Interface.flatMap_values_of_arePassed hparts, List.map_append,
      List.append_assoc, List.zip_append hlen]
    rfl
  exact ⟨hreceived, by rw [hreceived, List.dropLast_concat]⟩

theorem find?_length (values : Elements)
    (harguments : site.operation.arguments = others ++ [length])
    (hlength : Interface.IsLengthOf length b others) (hparts : ArePassed others parts) :
    Arguments.find? (named site.operation.arguments (counted parts values)) b.length =
      some (.scalar (Scalar.ofBits .u32 values.size)) := by
  have hlast : named [length] [.scalar (Scalar.ofBits .u32 values.size)] =
      [(b.length, .scalar (Scalar.ofBits .u32 values.size))] := by
    rw [← hlength.name]
    rfl
  rw [harguments, counted, named_append hparts, hlast]
  exact find?_named_append parts hlength.unique _

/-- The elements of a buffer are all that is not in the envelope. -/
theorem reaches_decode_of_receiveBuffer (hbuffer : site.operation.buffer? = some b)
    (harguments : site.operation.arguments = others ++ [length])
    (hlength : Interface.IsLengthOf length b others) (hparts : ArePassed others parts)
    (hfits : site.operation.Fits)
    (htransferable : ∀ p ∈ parts, p.IsTransferable) {t : Transcript}
    {d : Dialogue (Except Error Arguments)}
    (hreceive : Reaches accept (do
      return named site.operation.arguments (counted parts values) ++ [(b.pointer,
        ArgumentValue.buffer (← site.receiveBuffer
          (named site.operation.arguments (counted parts values)) b))] : Exchange Arguments).run t
      d) :
    Reaches accept
      (site.decode site.operation.layout (Part.inEnvelope (parts ++ [.buffer values]))).run t d := by
  have hfull := arePassed_counted values harguments hlength hparts
  have hnone := flatMap_transfer_of_arePassed hparts hlength.noVector
  -- in the envelope a buffer is the word that counts its elements
  have hin : Part.inEnvelope (parts ++ [.buffer values]) =
      Part.inEnvelope (counted parts values) := by
    rw [counted, Part.inEnvelope_append hnone, Part.inEnvelope_append hnone]
    rfl
  have hafter : Part.afterEnvelope (counted parts values) = [] := by
    rw [counted, Part.afterEnvelope_append hnone]
    rfl
  have hpacks := completes_readPacks_layout accept hfull hfits (by
    intro p hp
    rcases List.mem_append.1 hp with hp | hp
    · exact htransferable p hp
    · rw [List.mem_singleton.1 hp]
      trivial)
  rw [hafter] at hpacks
  rw [hin]
  refine reaches_decode_of_readPacks (payloadSize_layout hfull hfits) hpacks ?_
  rw [hbuffer]
  exact hreceive

theorem completes_decode_of_receiveBuffer (hbuffer : site.operation.buffer? = some b)
    (harguments : site.operation.arguments = others ++ [length])
    (hlength : Interface.IsLengthOf length b others) (hparts : ArePassed others parts)
    (hfits : site.operation.Fits)
    (htransferable : ∀ p ∈ parts, p.IsTransferable) {t : Transcript}
    {result : Except Error Elements}
    (hreceive : Completes accept (site.receiveBuffer
      (named site.operation.arguments (counted parts values)) b).run t result) :
    Completes accept
      (site.decode site.operation.layout (Part.inEnvelope (parts ++ [.buffer values]))).run t
      (result.map fun values' =>
        named site.operation.arguments (counted parts values) ++ [(b.pointer, .buffer values')]) :=
  reaches_decode_of_receiveBuffer hbuffer harguments hlength hparts hfits htransferable
    (Exchange.completes_bind_pure hreceive)

theorem completes_decode_buffered (hbuffer : site.operation.buffer? = some b)
    (harguments : site.operation.arguments = others ++ [length])
    (hlength : Interface.IsLengthOf length b others) (hparts : ArePassed others parts)
    (htype : values.type = b.element) (hfits : site.operation.Fits)
    (htransferable : ∀ p ∈ parts, p.IsTransferable)
    (hready : min (accept (site.operation.received (parts ++ [.buffer values])).dropLast
      values.size) (transferLimit values.type) = values.size) :
    Completes accept
      (site.decode site.operation.layout (Part.inEnvelope (parts ++ [.buffer values]))).run
      (Part.afterEnvelope (parts ++ [.buffer values]))
      (.ok (site.operation.received (parts ++ [.buffer values]))) := by
  obtain ⟨hreceived, hfound⟩ := dropLast_received values hbuffer harguments hparts
  rw [hfound] at hready
  have hnone := flatMap_transfer_of_arePassed hparts hlength.noVector
  have hafter : Part.afterEnvelope (parts ++ [.buffer values]) = .transfer values := by
    rw [Part.afterEnvelope_append hnone]
    exact List.append_nil _
  rw [hafter, hreceived]
  exact completes_decode_of_receiveBuffer hbuffer harguments hlength hparts hfits htransferable
    (completes_receiveBuffer htype (find?_length values harguments hlength hparts) hready)

end Buffered

/-- A call is decoded if the receiver is ready for all that is transferred. -/
theorem completes_decode_of_ready (hop : site.operation.IsDescribed) {parts : List Part}
    (hcall : site.operation.IsCall parts) (htransferable : ∀ p ∈ parts, p.IsTransferable)
    (hready : ∀ values, Part.buffer values ∈ parts →
      min (accept (site.operation.received parts).dropLast values.size)
        (transferLimit values.type) = values.size) :
    Completes accept (site.decode site.operation.layout (Part.inEnvelope parts)).run
      (Part.afterEnvelope parts) (.ok (site.operation.received parts)) := by
  cases hcall with
  | plain hnone hparts hfits => exact completes_decode_plain hnone hparts hfits htransferable
  | @buffered parts b values hbuffer hparts htype hfits =>
    obtain ⟨others, length, harguments, hlength⟩ := hop.exists_isLengthOf hbuffer
    rw [harguments, List.dropLast_concat] at hparts
    exact completes_decode_buffered hbuffer harguments hlength hparts htype hfits
      (fun p hp => htransferable p (List.mem_append_left _ hp)) (hready values List.mem_concat_self)

theorem completes_decode (hop : site.operation.IsDescribed) {parts : List Part}
    (hcall : site.operation.IsCall parts) (htransferable : ∀ p ∈ parts, p.IsTransferable)
    (haccept : ∀ values, Part.buffer values ∈ parts →
      accept (site.operation.received parts).dropLast values.size = values.size) :
    Completes accept (site.decode site.operation.layout (Part.inEnvelope parts)).run
      (Part.afterEnvelope parts) (.ok (site.operation.received parts)) :=
  completes_decode_of_ready hop hcall htransferable fun values hmem => by
    rw [haccept values hmem]
    exact Nat.min_eq_left (htransferable _ hmem)

end CallSite

end Instrument
