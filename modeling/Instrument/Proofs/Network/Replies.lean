import Instrument.Interface.DeviceTable
import Instrument.Proofs.Call.Conforming
import Instrument.Proofs.Interface.Described
import Instrument.Proofs.Network.Yields
import Instrument.Proofs.Wire.Tuples

/-!
Replies from the device to the client. Main statement: every reply that conforms to its operation is
read back as just the values of the device, and just its bytes are taken, whether or not the client
knows the signature of the operation.
-/

namespace Instrument.Wire

/-- A truth value is one of two. -/
theorem Scalar.exists_ofBool {value : Scalar} (h : value.type = .bool) :
    ∃ b, value = ofBool b := by
  obtain ⟨type, bits, hlt⟩ := value
  subst h
  have hbits : bits < 2 := hlt
  obtain rfl | rfl : bits = 0 ∨ bits = 1 := by omega
  · exact ⟨false, rfl⟩
  · exact ⟨true, rfl⟩

end Instrument.Wire

namespace Instrument.Network.Client

open ClientM (Yields)
open Interface (Operation)
open Signature (ReturnShape)
open Wire (Elements Scalar ScalarType TupleFormat bytesBE bytesLE)

variable {σ : Type} {c : Client σ} {rest : Bytes}

/-! ### Reading from the stream -/

/-- Something that a client reads gives a value, after which it has the rest to read. -/
def Reads {α : Type} (act : ClientM σ α) (c : Client σ) (a : α) (rest : Bytes) : Prop :=
  ∃ c', Yields act c a c' ∧ c'.connection.pending = rest

theorem reads_pure {α : Type} (a : α) (h : c.connection.pending = rest) :
    Reads (pure a) c a rest := ⟨c, yields_pure a c, h⟩

theorem reads_bind {α β : Type} {act : ClientM σ α} {f : α → ClientM σ β} {a : α} {b : β}
    {rest' : Bytes} (h : Reads act c a rest)
    (hf : ∀ c', c'.connection.pending = rest → Reads (f a) c' b rest') :
    Reads (act >>= f) c b rest' := by
  obtain ⟨c', hact, hpending⟩ := h
  obtain ⟨c'', hnext, hrest⟩ := hf c' hpending
  exact ⟨c'', yields_bind hact hnext, hrest⟩

theorem reads_read {taken : Bytes} (h : c.connection.pending = taken ++ rest) :
    Reads (read taken.length) c taken rest := by
  obtain ⟨connection, hexactly, hrest⟩ := Connection.exactly_of_pending h
  exact ⟨_, yields_checked (yields_receive hexactly), hrest⟩

theorem reads_word {n : Nat} (hn : n < UInt32.size)
    (h : c.connection.pending = bytesBE 4 n ++ rest) :
    Reads (checked (receive (·.word))) c (UInt32.ofNat n) rest := by
  obtain ⟨connection, hexactly, hrest⟩ := Connection.exactly_of_pending h
  rw [Wire.length_bytesBE] at hexactly
  have hword : c.connection.word = (.ok (UInt32.ofNat n), connection) := by
    rw [Connection.word, hexactly]
    simp [Except.map, Wire.valueBE_bytesBE_of_lt (k := 4) hn]
  exact ⟨_, yields_checked (yields_receive hword), hrest⟩

/-- A client checks the shape of a reply only if it knows its signature. -/
theorem yields_expectShape {r : Response} {fits : ReturnShape → Bool} {expected : String}
    (hfits : ∀ shape, r.declared? = some shape → fits shape = true) (c : Client σ) :
    Yields (expectShape r fits expected) c () c := by
  rw [expectShape]
  cases hdeclared : r.declared? with
  | none => exact yields_pure () c
  | some shape =>
    simp only [hfits shape hdeclared, if_true]
    exact yields_pure () c

theorem reads_expectShape {r : Response} {fits : ReturnShape → Bool} {expected : String}
    (hfits : ∀ shape, r.declared? = some shape → fits shape = true)
    (h : c.connection.pending = rest) : Reads (expectShape r fits expected) c () rest :=
  ⟨c, yields_expectShape hfits c, h⟩

/-! ### Decoders -/

theorem reads_readBool {r : Response} (b : Bool)
    (hfits : ∀ shape, r.declared? = some shape → shape = .scalar "bool")
    (h : c.connection.pending = bytesLE 4 (Scalar.ofBool b).bits ++ rest) :
    Reads (readBool r) c b rest := by
  refine reads_bind (reads_expectShape (fun shape hshape => by simp [hfits shape hshape]) h) ?_
  intro c' hpending
  have hread := reads_read hpending
  rw [Wire.length_bytesLE] at hread
  refine reads_bind hread fun c'' hrest => ?_
  cases b with
  | false => exact reads_pure false hrest
  | true => exact reads_pure true hrest

theorem reads_readScalar {r : Response} {value : Scalar} (htype : value.type ≠ .bool)
    (hfits : ∀ shape, r.declared? = some shape → shape = .scalar value.type.elementName)
    (h : c.connection.pending = value.encodeLE ++ rest) :
    Reads (readScalar r value.type) c value rest := by
  rw [readScalar, if_neg htype]
  refine reads_bind (reads_expectShape (fun shape hshape => by simp [hfits shape hshape]) h) ?_
  intro c' hpending
  have hread := reads_read hpending
  rw [Scalar.length_encodeLE] at hread
  refine reads_bind hread fun c'' hrest => ?_
  rw [Scalar.valueLE_encodeLE, Scalar.ofBits_bits]
  exact reads_pure value hrest

theorem reads_valuesOf (r : Response) (values : Elements) (h : c.connection.pending = rest) :
    Reads (valuesOf r values.type values.raw) c values.toList rest := by
  rw [valuesOf, values.ofBytes?_raw]
  exact reads_pure _ h

/-- Elements of the declared type are not of another. -/
theorem otherElement?_eq_none {r : Response} {type : ScalarType}
    (h : ∀ shape, r.declared? = some shape → ∀ dtype,
      (shape = .vector dtype ∨ shape = .buffer dtype ∨ ∃ length, shape = .array dtype length) →
      dtype = type.elementName) : r.otherElement? type = none := by
  rw [Response.otherElement?]
  cases hdeclared : r.declared? with
  | none => rfl
  | some shape =>
    have hname := ScalarType.ofElementName?_elementName type
    cases shape with
    | vector dtype =>
      obtain rfl := h _ hdeclared dtype (.inl rfl)
      simp [hname]
    | buffer dtype =>
      obtain rfl := h _ hdeclared dtype (.inr (.inl rfl))
      simp [hname]
    | array dtype length =>
      obtain rfl := h _ hdeclared dtype (.inr (.inr ⟨length, rfl⟩))
      simp [hname]
    | _ => rfl

theorem reads_readArray {r : Response} {values : Elements}
    (hfits : ∀ shape, r.declared? = some shape →
      ∃ length : UInt64, shape = .array values.type.elementName length ∧
        length.toNat = values.size)
    (h : c.connection.pending = values.raw ++ rest) :
    Reads (readArray r values.type values.size) c values.toList rest := by
  have hother : r.otherElement? values.type = none := by
    refine otherElement?_eq_none fun shape hshape dtype hdtype => ?_
    obtain ⟨length, rfl, -⟩ := hfits shape hshape
    simpa [eq_comm] using hdtype
  have hvalues (c' : Client σ) (hpending : c'.connection.pending = values.raw ++ rest) :
      Reads (do valuesOf r values.type (← read (values.size * values.type.width))) c' values.toList
        rest := by
    have hread := reads_read hpending
    rw [values.length_raw] at hread
    exact reads_bind hread fun c'' hrest => reads_valuesOf r values hrest
  refine reads_bind (reads_expectShape (fun shape hshape => ?_) h) fun c' hpending => ?_
  · obtain ⟨length, rfl, -⟩ := hfits shape hshape
    rfl
  cases hdeclared : r.declared? with
  | none => exact hvalues c' hpending
  | some shape =>
    obtain ⟨length, rfl, hlength⟩ := hfits shape hdeclared
    simp only [hother, hlength, ne_eq, not_true_eq_false, if_false]
    exact hvalues c' hpending

/-- Elements are read after their number, whether they are declared as a vector or as a transfer. -/
theorem reads_readCounted {r : Response} {values : Elements} (hsize : values.size < UInt32.size)
    (hfits : ∀ shape, r.declared? = some shape →
      shape = .vector values.type.elementName ∨ shape = .buffer values.type.elementName)
    (h : c.connection.pending = bytesBE 4 values.size ++ values.raw ++ rest) :
    Reads (readCounted r values.type) c values.toList rest := by
  have hother : r.otherElement? values.type = none := by
    refine otherElement?_eq_none fun shape hshape dtype hdtype => ?_
    rcases hfits shape hshape with rfl | rfl <;> simpa [eq_comm] using hdtype
  rw [List.append_assoc] at h
  refine reads_bind (reads_word hsize h) fun c' hpending => ?_
  have hread := reads_read hpending
  rw [values.length_raw] at hread
  simp only [hother, UInt32.toNat_ofNat_of_lt' hsize]
  exact reads_bind hread fun c'' hrest => reads_valuesOf r values hrest

theorem reads_readVector {r : Response} {values : Elements} (hsize : values.size < UInt32.size)
    (hfits : ∀ shape, r.declared? = some shape →
      shape = .vector values.type.elementName ∨ shape = .buffer values.type.elementName)
    (h : c.connection.pending = bytesBE 4 values.size ++ values.raw ++ rest) :
    Reads (readVector r values.type) c values.toList rest := by
  refine reads_bind (reads_expectShape (fun shape hshape => ?_) h) fun c' hpending =>
    reads_readCounted hsize hfits hpending
  rcases hfits shape hshape with rfl | rfl <;> rfl

theorem reads_readBuffer {r : Response} {values : Elements} (hsize : values.size < UInt32.size)
    (hfits : ∀ shape, r.declared? = some shape →
      shape = .vector values.type.elementName ∨ shape = .buffer values.type.elementName)
    (h : c.connection.pending = bytesBE 4 values.size ++ values.raw ++ rest) :
    Reads (readBuffer r values.type values.size) c values.toList rest := by
  refine reads_bind (reads_expectShape (fun shape hshape => ?_) h) fun c' hpending => ?_
  · rcases hfits shape hshape with rfl | rfl <;> rfl
  refine reads_bind (reads_readCounted hsize hfits hpending) fun c'' hrest => ?_
  rw [values.length_toList]
  simp only [ne_eq, not_true_eq_false, if_false]
  exact reads_pure _ hrest

theorem reads_readTuple {r : Response} {fields : List ScalarType} {values : List Scalar}
    {bytes : Bytes} (hbytes : TupleFormat.write ⟨.big, fields⟩ values = .ok bytes)
    (hfits : ∀ shape, r.declared? = some shape →
      shape = .tuple (String.ofList (fields.map ScalarType.tag)))
    (h : c.connection.pending = bytes ++ rest) :
    Reads (readTuple r (String.ofList (fields.map ScalarType.tag))) c values rest := by
  obtain ⟨hlen, hunpack⟩ := TupleFormat.unpack_of_write hbytes
  refine reads_bind ⟨c, yields_lift (TupleFormat.read_tags fields) c, h⟩ fun c₁ h₁ => ?_
  refine reads_bind (reads_expectShape (fun shape hshape => ?_) h₁) fun c₂ h₂ => ?_
  · simp [hfits shape hshape, TupleFormat.ofText_tags]
  have hread := reads_read h₂
  rw [hlen] at hread
  exact reads_bind hread fun c₃ h₃ => ⟨c₃, yields_lift hunpack c₃, h₃⟩

/-! ### Replies -/

/-- What the client decodes a reply of an operation with, and what it has to get. Elements whose
number is sent can be read with their number or without it. -/
inductive Decodes (op : Operation) : Reply → {α : Type} → (Response → ClientM σ α) → α → Prop
  | none : Decodes op .none (expectShape · (· == .void) "void") ()
  | scalar (value : Scalar) : Decodes op (.scalar value) (readScalar · value.type) value
  | bool {value : Scalar} (b : Bool) (hvalue : value = Scalar.ofBool b) :
      Decodes op (.scalar value) readBool b
  | array {values : Elements} (hmode : op.mode = .read)
      (hresult : op.result = .array values.type values.size) :
      Decodes op (.elements values) (readArray · values.type values.size) values.toList
  | vector {values : Elements}
      (hcounted : op.mode = .readArray ∨ op.result = .vector values.type) :
      Decodes op (.elements values) (readVector · values.type) values.toList
  | buffer {values : Elements}
      (hcounted : op.mode = .readArray ∨ op.result = .vector values.type) :
      Decodes op (.elements values) (readBuffer · values.type values.size) values.toList
  | tuple {fields : List ScalarType} {values : List Scalar} (hresult : op.result = .tuple fields) :
      Decodes op (.tuple values) (readTuple · (String.ofList (fields.map ScalarType.tag))) values

/-- Every reply that conforms can be decoded. -/
theorem exists_decodes {op : Operation} {reply : Reply} (h : reply.Conforms op) :
    ∃ (α : Type) (decoder : Response → ClientM σ α) (a : α), Decodes op reply decoder a := by
  cases h with
  | none => exact ⟨_, _, _, .none⟩
  | scalar => exact ⟨_, _, _, .scalar _⟩
  | array hmode hresult => exact ⟨_, _, _, .array hmode hresult⟩
  | vector _ hresult => exact ⟨_, _, _, .vector (.inr hresult)⟩
  | tuple _ hresult => exact ⟨_, _, _, .tuple hresult⟩
  | transfer hmode => exact ⟨_, _, _, .buffer (.inl hmode)⟩

/-- The shape of elements that follow their number. -/
theorem shape_of_counted {op : Operation} {values : Elements}
    (h : op.mode = .readArray ∧ op.result.element? = some values.type ∨
      op.mode = .read ∧ op.result = .vector values.type) :
    Signature.shape op.result (op.mode == .readArray) = .vector values.type.elementName ∨
      Signature.shape op.result (op.mode == .readArray) = .buffer values.type.elementName := by
  rcases h with ⟨hmode, hresult⟩ | ⟨hmode, hresult⟩
  · exact .inr (by simp [Signature.shape, hmode, hresult])
  · exact .inl (by rw [hmode, hresult]; rfl)

/-- Decoding what is sent gives the values of the device. -/
theorem reads_of_isSent {op : Operation} (hop : op.IsDescribed) {reply : Reply}
    {out : Option Bytes} (hsent : reply.IsSent op out) {r : Response}
    (hshape : ∀ shape, r.declared? = some shape →
      shape = Signature.shape op.result (op.mode == .readArray))
    (h : c.connection.pending = out.getD [] ++ rest) {α : Type} {decoder : Response → ClientM σ α}
    {a : α} (hdecodes : Decodes op reply decoder a) : Reads (decoder r) c a rest := by
  -- by what was sent; the decoder is then one of the few that can read it
  cases hsent with
  | none hmode =>
    cases hdecodes
    refine reads_expectShape (fun shape hdeclared => ?_) h
    rw [hshape shape hdeclared, hop.result_of_write hmode, hmode]
    rfl
  | @bool value hmode hresult htype =>
    have hfits : ∀ shape, r.declared? = some shape → shape = .scalar "bool" := by
      intro shape hdeclared
      rw [hshape shape hdeclared, hresult, htype, hmode]
      rfl
    cases hdecodes with
    | scalar =>
      obtain ⟨b, rfl⟩ := Scalar.exists_ofBool htype
      exact reads_bind (reads_readBool b hfits h) fun c' hrest => reads_pure _ hrest
    | bool b hvalue =>
      subst hvalue
      exact reads_readBool b hfits h
  | @scalar value hmode hresult htype =>
    cases hdecodes with
    | scalar =>
      refine reads_readScalar htype (fun shape hdeclared => ?_) h
      rw [hshape shape hdeclared, hresult, hmode]
      rfl
    | bool b hvalue => exact absurd (congrArg Scalar.type hvalue) htype
  | @array values hmode hresult =>
    cases hdecodes with
    | array =>
      refine reads_readArray (fun shape hdeclared => ⟨UInt64.ofNat values.size, ?_, ?_⟩) h
      · rw [hshape shape hdeclared, hresult, hmode]
        rfl
      · exact UInt64.toNat_ofNat_of_lt' (hop.length_lt hresult)
    | vector hcounted | buffer hcounted => simp [hmode, hresult] at hcounted
  | @vector values hmode hresult hsize =>
    have hfits := shape_of_counted (.inr ⟨hmode, hresult⟩)
    cases hdecodes with
    | array _ hresult' => simp [hresult] at hresult'
    | vector => exact reads_readVector hsize (fun shape hd => hshape shape hd ▸ hfits) h
    | buffer => exact reads_readBuffer hsize (fun shape hd => hshape shape hd ▸ hfits) h
  | tuple hmode hresult hbytes =>
    cases hdecodes with
    | tuple hresult' =>
      obtain rfl := by simpa [hresult] using hresult'
      refine reads_readTuple hbytes (fun shape hdeclared => ?_) h
      rw [hshape shape hdeclared, hresult, hmode]
      rfl
  | @transfer values hmode hresult hsize =>
    have hfits := shape_of_counted (.inl ⟨hmode, hresult⟩)
    cases hdecodes with
    | array hmode' => simp [hmode] at hmode'
    | vector => exact reads_readVector hsize (fun shape hd => hshape shape hd ▸ hfits) h
    | buffer => exact reads_readBuffer hsize (fun shape hd => hshape shape hd ▸ hfits) h

/-- Replies round-trip. A reply is sent just if it conforms to its operation, and then it can be
decoded: a client that has the bytes and any others after them to read, and knows the signature of
the operation or none, gets just the values of the device and has the others left. -/
theorem reads_reply {op : Operation} (hop : op.IsDescribed) (hmode : op.mode ≠ .readText)
    (device : String) (reply : Reply) :
    ((∃ out, (⟨device, op⟩ : CallSite).encode reply = .ok out) ↔ reply.Conforms op) ∧
    (reply.Conforms op →
      ∃ (α : Type) (decoder : Response → ClientM σ α) (a : α), Decodes op reply decoder a) ∧
    ∀ (out : Option Bytes) (α : Type) (decoder : Response → ClientM σ α) (a : α) (r : Response)
      (c : Client σ) (rest : Bytes), (⟨device, op⟩ : CallSite).encode reply = .ok out →
      Decodes op reply decoder a →
      r.signature? = none ∨ r.signature? = some (Interface.DeviceTable.functionSignature op) →
      c.connection.pending = out.getD [] ++ rest → Reads (decoder r) c a rest := by
  refine ⟨CallSite.exists_encode_iff hmode, exists_decodes, ?_⟩
  intro out α decoder a r c rest hout hdecodes hsignature hpending
  refine reads_of_isSent hop (CallSite.isSent_of_encode hmode hout) ?_ hpending hdecodes
  intro shape hshape
  rcases hsignature with hnone | hsome
  · simp [Response.declared?, hnone] at hshape
  · rw [Response.declared?, hsome] at hshape
    exact (Option.some.inj hshape).symm

/-- One value that arrives in two chunks is read, and the byte that follows it is left. -/
theorem reads_reply_sweep :
    Reads (readVector ⟨"sweep", some (Interface.DeviceTable.functionSignature .sweep)⟩ .f32)
      ({ connection := { arriving := [.chunk [0, 0, 0, 1, 0, 0], .pause, .chunk [128, 63, 9]] },
         peer := (), config := {} } : Client Unit)
      (Elements.toList ⟨.f32, [0, 0, 128, 63], rfl⟩) [9] :=
  (reads_reply Operation.isDescribed_sweep (by decide) "Scope"
    (.elements ⟨.f32, [0, 0, 128, 63], rfl⟩)).2.2 (some [0, 0, 0, 1, 0, 0, 128, 63]) _ _ _ _ _ [9]
    rfl (.vector (.inr rfl)) (.inr rfl) rfl

end Instrument.Network.Client
