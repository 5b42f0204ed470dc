import Instrument.Proofs.Network.TextReplies

/-!
A client that survives is aligned. Main statement: however a call site reads a reply, and whatever
goes wrong, either the client is of no further use or it has taken just the bytes of the reply,
except when it asks for a tuple of a format that cannot be read: that fails before the reply is
taken.
-/

namespace Instrument

theorem Wire.ScalarType.elementName_injective {a b : ScalarType}
    (h : a.elementName = b.elementName) : a = b := by
  have ha := ofElementName?_elementName a
  rw [h, ofElementName?_elementName b] at ha
  exact (Option.some.inj ha).symm

namespace Network.Client

open ClientM (Yields Fails)
open Interface (Operation)
open Interface.DeviceTable (functionSignature)
open Signature (ReturnShape)
open Wire (Elements Scalar ScalarType TupleFormat bytesBE bytesLE)

variable {σ α β : Type} {c : Client σ} {rest : Bytes}

/-! ### Decoders -/

/-- How a call site reads a reply: what it expects, with all that it tells about it. -/
inductive Decoder where
  | nothing
  | bool
  | scalar (type : ScalarType)
  | array (type : ScalarType) (length : Nat)
  | vector (type : ScalarType)
  | buffer (type : ScalarType) (length : Nat)
  | text
  | json
  | tuple (format : String)
deriving DecidableEq, Repr

/-- What a call site gets. -/
def Decoder.Value : Decoder → Type
  | nothing => Unit
  | bool => Bool
  | scalar _ => Scalar
  | array .. | vector _ | buffer .. | tuple _ => List Scalar
  | text => String
  | json => Json.Value

/-- Reads a reply. -/
def Decoder.run (r : Response) : (decoder : Decoder) → ClientM σ decoder.Value
  | nothing => expectShape r (· == .void) "void"
  | bool => readBool r
  | scalar type => readScalar r type
  | array type length => readArray r type length
  | vector type => readVector r type
  | buffer type length => readBuffer r type length
  | text => readText r
  | json => readJson r
  | tuple format => readTuple r format

/-- Whether a decoder is not for a tuple of a format that cannot be read. -/
def Decoder.IsReadable (decoder : Decoder) : Prop :=
  ∀ text, decoder = .tuple text → ∃ format, TupleFormat.ofText text.toList = .ok format

/-! ### Alignment -/

/-- What a client does leaves it with the rest to read, whether it succeeds or fails, or with an
error after which it is of no use. -/
def Aligned (act : ClientM σ α) (c : Client σ) (rest : Bytes) : Prop :=
  match act.run.run c with
  | (.ok _, c') => c'.connection.pending = rest
  | (.error e, c') => if e.isFatal then c'.usable = false else c'.connection.pending = rest

theorem aligned_of_yields {act : ClientM σ α} {a : α} {c' : Client σ} (h : Yields act c a c')
    (hrest : c'.connection.pending = rest) : Aligned act c rest := by
  rw [Yields] at h
  rw [Aligned, h]
  exact hrest

theorem aligned_of_reads {act : ClientM σ α} {a : α} (h : Reads act c a rest) :
    Aligned act c rest := by
  obtain ⟨c', hact, hrest⟩ := h
  exact aligned_of_yields hact hrest

theorem aligned_iff_of_fails {act : ClientM σ α} {e : Error} {c' : Client σ}
    (h : Fails act c e c') (he : e.isFatal = false) :
    Aligned act c rest ↔ c'.connection.pending = rest := by
  rw [Fails] at h
  rw [Aligned, h]
  simp only [he, Bool.false_eq_true, if_false]

theorem aligned_of_fails_fatal {act : ClientM σ α} {e : Error} {c' : Client σ}
    (h : Fails act c e c') (he : e.isFatal = true) (husable : c'.usable = false) :
    Aligned act c rest := by
  rw [Fails] at h
  rw [Aligned, h]
  simp only [he, if_true]
  exact husable

theorem aligned_throw {e : Error} (he : e.isFatal = false) (h : c.connection.pending = rest) :
    Aligned (throw e : ClientM σ α) c rest :=
  (aligned_iff_of_fails (fails_throw e c) he).2 h

theorem aligned_bind_of_yields {act : ClientM σ α} {f : α → ClientM σ β} {a : α} {c' : Client σ}
    (h : Yields act c a c') (hf : Aligned (f a) c' rest) : Aligned (act >>= f) c rest := by
  rw [Yields] at h
  rw [Aligned, ExceptT.run_bind, StateT.run_bind, h]
  exact hf

theorem aligned_bind_of_reads {act : ClientM σ α} {f : α → ClientM σ β} {a : α} {rest' : Bytes}
    (h : Reads act c a rest)
    (hf : ∀ c', c'.connection.pending = rest → Aligned (f a) c' rest') :
    Aligned (act >>= f) c rest' := by
  obtain ⟨c', hact, hrest⟩ := h
  exact aligned_bind_of_yields hact (hf c' hrest)

/-- What is done after the whole reply is taken leaves the client where it is. -/
theorem aligned_bind {act : ClientM σ α} {f : α → ClientM σ β} (h : Aligned act c rest)
    (hf : ∀ a c', c'.connection.pending = rest → Aligned (f a) c' rest) :
    Aligned (act >>= f) c rest := by
  rw [Aligned] at h
  rw [Aligned, ExceptT.run_bind, StateT.run_bind]
  rcases hact : act.run.run c with ⟨e | a, c'⟩
  · rw [hact] at h
    exact h
  · rw [hact] at h
    exact hf a c' h

theorem aligned_lift {result : Except Error α} (he : ∀ e, result = .error e → e.isFatal = false)
    (h : c.connection.pending = rest) : Aligned (lift result) c rest := by
  cases result with
  | ok a => exact aligned_of_reads (reads_pure a h)
  | error e => exact aligned_throw (he e rfl) h

theorem aligned_expectShape_bind {r : Response} {shape : ReturnShape}
    (hdeclared : r.declared? = some shape) {fits : ReturnShape → Bool} {expected : String}
    {f : Unit → ClientM σ β} (hf : fits shape = true → Aligned (f ()) c rest) :
    Aligned (expectShape r fits expected >>= f) c rest := by
  rw [expectShape, hdeclared]
  by_cases hfits : fits shape = true
  · simp only [hfits, if_true]
    exact hf hfits
  · simp only [hfits]
    exact aligned_of_fails_fatal (fails_bind (fails_checked (fails_throw _ c) rfl)) rfl rfl

/-! ### Replies -/

/-- The bytes of the replies of a shape. -/
inductive IsFramed : ReturnShape → Bytes → Prop
  | nothing : IsFramed .void []
  | bool (b : Bool) : IsFramed (.scalar "bool") (bytesLE 4 (Scalar.ofBool b).bits)
  | scalar (value : Scalar) (htype : value.type ≠ .bool) :
      IsFramed (.scalar value.type.elementName) value.encodeLE
  | array (values : Elements) (length : UInt64) (hlength : length.toNat = values.size) :
      IsFramed (.array values.type.elementName length) values.raw
  | vector (values : Elements) (hsize : values.size < UInt32.size) :
      IsFramed (.vector values.type.elementName) (bytesBE 4 values.size ++ values.raw)
  | buffer (values : Elements) (hsize : values.size < UInt32.size) :
      IsFramed (.buffer values.type.elementName) (bytesBE 4 values.size ++ values.raw)
  | text (bytes : Bytes) (hzero : 0 ∉ bytes) : IsFramed .string (bytes ++ [0])
  | tuple (fields : List ScalarType) (bytes : Bytes)
      (hsize : bytes.length = (TupleFormat.mk .big fields).size) :
      IsFramed (.tuple (String.ofList (fields.map ScalarType.tag))) bytes

/-- What is sent for a reply has the shape that its operation declares. -/
theorem isFramed_of_encode {op : Operation} (hop : op.IsDescribed) {device : String} {reply : Reply}
    (hzero : ∀ text, reply = .text text → '\x00' ∉ text.toList) {out : Option Bytes}
    (hout : (⟨device, op⟩ : CallSite).encode reply = .ok out) :
    IsFramed (functionSignature op).returns (out.getD []) := by
  -- a text ends at its zero; every other reply is told by what was sent
  by_cases hmode : op.mode = .readText
  case pos =>
    obtain ⟨text, rfl, rfl⟩ := CallSite.exists_text_of_encode hmode hout
    rw [hop.returns_of_readText hmode]
    exact .text _ fun hmem => hzero text rfl (Text.zero_mem_utf8_iff.1 hmem)
  have hsent : reply.IsSent op out := CallSite.isSent_of_encode hmode hout
  rw [functionSignature]
  cases hsent with
  | none hmode =>
    rw [hop.result_of_write hmode, hmode]
    exact .nothing
  | @bool value hmode hresult htype =>
    obtain ⟨b, rfl⟩ := Scalar.exists_ofBool htype
    rw [hresult, hmode]
    exact .bool b
  | @scalar value hmode hresult htype =>
    rw [hresult, hmode]
    exact .scalar value htype
  | @array values hmode hresult =>
    rw [hresult, hmode]
    exact .array values _ (UInt64.toNat_ofNat_of_lt' (hop.length_lt hresult))
  | @vector values hmode hresult hsize =>
    rw [hresult, hmode]
    exact .vector values hsize
  | @tuple fields values bytes hmode hresult hbytes =>
    rw [hresult, hmode]
    exact .tuple fields bytes (TupleFormat.unpack_of_write hbytes).1
  | @transfer values hmode hresult hsize =>
    have hshape : Signature.shape op.result (op.mode == .readArray) =
        .buffer values.type.elementName := by
      simp [Signature.shape, hmode, hresult]
    rw [hshape]
    exact .buffer values hsize

/-! ### Decoding -/

variable {r : Response} {shape : ReturnShape} {bytes : Bytes}

/-- Elements are of the type that they are asked for, or the client knows their type. -/
theorem otherElement?_cases (hdeclared : r.declared? = some shape) {actual : ScalarType}
    (hshape : shape = .vector actual.elementName ∨ shape = .buffer actual.elementName ∨
      ∃ length, shape = .array actual.elementName length) (type : ScalarType) :
    type = actual ∧ r.otherElement? type = none ∨ r.otherElement? type = some actual := by
  have hother : r.otherElement? type = (some actual).filter (· != type) := by
    rw [← ScalarType.ofElementName?_elementName actual, Response.otherElement?, hdeclared]
    rcases hshape with rfl | rfl | ⟨length, rfl⟩ <;> rfl
  by_cases htype : type = actual
  · exact .inl ⟨htype, by rw [hother, htype]; simp⟩
  · exact .inr (by simp [hother, Ne.symm htype])

theorem aligned_expectVoid (hframed : IsFramed shape bytes) (hdeclared : r.declared? = some shape)
    (h : c.connection.pending = bytes ++ rest) :
    Aligned (expectShape r (· == .void) "void") c rest := by
  rw [← bind_pure (expectShape r (· == .void) "void")]
  refine aligned_expectShape_bind hdeclared fun hfits => ?_
  cases hframed with
  | nothing => exact aligned_of_reads (reads_pure _ h)
  | _ => nomatch hfits

theorem aligned_readBool (hframed : IsFramed shape bytes) (hdeclared : r.declared? = some shape)
    (h : c.connection.pending = bytes ++ rest) : Aligned (readBool r) c rest := by
  cases hframed with
  | bool b =>
    refine aligned_of_reads (reads_readBool b (fun shape hshape => ?_) h)
    exact Option.some.inj (hshape.symm.trans hdeclared)
  | scalar value htype =>
    refine aligned_expectShape_bind hdeclared fun hfits => absurd ?_ htype
    exact ScalarType.elementName_injective (eq_of_beq hfits)
  | _ => exact aligned_expectShape_bind hdeclared fun hfits => nomatch hfits

theorem aligned_readScalar (hframed : IsFramed shape bytes) (hdeclared : r.declared? = some shape)
    (h : c.connection.pending = bytes ++ rest) (type : ScalarType) :
    Aligned (readScalar r type) c rest := by
  by_cases hbool : type = .bool
  · subst hbool
    exact aligned_bind (aligned_readBool hframed hdeclared h) fun b c' hrest =>
      aligned_of_reads (reads_pure (Scalar.ofBool b) hrest)
  rw [readScalar, if_neg hbool]
  refine aligned_expectShape_bind hdeclared fun hfits => ?_
  cases hframed with
  | bool b => exact absurd (ScalarType.elementName_injective (a := .bool) (eq_of_beq hfits)).symm hbool
  | scalar value htype =>
    obtain rfl := ScalarType.elementName_injective (eq_of_beq hfits)
    have hread := reads_read h
    rw [Scalar.length_encodeLE] at hread
    exact aligned_bind_of_reads hread fun c' hrest => aligned_of_reads (reads_pure _ hrest)
  | _ => cases hfits

/-- Elements that are read as others than they are, are taken before the client fails. -/
theorem aligned_read_throw {values : Elements} (h : c.connection.pending = values.raw ++ rest)
    {e : Error} (he : e.isFatal = false) :
    Aligned (do let _ ← read (values.size * values.type.width); throw e : ClientM σ α) c rest := by
  have hread := reads_read h
  rw [values.length_raw] at hread
  exact aligned_bind_of_reads hread fun c' hrest => aligned_throw he hrest

theorem aligned_readArray (hframed : IsFramed shape bytes) (hdeclared : r.declared? = some shape)
    (h : c.connection.pending = bytes ++ rest) (type : ScalarType) (length : Nat) :
    Aligned (readArray r type length) c rest := by
  cases hframed with
  | array values declared hlength =>
    rcases otherElement?_cases hdeclared (.inr (.inr ⟨declared, rfl⟩)) type with
      ⟨rfl, hother⟩ | hother
    · by_cases hsize : values.size = length
      · subst hsize
        refine aligned_of_reads (reads_readArray (fun shape hshape => ⟨declared, ?_, hlength⟩) h)
        exact Option.some.inj (hshape.symm.trans hdeclared)
      · refine aligned_expectShape_bind hdeclared fun _ => ?_
        simp only [hdeclared, hother, hlength, ne_eq, hsize, not_false_eq_true, if_true]
        exact aligned_read_throw h rfl
    · refine aligned_expectShape_bind hdeclared fun _ => ?_
      simp only [hdeclared, hother, hlength]
      exact aligned_read_throw h rfl
  | _ => exact aligned_expectShape_bind hdeclared fun hfits => nomatch hfits

theorem aligned_readCounted {values : Elements} (hsize : values.size < UInt32.size)
    (hdeclared : r.declared? = some shape)
    (hshape : shape = .vector values.type.elementName ∨ shape = .buffer values.type.elementName)
    (h : c.connection.pending = bytesBE 4 values.size ++ values.raw ++ rest) (type : ScalarType) :
    Aligned (readCounted r type) c rest := by
  rcases otherElement?_cases hdeclared (hshape.imp_right .inl) type with ⟨rfl, -⟩ | hother
  · refine aligned_of_reads (reads_readCounted hsize (fun shape' hshape' => ?_) h)
    exact Option.some.inj (hshape'.symm.trans hdeclared) ▸ hshape
  · rw [List.append_assoc] at h
    refine aligned_bind_of_reads (reads_word hsize h) fun c' hpending => ?_
    simp only [hother, UInt32.toNat_ofNat_of_lt' hsize]
    exact aligned_read_throw hpending rfl

theorem aligned_readVector (hframed : IsFramed shape bytes) (hdeclared : r.declared? = some shape)
    (h : c.connection.pending = bytes ++ rest) (type : ScalarType) :
    Aligned (readVector r type) c rest := by
  refine aligned_expectShape_bind hdeclared fun hfits => ?_
  cases hframed with
  | vector values hsize => exact aligned_readCounted hsize hdeclared (.inl rfl) h type
  | buffer values hsize => exact aligned_readCounted hsize hdeclared (.inr rfl) h type
  | _ => nomatch hfits

theorem aligned_readBuffer (hframed : IsFramed shape bytes) (hdeclared : r.declared? = some shape)
    (h : c.connection.pending = bytes ++ rest) (type : ScalarType) (length : Nat) :
    Aligned (readBuffer r type length) c rest := by
  have hlength (values : List Scalar) (c' : Client σ) (hrest : c'.connection.pending = rest) :
      Aligned (do
        if values.length ≠ length then throw (.lengthMismatch r.operation length values.length)
        return values : ClientM σ (List Scalar)) c' rest := by
    by_cases hlen : values.length = length
    · simp only [hlen, ne_eq, not_true_eq_false, if_false]
      exact aligned_of_reads (reads_pure values hrest)
    · simp only [hlen, ne_eq, not_false_eq_true, if_true]
      exact aligned_throw rfl hrest
  refine aligned_expectShape_bind hdeclared fun hfits => ?_
  cases hframed with
  | vector values hsize =>
    exact aligned_bind (aligned_readCounted hsize hdeclared (.inl rfl) h type) hlength
  | buffer values hsize =>
    exact aligned_bind (aligned_readCounted hsize hdeclared (.inr rfl) h type) hlength
  | _ => nomatch hfits

theorem aligned_readText (hframed : IsFramed shape bytes) (hdeclared : r.declared? = some shape)
    (h : c.connection.pending = bytes ++ rest) : Aligned (readText r) c rest := by
  refine aligned_expectShape_bind hdeclared fun hfits => ?_
  cases hframed with
  | text bytes hzero =>
    refine aligned_bind_of_yields (yields_get c) ?_
    rw [List.append_assoc] at h
    have hfound : Connection.splitAt? [0] c.connection.pending = some (bytes, rest) :=
      Connection.splitAt?_eq_some_iff.2 ⟨h, hzero⟩
    rcases Connection.receive_cases (.bounded c.config.stringTimeout _)
      (Connection.finds_takeUntil? [0]) hfound with
      ⟨connection, hreceive, hrest⟩ | ⟨e, connection, hreceive, he⟩
    · refine aligned_bind_of_yields (yields_checked (yields_receive hreceive)) ?_
      split
      · exact aligned_of_reads (reads_pure _ hrest)
      · exact aligned_throw rfl hrest
    · exact aligned_of_fails_fatal (fails_bind (fails_checked (fails_receive hreceive) he)) he rfl
  | _ => nomatch hfits

theorem aligned_readJson (hframed : IsFramed shape bytes) (hdeclared : r.declared? = some shape)
    (h : c.connection.pending = bytes ++ rest) : Aligned (readJson r) c rest := by
  refine aligned_bind (aligned_readText hframed hdeclared h) fun text c' hrest => ?_
  split
  · exact aligned_of_reads (reads_pure _ hrest)
  · exact aligned_throw rfl hrest

theorem aligned_readTuple (hframed : IsFramed shape bytes) (hdeclared : r.declared? = some shape)
    (h : c.connection.pending = bytes ++ rest) {text : String} {format : TupleFormat}
    (hformat : TupleFormat.ofText text.toList = .ok format) :
    Aligned (readTuple r text) c rest := by
  have hread : TupleFormat.read text = .ok format := by
    rw [TupleFormat.read, hformat]
    rfl
  refine aligned_bind_of_yields (yields_lift hread c) ?_
  refine aligned_expectShape_bind hdeclared fun hfits => ?_
  cases hframed with
  | tuple fields bytes hsize =>
    simp only [String.toList_ofList, TupleFormat.ofText_tags] at hfits
    obtain rfl := eq_of_beq hfits
    have hread := reads_read h
    rw [hsize] at hread
    refine aligned_bind_of_reads hread fun c' hrest => aligned_lift (fun e he => ?_) hrest
    rw [TupleFormat.unpack] at he
    split at he
    · cases he
    · cases he
      rfl
  | _ => cases hfits

/-- Every decoder takes just the bytes of a reply, if it takes any. -/
theorem aligned_run (hframed : IsFramed shape bytes) (hdeclared : r.declared? = some shape)
    (h : c.connection.pending = bytes ++ rest) {decoder : Decoder} (hreadable : decoder.IsReadable) :
    Aligned (decoder.run r) c rest := by
  cases decoder with
  | nothing => exact aligned_expectVoid hframed hdeclared h
  | bool => exact aligned_readBool hframed hdeclared h
  | scalar type => exact aligned_readScalar hframed hdeclared h type
  | array type length => exact aligned_readArray hframed hdeclared h type length
  | vector type => exact aligned_readVector hframed hdeclared h type
  | buffer type length => exact aligned_readBuffer hframed hdeclared h type length
  | text => exact aligned_readText hframed hdeclared h
  | json => exact aligned_readJson hframed hdeclared h
  | tuple text =>
    obtain ⟨format, hformat⟩ := hreadable text rfl
    exact aligned_readTuple hframed hdeclared h hformat

/-- A format that cannot be read is refused before anything is taken. -/
theorem fails_readTuple {text : String} {tag : Char}
    (htext : TupleFormat.ofText text.toList = .error tag) (r : Response) (c : Client σ) :
    Fails (readTuple r text) c (.invalidFormat tag) c := by
  have hread : TupleFormat.read text = .error (.invalidFormat tag) := by
    rw [TupleFormat.read, htext]
    rfl
  exact fails_bind (fails_lift hread c)

/-- Whatever a call site asks for, a client that survives has taken just the bytes of the reply,
unless it asks for a tuple of a format that cannot be read. Such a format is refused while all bytes
of the reply are still there, and the error is not fatal. -/
theorem aligned_iff {op : Operation} (hop : op.IsDescribed) {device : String} {reply : Reply}
    (hzero : ∀ text, reply = .text text → '\x00' ∉ text.toList) {out : Option Bytes}
    (hout : (⟨device, op⟩ : CallSite).encode reply = .ok out) {r : Response}
    (hr : r.signature? = some (functionSignature op)) {c : Client σ} {rest : Bytes}
    (hpending : c.connection.pending = out.getD [] ++ rest) (decoder : Decoder) :
    (Aligned (decoder.run r) c rest ↔ decoder.IsReadable ∨ out.getD [] = []) ∧
    ∀ text tag, decoder = .tuple text → TupleFormat.ofText text.toList = .error tag →
      Fails (readTuple r text) c (.invalidFormat tag) c := by
  have hdeclared : r.declared? = some (functionSignature op).returns := by
    rw [Response.declared?, hr]
    rfl
  refine ⟨?_, fun text tag _ htext => fails_readTuple htext r c⟩
  by_cases hreadable : decoder.IsReadable
  · have h := aligned_run (isFramed_of_encode hop hzero hout) hdeclared hpending hreadable
    exact iff_of_true h (.inl hreadable)
  obtain ⟨text, tag, rfl, htext⟩ : ∃ text tag, decoder = .tuple text ∧
      TupleFormat.ofText text.toList = .error tag := by
    simp only [Decoder.IsReadable, Classical.not_forall] at hreadable
    obtain ⟨text, rfl, hnot⟩ := hreadable
    cases htext : TupleFormat.ofText text.toList with
    | error tag => exact ⟨text, tag, rfl, htext⟩
    | ok format => exact absurd ⟨format, htext⟩ hnot
  have hfails : Fails ((Decoder.tuple text).run r) c (.invalidFormat tag) c :=
    fails_readTuple htext r c
  rw [aligned_iff_of_fails hfails rfl, hpending, List.append_left_eq_self]
  simp only [hreadable, false_or]

/-- A pump answers with a number. -/
def pumpLevel : Operation where
  name := "level"
  tag := "LEVEL"
  id := 0
  resultType := "uint8_t"
  result := .scalar .u8
  mode := .read
  arguments := []
  buffer? := none
  lengthExpression? := none
  line := 2

theorem isDescribed_pumpLevel : pumpLevel.IsDescribed :=
  ⟨[], ⟨"Pump", 1, [⟨"level", 2, "uint8_t", [], true⟩]⟩,
    ⟨"Pump", "PUMP", 0, [pumpLevel], none⟩, rfl, List.mem_singleton_self pumpLevel⟩

/-- A call of the pump by a client that knows its signature. -/
def levelResponse : Response := ⟨"level", some (functionSignature pumpLevel)⟩

/-- The level is 42, and 7 is the next reply. A number of another type ends the connection. -/
theorem aligned_iff_pumpLevel :
    Aligned (readScalar levelResponse .u8) (clientOf [.chunk [42, 7]]) [7] ∧
    Aligned (readScalar levelResponse .i8) (clientOf [.chunk [42, 7]]) [7] ∧
    ¬ Aligned (readTuple levelResponse "x") (clientOf [.chunk [42, 7]]) [7] := by
  have hzero (text : String) (h : Reply.scalar (Scalar.ofBits .u8 42) = .text text) :
      '\x00' ∉ text.toList := nomatch h
  have hout : (⟨"Pump", pumpLevel⟩ : CallSite).encode (.scalar (Scalar.ofBits .u8 42)) =
      .ok (some [42]) := rfl
  have h (decoder : Decoder) :
      Aligned (decoder.run levelResponse) (clientOf [.chunk [42, 7]]) [7] ↔
        decoder.IsReadable ∨ [42] = ([] : Bytes) :=
    (aligned_iff isDescribed_pumpLevel hzero hout rfl rfl decoder).1
  refine ⟨(h (.scalar .u8)).2 (.inl nofun), (h (.scalar .i8)).2 (.inl nofun), fun haligned => ?_⟩
  rcases (h (.tuple "x")).1 haligned with hreadable | hnil
  · obtain ⟨format, hformat⟩ := hreadable "x" rfl
    cases hformat
  · cases hnil

/-- A client that asks for the level as a tuple of an unreadable format survives, and then reads the
level in the place of the next reply. -/
theorem misaligned_pumpLevel :
    (⟨"Pump", pumpLevel⟩ : CallSite).encode (.scalar (Scalar.ofBits .u8 42)) = .ok (some [42]) ∧
    (Error.invalidFormat 'x').isFatal = false ∧
    Fails (readTuple levelResponse "x") (clientOf [.chunk [42, 7]]) (.invalidFormat 'x')
      (clientOf [.chunk [42, 7]]) ∧
    Reads (readScalar levelResponse .u8) (clientOf [.chunk [42, 7]]) (Scalar.ofBits .u8 42) [7] :=
  ⟨rfl, rfl, rfl, _, rfl, rfl⟩

end Network.Client

end Instrument
