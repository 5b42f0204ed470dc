import Instrument.Proofs.Network.Latch
import Instrument.Proofs.Network.RepeatedRequest

/-!
What a client takes from its stream. Main statement: a call site that reads a reply as its operation
declares it gets nothing before the reply has come, and then just what the device has answered.
-/

namespace Instrument.Network

open Interface (Operation)
open Interface.DeviceTable (functionSignature)
open Wire (Elements Scalar ScalarType TupleFormat)

variable {σ α β : Type}

/-! ### What is taken -/

namespace Connection

/-- Who receives a number of bytes takes them. -/
theorem of_exactly {c connection : Connection} {n : Nat} {raw : Bytes}
    (h : c.exactly n = (.ok raw, connection)) :
    raw.length = n ∧ c.pending = raw ++ connection.pending := by
  have houtcome := outcome_receive (finds_take? n) c .unbounded
  rw [exactly] at h
  rw [h] at houtcome
  cases houtcome with
  | found hfound => exact Wire.split?_eq_some_iff.1 hfound

theorem of_exactlyWithin {c connection : Connection} {n milliseconds : Nat} {raw : Bytes}
    (h : c.exactlyWithin n milliseconds = (.ok raw, connection)) :
    raw.length = n ∧ c.pending = raw ++ connection.pending := by
  have houtcome := outcome_receive (finds_take? n) c (.bounded milliseconds "reply")
  rw [exactlyWithin] at h
  rw [h] at houtcome
  cases houtcome with
  | found hfound => exact Wire.split?_eq_some_iff.1 hfound

/-- Who receives what comes before a marker takes the marker too. -/
theorem of_untilMarker {c connection : Connection} {bytes raw : Bytes} {milliseconds : Nat}
    (h : c.untilMarker bytes milliseconds = (.ok raw, connection)) :
    splitAt? bytes c.pending = some (raw, connection.pending) := by
  have houtcome := outcome_receive (finds_takeUntil? bytes) c
    (.bounded milliseconds (String.ofList (Text.ofUtf8Lossy bytes)))
  rw [untilMarker] at h
  rw [h] at houtcome
  cases houtcome with
  | found hfound => exact hfound

theorem exists_of_word {c connection : Connection} {n : UInt32}
    (h : c.word = (.ok n, connection)) : ∃ raw : Bytes, raw.length = 4 ∧
      c.pending = raw ++ connection.pending := by
  rcases hexactly : c.exactly 4 with ⟨e | raw, connection'⟩
  · rw [word, hexactly] at h
    cases h
  · obtain ⟨hlen, hpending⟩ := of_exactly hexactly
    rw [word, hexactly] at h
    cases h
    exact ⟨raw, hlen, hpending⟩

theorem isFatal_of_word {c connection : Connection} {e : Error}
    (h : c.word = (.error e, connection)) : e.isFatal = true := by
  rcases hexactly : c.exactly 4 with ⟨e' | raw, connection'⟩
  · rw [word, hexactly] at h
    cases h
    exact isFatal_of_receive hexactly
  · rw [word, hexactly] at h
    cases h

end Connection

namespace Client

open ClientM (Yields Fails)

theorem yields_of_checked {act : ClientM σ α} {c c' : Client σ} {a : α}
    (h : Yields (checked act) c a c') : Yields act c a c' := by
  rcases hrun : act.run.run c with ⟨e | a', c₁⟩
  · rcases hfatal : e.isFatal with _ | _
    · cases h.symm.trans (fails_checked_of_not_isFatal hrun hfatal)
    · cases h.symm.trans (fails_checked hrun hfatal)
  · obtain ⟨rfl, rfl⟩ := h.unique (yields_checked hrun)
    exact hrun

/-- An action that only receives: it changes nothing about the client but its connection, of which
it takes something in front, and, if it fails, whether the client is usable. -/
structure Receives (act : ClientM σ α) : Prop where
  yields : ∀ {c a c'}, Yields act c a c' → ∃ connection, c' = { c with connection := connection } ∧
    connection.pending <:+ c.connection.pending
  fails : ∀ {c e c'}, Fails act c e c' → ∃ connection usable,
    c' = { c with connection := connection, usable := usable }

namespace Receives

variable {act : ClientM σ α}

theorem bind {f : α → ClientM σ β} (h : Receives act) (hf : ∀ a, Receives (f a)) :
    Receives (act >>= f) where
  yields hact := by
    obtain ⟨a, c', hfirst, hrest⟩ := yields_bind_iff.1 hact
    obtain ⟨connection, rfl, hsuffix⟩ := h.yields hfirst
    obtain ⟨connection', rfl, hsuffix'⟩ := (hf a).yields hrest
    exact ⟨connection', rfl, hsuffix'.trans hsuffix⟩
  fails hact := by
    rcases fails_bind_iff.1 hact with hfirst | ⟨a, c', hfirst, hrest⟩
    · exact h.fails hfirst
    · obtain ⟨_, rfl, -⟩ := h.yields hfirst
      obtain ⟨connection, usable, rfl⟩ := (hf a).fails hrest
      exact ⟨connection, usable, rfl⟩

theorem pure (a : α) : Receives (Pure.pure a : ClientM σ α) where
  yields {c} _ _ h := by
    cases h
    exact ⟨c.connection, rfl, List.suffix_rfl⟩
  fails h := nomatch h

theorem get : Receives (MonadState.get : ClientM σ (Client σ)) where
  yields {c} _ _ h := by
    cases h
    exact ⟨c.connection, rfl, List.suffix_rfl⟩
  fails h := nomatch h

theorem throw (e : Error) : Receives (MonadExcept.throw e : ClientM σ α) where
  yields h := nomatch h
  fails {c} _ _ h := by
    cases h
    exact ⟨c.connection, c.usable, rfl⟩

theorem lift (result : Except Error α) : Receives (Client.lift result : ClientM σ α) := by
  cases result with
  | ok a => exact pure a
  | error e => exact throw e

theorem checked (h : Receives act) : Receives (Client.checked act) where
  yields hact := h.yields (yields_of_checked hact)
  fails hact := by
    obtain ⟨c', hfails, rfl⟩ := exists_of_fails_checked hact
    obtain ⟨connection, usable, rfl⟩ := h.fails hfails
    split
    · exact ⟨connection, false, rfl⟩
    · exact ⟨connection, usable, rfl⟩

theorem receive {take : Connection → Except Error α × Connection}
    (h : ∀ {c a connection}, take c = (.ok a, connection) → connection.pending <:+ c.pending) :
    Receives (Client.receive take : ClientM σ α) where
  yields hact := by
    obtain ⟨connection, htake, rfl⟩ := exists_of_receive hact
    exact ⟨connection, rfl, h htake⟩
  fails {c} _ _ hact := by
    rcases htake : take c.connection with ⟨e | a, connection⟩
    · cases hact.symm.trans (fails_receive htake)
      exact ⟨connection, c.usable, rfl⟩
    · cases hact.symm.trans (yields_receive htake)

end Receives

/-! ### Decoders -/

theorem receives_expectShape (r : Response) (fits : Signature.ReturnShape → Bool)
    (expected : String) : Receives (expectShape r fits expected : ClientM σ Unit) := by
  rw [expectShape]
  split
  · split
    · exact .pure ()
    · exact (Receives.throw _).checked
  · exact .pure ()

theorem receives_read (n : Nat) : Receives (read n : ClientM σ Bytes) :=
  .checked (.receive fun h => ⟨_, (Connection.of_exactly h).2.symm⟩)

theorem receives_word : Receives (checked (receive (·.word)) : ClientM σ UInt32) :=
  .checked (.receive fun h => by
    obtain ⟨raw, -, hpending⟩ := Connection.exists_of_word h
    exact ⟨raw, hpending.symm⟩)

theorem receives_readBool (r : Response) : Receives (readBool r : ClientM σ Bool) := by
  refine (receives_expectShape r _ _).bind fun _ => (receives_read 4).bind fun raw => ?_
  split
  · exact .pure false
  · exact .pure true
  · exact .throw _

theorem receives_readScalar (r : Response) (type : ScalarType) :
    Receives (readScalar r type : ClientM σ Scalar) := by
  by_cases hbool : type = .bool
  · subst hbool
    exact (receives_readBool r).bind fun b => .pure (Scalar.ofBool b)
  · rw [readScalar, if_neg hbool]
    exact (receives_expectShape r _ _).bind fun _ => (receives_read type.width).bind fun raw =>
      .pure _

theorem receives_valuesOf (r : Response) (type : ScalarType) (raw : Bytes) :
    Receives (valuesOf r type raw : ClientM σ (List Scalar)) := by
  rw [valuesOf]
  split
  · exact .pure _
  · exact .throw _

theorem receives_readArray (r : Response) (type : ScalarType) (length : Nat) :
    Receives (readArray r type length : ClientM σ (List Scalar)) := by
  have hvalues : Receives
      (do valuesOf r type (← read (length * type.width)) : ClientM σ (List Scalar)) :=
    (receives_read _).bind (receives_valuesOf r type)
  have hlength (declared : Nat) : Receives (do
      if declared ≠ length then
        let _ ← read (declared * type.width)
        throw (.lengthMismatch r.operation length declared)
      valuesOf r type (← read (length * type.width)) : ClientM σ (List Scalar)) := by
    by_cases h : declared = length
    · simp only [h, ne_eq, not_true_eq_false, if_false]
      exact hvalues
    · simp only [h, ne_eq, not_false_eq_true, if_true]
      exact (receives_read _).bind fun _ => (Receives.throw _).bind fun _ => hvalues
  refine (receives_expectShape r _ _).bind fun _ => ?_
  split
  · next dtype declared hdeclared =>
    cases r.otherElement? type with
    | some other =>
      exact (receives_read _).bind fun _ => (Receives.throw _).bind fun _ =>
        hlength declared.toNat
    | none => exact hlength declared.toNat
  · exact hvalues

theorem receives_readCounted (r : Response) (type : ScalarType) :
    Receives (readCounted r type : ClientM σ (List Scalar)) := by
  refine receives_word.bind fun count => ?_
  cases hother : r.otherElement? type with
  | none => exact (receives_read _).bind (receives_valuesOf r type)
  | some other => exact (receives_read _).bind fun _ => .throw _

theorem receives_readBuffer (r : Response) (type : ScalarType) (length : Nat) :
    Receives (readBuffer r type length : ClientM σ (List Scalar)) := by
  refine (receives_expectShape r _ _).bind fun _ =>
    (receives_readCounted r type).bind fun values => ?_
  by_cases hlength : values.length = length
  · simp only [hlength, ne_eq, not_true_eq_false, if_false]
    exact .pure values
  · simp only [hlength, ne_eq, not_false_eq_true, if_true]
    exact (Receives.throw _).bind fun _ => .pure values

theorem receives_untilMarker (milliseconds : Nat) :
    Receives (receive (·.untilMarker [0] milliseconds) : ClientM σ Bytes) := by
  refine .receive fun {_ raw _} h => ⟨raw ++ [0], ?_⟩
  rw [(Connection.splitAt?_eq_some_iff.1 (Connection.of_untilMarker h)).1, List.append_assoc]
  rfl

theorem receives_readText (r : Response) : Receives (readText r : ClientM σ String) := by
  refine (receives_expectShape r _ _).bind fun _ => Receives.get.bind fun c =>
    (receives_untilMarker _).checked.bind fun raw => ?_
  split
  · exact .pure _
  · exact .throw _

theorem receives_readTuple (r : Response) (format : String) :
    Receives (readTuple r format : ClientM σ (List Scalar)) :=
  (Receives.lift _).bind fun format => (receives_expectShape r _ _).bind fun _ =>
    (receives_read format.size).bind fun _ => .lift _

/-- Whatever a call site expects, it only receives. -/
theorem receives_decoder (r : Response) (decoder : Decoder) :
    Receives (decoder.run r : ClientM σ decoder.Value) := by
  cases decoder with
  | nothing => exact receives_expectShape r _ _
  | bool => exact receives_readBool r
  | scalar type => exact receives_readScalar r type
  | array type length => exact receives_readArray r type length
  | vector type => exact (receives_expectShape r _ _).bind fun _ => receives_readCounted r type
  | buffer type length => exact receives_readBuffer r type length
  | text => exact receives_readText r
  | json =>
    refine (receives_readText r).bind fun text => ?_
    split
    · exact .pure _
    · exact .throw _
  | tuple format => exact receives_readTuple r format

theorem receives_nextEvent : Receives (nextEvent : ClientM σ (UInt32 × UInt32)) := by
  refine Receives.get.bind fun c => ?_
  by_cases husable : c.usable = true
  · simp only [husable, Bool.not_true, Bool.false_eq_true, if_false]
    exact (receives_read 8).bind fun raw => .pure _
  · simp only [husable, Bool.not_false, if_true]
    exact (Receives.throw _).bind fun _ => (receives_read 8).bind fun raw => .pure _

/-- Who gets an event has taken its bytes. -/
theorem exists_of_nextEvent {c c' : Client σ} {event : UInt32 × UInt32}
    (h : Yields nextEvent c event c') :
    ∃ connection raw, c' = { c with connection := connection } ∧ raw.length = 8 ∧
      c.connection.pending = raw ++ connection.pending ∧
      event =
        (UInt32.ofNat (Wire.valueBE (raw.take 4)), UInt32.ofNat (Wire.valueBE (raw.drop 4))) := by
  obtain ⟨_, _, hget, hrest⟩ := yields_bind_iff.1 h
  cases hget
  by_cases husable : c.usable = true
  · simp only [husable, Bool.not_true, Bool.false_eq_true, if_false] at hrest
    obtain ⟨raw, c₁, hread, hpure⟩ := yields_bind_iff.1 hrest
    cases hpure
    obtain ⟨connection, hexactly, rfl⟩ := exists_of_receive (yields_of_checked hread)
    obtain ⟨hlen, hpending⟩ := Connection.of_exactly hexactly
    exact ⟨connection, raw, rfl, hlen, hpending, rfl⟩
  · simp only [husable, Bool.not_false, if_true] at hrest
    cases hrest

/-! ### A stream without a byte -/

theorem failsFatally_checked {act : ClientM σ α} (h : FailsFatally act) :
    FailsFatally (checked act) := by
  intro c e c' hfails
  obtain ⟨c₁, hact, -⟩ := exists_of_fails_checked hfails
  exact h c e c₁ hact

theorem failsFatally_expectShape (r : Response) (fits : Signature.ReturnShape → Bool)
    (expected : String) : FailsFatally (expectShape r fits expected : ClientM σ Unit) := by
  rw [expectShape]
  split
  · split
    · exact failsFatally_pure ()
    · exact failsFatally_checked (failsFatally_throw rfl)
  · exact failsFatally_pure ()

theorem failsFatally_read (n : Nat) : FailsFatally (read n : ClientM σ Bytes) :=
  failsFatally_checked (failsFatally_receive fun _ _ _ h => Connection.isFatal_of_receive h)

theorem failsFatally_nextEvent : FailsFatally (nextEvent : ClientM σ (UInt32 × UInt32)) := by
  refine failsFatally_bind failsFatally_get fun c => ?_
  have hevent : FailsFatally (do
      let raw ← read 8
      return (UInt32.ofNat (Wire.valueBE (raw.take 4)), UInt32.ofNat (Wire.valueBE (raw.drop 4))) :
        ClientM σ (UInt32 × UInt32)) :=
    failsFatally_bind (failsFatally_read 8) fun raw => failsFatally_pure _
  by_cases husable : c.usable = true
  · simp only [husable, Bool.not_true, Bool.false_eq_true, if_false]
    exact hevent
  · simp only [husable, Bool.not_false, if_true]
    exact failsFatally_bind (failsFatally_throw rfl) fun _ => hevent

/-- Without a byte to take, an action breaks the connection. -/
def Starves (act : ClientM σ α) : Prop :=
  ∀ c, c.connection.pending = [] → ∃ e c', Fails act c e c' ∧ e.isFatal = true

namespace Starves

variable {n : Nat} {act : ClientM σ α} {f : α → ClientM σ β}

theorem receive {take : Connection → Except Error α × Connection}
    (h : ∀ {c a connection}, take c = (.ok a, connection) → c.pending ≠ [])
    (hfatal : ∀ {c e connection}, take c = (.error e, connection) → e.isFatal = true) :
    Starves (Client.receive take : ClientM σ α) := by
  intro c hpending
  rcases htake : take c.connection with ⟨e | a, connection⟩
  · exact ⟨e, _, fails_receive htake, hfatal htake⟩
  · exact absurd hpending (h htake)

theorem checked (h : Starves act) : Starves (Client.checked act) := by
  intro c hpending
  obtain ⟨e, c', hfails, he⟩ := h c hpending
  exact ⟨e, _, fails_checked hfails he, he⟩

theorem bind (h : Starves act) (f : α → ClientM σ β) : Starves (act >>= f) := by
  intro c hpending
  obtain ⟨e, c', hfails, he⟩ := h c hpending
  exact ⟨e, c', fails_bind hfails, he⟩

/-- What comes before may end the action too. -/
theorem after (h : Receives act) (hfatal : FailsFatally act) (hf : ∀ a, Starves (f a)) :
    Starves (act >>= f) := by
  intro c hpending
  rcases hrun : act.run.run c with ⟨e | a, c'⟩
  · exact ⟨e, c', fails_bind hrun, hfatal c e c' hrun⟩
  · obtain ⟨connection, rfl, hsuffix⟩ := h.yields hrun
    rw [hpending, List.suffix_nil] at hsuffix
    obtain ⟨e, c'', hfails, he⟩ := hf a { c with connection := connection } hsuffix
    exact ⟨e, c'', fails_bind_of_yields hrun hfails, he⟩

theorem expectShape {f : Unit → ClientM σ β} (r : Response) (fits : Signature.ReturnShape → Bool)
    (expected : String) (hf : ∀ a, Starves (f a)) :
    Starves (Client.expectShape r fits expected >>= f) :=
  after (receives_expectShape r fits expected) (failsFatally_expectShape r fits expected) hf

end Starves

theorem starves_read {n : Nat} (hn : 0 < n) : Starves (read n : ClientM σ Bytes) := by
  refine .checked (.receive (fun h hpending => ?_) Connection.isFatal_of_receive)
  obtain ⟨hlen, htaken⟩ := Connection.of_exactly h
  obtain ⟨rfl, -⟩ := List.append_eq_nil_iff.1 (htaken.symm.trans hpending)
  exact absurd hlen (Nat.ne_of_lt hn)

theorem starves_word : Starves (checked (receive (·.word)) : ClientM σ UInt32) := by
  refine .checked (.receive (fun h hpending => ?_) Connection.isFatal_of_word)
  obtain ⟨raw, hlen, htaken⟩ := Connection.exists_of_word h
  obtain ⟨rfl, -⟩ := List.append_eq_nil_iff.1 (htaken.symm.trans hpending)
  cases hlen

theorem starves_readBool (r : Response) : Starves (readBool r : ClientM σ Bool) :=
  .expectShape r _ _ fun _ => (starves_read (by decide)).bind _

theorem starves_readScalar (r : Response) (type : ScalarType) :
    Starves (readScalar r type : ClientM σ Scalar) := by
  by_cases hbool : type = .bool
  · subst hbool
    exact (starves_readBool r).bind _
  · rw [readScalar, if_neg hbool]
    exact .expectShape r _ _ fun _ => (starves_read type.width_pos).bind _

theorem starves_readCounted (r : Response) (type : ScalarType) :
    Starves (readCounted r type : ClientM σ (List Scalar)) :=
  starves_word.bind _

theorem starves_readText (r : Response) : Starves (readText r : ClientM σ String) := by
  refine .expectShape r _ _ fun _ => .after .get failsFatally_get fun c => Starves.bind (.checked
    (.receive (fun h hpending => ?_) Connection.isFatal_of_receive)) _
  have hfound := (Connection.splitAt?_eq_some_iff.1 (Connection.of_untilMarker h)).1
  cases (List.append_eq_nil_iff.1 (hfound.symm.trans hpending)).2

/-! ### What a call site gets -/

/-- Whether elements follow their number in the replies of an operation. -/
def IsCounted (op : Operation) (type : ScalarType) : Prop :=
  op.mode = .readArray ∧ op.result.element? = some type ∨ op.mode = .read ∧ op.result = .vector type

/-- Whether a call site reads the replies of an operation as the operation declares them. -/
inductive Decoder.Fits (op : Operation) : Decoder → Prop
  | nothing (hmode : op.mode = .write) : Fits op .nothing
  | bool (hmode : op.mode = .read) (hresult : op.result = .scalar .bool) : Fits op .bool
  | scalar {type : ScalarType} (hmode : op.mode = .read) (hresult : op.result = .scalar type) :
      Fits op (.scalar type)
  | array {type : ScalarType} {length : Nat} (hmode : op.mode = .read)
      (hresult : op.result = .array type length) : Fits op (.array type length)
  | vector {type : ScalarType} (hcounted : IsCounted op type) : Fits op (.vector type)
  | buffer {type : ScalarType} (hcounted : IsCounted op type) (length : Nat) :
      Fits op (.buffer type length)
  | text (hmode : op.mode = .readText) : Fits op .text
  | json (hmode : op.mode = .readText) : Fits op .json
  | tuple {fields : List ScalarType} (hmode : op.mode = .read)
      (hresult : op.result = .tuple fields) :
      Fits op (.tuple (String.ofList (fields.map ScalarType.tag)))

/-- What a call site gets of what a device has answered. -/
inductive Decoder.Gets : (decoder : Decoder) → Reply → decoder.Value → Prop
  | bool (b : Bool) : Gets .bool (.scalar (Scalar.ofBool b)) b
  | scalar (value : Scalar) : Gets (.scalar value.type) (.scalar value) value
  | array (values : Elements) :
      Gets (.array values.type values.size) (.elements values) values.toList
  | vector (values : Elements) : Gets (.vector values.type) (.elements values) values.toList
  | buffer (values : Elements) :
      Gets (.buffer values.type values.size) (.elements values) values.toList
  | text (text : String) : Gets .text (.text text) text
  | json {text : String} {value : Json.Value}
      (hvalue : (Json.Tree.ofText? text.toList).bind (Json.Tree.value? Json.maxDepth) =
        some value) :
      Gets .json (.text text) value
  | tuple (format : String) (values : List Scalar) : Gets (.tuple format) (.tuple values) values

variable {op : Operation} {decoder : Decoder} {c c' : Client σ} {r : Response} {rest : Bytes}

/-- Only a call site that reads nothing fits an operation that sends nothing. -/
theorem Decoder.Fits.eq_nothing_iff (h : decoder.Fits op) :
    decoder = .nothing ↔ op.mode = .write := by
  cases h with
  | nothing hmode => exact iff_of_true rfl hmode
  | bool hmode | scalar hmode | array hmode | text hmode | json hmode | tuple hmode =>
    exact iff_of_false nofun (by rw [hmode]; nofun)
  | vector hcounted | buffer hcounted =>
    refine iff_of_false nofun ?_
    rcases hcounted with ⟨hmode, -⟩ | ⟨hmode, -⟩ <;> rw [hmode] <;> nofun

/-- What the client knows of the shape of a reply is what the operation declares. -/
theorem returns_of_declared
    (hsignature : r.signature? = none ∨ r.signature? = some (functionSignature op)) :
    ∀ shape, r.declared? = some shape → shape = (functionSignature op).returns := by
  intro shape hdeclared
  rcases hsignature with hnone | hsome
  · simp [Response.declared?, hnone] at hdeclared
  · rw [Response.declared?, hsome] at hdeclared
    exact (Option.some.inj hdeclared).symm

section Shape

variable (hop : op.IsDescribed)
  (hshape : ∀ shape, r.declared? = some shape → shape = (functionSignature op).returns)
include hop hshape

theorem starves_readArray {type : ScalarType} {length : Nat} (hmode : op.mode = .read)
    (hresult : op.result = .array type length) :
    Starves (readArray r type length : ClientM σ (List Scalar)) := by
  have hfilled := hop.isFilled
  rw [hresult] at hfilled
  have hread (f : Bytes → ClientM σ (List Scalar)) :
      Starves (read (length * type.width) >>= f) :=
    (starves_read (Nat.mul_pos hfilled type.width_pos)).bind f
  have harray (shape : Signature.ReturnShape) (hdeclared : r.declared? = some shape) :
      shape = .array type.elementName (UInt64.ofNat length) := by
    rw [hshape shape hdeclared, functionSignature, hresult, hmode]
    rfl
  have hother : r.otherElement? type = none := by
    refine otherElement?_eq_none fun shape hdeclared dtype hdtype => ?_
    rw [harray shape hdeclared] at hdtype
    simpa [eq_comm] using hdtype
  refine .expectShape r _ _ fun _ => ?_
  cases hdeclared : r.declared? with
  | none => exact hread _
  | some shape =>
    obtain rfl := harray shape hdeclared
    simp only [hother, UInt64.toNat_ofNat_of_lt' (hop.length_lt hresult), ne_eq, not_true_eq_false,
      if_false]
    exact hread _

/-- A call site that waits for a reply breaks the connection if none comes. -/
theorem Decoder.Fits.starves (hfits : decoder.Fits op) (hne : decoder ≠ .nothing) :
    Starves (decoder.run r : ClientM σ decoder.Value) := by
  cases hfits with
  | nothing => exact absurd rfl hne
  | bool => exact starves_readBool r
  | scalar => exact starves_readScalar r _
  | array hmode hresult => exact starves_readArray hop hshape hmode hresult
  | vector => exact .expectShape r _ _ fun _ => starves_readCounted r _
  | buffer => exact .expectShape r _ _ fun _ => (starves_readCounted r _).bind _
  | text => exact starves_readText r
  | json => exact (starves_readText r).bind _
  | @tuple fields _ hresult =>
    have hfilled := hop.isFilled
    rw [hresult] at hfilled
    obtain ⟨type, more, rfl⟩ := List.exists_cons_of_ne_nil hfilled
    have hsize : 0 < (TupleFormat.mk .big (type :: more)).size :=
      Nat.lt_of_lt_of_le type.width_pos (Nat.le_add_right _ _)
    rw [Decoder.run, readTuple, TupleFormat.read_tags]
    simp only [Client.lift, pure_bind]
    exact .expectShape r _ _ fun _ => (starves_read hsize).bind _

end Shape

/-- What comes of reading a reply: the call site gets it; or the reply is taken but is of no use to
it; or the connection breaks. -/
inductive Decoder.Settles (decoder : Decoder) (r : Response) (c : Client σ) (reply : Reply)
    (rest : Bytes) : Prop
  | gets {value : decoder.Value} {c' : Client σ} (hrun : Yields (decoder.run r) c value c')
      (hgets : decoder.Gets reply value) (hrest : c'.connection.pending = rest)
  | misfits {e : Error} {c' : Client σ} (hrun : Fails (decoder.run r) c e c')
      (hrest : c'.connection.pending = rest)
  | breaks {e : Error} {c' : Client σ} (hrun : Fails (decoder.run r) c e c')
      (he : e.isFatal = true)

/-- A call site that reads nothing takes nothing. -/
theorem run_nothing_cases (r : Response) (c : Client σ) :
    Yields (Decoder.nothing.run r) c () c ∨
      ∃ e c', Fails (Decoder.nothing.run r) c e c' ∧ e.isFatal = true := by
  rw [Decoder.run, expectShape]
  split
  · split
    · exact .inl (yields_pure () c)
    · exact .inr ⟨_, _, fails_checked (fails_throw _ c) rfl, rfl⟩
  · exact .inl (yields_pure () c)

section Settles

variable {reply : Reply} {bytes : Bytes}

theorem settles_of_reads {value : decoder.Value} (h : Reads (decoder.run r) c value rest)
    (hgets : decoder.Gets reply value) : decoder.Settles r c reply rest := by
  obtain ⟨c', hrun, hrest⟩ := h
  exact .gets hrun hgets hrest

theorem readText_cases (hshape : ∀ shape, r.declared? = some shape → shape = .string)
    {text : String} (hzero : '\x00' ∉ text.toList)
    (hpending : c.connection.pending = Text.utf8 text ++ 0 :: rest) :
    Reads (readText r) c text rest ∨
      ∃ e c', Fails (readText r) c e c' ∧ e.isFatal = true := by
  have hexpect : Yields (expectShape r (· == .string) "string") c () c :=
    yields_expectShape (fun shape hdeclared => by rw [hshape shape hdeclared]; rfl) c
  have hfound : Connection.splitAt? [0] c.connection.pending = some (Text.utf8 text, rest) :=
    Connection.splitAt?_eq_some_iff.2 ⟨hpending, mt Text.zero_mem_utf8_iff.1 hzero⟩
  rcases Connection.receive_cases (.bounded c.config.stringTimeout _)
    (Connection.finds_takeUntil? [0]) hfound with
    ⟨connection, hreceive, hrest⟩ | ⟨e, connection, hreceive, he⟩
  · refine .inl ⟨{ c with connection := connection }, yields_bind hexpect (yields_bind (yields_get c)
      (yields_bind (yields_checked (yields_receive hreceive)) ?_)), hrest⟩
    rw [Text.ofUtf8?_utf8]
    exact yields_pure _ _
  · exact .inr ⟨e, _, fails_bind_of_yields hexpect (fails_bind_of_yields (yields_get c)
      (fails_bind (fails_checked (fails_receive hreceive) he))), he⟩

theorem settles_text (hfits : decoder = .text ∨ decoder = .json)
    (hshape : ∀ shape, r.declared? = some shape → shape = .string) {text : String}
    (hzero : '\x00' ∉ text.toList)
    (hpending : c.connection.pending = Text.utf8 text ++ 0 :: rest) :
    decoder.Settles r c (.text text) rest := by
  have hcases := readText_cases hshape hzero hpending
  rcases hfits with rfl | rfl
  · rcases hcases with hreads | ⟨e, c', hfails, he⟩
    · exact settles_of_reads hreads (.text text)
    · exact .breaks hfails he
  · rcases hcases with ⟨c', hread, hrest⟩ | ⟨e, c', hfails, he⟩
    · cases hvalue : (Json.Tree.ofText? text.toList).bind (Json.Tree.value? Json.maxDepth) with
      | some value =>
        refine .gets (yields_bind hread ?_) (.json hvalue) hrest
        rw [hvalue]
        exact yields_pure _ _
      | none =>
        refine .misfits (e := .invalidJson) (fails_bind_of_yields hread ?_) hrest
        rw [hvalue]
        exact fails_throw _ _
    · exact .breaks (fails_bind hfails) he

/-- A reply whose elements are counted is some elements after their number. -/
theorem exists_of_isCounted {type : ScalarType} (hcounted : IsCounted op type)
    (hsent : reply.IsSent op (some bytes)) : ∃ values : Elements, values.type = type ∧
      reply = .elements values ∧ values.size < UInt32.size ∧
      bytes = Wire.bytesBE 4 values.size ++ values.raw := by
  rcases hcounted with ⟨hmode, helement⟩ | ⟨hmode, hresult⟩
  · cases hsent with
    | @transfer values _ htype hsize =>
      exact ⟨values, Option.some.inj (htype.symm.trans helement), rfl, hsize, rfl⟩
    | bool hread | scalar hread | array hread | vector hread | tuple hread =>
      cases hread.symm.trans hmode
  · cases hsent with
    | @vector values _ hvector hsize =>
      exact ⟨values, WireType.vector.inj (hvector.symm.trans hresult), rfl, hsize, rfl⟩
    | bool _ hother | scalar _ hother | array _ hother | tuple _ hother =>
      cases hother.symm.trans hresult
    | transfer htransfer => cases htransfer.symm.trans hmode

/-- A buffer is gotten if it is as long as what has come, which is taken in any case. -/
theorem settles_buffer {values : Elements} (hsize : values.size < UInt32.size)
    (hshape : ∀ shape, r.declared? = some shape →
      shape = .vector values.type.elementName ∨ shape = .buffer values.type.elementName)
    (hpending : c.connection.pending = Wire.bytesBE 4 values.size ++ values.raw ++ rest)
    (length : Nat) :
    (Decoder.buffer values.type length).Settles r c (.elements values) rest := by
  by_cases hlength : values.size = length
  · subst hlength
    exact settles_of_reads (reads_readBuffer hsize hshape hpending) (.buffer values)
  · have hexpect : Yields (expectShape r isCounted "buffer") c () c := by
      refine yields_expectShape (fun shape hdeclared => ?_) c
      rcases hshape shape hdeclared with rfl | rfl <;> rfl
    obtain ⟨c', hread, hrest⟩ := reads_readCounted hsize hshape hpending
    refine .misfits (e := .lengthMismatch r.operation length values.size)
      (fails_bind_of_yields hexpect (fails_bind_of_yields hread ?_)) hrest
    rw [values.length_toList]
    simp only [hlength, ne_eq, not_false_eq_true, if_true]
    exact fails_throw _ _

theorem settles_of_isSent (hop : op.IsDescribed) (hmode : op.mode ≠ .readText)
    (hshape : ∀ shape, r.declared? = some shape →
      shape = Signature.shape op.result (op.mode == .readArray))
    (hsent : reply.IsSent op (some bytes)) (hpending : c.connection.pending = bytes ++ rest)
    (hfits : decoder.Fits op) : decoder.Settles r c reply rest := by
  -- the decoder fits the operation, so only the replies of its own mode and type are left
  cases hfits with
  | nothing hwrite =>
    cases hsent with
    | bool hread | scalar hread | array hread | vector hread | tuple hread | transfer hread =>
      cases hread.symm.trans hwrite
  | text htext | json htext => exact absurd htext hmode
  | bool hread hresult =>
    cases hsent with
    | @bool value _ _ htype =>
      obtain ⟨b, rfl⟩ := Scalar.exists_ofBool htype
      exact settles_of_reads (reads_of_isSent hop (.bool hread hresult htype) hshape hpending
        (.bool b rfl)) (.bool b)
    | scalar _ hscalar htype =>
      exact absurd (WireType.scalar.inj (hscalar.symm.trans hresult)) htype
    | array _ hother | vector _ hother | tuple _ hother => cases hother.symm.trans hresult
    | transfer htransfer => cases htransfer.symm.trans hread
  | @scalar type hread hresult =>
    obtain ⟨value, rfl, rfl⟩ : ∃ value : Scalar, value.type = type ∧ reply = .scalar value := by
      cases hsent with
      | @bool value _ hscalar _ | @scalar value _ hscalar _ =>
        exact ⟨value, WireType.scalar.inj (hscalar.symm.trans hresult), rfl⟩
      | array _ hother | vector _ hother | tuple _ hother => cases hother.symm.trans hresult
      | transfer htransfer => cases htransfer.symm.trans hread
    exact settles_of_reads (reads_of_isSent hop hsent hshape hpending (.scalar value))
      (.scalar value)
  | @array type length hread hresult =>
    cases hsent with
    | @array values _ harray =>
      obtain ⟨rfl, rfl⟩ := WireType.array.inj (harray.symm.trans hresult)
      exact settles_of_reads (reads_of_isSent hop (.array hread hresult) hshape hpending
        (.array hread hresult)) (.array values)
    | bool _ hother | scalar _ hother | vector _ hother | tuple _ hother =>
      cases hother.symm.trans hresult
    | transfer htransfer => cases htransfer.symm.trans hread
  | @vector type hcounted =>
    obtain ⟨values, rfl, rfl, -, -⟩ := exists_of_isCounted hcounted hsent
    exact settles_of_reads (reads_of_isSent hop hsent hshape hpending
      (.vector (hcounted.imp And.left And.right))) (.vector values)
  | @buffer type hcounted length =>
    obtain ⟨values, rfl, rfl, hsize, rfl⟩ := exists_of_isCounted hcounted hsent
    have hcountedShape (shape : Signature.ReturnShape) (hdeclared : r.declared? = some shape) :
        shape = .vector values.type.elementName ∨ shape = .buffer values.type.elementName :=
      hshape shape hdeclared ▸ shape_of_counted hcounted
    exact settles_buffer hsize hcountedShape hpending length
  | @tuple fields hread hresult =>
    cases hsent with
    | @tuple fields' values _ _ htuple hbytes =>
      obtain rfl := WireType.tuple.inj (htuple.symm.trans hresult)
      exact settles_of_reads (reads_of_isSent hop (.tuple hread hresult hbytes) hshape hpending
        (.tuple hresult)) (.tuple _ values)
    | bool _ hother | scalar _ hother | array _ hother | vector _ hother =>
      cases hother.symm.trans hresult
    | transfer htransfer => cases htransfer.symm.trans hread

/-- Reading what a device has answered settles a call whose site reads it as its operation declares
it, whatever comes after it. -/
theorem settles_run (hop : op.IsDescribed) {device : String}
    (hbytes : (⟨device, op⟩ : CallSite).encode reply = .ok (some bytes))
    (hzero : ∀ text, reply = .text text → '\x00' ∉ text.toList)
    (hsignature : r.signature? = none ∨ r.signature? = some (functionSignature op))
    (hpending : c.connection.pending = bytes ++ rest) (hfits : decoder.Fits op) :
    decoder.Settles r c reply rest := by
  have hshape := returns_of_declared hsignature
  by_cases hmode : op.mode = .readText
  · obtain ⟨text, rfl, hsent⟩ := CallSite.exists_text_of_encode hmode hbytes
    cases hsent
    rw [List.append_assoc] at hpending
    refine settles_text ?_ (fun shape hdeclared => ?_) (hzero text rfl) hpending
    · cases hfits with
      | text => exact .inl rfl
      | json => exact .inr rfl
      | nothing hother | bool hother | scalar hother | array hother | tuple hother =>
        cases hmode.symm.trans hother
      | vector hcounted | buffer hcounted =>
        rcases hcounted with ⟨hother, -⟩ | ⟨hother, -⟩ <;> cases hmode.symm.trans hother
    · rw [hshape shape hdeclared, hop.returns_of_readText hmode]
  · exact settles_of_isSent hop hmode hshape (CallSite.isSent_of_encode hmode hbytes) hpending hfits

end Settles

end Client

end Instrument.Network
