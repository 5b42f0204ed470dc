import Instrument.Proofs.Network.Replies
import Instrument.Proofs.Text.Utf8

/-!
Replies that are text. A device may answer with any text, and the client takes what stands before
the first zero byte. Main statement: the client reads just the texts that the devices answer with if
and only if no text holds a zero character; of a text that holds one, it reads what stands before
the first one and leaves the others in front of the next reply.
-/

namespace Instrument

theorem CallSite.encode_text {site : CallSite} (hmode : site.operation.mode = .readText)
    (text : String) : site.encode (.text text) = .ok (some (Text.utf8 text ++ [0])) := by
  simp only [encode, hmode]
  rfl

/-- Only text is sent by an operation that answers with text. -/
theorem CallSite.exists_text_of_encode {site : CallSite} (hmode : site.operation.mode = .readText)
    {reply : Reply} {out : Option Bytes} (h : site.encode reply = .ok out) :
    ∃ text, reply = .text text ∧ out = some (Text.utf8 text ++ [0]) := by
  cases reply with
  | text text =>
    rw [encode_text hmode] at h
    exact ⟨text, rfl, (Except.ok.inj h).symm⟩
  | _ => simp [encode, hmode] at h

/-- An operation that answers with text declares that it does. -/
theorem Interface.Operation.IsDescribed.returns_of_readText {op : Interface.Operation}
    (h : op.IsDescribed) (hmode : op.mode = .readText) :
    (DeviceTable.functionSignature op).returns = .string := by
  rcases h.result_of_readText hmode with hresult | hresult
  · simp only [DeviceTable.functionSignature, hresult, hmode]
    rfl
  · simp only [DeviceTable.functionSignature, hresult, hmode]
    rfl

namespace Network.Client

/-- A text that a device answers with, and what the client keeps of the call until it reads it. -/
structure TextReply where
  site : CallSite
  text : String
  response : Response

namespace TextReply

/-- Whether the operation declares text, and the client knows its signature or none. -/
structure IsDeclared (reply : TextReply) : Prop where
  described : reply.site.operation.IsDescribed
  mode : reply.site.operation.mode = .readText
  signature : reply.response.signature? = none ∨ reply.response.signature? =
    some (Interface.DeviceTable.functionSignature reply.site.operation)

/-- The bytes that are sent. -/
def bytes (reply : TextReply) : Bytes := Text.utf8 reply.text ++ [0]

theorem IsDeclared.declared {reply : TextReply} (h : reply.IsDeclared)
    {shape : Signature.ReturnShape} (hshape : reply.response.declared? = some shape) :
    shape = .string := by
  rcases h.signature with hnone | hsome
  · simp [Response.declared?, hnone] at hshape
  · rw [Response.declared?, hsome] at hshape
    exact (Option.some.inj hshape).symm.trans (h.described.returns_of_readText h.mode)

end TextReply

open ClientM (Yields)

variable {σ : Type} {c : Client σ} {rest : Bytes}

/-- Whether the client waits for text long enough to get what arrives. -/
def AwaitsText (c : Client σ) : Prop :=
  0 < c.config.stringTimeout ∧ .pause ∉ c.connection.arriving

instance : Decidable c.AwaitsText :=
  inferInstanceAs (Decidable (0 < c.config.stringTimeout ∧ .pause ∉ c.connection.arriving))

theorem encode_texts {replies : List TextReply} (h : ∀ reply ∈ replies, reply.IsDeclared) :
    replies.mapM (fun reply => reply.site.encode (.text reply.text)) =
      .ok (replies.map fun reply => some reply.bytes) := by
  induction replies with
  | nil => rfl
  | cons reply replies ih =>
    rw [List.forall_mem_cons] at h
    rw [List.mapM_cons, CallSite.encode_text h.1.mode, ih h.2]
    rfl

/-- What is read is what stands before the first zero byte. -/
theorem yields_readText {reply : TextReply} (hreply : reply.IsDeclared) (hawaits : c.AwaitsText)
    {before : List Char} (hbefore : '\x00' ∉ before)
    (hpending : c.connection.pending = Text.utf8 (String.ofList before) ++ 0 :: rest) :
    ∃ connection,
      Yields (readText reply.response) c (String.ofList before)
        { c with connection := connection } ∧
      connection.pending = rest ∧ connection.arriving <:+ c.connection.arriving := by
  have hzero : 0 ∉ Text.utf8 (String.ofList before) := by
    rw [Text.zero_mem_utf8_iff, String.toList_ofList]
    exact hbefore
  have hfound : Connection.splitAt? [0] c.connection.pending =
      some (Text.utf8 (String.ofList before), rest) :=
    Connection.splitAt?_eq_some_iff.2 ⟨hpending, hzero⟩
  obtain ⟨connection, hreceive, hrest, -, harriving⟩ := Connection.receive_of_finds
    (.bounded c.config.stringTimeout _) (Connection.finds_takeUntil? [0]) hawaits hfound
  refine ⟨connection, ?_, hrest, harriving⟩
  have hshape : Yields (expectShape reply.response (· == .string) "string") c () c :=
    yields_expectShape (fun shape hdeclared => by rw [hreply.declared hdeclared]; rfl) c
  refine yields_bind hshape (yields_bind (yields_get c) (yields_bind
    (yields_checked (yields_receive hreceive)) ?_))
  rw [Text.ofUtf8?_utf8]
  exact yields_pure _ _

theorem AwaitsText.of_suffix {connection : Connection} (h : c.AwaitsText)
    (hsuffix : connection.arriving <:+ c.connection.arriving) :
    AwaitsText { c with connection := connection } :=
  ⟨h.1, fun hmem => h.2 (hsuffix.subset hmem)⟩

/-- What stands before the first zero character is read in the place of the whole text. -/
theorem reads_readText_of_zero {reply : TextReply} (hreply : reply.IsDeclared)
    (hawaits : c.AwaitsText) {before after : List Char}
    (htext : reply.text = String.ofList (before ++ '\x00' :: after)) (hbefore : '\x00' ∉ before)
    (hpending : c.connection.pending = reply.bytes ++ rest) :
    Reads (readText reply.response) c (String.ofList before)
      (Text.utf8 (String.ofList after) ++ 0 :: rest) := by
  have hbytes : c.connection.pending = Text.utf8 (String.ofList before) ++
      0 :: (Text.utf8 (String.ofList after) ++ 0 :: rest) := by
    rw [hpending, TextReply.bytes, htext]
    simp only [Text.utf8_ofList, List.flatMap_append, List.flatMap_cons, List.append_assoc]
    rfl
  obtain ⟨connection, hread, hrest, -⟩ := yields_readText hreply hawaits hbefore hbytes
  exact ⟨_, hread, hrest⟩

/-- A text is read as it is just if it holds no zero character. -/
theorem yields_text_cases {reply : TextReply} (hreply : reply.IsDeclared) (hawaits : c.AwaitsText)
    (hpending : c.connection.pending = reply.bytes ++ rest) :
    ('\x00' ∉ reply.text.toList ∧ ∃ connection,
      Yields (readText reply.response) c reply.text { c with connection := connection } ∧
      connection.pending = rest ∧ connection.arriving <:+ c.connection.arriving) ∨
    ('\x00' ∈ reply.text.toList ∧ ∃ text c',
      Yields (readText reply.response) c text c' ∧ text ≠ reply.text) := by
  by_cases hzero : '\x00' ∈ reply.text.toList
  · right
    obtain ⟨before, after, hsplit, hbefore⟩ := List.eq_append_cons_of_mem hzero
    have htext : reply.text = String.ofList (before ++ '\x00' :: after) := by
      rw [← hsplit, String.ofList_toList]
    obtain ⟨c', hread, -⟩ := reads_readText_of_zero hreply hawaits htext hbefore hpending
    refine ⟨hzero, _, c', hread, fun heq => hbefore ?_⟩
    rwa [← heq, String.toList_ofList] at hzero
  · left
    rw [TextReply.bytes, List.append_assoc] at hpending
    have hread := yields_readText hreply hawaits hzero (by rw [String.ofList_toList]; exact hpending)
    rw [String.ofList_toList] at hread
    exact ⟨hzero, hread⟩

/-- The texts of some replies are read just if none of them holds a zero character. -/
theorem reads_mapM_readText_iff {replies : List TextReply}
    (hreplies : ∀ reply ∈ replies, reply.IsDeclared) (hawaits : c.AwaitsText)
    (hpending : c.connection.pending = replies.flatMap TextReply.bytes ++ rest) :
    Reads (replies.mapM (readText ·.response)) c (replies.map (·.text)) rest ↔
      ∀ reply ∈ replies, '\x00' ∉ reply.text.toList := by
  induction replies generalizing c with
  | nil => exact iff_of_true (reads_pure _ hpending) (by simp)
  | cons reply replies ih =>
    rw [List.forall_mem_cons] at hreplies ⊢
    rw [List.flatMap_cons, List.append_assoc] at hpending
    simp only [Reads, List.mapM_cons, yields_bind_iff]
    obtain ⟨hzero, connection, hread, hrest, hsuffix⟩ | ⟨hzero, text, c', hread, hne⟩ :=
      yields_text_cases hreplies.1 hawaits hpending
    · rw [← ih hreplies.2 (hawaits.of_suffix hsuffix) hrest]
      constructor
      · rintro ⟨c', ⟨text, c₁, hread', texts, c₂, hmore, hpure⟩, hrest'⟩
        obtain ⟨rfl, rfl⟩ := hread'.unique hread
        obtain ⟨htexts, rfl⟩ := hpure.unique (yields_pure _ _)
        exact ⟨hzero, c', (List.cons.inj htexts).2 ▸ hmore, hrest'⟩
      · rintro ⟨-, c', hmore, hrest'⟩
        exact ⟨c', ⟨_, _, hread, _, c', hmore, yields_pure _ _⟩, hrest'⟩
    · refine iff_of_false ?_ fun h => h.1 hzero
      rintro ⟨c', ⟨text', c₁, hread', texts, c₂, hmore, hpure⟩, -⟩
      obtain ⟨rfl, rfl⟩ := hread'.unique hread
      obtain ⟨htexts, rfl⟩ := hpure.unique (yields_pure _ _)
      exact hne (List.cons.inj htexts).1.symm

/-- Text is framed by its zero byte alone. Every text is accepted and sent with a zero byte after it,
and the client reads just the texts of the devices and leaves just what follows them if and only if
no text holds a zero character: of a text that holds one it reads what stands before the first one,
and what stands after it comes before the next reply. -/
theorem reads_texts_iff {replies : List TextReply} (hreplies : ∀ reply ∈ replies, reply.IsDeclared)
    {c : Client σ} (hawaits : c.AwaitsText) {rest : Bytes}
    (hpending : c.connection.pending = replies.flatMap TextReply.bytes ++ rest) :
    replies.mapM (fun reply => reply.site.encode (.text reply.text)) =
      .ok (replies.map fun reply => some reply.bytes) ∧
    (Reads (replies.mapM (readText ·.response)) c (replies.map (·.text)) rest ↔
      ∀ reply ∈ replies, '\x00' ∉ reply.text.toList) ∧
    ∀ (reply : TextReply) (later : List TextReply) (before after : List Char),
      replies = reply :: later → reply.text = String.ofList (before ++ '\x00' :: after) →
      '\x00' ∉ before →
      Reads (readText reply.response) c (String.ofList before)
        (Text.utf8 (String.ofList after) ++ 0 :: (later.flatMap TextReply.bytes ++ rest)) := by
  refine ⟨encode_texts hreplies, reads_mapM_readText_iff hreplies hawaits hpending, ?_⟩
  rintro reply later before after rfl htext hbefore
  rw [List.flatMap_cons, List.append_assoc] at hpending
  exact reads_readText_of_zero (hreplies reply (List.mem_cons_self ..)) hawaits htext hbefore
    hpending

/-- A pump answers with text. -/
def pumpPlace : Interface.Operation where
  name := "place"
  tag := "PLACE"
  id := 0
  resultType := "std::string"
  result := .string
  mode := .readText
  arguments := []
  buffer? := none
  lengthExpression? := none
  line := 2

theorem isDescribed_pumpPlace : pumpPlace.IsDescribed :=
  ⟨[], ⟨"Pump", 1, [⟨"place", 2, "std::string", [], true⟩]⟩,
    ⟨"Pump", "PUMP", 0, [pumpPlace], none⟩, rfl, List.mem_singleton_self pumpPlace⟩

/-- A text that the operation answers with, to a client that knows its signature. -/
def placeReply (text : String) : TextReply :=
  ⟨⟨"Pump", pumpPlace⟩, text,
    ⟨"place", some (Interface.DeviceTable.functionSignature pumpPlace)⟩⟩

theorem isDeclared_placeReply (text : String) : (placeReply text).IsDeclared :=
  ⟨isDescribed_pumpPlace, rfl, .inr rfl⟩

/-- A client to which some bytes arrive. -/
def clientOf (arriving : List Arrival) : Client Unit :=
  { connection := { arriving := arriving }, peer := (), config := {} }

/-- Two texts are read from the chunks in which they arrive, and the byte that follows them is left;
of a text that holds a zero character, the client reads what stands before it. -/
theorem reads_texts_iff_place :
    Reads (["ab", "c"].map placeReply |>.mapM (readText ·.response))
      (clientOf [.chunk [97, 98], .chunk [0, 99, 0, 7]]) ["ab", "c"] [7] ∧
    Reads (readText (placeReply "a\x00b").response) (clientOf [.chunk [97, 0, 98, 0, 99, 0]]) "a"
      [98, 0, 99, 0] := by
  have hreplies (texts : List String) : ∀ reply ∈ texts.map placeReply, reply.IsDeclared := by
    intro reply hreply
    obtain ⟨text, -, rfl⟩ := List.mem_map.1 hreply
    exact isDeclared_placeReply text
  constructor
  · exact (reads_texts_iff (hreplies ["ab", "c"]) (by decide) rfl).2.1.2 (by decide)
  · have hpending : (clientOf [.chunk [97, 0, 98, 0, 99, 0]]).connection.pending =
        (["a\x00b", "c"].map placeReply).flatMap TextReply.bytes ++ [] := rfl
    exact (reads_texts_iff (hreplies ["a\x00b", "c"]) (by decide) hpending).2.2 _ _ ['a'] ['b'] rfl
      rfl (by decide)

/-- The texts of two calls are sent, the first one with a zero character in it, and the client reads
two parts of the first one in their place. -/
theorem reads_texts_zero_place :
    (["a\x00b", "c"].map placeReply).mapM (fun reply => reply.site.encode (.text reply.text)) =
      .ok [some [97, 0, 98, 0], some [99, 0]] ∧
    Reads (["a\x00b", "c"].map placeReply |>.mapM (readText ·.response))
      (clientOf [.chunk [97, 0, 98, 0, 99, 0]]) ["a", "b"] [99, 0] :=
  ⟨rfl, _, rfl, rfl⟩

end Network.Client

end Instrument
