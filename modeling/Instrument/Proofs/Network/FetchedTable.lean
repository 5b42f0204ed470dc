import Instrument.Proofs.Interface.DeviceNames
import Instrument.Proofs.Network.Replies
import Instrument.Proofs.Text.Utf8

/-!
The discovery table on its way to a client. A client takes what stands before the line that ends the
table, then what stands before a zero byte. Main statement: in the text of every table that a server
has or that is read from a text, that line stands once, at the end; the table is read back from it;
and a client that is sent this text with a zero byte after it fetches the table and leaves just what
follows the zero byte.
-/

namespace Instrument

namespace Discovery.Table

/-- The tables of declared devices, with any least width, and those that are read from texts; no
text in memory has 2 ^ 64 characters. -/
inductive IsKnown : Table → Prop where
  | served {found : List Interface.Description} {devices : Interface.DeviceTable} {width : Nat}
    (hfound : Interface.AreDeclared found)
    (h : Interface.DeviceTable.ofDescriptions found = .ok devices) (hwidth : width < Text.limit64) :
    IsKnown (devices.discovery.widen width)
  | read {text : List Char} {t : Table} (hlength : text.length < Text.limit64)
    (h : ofText text = .ok t) : IsKnown t

variable {t : Table}

theorem IsKnown.isWritable (h : t.IsKnown) : t.IsWritable := by
  cases h with
  | served hfound h hwidth => exact (Interface.isWritable_discovery hfound h).widen hwidth
  | read hlength h => exact isWritable_of_ofText hlength h

end Discovery.Table

namespace Network.Client

open ClientM (Yields Fails)
open Discovery (Table)
open Text (utf8)

/-! ### The end of the text -/

section

variable {t : Table}

theorem toList_tableEnd : tableEnd.toList = '\n' :: (Table.endLine.toList ++ ['\n']) := rfl

/-- The last two line feeds and what stands between them end the text of a table. -/
theorem exists_text_eq (t : Table) : ∃ body, t.text = body ++ tableEnd := by
  have hsome : t.bodyLines ≠ [] := List.cons_ne_nil _ _
  obtain ⟨before, last, hlines⟩ := (List.eq_nil_or_concat t.bodyLines).resolve_left hsome
  refine ⟨String.ofList (before.flatMap (· ++ ['\n']) ++ last), String.toList_inj.1 ?_⟩
  rw [t.toList_text, Table.textLines, hlines, String.toList_append, String.toList_ofList,
    toList_tableEnd]
  simp

/-- The line that ends a table stands nowhere else in its text. -/
theorem eq_nil_of_toList_text (h : t.IsWritable) {before after : List Char}
    (htext : t.text.toList = before ++ tableEnd.toList ++ after) : after = [] := by
  have hfree := h.newline_notMem_textLines
  rw [Table.textLines, List.forall_mem_append, List.forall_mem_singleton] at hfree
  have hlines : (t.bodyLines ++ [Table.endLine.toList]).flatMap (· ++ ['\n']) =
      before ++ '\n' :: (Table.endLine.toList ++ '\n' :: after) := by
    rw [← Table.textLines, ← t.toList_text, htext, toList_tableEnd]
    simp
  exact Text.eq_nil_of_flatMap_eq hfree.1 hfree.2 t.endLine_notMem_bodyLines hlines

theorem utf8_append (s u : String) : utf8 (s ++ u) = utf8 s ++ utf8 u := by
  rw [utf8, String.toList_append, List.flatMap_append]
  rfl

/-- The bytes of a text are those of its lines, with a byte for each line feed. -/
theorem utf8_flatMap (ls : List (List Char)) :
    (ls.flatMap (· ++ ['\n'])).flatMap String.utf8EncodeChar =
      (ls.map fun l => utf8 (String.ofList l)).flatMap (· ++ [10]) := by
  simp only [List.flatMap_assoc, List.flatMap_append, List.flatMap_map, Text.utf8_ofList]
  rfl

/-- Nor do its bytes stand elsewhere among those of the text. -/
theorem eq_nil_of_utf8_text (h : t.IsWritable) {before after : Bytes}
    (htext : utf8 t.text = before ++ utf8 tableEnd ++ after) : after = [] := by
  have hfree (l : List Char) (hl : l ∈ t.textLines) : 10 ∉ utf8 (String.ofList l) := by
    intro hmem
    have hnewline := (Text.mem_utf8_iff (d := '\n') (by decide)).1 hmem
    rw [String.toList_ofList] at hnewline
    exact h.newline_notMem_textLines l hl hnewline
  have hbody : ∀ bytes ∈ t.bodyLines.map fun l => utf8 (String.ofList l), 10 ∉ bytes := by
    intro bytes hbytes
    obtain ⟨l, hl, rfl⟩ := List.mem_map.1 hbytes
    exact hfree l (List.mem_append_left _ hl)
  have hend : utf8 Table.endLine ∉ t.bodyLines.map fun l => utf8 (String.ofList l) := by
    intro hmem
    obtain ⟨l, hl, heq⟩ := List.mem_map.1 hmem
    refine t.endLine_notMem_bodyLines ?_
    rwa [← Text.utf8_inj heq, String.toList_ofList]
  have hlines := utf8_flatMap t.textLines
  have hmarker : utf8 tableEnd = 10 :: (utf8 Table.endLine ++ [10]) := rfl
  rw [← t.toList_text, ← utf8, htext, hmarker, Table.textLines, List.map_append] at hlines
  refine Text.eq_nil_of_flatMap_eq (a := before) hbody (by decide) hend (hlines.symm.trans ?_)
  simp

/-- A client that looks for the end of a table finds it where the text ends. -/
theorem splitAt?_tableEnd (h : t.IsWritable) {body : String} (hbody : t.text = body ++ tableEnd)
    (rest : Bytes) :
    Connection.splitAt? (utf8 tableEnd) (utf8 t.text ++ rest) = some (utf8 body, rest) := by
  have hbytes : utf8 t.text = utf8 body ++ utf8 tableEnd := by rw [hbody, utf8_append]
  suffices hwhole : Connection.splitAt? (utf8 tableEnd) (utf8 t.text) = some (utf8 body, []) from
    Connection.stable_splitAt? _ rest hwhole
  refine Connection.splitAt?_eq_some.2 ⟨by rw [hbytes, List.append_nil], ?_⟩
  rintro j hj ⟨after, hafter⟩
  have hsplit : utf8 t.text = (utf8 t.text).take j ++ utf8 tableEnd ++ after := by
    rw [List.append_assoc, hafter, List.take_append_drop]
  obtain rfl := eq_nil_of_utf8_text h hsplit
  have hlength := congrArg List.length hafter
  rw [hbytes] at hlength
  simp only [List.length_append, List.length_drop, List.length_nil] at hlength
  omega

end

/-! ### Waiting for the table -/

variable {σ : Type} {c : Client σ} {t : Table} {rest : Bytes}

theorem yields_awaitTable (ht : t.IsWritable) {body : String} (hbody : t.text = body ++ tableEnd)
    (htime : 0 < c.config.discoveryTimeout) (hpause : .pause ∉ c.connection.arriving)
    (hpending : c.connection.pending = utf8 t.text ++ rest) :
    ∃ connection,
      Yields awaitTable c (some (utf8 body)) { c with connection := connection } ∧
      connection.pending = rest ∧ connection.arriving <:+ c.connection.arriving := by
  have hfound := splitAt?_tableEnd ht hbody rest
  rw [← hpending] at hfound
  obtain ⟨connection, hreceive, hrest, -, harriving⟩ := Connection.receive_of_finds
    (.bounded c.config.discoveryTimeout _) (Connection.finds_takeUntil? _) ⟨htime, hpause⟩ hfound
  exact ⟨connection, yields_bind (yields_get c) (yields_tryCatch
    (yields_bind (yields_receive hreceive) (yields_pure _ _))), hrest, harriving⟩

/-- There is no table if nothing arrives in time. -/
theorem yields_awaitTable_none (hbuffer : c.connection.buffer = [])
    (harriving : c.connection.arriving = []) (hclosed : c.connection.closed = false) :
    ∃ connection, Yields awaitTable c none { c with connection := connection } ∧
      connection.buffer = [] ∧ connection.arriving = [] := by
  obtain ⟨connection, hreceive, hempty, hnothing⟩ := Connection.receive_of_silence
    c.config.discoveryTimeout (String.ofList (Text.ofUtf8Lossy (utf8 tableEnd)))
    (Connection.finds_takeUntil? (utf8 tableEnd)) (hbuffer ▸ rfl) harriving hclosed
  exact ⟨connection, yields_bind (yields_get c) (yields_tryCatch_of_fails
    (fails_bind (fails_receive hreceive)) (yields_pure _ _)), hempty.trans hbuffer, hnothing⟩

/-! ### Fetching the table -/

variable [Peer σ]

/-- The request for the table. -/
def tableRequest : Bytes :=
  EnvelopeHeader.toBytes ⟨Interface.controlId, discoveryOperation, 0⟩

/-- Whether some bytes are there or arrive for a client that requests the table: its peer answers
the first request, or the second one after a silence. -/
inductive IsAnswered (c : Client σ) (bytes : Bytes) : Prop where
  | first {peer : σ} {arrived : Bytes} {ended : Bool}
    (hreact : Peer.react c.peer tableRequest = (peer, arrived, ended))
    (h : c.connection.pending ++ arrived = bytes)
  | second {silent peer : σ} {ended : Bool}
    (hpending : c.connection.pending = []) (hclosed : c.connection.closed = false)
    (hsilent : Peer.react c.peer tableRequest = (silent, [], false))
    (hreact : Peer.react silent tableRequest = (peer, bytes, ended))

/-- What stands before the end of the table is taken. -/
theorem yields_requestTable (ht : t.IsWritable) {body : String} (hbody : t.text = body ++ tableEnd)
    (htime : 0 < c.config.discoveryTimeout) (h : c.IsAnswered (utf8 t.text ++ rest)) :
    ∃ connection peer,
      Yields requestTable c (utf8 body) { c with connection := connection, peer := peer } ∧
      connection.pending = rest ∧ .pause ∉ connection.arriving := by
  have hrequest : Yields (lift (envelope Interface.controlId discoveryOperation [])) c tableRequest
      c := yields_lift rfl c
  rw [requestTable]
  cases h with
  | @first peer arrived ended hreact hpending =>
    obtain ⟨sent, hsend, hsent, harriving, -⟩ := yields_send (by decide) hreact
    have hpause : .pause ∉ sent.arriving := harriving ▸ pause_notMem_chunks _
    obtain ⟨connection, hawait, hrest, hsuffix⟩ :=
      yields_awaitTable (c := { c with connection := sent, peer := peer }) ht hbody htime hpause
        (hsent.trans hpending)
    refine ⟨connection, peer, ?_, hrest, fun hmem => hpause (hsuffix.subset hmem)⟩
    exact yields_bind hrequest (yields_bind hsend (yields_bind hawait (yields_pure _ _)))
  | @second silent peer ended hpending hclosed hsilent hreact =>
    obtain ⟨hbuffer, hflatten⟩ := List.append_eq_nil_iff.1 hpending
    -- After the first request there is silence.
    obtain ⟨sent, hsend, -, harriving, hsame, -, hopen⟩ := yields_send (by decide) hsilent
    rw [hflatten, List.append_nil, chunks, dif_pos rfl] at harriving
    rw [hclosed, Bool.or_false] at hopen
    obtain ⟨quiet, hnone, hempty, hnothing⟩ := yields_awaitTable_none
      (c := { c with connection := sent, peer := silent }) (hsame.trans hbuffer) harriving hopen
    -- The second request is answered.
    obtain ⟨again, hresend, hsent, hagain, -⟩ :=
      yields_send (c := { c with connection := quiet, peer := silent }) (by decide) hreact
    have hpause : .pause ∉ again.arriving := hagain ▸ pause_notMem_chunks _
    have hquiet : quiet.pending = [] := by rw [Connection.pending, hempty, hnothing]; rfl
    obtain ⟨connection, hawait, hrest, hsuffix⟩ :=
      yields_awaitTable (c := { c with connection := again, peer := peer }) ht hbody htime hpause
        (by rw [hsent, hquiet, List.nil_append])
    refine ⟨connection, peer, ?_, hrest, fun hmem => hpause (hsuffix.subset hmem)⟩
    refine yields_bind hrequest (yields_bind hsend (yields_bind hnone (yields_bind (yields_get _) ?_)))
    simp only [hempty, List.isEmpty_nil, if_true]
    exact yields_bind hresend (yields_bind hawait (yields_pure _ _))

/-- The table is fetched, and what follows its zero byte is left. -/
theorem reads_fetchTable (ht : t.IsWritable) (htime : 0 < c.config.discoveryTimeout)
    (hstring : 0 < c.config.stringTimeout) (h : c.IsAnswered (utf8 t.text ++ 0 :: rest)) :
    Reads fetchTable c t rest := by
  obtain ⟨body, hbody⟩ := exists_text_eq t
  obtain ⟨taken, peer, hrequest, hpending, hpause⟩ := yields_requestTable ht hbody htime h
  have hzero : Connection.splitAt? [0] taken.pending = some ([], rest) := by
    rw [hpending]
    exact Connection.splitAt?_eq_some_iff.2 ⟨rfl, List.not_mem_nil⟩
  obtain ⟨connection, hreceive, hrest, -⟩ := Connection.receive_of_finds
    (.bounded c.config.stringTimeout _) (Connection.finds_takeUntil? [0]) ⟨hstring, hpause⟩ hzero
  refine ⟨{ c with connection := connection, peer := peer }, ?_, hrest⟩
  refine yields_bind hrequest (yields_bind (yields_get _) (yields_bind
    (yields_receive hreceive) ?_))
  rw [Text.ofUtf8?_utf8]
  refine yields_lift ?_ _
  rw [← hbody, ht.ofText_text]
  rfl

/-- In the text of every table that a server has or that is read from a text, the line that ends a
table stands once, at the end, whatever the names are; the table is read back from the text; and a
client that is sent this text with a zero byte after it fetches the table and leaves just what
follows. -/
theorem fetches_known (ht : t.IsKnown) :
    (∃ body, t.text = body ++ tableEnd) ∧
    (∀ before after : List Char, t.text.toList = before ++ tableEnd.toList ++ after →
      after = []) ∧
    Table.ofText t.text.toList = .ok t ∧
    ∀ {σ : Type} [Peer σ] {c : Client σ} {rest : Bytes}, 0 < c.config.discoveryTimeout →
      0 < c.config.stringTimeout → c.IsAnswered (utf8 t.text ++ 0 :: rest) →
      Reads fetchTable c t rest :=
  ⟨exists_text_eq t, fun _ _ => eq_nil_of_toList_text ht.isWritable, ht.isWritable.ofText_text,
    fun htime hstring => reads_fetchTable ht.isWritable htime hstring⟩

/-- A table with the end of a table for a name. -/
def endTable : Table := .ofEntries [⟨2, "EOC", ["a"]⟩, ⟨3, "B", ["EOC", "x"]⟩]

theorem ofText_endTable :
    Table.ofText "1\n#2: EOC :a::\n\n #3:B:EOC:x\nEOC\nEOC".toList = .ok endTable := by
  rw [← Success.toOption_eq_some_iff]
  decide +kernel

/-- A client whose peer answers when it has received some bytes. -/
def clientOfLate (enough : Nat) (answer : Bytes) : Client LatePeer where
  connection := {}
  peer := { late? := some answer, enough := enough, staysOpen := true }
  config := {}

/-- The table is fetched from a peer that answers the first request, and from one that answers the
second. -/
theorem fetches_known_endTable :
    Reads fetchTable (clientOfLate 12 (utf8 endTable.text ++ [0, 7])) endTable [7] ∧
    Reads fetchTable (clientOfLate 24 (utf8 endTable.text ++ [0])) endTable [] := by
  have hknown : endTable.IsKnown := .read (by decide) ofText_endTable
  constructor
  · exact (fetches_known hknown).2.2.2 (by decide) (by decide) (.first rfl rfl)
  · exact (fetches_known hknown).2.2.2 (by decide) (by decide) (.second rfl rfl rfl rfl)

end Network.Client

end Instrument
