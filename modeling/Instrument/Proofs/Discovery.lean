import Instrument.Discovery
import Instrument.Proofs.Success
import Instrument.Proofs.Text.Case
import Instrument.Proofs.Text.Pieces

/-!
Discovery tables as text. Main statements: a table whose names are fields, that is texts that are not
empty, are trimmed and hold neither colon nor line feed, is read back from its text, in which the
line that ends it stands once; and every table that is read from a text is such a table.
-/

namespace Instrument.Discovery

open Success

/-- Whether a text can stand between two colons of a row. -/
structure IsField (s : String) : Prop where
  ne_nil : s.toList ≠ []
  trimmed : Text.trim s.toList = s.toList
  colon : ':' ∉ s.toList
  newline : '\n' ∉ s.toList

/-- Whether the names in a row can stand there. -/
structure Entry.IsWritable (e : Entry) : Prop where
  name : IsField e.name
  operations : ∀ op ∈ e.operations, IsField op

/-! ### Tags -/

/-- The characters of a tag are those of the name, in upper case or as they are, and underscores
between them. -/
theorem exists_of_mem_deviceTag {name : String} {x : Char} (h : x ∈ (deviceTag name).toList) :
    x = '_' ∨ ∃ c ∈ name.toList, x = c ∨ x = c.toUpper := by
  unfold deviceTag at h
  split at h
  · simp at h
  · next c cs hcons =>
    rw [String.toList_ofList] at h
    rw [hcons]
    rcases List.mem_cons.1 h with rfl | h
    · exact .inr ⟨c, List.mem_cons_self .., .inr rfl⟩
    obtain ⟨d, hd, h⟩ := List.mem_flatMap.1 h
    have hmem := List.mem_cons_of_mem c hd
    split at h
    · rcases List.mem_cons.1 h with rfl | h
      · exact .inl rfl
      · exact .inr ⟨d, hmem, .inl (List.mem_singleton.1 h)⟩
    · exact .inr ⟨d, hmem, .inr (List.mem_singleton.1 h)⟩

theorem deviceTag_ne_nil {name : String} (h : name.toList ≠ []) : (deviceTag name).toList ≠ [] := by
  unfold deviceTag
  split
  · next hnil => exact absurd hnil h
  · simp

/-! ### Rows -/

/-- The fields of a row, filled up to `width` operations. -/
def Entry.fields (e : Entry) (width : Nat) : List (List Char) :=
  Nat.toDigits 10 e.id.toNat :: e.name.toList :: e.operations.map String.toList ++
    List.replicate (width - e.operations.length) []

theorem flatMap_replicate_nil (n : Nat) :
    (List.replicate n ([] : List Char)).flatMap (· ++ [':']) = List.replicate n ':' := by
  induction n with
  | zero => rfl
  | succ n ih => simp [List.replicate_succ, ih]

theorem Entry.toList_line (e : Entry) (width : Nat) :
    (e.line width).toList = '#' :: (e.fields width).flatMap (· ++ [':']) := by
  simp [Entry.line, Entry.fields, String.toList_join, List.flatMap_map, flatMap_replicate_nil]

variable {e : Entry} {width : Nat}

theorem notMem_toDigits {n : Nat} {c : Char} (hc : c.isDigit = false) :
    c ∉ Nat.toDigits 10 n := by
  intro hmem
  rw [Nat.isDigit_of_mem_toDigits (by decide) (by decide) hmem] at hc
  cases hc

/-- What holds of all fields of a row. -/
theorem Entry.IsWritable.forall_fields {P : List Char → Prop} (h : e.IsWritable)
    (hdigits : P (Nat.toDigits 10 e.id.toNat)) (hempty : P [])
    (hfield : ∀ s, IsField s → P s.toList) : ∀ f ∈ e.fields width, P f := by
  intro f hf
  simp only [Entry.fields, List.cons_append, List.mem_cons, List.mem_append, List.mem_map,
    List.mem_replicate] at hf
  rcases hf with rfl | rfl | ⟨op, hop, rfl⟩ | ⟨-, rfl⟩
  · exact hdigits
  · exact hfield _ h.name
  · exact hfield op (h.operations op hop)
  · exact hempty

theorem getLast?_flatMap_colon {fields : List (List Char)} (h : fields ≠ []) :
    (fields.flatMap (· ++ [':'])).getLast? = some ':' := by
  obtain ⟨before, last, rfl⟩ := (List.eq_nil_or_concat fields).resolve_left h
  simp

/-- A row begins with its mark and ends with a colon. -/
theorem Entry.getLast?_line (e : Entry) (width : Nat) :
    (e.line width).toList.getLast? = some ':' := by
  have hne : e.fields width ≠ [] := by simp [Entry.fields]
  rw [e.toList_line, List.getLast?_cons, getLast?_flatMap_colon hne]
  rfl

theorem Entry.trim_line (e : Entry) (width : Nat) :
    Text.trim (e.line width).toList = (e.line width).toList := by
  refine Text.trim_eq_self ?_ ?_
  · intro c hc
    rw [e.toList_line] at hc
    cases hc
    decide
  · intro c hc
    rw [e.getLast?_line] at hc
    cases hc
    decide

theorem Entry.IsWritable.newline_notMem_line (h : e.IsWritable) :
    '\n' ∉ (e.line width).toList := by
  rw [e.toList_line, List.mem_cons, List.mem_flatMap]
  rintro (hmark | ⟨f, hf, hmem⟩)
  · exact absurd hmark (by decide)
  · have hfree : ∀ f ∈ e.fields width, '\n' ∉ f :=
      h.forall_fields (notMem_toDigits (by decide)) (by simp) fun _ hs => hs.newline
    simp [hfree f hf] at hmem

/-- The fields of a row are found again, and an empty one after the last colon. -/
theorem Entry.IsWritable.pieces_fields (h : e.IsWritable) :
    (Text.pieces (· == ':') ((e.fields width).flatMap (· ++ [':']))).map Text.trim =
      e.fields width ++ [[]] := by
  have hcolon : ∀ f ∈ e.fields width, ':' ∉ f :=
    h.forall_fields (notMem_toDigits (by decide)) (by simp) fun _ hs => hs.colon
  have htrim : ∀ f ∈ e.fields width, Text.trim f = f := by
    refine h.forall_fields ?_ rfl fun _ hs => hs.trimmed
    refine Text.trim_of_forall fun c hc => Text.isBlank_eq_false_of_isWordChar ?_
    exact Text.isWordChar_of_isDigit (Nat.isDigit_of_mem_toDigits (by decide) (by decide) hc)
  have hsplit := Text.pieces_flatMap hcolon []
  rw [List.append_nil] at hsplit
  rw [hsplit, List.map_append, (List.map_congr_left htrim).trans (List.map_id' _)]
  rfl

/-- A row is read back. -/
theorem Entry.ofLine_line (h : e.IsWritable) : Entry.ofLine (e.line width).toList = .ok e := by
  have hoperations : ∀ op ∈ e.operations, op.toList.isEmpty = false := by
    intro op hop
    simpa using (h.operations op hop).ne_nil
  have hid : e.id.toNat < Text.limit16 := e.id.toNat_lt
  have hname : e.name.toList.isEmpty = false := by simpa using h.name.ne_nil
  have hfilter : ((e.operations.map String.toList ++
      List.replicate (width - e.operations.length) [] ++ [[]]).filter
        fun f : List Char => !f.isEmpty).map String.ofList = e.operations := by
    rw [List.filter_append, List.filter_append, List.filter_eq_self.2 (by simpa using hoperations)]
    simp [List.map_map, Function.comp_def]
  simp only [Entry.ofLine, e.trim_line]
  simp only [e.toList_line, Text.after?, if_true, h.pieces_fields]
  simp only [Entry.fields, List.cons_append, List.head?_cons, Option.bind_some,
    Text.number?_toDigits hid, List.tail_cons, hname, Bool.false_eq_true, if_false, hfilter,
    String.ofList_toList, UInt16.ofNat_toNat]

/-- What stands between two separators, trimmed, is a field. -/
theorem isField_of_mem_pieces {body f : List Char} (hfree : '\n' ∉ body)
    (hf : f ∈ (Text.pieces (· == ':') body).map Text.trim) (hne : f ≠ []) :
    IsField (String.ofList f) := by
  obtain ⟨piece, hpiece, rfl⟩ := List.mem_map.1 hf
  have hmem : ∀ c ∈ Text.trim piece, (c == ':') = false ∧ c ∈ body := fun c hc =>
    Text.of_mem_pieces hpiece c ((Text.trim_infix_self piece).subset hc)
  constructor
  · simpa using hne
  · rw [String.toList_ofList, Text.trim_trim]
  · rw [String.toList_ofList]
    exact fun hcolon => absurd (hmem _ hcolon).1 (by decide)
  · rw [String.toList_ofList]
    exact fun hnewline => hfree (hmem _ hnewline).2

/-- The row that is read from a line can be written, and is no longer than the line. -/
theorem Entry.isWritable_of_ofLine {line : List Char} (hfree : '\n' ∉ line)
    (h : Entry.ofLine line = .ok e) : e.IsWritable ∧ e.operations.length ≤ line.length := by
  simp only [Entry.ofLine] at h
  split at h
  · cases h
  next body hbody =>
  have hline := Text.after?_eq_some_iff.1 hbody
  have hbodyFree : '\n' ∉ body := by
    intro hmem
    refine hfree ((Text.trim_infix_self line).subset ?_)
    rw [hline]
    exact List.mem_append_right _ hmem
  have hlength : body.length + 1 ≤ line.length := by
    have := (Text.trim_infix_self line).length_le
    rw [hline] at this
    simpa using this
  split at h
  · cases h
  split at h
  · cases h
  next name operations htail =>
  have hfields : ∀ f ∈ name :: operations,
      f ∈ (Text.pieces (· == ':') body).map Text.trim := by
    rw [← htail]
    exact fun f => List.mem_of_mem_tail
  rw [List.forall_mem_cons] at hfields
  split at h
  · cases h
  next hname =>
  cases h
  -- a field is a trimmed piece, which holds neither a colon nor a line feed
  refine ⟨⟨isField_of_mem_pieces hbodyFree hfields.1 (by simpa using hname), ?_⟩, ?_⟩
  · intro op hop
    obtain ⟨f, hf, rfl⟩ := List.mem_map.1 hop
    obtain ⟨hmem, hne⟩ := List.mem_filter.1 hf
    exact isField_of_mem_pieces hbodyFree (hfields.2 f hmem) (by simpa using hne)
  · have hkept := List.length_filter_le (!·.isEmpty) operations
    have hcount := congrArg List.length htail
    have hpieces := Text.length_pieces_le (· == ':') body
    simp only [List.length_tail, List.length_map, List.length_cons] at hcount ⊢
    omega

/-! ### Tables -/

theorem longest_le {entries : List Entry} {n : Nat}
    (h : ∀ e ∈ entries, e.operations.length ≤ n) : longest entries ≤ n := by
  induction entries with
  | nil => exact Nat.zero_le n
  | cons e entries ih =>
    rw [List.forall_mem_cons] at h
    exact Nat.max_le.2 ⟨h.1, ih h.2⟩

namespace Table

/-- The lines before the one that ends the table. -/
def bodyLines (t : Table) : List (List Char) :=
  Nat.toDigits 10 t.width :: t.entries.map fun e => (e.line t.width).toList

/-- The lines of the text of a table. -/
def textLines (t : Table) : List (List Char) := t.bodyLines ++ [endLine.toList]

theorem toList_text (t : Table) : t.text.toList = t.textLines.flatMap (· ++ ['\n']) := by
  simp [text, textLines, bodyLines, String.toList_join, List.flatMap_map]

/-- Neither the width nor a row can be mistaken for the end of the table. -/
theorem endLine_notMem_bodyLines (t : Table) : endLine.toList ∉ t.bodyLines := by
  rw [bodyLines, List.mem_cons, List.mem_map]
  rintro (hwidth | ⟨e, -, hrow⟩)
  · have hdigit : 'E' ∈ Nat.toDigits 10 t.width := hwidth ▸ List.mem_cons_self ..
    exact notMem_toDigits (by decide) hdigit
  · rw [e.toList_line] at hrow
    exact absurd (List.cons.inj hrow).1 (by decide)

variable {t : Table}

/-- Rows are read up to the end of the table. -/
theorem readLines_rows {entries : List Entry} (h : ∀ e ∈ entries, e.IsWritable)
    (width : Option Nat) (first : Bool) (n : Nat) :
    readLines width first (entries.map (fun e => (e.line n).toList) ++ [endLine.toList]) =
      .ok (width, entries) := by
  induction entries generalizing first with
  | nil => simp [readLines]
  | cons e entries ih =>
    rw [List.forall_mem_cons] at h
    have hend : (e.line n).toList ≠ endLine.toList := by
      rw [e.toList_line]
      exact fun heq => absurd (List.cons.inj heq).1 (by decide)
    have hmark : (e.line n).toList.head? = some '#' := by rw [e.toList_line]; rfl
    rw [List.map_cons, List.cons_append, readLines, if_neg hend, if_pos hmark,
      Entry.ofLine_line h.1, ih h.2 false]
    rfl

/-- The first line tells the width. -/
theorem readLines_textLines (hwidth : t.width < Text.limit64) (h : ∀ e ∈ t.entries, e.IsWritable) :
    readLines none true t.textLines = .ok (some t.width, t.entries) := by
  have hend : Nat.toDigits 10 t.width ≠ endLine.toList := fun heq =>
    t.endLine_notMem_bodyLines (heq ▸ List.mem_cons_self ..)
  have hmark : (Nat.toDigits 10 t.width).head? ≠ some '#' := fun hhead =>
    notMem_toDigits (by decide) (List.mem_of_head? hhead)
  rw [textLines, bodyLines, List.cons_append, readLines, if_neg hend, if_neg hmark]
  simp only [Option.isNone_none, Bool.and_self, if_true, Text.number?_toDigits hwidth]
  exact readLines_rows h _ _ _

/-- The lines of a table stand as they are: none is blank or has a blank at an end. -/
theorem forall_textLines {P : List Char → Prop} (hwidth : P (Nat.toDigits 10 t.width))
    (hrow : ∀ e ∈ t.entries, P (e.line t.width).toList) (hend : P endLine.toList) :
    ∀ l ∈ t.textLines, P l := by
  intro l hl
  simp only [textLines, bodyLines, List.cons_append, List.mem_cons, List.mem_append, List.mem_map,
    List.not_mem_nil, or_false] at hl
  rcases hl with rfl | ⟨e, he, rfl⟩ | rfl
  · exact hwidth
  · exact hrow e he
  · exact hend

/-- The width makes up for the columns that no row fills. -/
theorem widen_ofEntries (t : Table) : (ofEntries t.entries).widen t.width = t := by
  obtain ⟨width, entries, hle⟩ := t
  simp only [ofEntries, widen, Nat.max_eq_right (longest_le hle)]

/-- Whether a table can be written: it is not too wide, and its names can stand in its rows. -/
structure IsWritable (t : Table) : Prop where
  width_lt : t.width < Text.limit64
  entries : ∀ e ∈ t.entries, e.IsWritable

theorem IsWritable.widen (h : t.IsWritable) {width : Nat} (hwidth : width < Text.limit64) :
    (t.widen width).IsWritable :=
  ⟨Nat.max_lt.2 ⟨h.width_lt, hwidth⟩, h.entries⟩

theorem IsWritable.newline_notMem_textLines (h : t.IsWritable) : ∀ l ∈ t.textLines, '\n' ∉ l :=
  forall_textLines (notMem_toDigits (by decide))
    (fun e he => (h.entries e he).newline_notMem_line) (by decide)

/-- A table is read back from its text. -/
theorem IsWritable.ofText_text (h : t.IsWritable) : ofText t.text.toList = .ok t := by
  have hdigit : ∀ c ∈ Nat.toDigits 10 t.width, Text.isBlank c = false := fun c hc =>
    Text.isBlank_eq_false_of_isWordChar (Text.isWordChar_of_isDigit
      (Nat.isDigit_of_mem_toDigits (by decide) (by decide) hc))
  have hreturn : ∀ l ∈ t.textLines, l.getLast? ≠ some '\r' := by
    refine forall_textLines ?_ (fun e _ => ?_) (by decide)
    · intro hlast
      have := hdigit '\r' (List.mem_of_getLast? hlast)
      exact absurd this (by decide)
    · rw [e.getLast?_line]
      decide
  have hlines : Text.lines t.text.toList = t.textLines := by
    rw [toList_text]
    exact Text.lines_flatMap fun l hl => ⟨h.newline_notMem_textLines l hl, hreturn l hl⟩
  have htrim : t.textLines.map Text.trim = t.textLines :=
    (List.map_congr_left (forall_textLines (P := fun l => Text.trim l = l)
      (Text.trim_of_forall hdigit) (fun e _ => e.trim_line t.width) (by decide))).trans
        (List.map_id' _)
  have hfull : t.textLines.filter (!·.isEmpty) = t.textLines := by
    refine List.filter_eq_self.2 (forall_textLines (P := fun l => (!l.isEmpty) = true) ?_ ?_
      (by decide))
    · simp
    · intro e _
      simp [e.toList_line]
  rw [ofText, hlines, htrim, hfull, readLines_textLines h.width_lt h.entries]
  exact congrArg Except.ok t.widen_ofEntries

/-- Rows and the width come from lines. -/
theorem of_readLines {width told : Option Nat} {first : Bool} {lines : List (List Char)}
    {entries : List Entry} (h : readLines width first lines = .ok (told, entries)) :
    (∀ e ∈ entries, ∃ line ∈ lines, Entry.ofLine line = .ok e) ∧
      (told = width ∨ ∃ n, told = some n ∧ n < Text.limit64) := by
  fun_induction readLines width first lines generalizing entries with
  | case1 | case4 | case6 => cases h
  | case2 => 
    cases h
    simp
  | case3 width first line lines _ _ ih =>
    simp only [bind_eq_ok_iff, pure_eq_ok_iff] at h
    obtain ⟨e, hline, ⟨told, entries⟩, hread, hpair⟩ := h
    cases hpair
    obtain ⟨hentries, htold⟩ := ih hread
    refine ⟨?_, htold⟩
    rw [List.forall_mem_cons]
    refine ⟨⟨line, List.mem_cons_self .., hline⟩, fun e he => ?_⟩
    obtain ⟨line, hmem, hline⟩ := hentries e he
    exact ⟨line, List.mem_cons_of_mem _ hmem, hline⟩
  | case5 width first line lines _ _ _ n hn ih =>
    obtain ⟨hentries, htold⟩ := ih h
    refine ⟨fun e he => ?_, .inr ?_⟩
    · obtain ⟨line, hmem, hline⟩ := hentries e he
      exact ⟨line, List.mem_cons_of_mem _ hmem, hline⟩
    · rcases htold with rfl | htold
      · exact ⟨n, rfl, Text.lt_of_number? hn⟩
      · exact htold

/-- A table that is read from a text can be written. -/
theorem isWritable_of_ofText {text : List Char} (hlength : text.length < Text.limit64)
    (h : ofText text = .ok t) : t.IsWritable := by
  simp only [ofText, bind_eq_ok_iff, pure_eq_ok_iff] at h
  obtain ⟨⟨width, entries⟩, hread, rfl⟩ := h
  obtain ⟨hentries, hwidth⟩ := of_readLines hread
  have hrows : ∀ e ∈ entries, e.IsWritable ∧ e.operations.length ≤ text.length := by
    intro e he
    obtain ⟨line, hline, hread⟩ := hentries e he
    obtain ⟨l, hl, rfl⟩ := List.mem_map.1 (List.mem_filter.1 hline).1
    obtain ⟨piece, hpiece, hbegins⟩ := Text.exists_of_mem_lines hl
    have hpart := (Text.trim_infix_self l).trans hbegins.isInfix
    have hfree : '\n' ∉ Text.trim l := fun hmem =>
      absurd (Text.of_mem_pieces hpiece _ (hpart.subset hmem)).1 (by decide)
    obtain ⟨hwritable, hlength⟩ := Entry.isWritable_of_ofLine hfree hread
    exact ⟨hwritable, Nat.le_trans hlength
      (Nat.le_trans hpart.length_le (Text.length_le_of_mem_pieces hpiece))⟩
  refine IsWritable.widen ⟨?_, fun e he => (hrows e he).1⟩ ?_
  · exact Nat.lt_of_le_of_lt (longest_le fun e he => (hrows e he).2) hlength
  · rcases hwidth with rfl | ⟨n, rfl, hn⟩
    · exact (by decide : 0 < Text.limit64)
    · exact hn

end Table

end Instrument.Discovery
