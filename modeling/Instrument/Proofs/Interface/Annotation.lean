import Instrument.Interface.Pragma
import Instrument.Proofs.Header.Spelling

/-!
Annotations as they are written. Main statements: a directive is read back from its text; and of a
header that is written line by line, the pragma above a line is the one that the line before it
holds.
-/

namespace Instrument.Interface

open Header (Line Piece)

/-! ### Directives as text -/

/-- Whether a text is not empty and has no blank at either end. -/
structure IsTrimmed (cs : List Char) : Prop where
  head : cs.head?.any (!Text.isBlank ·) = true
  last : cs.getLast?.any (!Text.isBlank ·) = true

instance (cs : List Char) : Decidable (IsTrimmed cs) :=
  decidable_of_iff (cs.head?.any (!Text.isBlank ·) = true ∧
      cs.getLast?.any (!Text.isBlank ·) = true)
    ⟨fun h => ⟨h.1, h.2⟩, fun h => ⟨h.head, h.last⟩⟩

namespace IsTrimmed

variable {cs : List Char} (h : IsTrimmed cs)
include h

theorem exists_cons : ∃ c rest, cs = c :: rest ∧ Text.isBlank c = false := by
  obtain ⟨c, hc, hblank⟩ := (Option.any_eq_true ..).1 h.head
  obtain ⟨rest, rfl⟩ := List.head?_eq_some_iff.1 hc
  exact ⟨c, rest, rfl, by simpa using hblank⟩

theorem exists_concat : ∃ front c, cs = front ++ [c] ∧ Text.isBlank c = false := by
  obtain ⟨c, hc, hblank⟩ := (Option.any_eq_true ..).1 h.last
  obtain ⟨front, rfl⟩ := List.getLast?_eq_some_iff.1 hc
  exact ⟨front, c, rfl, by simpa using hblank⟩

theorem trimStart_append (rest : List Char) : Text.trimStart (cs ++ rest) = cs ++ rest := by
  obtain ⟨c, cs, rfl, hblank⟩ := h.exists_cons
  exact Text.trimStart_eq_self (by simpa using hblank)

theorem trim : Text.trim cs = cs := by
  obtain ⟨c, hc, hhead⟩ := (Option.any_eq_true ..).1 h.head
  obtain ⟨d, hd, hlast⟩ := (Option.any_eq_true ..).1 h.last
  refine Text.trim_eq_self ?_ ?_
  · rw [hc]
    rintro _ ⟨⟩
    simpa using hhead
  · rw [hd]
    rintro _ ⟨⟩
    simpa using hlast

end IsTrimmed

/-- Whether a text is one word. -/
structure IsWord (cs : List Char) : Prop where
  ne_nil : cs ≠ []
  notBlank : ∀ c ∈ cs, Text.isBlank c = false

instance (cs : List Char) : Decidable (IsWord cs) :=
  decidable_of_iff (cs ≠ [] ∧ ∀ c ∈ cs, Text.isBlank c = false)
    ⟨fun h => ⟨h.1, h.2⟩, fun h => ⟨h.ne_nil, h.notBlank⟩⟩

theorem IsWord.isTrimmed {cs : List Char} (h : IsWord cs) : IsTrimmed cs where
  head := by
    obtain ⟨c, rest, rfl⟩ := List.exists_cons_of_ne_nil h.ne_nil
    simpa using h.notBlank c (List.mem_cons_self ..)
  last := by
    rw [List.getLast?_eq_some_getLast h.ne_nil]
    simpa using h.notBlank _ (List.getLast_mem h.ne_nil)

theorem IsWord.newline_not_mem {cs : List Char} (h : IsWord cs) : '\n' ∉ cs := fun hmem =>
  absurd (h.notBlank _ hmem) (by decide)

namespace Directive

/-- How a parameter is named. -/
def referenceText (name : String) : List Char := "arg\x7b".toList ++ (name.toList ++ ['}'])

/-- The word that tells which directive this is. -/
def keyword : Directive → String
  | exclude => "exclude"
  | healthCheck => "is_failed"
  | readArray _ => "read_array"
  | writeArray .. => "write_array"

/-- What follows the keyword. -/
def parameterText : Directive → List Char
  | readArray (some length) => length.toList
  | writeArray pointer length => referenceText pointer ++ ' ' :: referenceText length
  | _ => []

/-- The text of a directive. -/
def text (d : Directive) : List Char :=
  d.keyword.toList ++ if d.parameterText.isEmpty then [] else ' ' :: d.parameterText

/-- Whether a text names a parameter. -/
def IsReference (name : String) : Prop :=
  name ≠ "" ∧ ∀ c ∈ name.toList, Text.isWordChar c = true

instance (name : String) : Decidable (IsReference name) :=
  decidable_of_iff (name ≠ "" ∧ name.toList.all Text.isWordChar = true)
    (and_congr_right fun _ => List.all_eq_true)

/-- Whether a directive can be written on a line. -/
def IsWritable : Directive → Prop
  | readArray (some length) =>
    IsTrimmed length.toList ∧ '\n' ∉ length.toList ∧ length.toList.getLast? ≠ some '\\'
  | writeArray pointer length => IsReference pointer ∧ IsReference length
  | _ => True

instance (d : Directive) : Decidable d.IsWritable :=
  match d with
  | readArray (some _) => inferInstanceAs (Decidable (_ ∧ _ ∧ _))
  | writeArray .. => inferInstanceAs (Decidable (_ ∧ _))
  | exclude | healthCheck | readArray none => inferInstanceAs (Decidable True)

/-- The words that directives begin with. -/
def keywords : List String := ["exclude", "is_failed", "read_array", "write_array"]

theorem keyword_mem (d : Directive) : d.keyword ∈ keywords := by
  cases d <;> simp [keyword, keywords]

theorem isWord_keyword (d : Directive) : IsWord d.keyword.toList := by
  have hwords : ∀ word ∈ keywords,
      word.toList ≠ [] ∧ ∀ c ∈ word.toList, Text.isBlank c = false := by decide
  obtain ⟨hne, hblank⟩ := hwords d.keyword d.keyword_mem
  exact ⟨hne, hblank⟩

theorem isWord_referenceText {name : String} (h : IsReference name) :
    IsWord (referenceText name) where
  ne_nil := by simp [referenceText]
  notBlank := by
    simp only [referenceText, List.forall_mem_append]
    exact ⟨by decide, fun c hc => Text.isBlank_eq_false_of_isWordChar (h.2 c hc), by decide⟩

theorem reference_referenceText {name : String} (h : IsReference name) :
    reference (referenceText name) = .ok name := by
  have hafter : Text.after? "arg\x7b".toList (referenceText name) = some (name.toList ++ ['}']) :=
    Text.after?_eq_some_iff.2 rfl
  have hbefore : Text.before? ['}'] (name.toList ++ ['}']) = some name.toList :=
    Text.before?_eq_some_iff.2 rfl
  have htrim : Text.trim name.toList = name.toList :=
    Text.trim_of_forall fun c hc => Text.isBlank_eq_false_of_isWordChar (h.2 c hc)
  have hempty : name.toList.isEmpty = false := by simpa using h.1
  have hall : name.toList.all Text.isWordChar = true := List.all_eq_true.2 h.2
  simp only [reference, hafter, hbefore, bind, Option.bind, htrim, hempty, hall, Bool.not_true,
    Bool.or_self, Bool.false_eq_true, if_false, String.ofList_toList]

theorem isTrimmed_parameterText {d : Directive} (h : d.IsWritable)
    (hne : d.parameterText.isEmpty = false) : IsTrimmed d.parameterText := by
  cases d with
  | exclude | healthCheck => cases hne
  | readArray length =>
    cases length with
    | none => cases hne
    | some length => exact h.1
  | writeArray pointer length =>
    have hpointer := (isWord_referenceText h.1).isTrimmed
    have hlength := (isWord_referenceText h.2).isTrimmed
    obtain ⟨c, rest, hcons, hhead⟩ := hpointer.exists_cons
    obtain ⟨front, d, hconcat, hlast⟩ := hlength.exists_concat
    refine ⟨?_, ?_⟩
    · simpa [parameterText, hcons] using hhead
    · simpa [parameterText, hconcat, List.getLast?_append, List.getLast?_cons] using hlast

/-- A directive begins and ends with no blank. -/
theorem isTrimmed_text {d : Directive} (h : d.IsWritable) : IsTrimmed d.text := by
  have hkeyword := (isWord_keyword d).isTrimmed
  obtain ⟨c, rest, hcons, hhead⟩ := hkeyword.exists_cons
  cases hempty : d.parameterText.isEmpty with
  | true => simpa [text, hempty] using hkeyword
  | false =>
    obtain ⟨front, e, hconcat, hlast⟩ := (isTrimmed_parameterText h hempty).exists_concat
    refine ⟨?_, ?_⟩
    · simpa [text, hcons] using hhead
    · simpa [text, hempty, hconcat, List.getLast?_append, List.getLast?_cons] using hlast

/-- The keyword of a directive is told from what follows it. -/
theorem split_text {d : Directive} (h : d.IsWritable) :
    d.text.takeWhile (fun c => !Text.isBlank c) = d.keyword.toList ∧
      Text.trim (d.text.dropWhile fun c => !Text.isBlank c) = d.parameterText := by
  have hkeyword : ∀ c ∈ d.keyword.toList, (!Text.isBlank c) = true := by
    intro c hc
    simp [(isWord_keyword d).notBlank c hc]
  rw [text, List.takeWhile_append_of_pos hkeyword, List.dropWhile_append_of_pos hkeyword]
  cases hempty : d.parameterText.isEmpty with
  | true =>
    rw [List.isEmpty_iff.1 hempty]
    exact ⟨List.append_nil _, rfl⟩
  | false =>
    have hblank : ¬(!Text.isBlank ' ') = true := by decide
    have htrimmed := isTrimmed_parameterText h hempty
    have htrim : Text.trim (' ' :: d.parameterText) = Text.trim d.parameterText := rfl
    rw [if_neg Bool.false_ne_true, List.takeWhile_cons_of_neg (by simpa using hblank),
      List.dropWhile_cons_of_neg (by simpa using hblank), htrim, htrimmed.trim]
    exact ⟨List.append_nil _, rfl⟩

/-- A directive is read back from its text. -/
theorem ofText_text {d : Directive} (h : d.IsWritable) : ofText d.text = .ok d := by
  obtain ⟨hkeyword, hparameters⟩ := split_text h
  rw [ofText, (isTrimmed_text h).trim, hkeyword, hparameters, String.ofList_toList]
  cases d with
  | exclude | healthCheck => rfl
  | readArray length =>
    cases length with
    | none => rfl
    | some length =>
      have hne : length.toList.isEmpty = false := by
        obtain ⟨c, rest, hcons, -⟩ := (h.1 : IsTrimmed length.toList).exists_cons
        rw [hcons]
        rfl
      simp only [keyword, parameterText, hne, String.ofList_toList]
      rfl
  | writeArray pointer length =>
    obtain ⟨hpointer, hlength⟩ := h
    have hwords : Text.words (parameterText (.writeArray pointer length)) =
        [referenceText pointer, referenceText length] := by
      have hfirst := isWord_referenceText hpointer
      have hsecond := isWord_referenceText hlength
      rw [parameterText, Text.words_append_cons hfirst.ne_nil hfirst.notBlank (by decide),
        Text.words_of_forall hsecond.ne_nil hsecond.notBlank]
    simp only [keyword, hwords, reference_referenceText hpointer, reference_referenceText hlength]
    rfl

/-! ### Directives on lines -/

theorem newline_not_mem_text {d : Directive} (h : d.IsWritable) : '\n' ∉ d.text := by
  have hparameters : '\n' ∉ d.parameterText := by
    cases d with
    | exclude | healthCheck => exact List.not_mem_nil
    | readArray length =>
      cases length with
      | none => exact List.not_mem_nil
      | some length => exact h.2.1
    | writeArray pointer length =>
      rw [parameterText, List.mem_append, List.mem_cons, not_or, not_or]
      exact ⟨(isWord_referenceText h.1).newline_not_mem, by decide,
        (isWord_referenceText h.2).newline_not_mem⟩
  rw [text, List.mem_append, not_or]
  refine ⟨(isWord_keyword d).newline_not_mem, ?_⟩
  split
  · exact List.not_mem_nil
  · rw [List.mem_cons, not_or]
    exact ⟨by decide, hparameters⟩

/-- The line of a directive goes on on no other line. -/
theorem getLast?_text_ne {d : Directive} (h : d.IsWritable) : d.text.getLast? ≠ some '\\' := by
  have hkeywords : ∀ word ∈ keywords, word.toList.getLast? ≠ some '\\' := by decide
  have hkeyword := hkeywords d.keyword d.keyword_mem
  cases d with
  | exclude | healthCheck => simpa [text, parameterText] using hkeyword
  | readArray length =>
    cases length with
    | none => simpa [text, parameterText] using hkeyword
    | some length =>
      obtain ⟨c, rest, hcons, -⟩ := (h.1 : IsTrimmed length.toList).exists_cons
      simpa [text, parameterText, hcons, List.getLast?_append, List.getLast?_cons] using h.2.2
  | writeArray pointer length =>
    simp [text, parameterText, referenceText, List.getLast?_append, List.getLast?_cons]

/-- The word that every pragma begins with. -/
def pragmaKeyword : List Char := "pragma".toList

/-- What follows the number sign on a line that holds a directive of a namespace. -/
def pragmaText («namespace» : List Char) (d : Directive) : List Char :=
  pragmaKeyword ++ ' ' :: («namespace» ++ ' ' :: d.text)

theorem isWord_pragmaKeyword : IsWord pragmaKeyword := ⟨by decide, by decide⟩

section

variable {«namespace» : List Char}

theorem getLast?_pragmaText {d : Directive} (h : d.IsWritable) :
    (d.pragmaText «namespace»).getLast? = d.text.getLast? := by
  obtain ⟨front, c, hconcat, -⟩ := (isTrimmed_text h).exists_concat
  simp [pragmaText, List.getLast?_append, List.getLast?_cons, hconcat]

/-- The line of a pragma can be written. -/
theorem isValid_pragmaText (hnamespace : IsWord «namespace») {d : Directive} (h : d.IsWritable) :
    (Line.directive (d.pragmaText «namespace»)).IsValid := by
  refine ⟨?_, ?_, ?_⟩
  · simp only [pragmaText, List.mem_append, List.mem_cons, not_or]
    exact ⟨isWord_pragmaKeyword.newline_not_mem, by decide, hnamespace.newline_not_mem, by decide,
      newline_not_mem_text h⟩
  · rw [getLast?_pragmaText h]
    exact getLast?_text_ne h
  · rw [getLast?_pragmaText h]
    intro hreturn
    obtain ⟨front, c, hconcat, hlast⟩ := (isTrimmed_text h).exists_concat
    rw [hconcat, List.getLast?_concat, Option.some_inj] at hreturn
    rw [hreturn] at hlast
    exact absurd hlast (by decide)

/-- The directive of a pragma is found on its line. -/
theorem directiveOn?_pragmaText (hnamespace : IsWord «namespace») {d : Directive}
    (h : d.IsWritable) :
    directiveOn? «namespace» (Line.directive (d.pragmaText «namespace»)).text = some d.text := by
  have htext := isTrimmed_text h
  have hindent : Text.trimStart (Line.directive (d.pragmaText «namespace»)).text =
      '#' :: d.pragmaText «namespace» := rfl
  have hpragma : Text.trimStart (d.pragmaText «namespace») = d.pragmaText «namespace» :=
    isWord_pragmaKeyword.isTrimmed.trimStart_append _
  have hkeyword : Text.after? "pragma".toList (d.pragmaText «namespace») =
      some (' ' :: («namespace» ++ ' ' :: d.text)) := Text.after?_eq_some_iff.2 rfl
  have hblank (cs : List Char) : afterBlank? (' ' :: cs) = some (Text.trimStart cs) := rfl
  have hname : Text.after? «namespace» («namespace» ++ ' ' :: d.text) = some (' ' :: d.text) :=
    Text.after?_eq_some_iff.2 rfl
  have hstart : Text.trimStart d.text = d.text := by
    simpa using htext.trimStart_append []
  have hrest : Text.trimStart («namespace» ++ ' ' :: d.text) = «namespace» ++ ' ' :: d.text :=
    hnamespace.isTrimmed.trimStart_append _
  have hafter (cs : List Char) : Text.after? ['#'] ('#' :: cs) = some cs := rfl
  simp only [directiveOn?, bind, Option.bind, hindent, hafter, hpragma, hkeyword, hblank, hrest,
    hname, hstart, htext.trim, List.isEmpty_cons, Bool.false_eq_true, if_false]
  rfl

/-- Code holds no directive. -/
theorem directiveOn?_code {ps : List Piece} (h : ∀ p ∈ ps, p.IsValid) :
    directiveOn? «namespace» (Line.code ps).text = none := by
  have hmark : '#' ∉ Text.trimStart (Header.pieceText ps) := fun hmem =>
    Header.not_mem_pieceText h (by decide) (by decide) ((List.dropWhile_suffix _).mem hmem)
  have hafter : Text.after? ['#'] (Text.trimStart (Line.code ps).text) = none := by
    rw [Option.eq_none_iff_forall_ne_some]
    intro rest hrest
    rw [Line.text, Text.after?_eq_some_iff] at hrest
    rw [hrest] at hmark
    exact hmark (List.mem_cons_self ..)
  rw [directiveOn?, hafter]
  rfl

end

end Directive

/-! ### The directive above a line -/

theorem le_line_of_mem_pragmasFrom {«namespace» : List Char} {first : Nat}
    {texts : List (List Char)} {p : Pragma} (h : p ∈ pragmasFrom «namespace» first texts) :
    first ≤ p.line := by
  induction texts generalizing first with
  | nil => cases h
  | cons text texts ih =>
    rw [pragmasFrom, List.mem_append] at h
    rcases h with h | h
    · obtain ⟨d, -, rfl⟩ := Option.map_eq_some_iff.1 (Option.mem_toList.1 h)
      exact Nat.le_refl first
    · exact Nat.le_of_succ_le (ih h)

/-- The pragma above a line is the one that the line before it holds. The induction is on the lines
before that one, none of which has the right number. -/
theorem pragmaAbove?_pragmasFrom («namespace» : List Char) (first : Nat)
    (before : List (List Char)) (text : List Char) (after : List (List Char)) :
    pragmaAbove? (pragmasFrom «namespace» first (before ++ text :: after))
        (first + before.length + 1) =
      (directiveOn? «namespace» text).map fun d => ⟨first + before.length, String.ofList d⟩ := by
  induction before generalizing first with
  | nil =>
    have hnone : pragmaAbove? (pragmasFrom «namespace» (first + 1) after) (first + 1) = none := by
      rw [pragmaAbove?, List.find?_eq_none]
      intro p hp
      have := le_line_of_mem_pragmasFrom hp
      simp
      omega
    rw [pragmaAbove?] at hnone ⊢
    rw [List.nil_append, pragmasFrom, List.find?_append, List.length_nil, Nat.add_zero, hnone]
    cases directiveOn? «namespace» text with
    | none => rfl
    | some d => simp
  | cons text' before ih =>
    have hrest := ih (first + 1)
    have hline : first + 1 + before.length = first + (text' :: before).length := by
      rw [List.length_cons]
      omega
    rw [hline] at hrest
    rw [pragmaAbove?] at hrest ⊢
    rw [List.cons_append, pragmasFrom, List.find?_append, hrest]
    cases directiveOn? «namespace» text' with
    | none => rfl
    | some d => simp

end Instrument.Interface
