import Instrument.Proofs.Text.Case
import Instrument.Proofs.Text.Pieces
import Instrument.WireType

/-!
Types as text. Main statements: a type that has a place on the wire is read back from its canonical
text; and the marks for constants and references around such a text are taken off again.
-/

namespace Instrument.WireType

open Wire (ScalarType)

/-- Whether a type has a place on the wire. -/
def IsSupported : WireType → Prop
  | void | scalar _ | vector _ | cString | string => True
  | array _ length => 0 < length ∧ length < Text.limit64
  | tuple fields => fields ≠ []
  | pointer element => element ≠ .bool
  | unsupported _ => False

instance (w : WireType) : Decidable w.IsSupported :=
  match w with
  | void | scalar _ | vector _ | cString | string => inferInstanceAs (Decidable True)
  | array _ _ => inferInstanceAs (Decidable (_ ∧ _))
  | tuple fields => inferInstanceAs (Decidable (fields ≠ []))
  | pointer element => inferInstanceAs (Decidable (element ≠ .bool))
  | unsupported _ => inferInstanceAs (Decidable False)

/-- Whether a type is a pointer to elements. -/
def isPointer : WireType → Bool
  | pointer _ => true
  | _ => false

/-! ### Templates -/

theorem parameter?_cppName (type : ScalarType) : parameter? type.cppName.toList = some type := by
  cases type <;> decide

theorem isWordChar_cppName (type : ScalarType) :
    ∀ c ∈ type.cppName.toList, Text.isWordChar c = true := by
  cases type <;> decide

/-- Whether a character neither separates nor encloses parameters of a template. -/
def IsParameterChar (c : Char) : Prop := c ≠ ',' ∧ c ≠ '<' ∧ c ≠ '>'

theorem isParameterChar_of_isWordChar {c : Char} (h : Text.isWordChar c = true) :
    IsParameterChar c := by
  refine ⟨?_, ?_, ?_⟩ <;>
  · rintro rfl
    exact absurd h (by decide)

theorem splitParameters_append {cs : List Char} (h : ∀ c ∈ cs, IsParameterChar c)
    (rest : List Char) :
    splitParameters 0 0 (cs ++ ',' :: rest) = cs :: splitParameters 0 0 rest := by
  induction cs with
  | nil => simp [splitParameters]
  | cons c cs ih =>
    rw [List.forall_mem_cons] at h
    obtain ⟨⟨hcomma, hopen, hclose⟩, htail⟩ := h
    simp [splitParameters, hcomma, hopen, hclose, ih htail]

theorem splitParameters_of_forall {cs : List Char} (h : ∀ c ∈ cs, IsParameterChar c) :
    splitParameters 0 0 cs = [cs] := by
  induction cs with
  | nil => rfl
  | cons c cs ih =>
    rw [List.forall_mem_cons] at h
    obtain ⟨⟨hcomma, hopen, hclose⟩, htail⟩ := h
    simp [splitParameters, hcomma, hopen, hclose, ih htail]

/-- The parameters of a template between commas. -/
def joined (parameters : List (List Char)) : List Char := ", ".toList.intercalate parameters

theorem joined_cons_cons (p q : List Char) (parameters : List (List Char)) :
    joined (p :: q :: parameters) = p ++ ',' :: ' ' :: joined (q :: parameters) := by
  simp [joined, List.intercalate]

theorem trim_append_of_isWordChar {front p : List Char}
    (hfront : ∀ c ∈ front, Text.isBlank c = true) (hp : ∀ c ∈ p, Text.isWordChar c = true) :
    Text.trim (front ++ p) = p := by
  have hblank : ∀ c ∈ p, Text.isBlank c = false := fun c hc =>
    Text.isBlank_eq_false_of_isWordChar (hp c hc)
  have hstart : Text.trimStart (front ++ p) = Text.trimStart p :=
    List.dropWhile_append_of_pos hfront
  rw [Text.trim, hstart]
  exact Text.trim_of_forall hblank

/-- Parameters that are words are found again. The induction is on them, with blanks in front, since
all but the first follow one. -/
theorem splitParameters_joined {parameters : List (List Char)} (hne : parameters ≠ [])
    (h : ∀ p ∈ parameters, ∀ c ∈ p, Text.isWordChar c = true) (front : List Char)
    (hfront : ∀ c ∈ front, c = ' ') :
    (splitParameters 0 0 (front ++ joined parameters)).map Text.trim = parameters := by
  induction parameters generalizing front with
  | nil => exact absurd rfl hne
  | cons p parameters ih =>
    rw [List.forall_mem_cons] at h
    have hblank : ∀ c ∈ front, Text.isBlank c = true := by
      intro c hc
      rw [hfront c hc]
      decide
    have hchars : ∀ c ∈ front ++ p, IsParameterChar c := by
      intro c hc
      rcases List.mem_append.1 hc with hc | hc
      · rw [hfront c hc]
        exact ⟨by decide, by decide, by decide⟩
      · exact isParameterChar_of_isWordChar (h.1 c hc)
    cases parameters with
    | nil =>
      have hjoined : joined [p] = p := by simp [joined, List.intercalate]
      rw [hjoined, splitParameters_of_forall hchars, List.map_singleton,
        trim_append_of_isWordChar hblank h.1]
    | cons q parameters =>
      rw [joined_cons_cons, ← List.append_assoc, splitParameters_append hchars, List.map_cons,
        trim_append_of_isWordChar hblank h.1]
      congr 1
      exact ih (List.cons_ne_nil _ _) h.2 [' '] (by simp)

/-- The templates that have a place on the wire. -/
def templates : List (List Char) := ["array".toList, "vector".toList, "tuple".toList]

/-- What stands before the names of the standard library. -/
def standardScope : List Char := "std::".toList

theorem standardScope_eq : standardScope = ['s', 't', 'd', ':', ':'] := by decide

/-- The text of a template with parameters. -/
def templateText (name : List Char) (parameters : List (List Char)) : List Char :=
  standardScope ++ name ++ '<' :: joined parameters ++ ['>']

theorem getLast?_templateText (name : List Char) (parameters : List (List Char)) :
    (templateText name parameters).getLast? = some '>' := List.getLast?_concat

theorem trim_templateText (name : List Char) (parameters : List (List Char)) :
    Text.trim (templateText name parameters) = templateText name parameters := by
  refine Text.trim_eq_self ?_ ?_
  · intro c hc
    obtain rfl : 's' = c := by simpa [templateText, standardScope_eq] using hc
    decide
  · intro c hc
    rw [getLast?_templateText] at hc
    cases hc
    decide

theorem templateText_ne {cs : List Char} (hcs : cs.getLast? ≠ some '>') (name : List Char)
    (parameters : List (List Char)) : templateText name parameters ≠ cs := by
  rintro rfl
  exact hcs (getLast?_templateText name parameters)

theorem template?_templateText {name : List Char} (hname : name ∈ templates)
    {parameters : List (List Char)} (hne : parameters ≠ [])
    (h : ∀ p ∈ parameters, ∀ c ∈ p, Text.isWordChar c = true) :
    template? (templateText name parameters) = some (name, parameters) := by
  have htake : (templateText name parameters).takeWhile (· != '<') = "std::".toList ++ name ∧
      (templateText name parameters).dropWhile (· != '<') = '<' :: joined parameters ++ ['>'] := by
    simp only [templates, List.mem_cons, List.not_mem_nil, or_false] at hname
    rcases hname with rfl | rfl | rfl <;> exact ⟨rfl, rfl⟩
  have hbefore : Text.before? ['>'] (joined parameters ++ ['>']) = some (joined parameters) :=
    Text.before?_eq_some_iff.2 rfl
  have houter : ("std::".toList ++ name).foldr (fun c n => c.utf8Size - 1 + n) 0 = 0 ∧
      (Text.after? "std::".toList (Text.trim ("std::".toList ++ name))).getD
        (Text.trim ("std::".toList ++ name)) = name := by
    simp only [templates, List.mem_cons, List.not_mem_nil, or_false] at hname
    rcases hname with rfl | rfl | rfl <;> exact ⟨by decide, by decide⟩
  have hsplit := splitParameters_joined hne h [] (by simp)
  rw [List.nil_append] at hsplit
  simp only [template?, htake.1, htake.2, List.cons_append, hbefore, Option.map_some, houter.1,
    houter.2, hsplit]

/-- The text of a template is read as the template. -/
theorem classify_templateText {name : List Char} (hname : name ∈ templates)
    {parameters : List (List Char)} (hne : parameters ≠ [])
    (h : ∀ p ∈ parameters, ∀ c ∈ p, Text.isWordChar c = true) :
    classify (templateText name parameters) = ofTemplate name parameters := by
  have hother {cs : List Char} (hcs : cs.getLast? ≠ some '>') :=
    templateText_ne hcs name parameters
  have hconst : Text.after? "const ".toList (templateText name parameters) = none := by
    simp [templateText, standardScope_eq, Text.after?]
  have hplatform : isPlatformInteger (templateText name parameters) = false := by
    rw [isPlatformInteger, trim_templateText, hconst, Option.getD_none, List.any_eq_false]
    have hlast : ∀ type ∈ platformIntegers, type.toList.getLast? ≠ some '>' := by decide
    intro type htype hsame
    exact hother (hlast type htype) (by simpa using (beq_iff_eq.1 hsame).symm)
  have hpointer : Text.before? ['*'] (templateText name parameters) = none := by
    rw [Option.eq_none_iff_forall_ne_some]
    intro pointee hpointee
    have hlast := getLast?_templateText name parameters
    rw [Text.before?_eq_some_iff.1 hpointee] at hlast
    simp at hlast
  have hplain : templateText name parameters ≠ "void".toList ∧
      ¬(templateText name parameters = "char *".toList ∨
        templateText name parameters = "const char *".toList) ∧
      ¬(templateText name parameters = "std::string".toList ∨
        templateText name parameters = "string".toList ∨
        templateText name parameters = "const std::string".toList) :=
    ⟨hother (by decide), fun heq => heq.elim (hother (by decide)) (hother (by decide)),
      fun heq => heq.elim (hother (by decide)) fun heq =>
        heq.elim (hother (by decide)) (hother (by decide))⟩
  simp only [classify, trim_templateText, if_neg hplain.1, if_neg hplain.2.1, if_neg hplain.2.2,
    hplatform, Bool.false_eq_true, if_false, hpointer, template?_templateText hname hne h]

/-! ### Canonical texts -/

theorem text_array (element : ScalarType) (length : Nat) :
    (array element length).text.toList =
      templateText "array".toList [element.cppName.toList, Nat.toDigits 10 length] := by
  simp [text, templateText, standardScope_eq, joined, List.intercalate]

theorem text_vector (element : ScalarType) :
    (vector element).text.toList = templateText "vector".toList [element.cppName.toList] := by
  simp [text, templateText, standardScope_eq, joined, List.intercalate]

theorem text_tuple (fields : List ScalarType) :
    (tuple fields).text.toList =
      templateText "tuple".toList (fields.map (·.cppName.toList)) := by
  simp [text, templateText, standardScope_eq, joined, String.toList_intercalate, List.map_map,
    Function.comp_def]

/-- Only the texts of pointers and of strings that are pointers end with the mark of pointers. -/
theorem getLast?_text_ne {w : WireType} (h : w.IsSupported) (hcString : w ≠ cString)
    (hpointer : w.isPointer = false) : w.text.toList.getLast? ≠ some '*' := by
  cases w with
  | cString => exact absurd rfl hcString
  | pointer element => cases hpointer
  | unsupported reason => exact absurd h id
  | array element length => simp [text_array, getLast?_templateText]
  | vector element => simp [text_vector, getLast?_templateText]
  | tuple fields => simp [text_tuple, getLast?_templateText]
  | void | string => decide
  | scalar type => cases type <;> decide

/-- A type that has a place on the wire is read back from its text. -/
theorem classify_text {w : WireType} (h : w.IsSupported) : classify w.text.toList = w := by
  cases w with
  | void | cString | string => decide
  | unsupported reason => exact absurd h id
  | scalar type => cases type <;> decide
  | pointer element =>
    cases element with
    | bool => exact absurd rfl h
    | _ => decide
  -- templates are read by their name, and their parameters one by one
  | vector element =>
    rw [text_vector, classify_templateText (by decide) (List.cons_ne_nil _ _)
      (by simpa using isWordChar_cppName element)]
    simp [ofTemplate, parameter?_cppName]
  | array element length =>
    obtain ⟨hpos, hlt⟩ : 0 < length ∧ length < Text.limit64 := h
    obtain ⟨n, rfl⟩ := Nat.exists_eq_succ_of_ne_zero (Nat.ne_of_gt hpos)
    have hdigits : ∀ c ∈ Nat.toDigits 10 (n + 1), Text.isWordChar c = true := fun c hc =>
      Text.isWordChar_of_isDigit (Nat.isDigit_of_mem_toDigits (by decide) (by decide) hc)
    rw [text_array, classify_templateText (by decide) (List.cons_ne_nil _ _)
      (by simpa using ⟨isWordChar_cppName element, hdigits⟩)]
    simp [ofTemplate, parameter?_cppName, Text.number?_toDigits hlt]
  | tuple fields =>
    have hne : fields ≠ [] := h
    have hword : ∀ p ∈ fields.map (·.cppName.toList), ∀ c ∈ p, Text.isWordChar c = true := by
      intro p hp
      obtain ⟨field, -, rfl⟩ := List.mem_map.1 hp
      exact isWordChar_cppName field
    have hnone : (fields.map (·.cppName.toList)).find? (parameter? · |>.isNone) = none := by
      simp [parameter?_cppName]
    have hfields : (fields.map (·.cppName.toList)).filterMap parameter? = fields := by
      have hsome : (parameter? ∘ fun field : ScalarType => field.cppName.toList) = some :=
        funext parameter?_cppName
      rw [List.filterMap_map, hsome, List.filterMap_some]
    rw [text_tuple, classify_templateText (by decide) (by simpa using hne) hword]
    simp [ofTemplate, hnone, hfields]

/-! ### Marks -/

/-- Whether marks around a text can be told from the text. -/
structure IsBare (cs : List Char) : Prop where
  head : cs.head?.any (!Text.isBlank ·) = true
  last : cs.getLast?.any (fun c => !Text.isBlank c && c != '&') = true
  front : Text.after? "const ".toList cs = none
  back : Text.before? " const".toList cs = none

instance (cs : List Char) : Decidable (IsBare cs) :=
  decidable_of_iff (cs.head?.any (!Text.isBlank ·) = true ∧
      cs.getLast?.any (fun c => !Text.isBlank c && c != '&') = true ∧
      Text.after? "const ".toList cs = none ∧ Text.before? " const".toList cs = none)
    ⟨fun h => ⟨h.1, h.2.1, h.2.2.1, h.2.2.2⟩, fun h => ⟨h.head, h.last, h.front, h.back⟩⟩

theorem isBare_templateText (name : List Char) (parameters : List (List Char)) :
    IsBare (templateText name parameters) where
  head := rfl
  last := by
    rw [getLast?_templateText]
    rfl
  front := by simp [templateText, standardScope_eq, Text.after?]
  back := by
    rw [Option.eq_none_iff_forall_ne_some]
    intro rest hrest
    have hlast := getLast?_templateText name parameters
    rw [Text.before?_eq_some_iff.1 hrest, List.getLast?_append] at hlast
    cases hlast

/-- Marks can be told from the text of a type, unless the text has one itself. -/
theorem isBare_text {w : WireType} (h : w.IsSupported) (hw : w ≠ cString) :
    IsBare w.text.toList := by
  cases w with
  | cString => exact absurd rfl hw
  | unsupported reason => exact absurd h id
  | array element length => exact text_array element length ▸ isBare_templateText _ _
  | vector element => exact text_vector element ▸ isBare_templateText _ _
  | tuple fields => exact text_tuple fields ▸ isBare_templateText _ _
  | void | string => decide
  | scalar type => cases type <;> decide
  | pointer element => cases element <;> decide

/-- The mark for a constant. -/
def constMark : List Char := "const ".toList

theorem constMark_eq : constMark = ['c', 'o', 'n', 's', 't', ' '] := by decide

/-- The mark for a reference. -/
def referenceMark : List Char := " &".toList

theorem referenceMark_eq : referenceMark = [' ', '&'] := by decide

/-- A text with the marks for a constant and for a reference. -/
def marked (cs : List Char) (isConst byReference : Bool) : List Char :=
  (if isConst then constMark else []) ++ cs ++ if byReference then referenceMark else []

section

variable {cs : List Char} (h : IsBare cs) (isConst byReference : Bool)
include h

theorem exists_head_marked :
    ∃ c, (marked cs isConst byReference).head? = some c ∧ Text.isBlank c = false := by
  cases isConst with
  | true => exact ⟨'c', by simp [marked, constMark_eq], by decide⟩
  | false =>
    obtain ⟨c, hc, hblank⟩ := (Option.any_eq_true ..).1 h.head
    exact ⟨c, by simp [marked, hc], by simpa using hblank⟩

theorem exists_last_marked_false :
    ∃ c, (marked cs isConst false).getLast? = some c ∧ Text.isBlank c = false ∧ c ≠ '&' := by
  obtain ⟨c, hc, hlast⟩ := (Option.any_eq_true ..).1 h.last
  exact ⟨c, by simp [marked, List.getLast?_append, hc], by simpa using hlast⟩

omit h in
theorem getLast?_marked_true : (marked cs isConst true).getLast? = some '&' := by
  simp [marked, referenceMark_eq, List.getLast?_append]

theorem trim_marked :
    Text.trim (marked cs isConst byReference) = marked cs isConst byReference := by
  refine Text.trim_eq_self ?_ ?_
  · intro c hc
    obtain ⟨d, hd, hblank⟩ := exists_head_marked h isConst byReference
    rw [hd] at hc
    exact Option.some.inj hc ▸ hblank
  · intro c hc
    cases byReference with
    | true =>
      rw [getLast?_marked_true] at hc
      exact Option.some.inj hc ▸ by decide
    | false =>
      obtain ⟨d, hd, hblank, -⟩ := exists_last_marked_false h isConst
      rw [hd] at hc
      exact Option.some.inj hc ▸ hblank

/-- The mark for a reference is found. -/
theorem getLast?_marked_beq :
    ((marked cs isConst byReference).getLast? == some '&') = byReference := by
  cases byReference with
  | false =>
    obtain ⟨d, hd, -, hne⟩ := exists_last_marked_false h isConst
    rw [hd]
    simpa using hne
  | true => rw [getLast?_marked_true, beq_self_eq_true]

/-- The mark for a reference is taken off. -/
theorem dropEndWhile_marked :
    Text.dropEndWhile (fun c => c == '&' || Text.isBlank c) (marked cs isConst true) =
      marked cs isConst false := by
  obtain ⟨d, hd, hblank, hne⟩ := exists_last_marked_false h isConst
  have hsplit : marked cs isConst true = marked cs isConst false ++ " &".toList := by
    simp [marked, referenceMark_eq]
  rw [hsplit, Text.dropEndWhile_append (by decide), Text.dropEndWhile_eq_self]
  intro c hc
  rw [hd] at hc
  cases hc
  simp [hblank, hne]

/-- Marks are taken off. -/
theorem unqualified_marked :
    Unqualified.of (marked cs isConst byReference) = ⟨cs, byReference, isConst⟩ := by
  have hdrop : (if byReference = true then
      Text.dropEndWhile (fun c => c == '&' || Text.isBlank c) (marked cs isConst byReference)
      else marked cs isConst byReference) = marked cs isConst false := by
    cases byReference with
    | true => exact dropEndWhile_marked h isConst
    | false => rfl
  have hstart : Text.trimStart cs = cs := by
    refine Text.trimStart_eq_self ?_
    intro c hc
    have hhead := h.head
    rw [hc] at hhead
    simpa using hhead
  have hfront : Text.after? "const ".toList (marked cs isConst false) =
      if isConst then some cs else none := by
    cases isConst with
    | true => simp [marked, constMark_eq, Text.after?_eq_some_iff]
    | false => simpa [marked] using h.front
  have hback :
      (if cs.getLast? = some '*' then none else Text.before? " const".toList cs) = none := by
    rw [h.back, ite_self]
  simp only [Unqualified.of, trim_marked h, getLast?_marked_beq h, hdrop, hfront]
  cases isConst with
  | true =>
    simp only [if_true, Option.map_some, hstart, Option.getD_some, hback, Option.map_none,
      Option.getD_none, Option.isSome_some, Bool.true_or]
  | false =>
    have hbare : marked cs false false = cs := by simp [marked]
    simp only [Bool.false_eq_true, if_false, Option.map_none, Option.getD_none, hbare, hback,
      Option.isSome_none, Bool.or_false]

end

end Instrument.WireType
