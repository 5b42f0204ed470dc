import Instrument.Interface.Describe
import Instrument.Proofs.Header.TypeText
import Instrument.Proofs.Interface.Described

/-!
The words of declared types. Main statement: a text that is read as a type with a place on the wire
has only words of which such types consist, and numbers; no word of an integer type whose width
depends on the platform is among them.
-/

namespace Instrument

open Header (typeVocabulary)
open Wire (ScalarType)

/-! ### Runs of word characters -/

namespace Text

/-- The maximal runs of word characters in a text. -/
def wordRuns (cs : List Char) : List (List Char) :=
  (pieces (!isWordChar ·) cs).filter (!·.isEmpty)

/-- Whether a text has no word character. -/
def IsBetween (cs : List Char) : Prop := ∀ c ∈ cs, isWordChar c = false

theorem wordRuns_append_cons {d : Char} (hd : isWordChar d = false) (cs rest : List Char) :
    wordRuns (cs ++ d :: rest) = wordRuns cs ++ wordRuns rest := by
  rw [wordRuns, pieces_append_sep (by simp [hd]), List.filter_append]
  rfl

theorem wordRuns_append_left {cs : List Char} (h : IsBetween cs) (rest : List Char) :
    wordRuns (cs ++ rest) = wordRuns rest := by
  induction cs with
  | nil => rfl
  | cons c cs ih =>
    obtain ⟨hc, hcs⟩ := List.forall_mem_cons.1 h
    exact (wordRuns_append_cons hc [] (cs ++ rest)).trans (ih hcs)

theorem wordRuns_append_right {ending : List Char} (h : IsBetween ending) (cs : List Char) :
    wordRuns (cs ++ ending) = wordRuns cs := by
  cases ending with
  | nil => rw [List.append_nil]
  | cons c ending =>
    obtain ⟨hc, hending⟩ := List.forall_mem_cons.1 h
    have hrest := wordRuns_append_left hending []
    rw [List.append_nil] at hrest
    rw [wordRuns_append_cons hc, hrest]
    exact List.append_nil _

theorem isWordChar_of_isBlank {c : Char} (h : isBlank c = true) : isWordChar c = false := by
  rw [← Bool.not_eq_true]
  intro hword
  rw [isBlank_eq_false_of_isWordChar hword] at h
  cases h

/-- What is dropped from the end of a text. -/
theorem exists_dropEndWhile (p : Char → Bool) (cs : List Char) :
    ∃ ending, cs = dropEndWhile p cs ++ ending ∧ ∀ c ∈ ending, p c = true := by
  induction cs with
  | nil => exact ⟨[], rfl, by simp⟩
  | cons c cs ih =>
    obtain ⟨ending, hsplit, hending⟩ := ih
    rw [dropEndWhile]
    split
    · next hrest =>
      rw [hrest, List.nil_append] at hsplit
      split
      · next hc => exact ⟨c :: cs, rfl, List.forall_mem_cons.2 ⟨hc, hsplit ▸ hending⟩⟩
      · exact ⟨cs, rfl, hsplit ▸ hending⟩
    · exact ⟨ending, congrArg (c :: ·) hsplit, hending⟩

theorem wordRuns_dropEndWhile {p : Char → Bool} (hp : ∀ c, p c = true → isWordChar c = false)
    (cs : List Char) : wordRuns (dropEndWhile p cs) = wordRuns cs := by
  obtain ⟨ending, hsplit, hending⟩ := exists_dropEndWhile p cs
  conv_rhs => rw [hsplit]
  exact (wordRuns_append_right (fun c hc => hp c (hending c hc)) _).symm

theorem wordRuns_trimStart (cs : List Char) : wordRuns (trimStart cs) = wordRuns cs := by
  have hstart : IsBetween (cs.takeWhile isBlank) := fun c hc =>
    isWordChar_of_isBlank (List.all_eq_true.1 List.all_takeWhile c hc)
  conv_rhs => rw [← List.takeWhile_append_dropWhile (p := isBlank) (l := cs)]
  exact (wordRuns_append_left hstart _).symm

theorem wordRuns_trimEnd (cs : List Char) : wordRuns (trimEnd cs) = wordRuns cs :=
  wordRuns_dropEndWhile (fun _ => isWordChar_of_isBlank) cs

/-- Blanks around a text are no words. -/
theorem wordRuns_trim (cs : List Char) : wordRuns (trim cs) = wordRuns cs :=
  (wordRuns_trimEnd _).trans (wordRuns_trimStart cs)

theorem wordRuns_intercalate {d : Char} (hd : isWordChar d = false) (ps : List (List Char)) :
    wordRuns ([d].intercalate ps) = ps.flatMap wordRuns := by
  induction ps with
  | nil => rfl
  | cons p ps ih =>
    cases ps with
    | nil => simp [List.intercalate]
    | cons q ps =>
      have hcons : [d].intercalate (p :: q :: ps) = p ++ d :: [d].intercalate (q :: ps) := by
        simp [List.intercalate]
      rw [hcons, wordRuns_append_cons hd, ih, ← List.flatMap_cons]

end Text

namespace WireType

open Text (wordRuns)

/-! ### Words of types -/

/-- The words of the integer types whose width differs between platforms. -/
def platformWords : List String := ["short", "int", "long", "signed", "unsigned", "size_t"]

/-- Whether a text has only words of which types consist, and numbers. -/
def IsSpelled (cs : List Char) : Prop :=
  ∀ w ∈ wordRuns cs, String.ofList w ∈ typeVocabulary ∨ w.all Char.isDigit = true

theorem isSpelled_congr {cs cs' : List Char} (h : wordRuns cs = wordRuns cs') :
    IsSpelled cs ↔ IsSpelled cs' := by
  rw [IsSpelled, h, IsSpelled]

theorem isSpelled_append_cons {d : Char} (hd : Text.isWordChar d = false) {cs rest : List Char} :
    IsSpelled (cs ++ d :: rest) ↔ IsSpelled cs ∧ IsSpelled rest := by
  rw [IsSpelled, Text.wordRuns_append_cons hd, List.forall_mem_append]
  rfl

theorem isSpelled_trim {cs : List Char} : IsSpelled (Text.trim cs) ↔ IsSpelled cs :=
  isSpelled_congr (Text.wordRuns_trim cs)

/-- No word of a type whose width depends on the platform is one of these words. -/
theorem not_mem_platformWords {cs : List Char} (h : IsSpelled cs) :
    ∀ w ∈ wordRuns cs, String.ofList w ∉ platformWords := by
  have hdigits : ∀ word ∈ platformWords, word.toList.all Char.isDigit = false := by decide
  have hvocabulary : ∀ word ∈ platformWords, word ∉ typeVocabulary := by decide
  intro w hw hplatform
  rcases h w hw with hknown | hnumber
  · exact hvocabulary _ hplatform hknown
  · have hother := hdigits _ hplatform
    rw [String.toList_ofList, hnumber] at hother
    cases hother

/-- Every integer type whose width depends on the platform has one of these words. -/
theorem exists_platformWord : ∀ type ∈ platformIntegers, ∃ w ∈ wordRuns type.toList,
    String.ofList w ∈ platformWords := by
  decide

/-- What may stand in front of a type leaves it spelled. -/
theorem isSpelled_after? {front : List Char} {d : Char} (hfront : IsSpelled front)
    (hd : Text.isWordChar d = false) {cs : List Char}
    (h : IsSpelled ((Text.after? (front ++ [d]) cs).getD cs)) : IsSpelled cs := by
  cases hafter : Text.after? (front ++ [d]) cs with
  | none => rwa [hafter] at h
  | some rest =>
    rw [hafter, Option.getD_some] at h
    rw [Text.after?_eq_some_iff.1 hafter, List.append_assoc]
    exact (isSpelled_append_cons hd).2 ⟨hfront, h⟩

theorem isSpelled_std {cs : List Char}
    (h : IsSpelled ((Text.after? "std::".toList cs).getD cs)) : IsSpelled cs :=
  have hfront : IsSpelled "std:".toList := by
    unfold IsSpelled
    decide
  isSpelled_after? hfront (by decide) h

theorem isSpelled_const {cs : List Char}
    (h : IsSpelled ((Text.after? "const ".toList cs).getD cs)) : IsSpelled cs :=
  have hfront : IsSpelled "const".toList := by
    unfold IsSpelled
    decide
  isSpelled_after? hfront (by decide) h

theorem isSpelled_cppName (type : ScalarType) : IsSpelled type.cppName.toList := by
  have hall : ∀ type ∈ ScalarType.all, IsSpelled type.cppName.toList := by
    unfold IsSpelled
    decide
  exact hall type type.mem_all

theorem isSpelled_ofCpp? {cs : List Char} {type : ScalarType}
    (h : ScalarType.ofCpp? cs = some type) : IsSpelled cs := by
  unfold ScalarType.ofCpp? at h
  extract_lets trimmed name at h
  have hname : type.cppName.toList = name := by simpa using List.find?_some h
  have hspelled : IsSpelled name := hname ▸ isSpelled_cppName type
  exact isSpelled_trim.1 (isSpelled_std hspelled)

theorem isSpelled_parameter? {cs : List Char} {type : ScalarType} (h : parameter? cs = some type) :
    IsSpelled cs := by
  rw [parameter?] at h
  split at h
  · cases h
  · exact isSpelled_ofCpp? h

/-- A number is a number, whether it has a sign or not. -/
theorem isSpelled_number? {cs : List Char} {limit n : Nat} (h : Text.number? limit cs = some n) :
    IsSpelled cs := by
  have hdigits {digits : List Char} (hall : digits.all Char.isDigit = true) :
      IsSpelled digits := by
    have hword : ∀ c ∈ digits, (!Text.isWordChar c) = false := by
      intro c hc
      rw [Text.isWordChar_of_isDigit (List.all_eq_true.1 hall c hc)]
      rfl
    intro w hw
    rw [wordRuns, Text.pieces_of_forall hword] at hw
    obtain rfl := List.mem_singleton.1 (List.mem_filter.1 hw).1
    exact .inr hall
  have hplus (rest : List Char) (hrest : IsSpelled rest) : IsSpelled ('+' :: rest) := by
    have hnone : IsSpelled [] := by simp [IsSpelled, wordRuns, Text.pieces]
    exact (isSpelled_append_cons (by decide)).2 ⟨hnone, hrest⟩
  unfold Text.number? at h
  extract_lets digits at h
  split at h
  · cases h
  next hnumber =>
  have hall : digits.all Char.isDigit = true := by
    rw [Bool.not_eq_true, Bool.or_eq_false_iff] at hnumber
    simpa using hnumber.2
  have hspelled := hdigits hall
  simp only [digits] at hspelled
  split at hspelled
  · exact hplus _ hspelled
  · exact hspelled

/-! ### Templates -/

theorem intercalate_cons_cons (c d : Char) (piece : List Char) (ps : List (List Char)) :
    [d].intercalate ((c :: piece) :: ps) = c :: [d].intercalate (piece :: ps) := by
  cases ps <;> simp [List.intercalate]

/-- The pieces between the commas are all of a text. -/
theorem intercalate_splitParameters (unseen depth : Nat) (cs : List Char) :
    [','].intercalate (splitParameters unseen depth cs) = cs := by
  induction cs generalizing unseen depth with
  | nil => rfl
  | cons c cs ih =>
    simp only [splitParameters]
    split
    · next hcomma =>
      obtain ⟨piece, ps, hpieces⟩ :=
        List.exists_cons_of_ne_nil (splitParameters_ne_nil 0 0 cs)
      have hrest := ih 0 0
      rw [hpieces] at hrest ⊢
      rw [hcomma.2.1, ← hrest]
      simp [List.intercalate]
    · split
      · next hnil => exact absurd hnil (splitParameters_ne_nil _ _ _)
      · next piece ps hpieces => rw [intercalate_cons_cons, ← hpieces, ih]

theorem isSpelled_template? {type name : List Char} {parameters : List (List Char)}
    (h : template? type = some (name, parameters)) (hname : IsSpelled name)
    (hparameters : ∀ p ∈ parameters, IsSpelled p) : IsSpelled type := by
  unfold template? at h
  extract_lets outer extra trimmed bare at h
  split at h
  · cases h
  next bracket inside hinside =>
  obtain ⟨between, hbetween, hpair⟩ := Option.map_eq_some_iff.1 h
  obtain ⟨rfl, rfl⟩ := Prod.mk.inj hpair
  obtain rfl := Text.before?_eq_some_iff.1 hbetween
  have hopen : Text.isWordChar bracket = false := by
    have hfails := List.head?_dropWhile_not (· != '<') type
    rw [hinside] at hfails
    obtain rfl : bracket = '<' := by simpa using hfails
    decide
  have htype : type = outer ++ bracket :: (between ++ ['>']) := by
    rw [← hinside]
    exact List.takeWhile_append_dropWhile.symm
  have houter : IsSpelled outer := isSpelled_trim.1 (isSpelled_std hname)
  have hinner : IsSpelled between := by
    intro w hw
    rw [← intercalate_splitParameters extra 0 between, Text.wordRuns_intercalate (by decide)] at hw
    obtain ⟨piece, hpiece, hw⟩ := List.mem_flatMap.1 hw
    exact isSpelled_trim.1 (hparameters _ (List.mem_map_of_mem hpiece)) w hw
  have hclose : IsSpelled (between ++ ['>']) :=
    (isSpelled_append_cons (by decide)).2 ⟨hinner, by simp [IsSpelled, wordRuns, Text.pieces]⟩
  rw [htype]
  exact (isSpelled_append_cons hopen).2 ⟨houter, hclose⟩

theorem isSpelled_ofTemplate {name : List Char} {parameters : List (List Char)}
    (h : ∀ reason, ofTemplate name parameters ≠ .unsupported reason) :
    IsSpelled name ∧ ∀ p ∈ parameters, IsSpelled p := by
  have hnames : IsSpelled "array".toList ∧ IsSpelled "vector".toList ∧
      IsSpelled "tuple".toList := by
    unfold IsSpelled
    decide
  unfold ofTemplate at h
  -- each template name takes its own parameters, and any other is unsupported
  split at h
  · next harray =>
    refine ⟨harray ▸ hnames.1, ?_⟩
    split at h
    · split at h
      · exact absurd rfl (h _)
      · next htype hlength =>
        simpa using ⟨isSpelled_parameter? htype, isSpelled_number? hlength⟩
      · exact absurd rfl (h _)
    · exact absurd rfl (h _)
  split at h
  · next hvector =>
    refine ⟨hvector ▸ hnames.2.1, ?_⟩
    split at h
    · split at h
      · next htype => simpa using isSpelled_parameter? htype
      · exact absurd rfl (h _)
    · exact absurd rfl (h _)
  split at h
  · next htuple =>
    refine ⟨htuple ▸ hnames.2.2, ?_⟩
    split at h
    · exact absurd rfl (h _)
    · next hall =>
      intro p hp
      obtain ⟨type, htype⟩ : ∃ type, parameter? p = some type := by
        simpa [Option.isNone_iff_eq_none, Option.ne_none_iff_exists'] using
          List.find?_eq_none.1 hall p hp
      exact isSpelled_parameter? htype
  · exact absurd rfl (h _)

/-! ### Types -/

/-- A type with a place on the wire is spelled with the words of such types. -/
theorem isSpelled_classify {cs : List Char} (h : ∀ reason, classify cs ≠ .unsupported reason) :
    IsSpelled cs := by
  rw [← isSpelled_trim]
  unfold classify at h
  extract_lets type at h
  change IsSpelled type
  generalize type = type at h
  have hplain : ∀ text ∈ ["void", "char *", "const char *", "std::string", "string",
      "const std::string"], IsSpelled text.toList := by
    unfold IsSpelled
    decide
  -- every class of types but the unsupported one is spelled in known words
  split at h
  · next hvoid => exact hvoid ▸ hplain _ (by simp)
  split at h
  · next htext => rcases htext with rfl | rfl <;> exact hplain _ (by simp)
  split at h
  · next htext => rcases htext with rfl | rfl | rfl <;> exact hplain _ (by simp)
  split at h
  · exact absurd rfl (h _)
  split at h
  · next pointee hpointee =>
    extract_lets trimmed bare at h
    obtain rfl := Text.before?_eq_some_iff.1 hpointee
    refine (isSpelled_append_cons (by decide)).2 ⟨?_, by simp [IsSpelled, wordRuns, Text.pieces]⟩
    have hbare : IsSpelled bare := by
      split at h
      · exact absurd rfl (h _)
      · exact absurd rfl (h _)
      · next htype => exact isSpelled_ofCpp? htype
    exact isSpelled_trim.1 (isSpelled_const hbare)
  split at h
  · next name parameters htemplate =>
    obtain ⟨hname, hparameters⟩ := isSpelled_ofTemplate h
    exact isSpelled_template? htemplate hname hparameters
  · split at h
    · next htype => exact isSpelled_ofCpp? htype
    · exact absurd rfl (h _)

/-- The marks around a type are spelled with words of types, too. -/
theorem isSpelled_unqualified {cs : List Char} (h : IsSpelled (Unqualified.of cs).type) :
    IsSpelled cs := by
  unfold Unqualified.of at h
  extract_lets trimmed byReference unreferenced front bare back at h
  -- from the inside out: each qualifier that was taken off is itself spelled
  have hbare : IsSpelled bare := by
    cases hback : back with
    | none =>
      rw [hback] at h
      exact h
    | some rest =>
      rw [hback] at h
      have hrest : IsSpelled rest := (isSpelled_congr (Text.wordRuns_trimEnd rest)).1 h
      have hsplit : bare = rest ++ ' ' :: "const".toList := by
        simp only [back] at hback
        split at hback
        · cases hback
        · exact Text.before?_eq_some_iff.1 hback
      have hconst : IsSpelled "const".toList := by
        unfold IsSpelled
        decide
      exact hsplit ▸ (isSpelled_append_cons (by decide)).2 ⟨hrest, hconst⟩
  have hunreferenced : IsSpelled unreferenced := by
    refine isSpelled_const ?_
    simp only [bare, front] at hbare
    cases hfront : Text.after? "const ".toList unreferenced with
    | none =>
      rw [hfront] at hbare
      exact hbare
    | some rest =>
      rw [hfront] at hbare
      exact (isSpelled_congr (Text.wordRuns_trimStart rest)).1 hbare
  have hmark (c : Char) (hc : (c == '&' || Text.isBlank c) = true) :
      Text.isWordChar c = false := by
    rcases Bool.or_eq_true_iff.1 hc with hc | hc
    · rw [beq_iff_eq.1 hc]
      decide
    · exact Text.isWordChar_of_isBlank hc
  rw [← isSpelled_trim]
  simp only [unreferenced] at hunreferenced
  split at hunreferenced
  · exact (isSpelled_congr (Text.wordRuns_dropEndWhile hmark trimmed)).1 hunreferenced
  · exact hunreferenced

/-- The declared type of a result that has a place on the wire is spelled with the words of such
types. -/
theorem isSpelled_resultType {text : String}
    (h : ∀ reason, Interface.resultType text ≠ .unsupported reason) : IsSpelled text.toList := by
  have hspelled := isSpelled_classify h
  split at hspelled
  · exact hspelled
  · exact isSpelled_unqualified hspelled

end WireType

end Instrument
