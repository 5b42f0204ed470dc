import Instrument.Proofs.Interface.TypeWords
import Instrument.Proofs.WireType

/-!
One text for each type. Main statement: every type with a place on the wire is read from its text,
with the marks for a constant and for a reference around it as well; so whatever text is accepted,
the text of its type is accepted as the same type; and no part of an accepted text, between the
marks that types are put together with, is an integer type whose width depends on the platform.
-/

namespace Instrument

/-! ### Words of parts -/

namespace Text

/-- The words of a text are those of its parts, if no word has a character that parts them. -/
theorem wordRuns_pieces {p : Char → Bool} (hp : ∀ c, p c = true → isWordChar c = false)
    (cs : List Char) : wordRuns cs = (pieces p cs).flatMap wordRuns := by
  by_cases h : ∀ c ∈ cs, p c = false
  · rw [pieces_of_forall h, List.flatMap_singleton]
  · obtain ⟨d, hmem, hd⟩ : ∃ d ∈ cs, p d = true := by simpa using h
    obtain ⟨front, rest, hsplit⟩ := List.append_of_mem hmem
    have hlen : cs.length = front.length + (rest.length + 1) := by simp [hsplit]
    rw [hsplit, wordRuns_append_cons (hp d hd), pieces_append_sep hd, List.flatMap_append,
      wordRuns_pieces hp front, wordRuns_pieces hp rest]
termination_by cs.length

end Text

namespace WireType

open Text (wordRuns)
open Wire (ScalarType)

/-- The marks that types are put together with. -/
def isMark (c : Char) : Bool := c == '<' || c == '>' || c == ',' || c == '*'

theorem isWordChar_of_isMark {c : Char} (h : isMark c = true) : Text.isWordChar c = false := by
  simp only [isMark, Bool.or_eq_true, beq_iff_eq] at h
  rcases h with ((rfl | rfl) | rfl) | rfl <;> decide

theorem mem_wordRuns_of_after? (front : List Char) {d : Char} (hd : Text.isWordChar d = false)
    {cs w : List Char} (h : w ∈ wordRuns ((Text.after? (front ++ [d]) cs).getD cs)) :
    w ∈ wordRuns cs := by
  cases hafter : Text.after? (front ++ [d]) cs with
  | none => rwa [hafter] at h
  | some rest =>
    rw [hafter, Option.getD_some] at h
    rw [Text.after?_eq_some_iff.1 hafter, List.append_assoc]
    exact (Text.wordRuns_append_cons hd front rest).symm ▸ List.mem_append_right _ h

/-- An integer type whose width depends on the platform has a word of such types. -/
theorem exists_platformWord_of_isPlatformInteger {cs : List Char}
    (h : isPlatformInteger cs = true) :
    ∃ w ∈ wordRuns cs, String.ofList w ∈ platformWords := by
  unfold isPlatformInteger at h
  extract_lets trimmed bare at h
  obtain ⟨type, htype, hbare⟩ := List.any_eq_true.1 h
  obtain ⟨w, hw, hplatform⟩ := exists_platformWord type htype
  rw [beq_iff_eq.1 hbare] at hw
  have hw : w ∈ wordRuns trimmed :=
    mem_wordRuns_of_after? "const".toList (d := ' ') (by decide) hw
  exact ⟨w, Text.wordRuns_trim cs ▸ hw, hplatform⟩

/-- No part of an accepted text is an integer type whose width depends on the platform. -/
theorem isPlatformInteger_of_mem_pieces {cs : List Char}
    (h : ∀ reason, classify cs ≠ .unsupported reason) :
    ∀ p ∈ Text.pieces isMark cs, isPlatformInteger p = false := by
  intro p hp
  rw [← Bool.not_eq_true]
  intro hinteger
  obtain ⟨w, hw, hplatform⟩ := exists_platformWord_of_isPlatformInteger hinteger
  have hmem : w ∈ wordRuns cs := by
    rw [Text.wordRuns_pieces (p := isMark) fun _ => isWordChar_of_isMark]
    exact List.mem_flatMap.2 ⟨p, hp, hw⟩
  exact not_mem_platformWords (isSpelled_classify h) w hmem hplatform

/-! ### Accepted texts -/

theorem isPointer_ofTemplate (name : List Char) (parameters : List (List Char)) :
    (ofTemplate name parameters).isPointer = false := by
  unfold ofTemplate
  split
  · split
    · split <;> rfl
    · rfl
  split
  · split
    · split <;> rfl
    · rfl
  split
  · split <;> rfl
  · rfl

/-- No pointer to truth values is accepted. -/
theorem ne_bool_of_classify {cs : List Char} {element : ScalarType}
    (h : classify cs = .pointer element) : element ≠ .bool := by
  simp only [classify] at h
  split at h
  · cases h
  split at h
  · cases h
  split at h
  · cases h
  split at h
  · cases h
  split at h
  · split at h
    · cases h
    · cases h
    · next hne _ =>
      cases h
      rintro rfl
      exact hne rfl
  split at h
  · next name parameters _ =>
    have hpointer := isPointer_ofTemplate name parameters
    rw [h] at hpointer
    cases hpointer
  · split at h <;> cases h

/-- An accepted text is a type with a place on the wire. -/
theorem isSupported_classify {cs : List Char} (h : ∀ reason, classify cs ≠ .unsupported reason) :
    (classify cs).IsSupported := by
  have hfilled := isFilled_classify cs
  cases hclassify : classify cs with
  | void | scalar | vector | cString | string => trivial
  | array element length =>
    rw [hclassify] at hfilled
    exact ⟨hfilled, lt_limit_of_classify hclassify⟩
  | tuple fields =>
    rw [hclassify] at hfilled
    exact hfilled
  | pointer element => exact ne_bool_of_classify hclassify
  | unsupported reason => exact h reason hclassify

/-- Every type with a place on the wire has a text of its own, and whatever is accepted stands for
one of these types and has no integer type in it whose width depends on the platform. -/
theorem text_is_canonical :
    (∀ w : WireType, w.IsSupported → classify w.text.toList = w) ∧
    (∀ cs, (∀ reason, classify cs ≠ .unsupported reason) →
      (classify cs).IsSupported ∧ classify (classify cs).text.toList = classify cs ∧
        (∀ p ∈ Text.pieces isMark cs, isPlatformInteger p = false) ∧
        ∀ word ∈ wordRuns cs, String.ofList word ∉ platformWords) ∧
    ∀ w : WireType, w.IsSupported → w ≠ cString →
      Unqualified.of ("const ".toList ++ w.text.toList ++ " &".toList) =
        ⟨w.text.toList, true, true⟩ := by
  refine ⟨fun w => classify_text, fun cs h => ?_, fun w h hw => ?_⟩
  · have hsupported := isSupported_classify h
    exact ⟨hsupported, classify_text hsupported, isPlatformInteger_of_mem_pieces h,
      not_mem_platformWords (isSpelled_classify h)⟩
  · exact unqualified_marked (isBare_text h hw) true true

/-- Weights are an array whose text can be written with blanks, a scope, and a sign. -/
theorem text_is_canonical_weights :
    (array .f32 12).IsSupported ∧ array .f32 12 ≠ cString ∧
      classify (array .f32 12).text.toList = array .f32 12 ∧
      Unqualified.of ("const ".toList ++ (array .f32 12).text.toList ++ " &".toList) =
        ⟨(array .f32 12).text.toList, true, true⟩ ∧
      let cs := " array<std::float , +012>".toList
      (∀ reason, classify cs ≠ .unsupported reason) ∧
        classify (classify cs).text.toList = classify cs ∧
        ∀ p ∈ Text.pieces isMark cs, isPlatformInteger p = false := by
  have hsupported : (array .f32 12).IsSupported := by decide
  have haccepted : ∀ reason, classify " array<std::float , +012>".toList ≠ .unsupported reason := by
    have hclassify : classify " array<std::float , +012>".toList = array .f32 12 := by decide
    rw [hclassify]
    intro reason h
    cases h
  obtain ⟨-, hagain, hpieces, -⟩ := text_is_canonical.2.1 _ haccepted
  exact ⟨hsupported, by decide, text_is_canonical.1 _ hsupported,
    text_is_canonical.2.2 _ hsupported (by decide), haccepted, hagain, hpieces⟩

end WireType

end Instrument
