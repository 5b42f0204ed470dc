import Instrument.Text.Blank
import Instrument.Text.Number

/-!
Text that is put together from pieces is taken apart into the same pieces. Main statements: fields
that end in a separator are found as they were written, and so are lines; a line between two
separators is one of the lines that the text is put together from; trimming leaves a text as it is
that begins and ends with no blank; the words of a text are what is not blank; and a number that is
written in digits is read back.
-/

namespace Instrument.Text

/-! ### Pieces and lines -/

theorem pieces_of_forall {p : Char → Bool} {cs : List Char} (h : ∀ c ∈ cs, p c = false) :
    pieces p cs = [cs] := by
  induction cs with
  | nil => rfl
  | cons c cs ih =>
    rw [List.forall_mem_cons] at h
    simp [pieces, h.1, ih h.2]

theorem pieces_append_cons {p : Char → Bool} {cs : List Char} {d : Char}
    (h : ∀ c ∈ cs, p c = false) (hd : p d = true) (rest : List Char) :
    pieces p (cs ++ d :: rest) = cs :: pieces p rest := by
  induction cs with
  | nil => simp [pieces, hd]
  | cons c cs ih =>
    rw [List.forall_mem_cons] at h
    simp [pieces, h.1, ih h.2]

/-- A separator ends a piece, whatever stands before it. -/
theorem pieces_append_sep {p : Char → Bool} {d : Char} (hd : p d = true) (cs rest : List Char) :
    pieces p (cs ++ d :: rest) = pieces p cs ++ pieces p rest := by
  induction cs with
  | nil => simp [pieces, hd]
  | cons c cs ih =>
    rw [List.cons_append, pieces, pieces, ih]
    split
    · rfl
    · cases hcs : pieces p cs with
      | nil => exact absurd hcs (pieces_ne_nil p cs)
      | cons piece more => rfl

/-- Fields that end in a separator, and the rest. -/
theorem pieces_flatMap {sep : Char} {fields : List (List Char)} (h : ∀ f ∈ fields, sep ∉ f)
    (rest : List Char) :
    pieces (· == sep) (fields.flatMap (· ++ [sep]) ++ rest) =
      fields ++ pieces (· == sep) rest := by
  induction fields with
  | nil => rfl
  | cons f fields ih =>
    rw [List.forall_mem_cons] at h
    have hf : ∀ c ∈ f, (c == sep) = false := by
      intro c hc
      rw [beq_eq_false_iff_ne]
      rintro rfl
      exact h.1 hc
    rw [List.flatMap_cons, List.append_assoc, List.append_assoc, List.singleton_append,
      pieces_append_cons hf (by simp), ih h.2, List.cons_append]

/-- Lines that end in a line feed. -/
theorem lines_flatMap {ls : List (List Char)} (h : ∀ l ∈ ls, '\n' ∉ l ∧ l.getLast? ≠ some '\r') :
    lines (ls.flatMap (· ++ ['\n'])) = ls := by
  have hpieces : pieces (· == '\n') (ls.flatMap (· ++ ['\n'])) = ls ++ [[]] := by
    simpa [pieces] using pieces_flatMap (fun l hl => (h l hl).1) []
  have hreturn : ls.map dropReturn = ls := by
    refine (List.map_congr_left fun l hl => ?_).trans (List.map_id _)
    rw [dropReturn, if_neg (h l hl).2, id]
  simp [lines, hpieces, hreturn]

/-- Pieces hold no separator and nothing that is not in the text. -/
theorem of_mem_pieces {p : Char → Bool} {cs f : List Char} (h : f ∈ pieces p cs) :
    ∀ c ∈ f, p c = false ∧ c ∈ cs := by
  induction cs generalizing f with
  | nil =>
    rw [pieces, List.mem_singleton] at h
    simp [h]
  | cons d cs ih =>
    rw [pieces] at h
    split at h
    · rcases List.mem_cons.1 h with rfl | h
      · simp
      · exact fun c hc => (ih h c hc).imp_right (List.mem_cons_of_mem d)
    next hd =>
    split at h
    · next hnil => exact absurd hnil (pieces_ne_nil p cs)
    · next piece rest hcons =>
      rw [hcons] at ih
      intro c hc
      rcases List.mem_cons.1 h with rfl | h
      · rcases List.mem_cons.1 hc with rfl | hc
        · exact ⟨by simpa using hd, List.mem_cons_self ..⟩
        · exact (ih (List.mem_cons_self ..) c hc).imp_right (List.mem_cons_of_mem d)
      · exact (ih (List.mem_cons_of_mem _ h) c hc).imp_right (List.mem_cons_of_mem d)

/-- There are at most as many separators as characters. -/
theorem length_pieces_le (p : Char → Bool) (cs : List Char) :
    (pieces p cs).length ≤ cs.length + 1 := by
  induction cs with
  | nil => simp [pieces]
  | cons c cs ih =>
    simp only [pieces, List.length_cons]
    split
    · simpa using ih
    · split
      · simp
      · next hcons =>
        rw [hcons] at ih
        simp only [List.length_cons] at ih ⊢
        omega

/-- A piece is no longer than the text. -/
theorem length_le_of_mem_pieces {p : Char → Bool} {cs f : List Char} (h : f ∈ pieces p cs) :
    f.length ≤ cs.length := by
  induction cs generalizing f with
  | nil =>
    rw [pieces, List.mem_singleton] at h
    simp [h]
  | cons d cs ih =>
    rw [pieces] at h
    split at h
    · rcases List.mem_cons.1 h with rfl | h
      · simp
      · exact Nat.le_succ_of_le (ih h)
    split at h
    · next hnil => exact absurd hnil (pieces_ne_nil p cs)
    · next piece rest hcons =>
      rw [hcons] at ih
      rcases List.mem_cons.1 h with rfl | h
      · exact Nat.succ_le_succ (ih (List.mem_cons_self ..))
      · exact Nat.le_succ_of_le (ih (List.mem_cons_of_mem _ h))

/-- A line is a piece between line feeds, or such a piece without its last character. -/
theorem exists_of_mem_lines {cs l : List Char} (h : l ∈ lines cs) :
    ∃ f ∈ pieces (· == '\n') cs, l <+: f := by
  simp only [lines, List.mem_append, List.mem_map] at h
  rcases h with ⟨f, hf, rfl⟩ | h
  · refine ⟨f, List.dropLast_subset _ hf, ?_⟩
    rw [dropReturn]
    split
    · exact List.dropLast_prefix f
    · exact List.prefix_rfl
  · have hlast : l ∈ (pieces (· == '\n') cs).getLast?.toList := (List.mem_filter.1 h).1
    exact ⟨l, List.mem_of_getLast? (Option.mem_toList.1 hlast), List.prefix_rfl⟩

/-! ### Lines as they stand in a text -/

section

variable {α : Type} {sep : α}

/-- What stands before the first separator, and what follows it, are told apart. -/
theorem append_cons_inj {l m x y : List α} (hl : sep ∉ l) (hm : sep ∉ m)
    (h : l ++ sep :: x = m ++ sep :: y) : l = m ∧ x = y := by
  induction l generalizing m with
  | nil =>
    cases m with
    | nil => exact ⟨rfl, (List.cons.inj h).2⟩
    | cons d m => exact absurd ((List.cons.inj h).1 ▸ List.mem_cons_self ..) hm
  | cons c l ih =>
    cases m with
    | nil => exact absurd ((List.cons.inj h).1 ▸ List.mem_cons_self ..) hl
    | cons d m =>
      obtain ⟨rfl, hrest⟩ := List.cons.inj h
      have hsame := ih (mt (List.mem_cons_of_mem c) hl) (mt (List.mem_cons_of_mem c) hm) hrest
      exact hsame.imp_left (congrArg (c :: ·))

variable {ls : List (List α)} {m a b : List α}

/-- What a text begins with up to a separator is its first line. -/
theorem exists_of_flatMap_eq_append (h : ∀ l ∈ ls, sep ∉ l) (hm : sep ∉ m)
    (heq : ls.flatMap (· ++ [sep]) = m ++ sep :: b) :
    ∃ after, ls = m :: after ∧ after.flatMap (· ++ [sep]) = b := by
  cases ls with
  | nil => simp at heq
  | cons l ls =>
    rw [List.flatMap_cons, List.append_assoc, List.singleton_append] at heq
    obtain ⟨rfl, rfl⟩ := append_cons_inj (h l (List.mem_cons_self ..)) hm heq
    exact ⟨ls, rfl, rfl⟩

/-- What stands between two separators is a line, and not the first one. -/
theorem exists_of_flatMap_eq (h : ∀ l ∈ ls, sep ∉ l) (hm : sep ∉ m)
    (heq : ls.flatMap (· ++ [sep]) = a ++ sep :: (m ++ sep :: b)) :
    ∃ before after, ls = before ++ m :: after ∧ before.flatMap (· ++ [sep]) = a ++ [sep] ∧
      after.flatMap (· ++ [sep]) = b := by
  induction ls generalizing a with
  | nil => simp at heq
  | cons l ls ih =>
    rw [List.forall_mem_cons] at h
    rw [List.flatMap_cons, List.append_assoc, List.singleton_append] at heq
    by_cases ha : sep ∈ a
    · obtain ⟨first, more, rfl, hfirst⟩ := List.eq_append_cons_of_mem ha
      rw [List.append_assoc, List.cons_append] at heq
      obtain ⟨rfl, hls⟩ := append_cons_inj h.1 hfirst heq
      obtain ⟨before, after, rfl, hbefore, hafter⟩ := ih h.2 hls
      exact ⟨l :: before, after, rfl, by simp [hbefore], hafter⟩
    · obtain ⟨rfl, hls⟩ := append_cons_inj h.1 ha heq
      obtain ⟨after, rfl, hafter⟩ := exists_of_flatMap_eq_append h.2 hm hls
      exact ⟨[l], after, rfl, by simp, hafter⟩

/-- The last line stands between two separators only where it ends the text, if no other line is
the same. -/
theorem eq_nil_of_flatMap_eq (h : ∀ l ∈ ls, sep ∉ l) (hm : sep ∉ m) (hother : m ∉ ls)
    (heq : (ls ++ [m]).flatMap (· ++ [sep]) = a ++ sep :: (m ++ sep :: b)) : b = [] := by
  have hall : ∀ l ∈ ls ++ [m], sep ∉ l := by
    rw [List.forall_mem_append, List.forall_mem_singleton]
    exact ⟨h, hm⟩
  obtain ⟨before, after, hlines, -, rfl⟩ := exists_of_flatMap_eq hall hm heq
  obtain rfl | ⟨after, last, rfl⟩ := List.eq_nil_or_concat after
  · rfl
  · rw [List.concat_eq_append, ← List.cons_append, ← List.append_assoc] at hlines
    obtain ⟨rfl, -⟩ := List.append_inj' hlines rfl
    exact absurd (List.mem_append_right _ (List.mem_cons_self ..)) hother

end

/-! ### Words -/

theorem words_of_forall {cs : List Char} (hne : cs ≠ []) (h : ∀ c ∈ cs, isBlank c = false) :
    words cs = [cs] := by
  simp [words, pieces_of_forall h, hne]

/-- The first word is told from the others by a blank. -/
theorem words_append_cons {cs : List Char} (hne : cs ≠ []) (h : ∀ c ∈ cs, isBlank c = false)
    {d : Char} (hd : isBlank d = true) (rest : List Char) :
    words (cs ++ d :: rest) = cs :: words rest := by
  simp [words, pieces_append_cons h hd, hne]

/-! ### Trimming -/

theorem dropEndWhile_eq_self {p : Char → Bool} {cs : List Char}
    (h : ∀ c, cs.getLast? = some c → p c = false) : dropEndWhile p cs = cs := by
  induction cs with
  | nil => rfl
  | cons c cs ih =>
    rw [dropEndWhile]
    cases cs with
    | nil => simp [dropEndWhile, h c rfl]
    | cons d cs =>
      rw [ih fun e he => h e (by rw [List.getLast?_cons_cons, he])]

/-- What ends a text and satisfies a condition throughout is dropped. -/
theorem dropEndWhile_append {p : Char → Bool} {cs : List Char} {ending : List Char}
    (h : ∀ c ∈ ending, p c = true) : dropEndWhile p (cs ++ ending) = dropEndWhile p cs := by
  have hending : dropEndWhile p ending = [] := by
    induction ending with
    | nil => rfl
    | cons c ending ih =>
      rw [List.forall_mem_cons] at h
      simp [dropEndWhile, ih h.2, h.1]
  induction cs with
  | nil => exact hending
  | cons c cs ih => simp only [List.cons_append, dropEndWhile, ih]

theorem all_of_dropEndWhile_eq_nil {p : Char → Bool} {cs : List Char}
    (h : dropEndWhile p cs = []) : cs.all p = true := by
  induction cs with
  | nil => rfl
  | cons c cs ih =>
    rw [dropEndWhile] at h
    split at h
    · next hrest =>
      split at h
      · next hc => rw [List.all_cons, hc, ih hrest, Bool.and_self]
      · cases h
    · cases h

theorem dropEndWhile_prefix_self (p : Char → Bool) (cs : List Char) : dropEndWhile p cs <+: cs := by
  induction cs with
  | nil => exact List.prefix_rfl
  | cons c cs ih =>
    rw [dropEndWhile]
    split
    · split
      · exact List.nil_prefix
      · exact ⟨cs, rfl⟩
    · exact List.prefix_cons_inj c |>.2 ih

theorem getLast?_dropEndWhile {p : Char → Bool} {cs : List Char} {c : Char}
    (h : (dropEndWhile p cs).getLast? = some c) : p c = false := by
  induction cs with
  | nil => cases h
  | cons d cs ih =>
    rw [dropEndWhile] at h
    split at h
    · split at h
      · cases h
      · next hd =>
        cases h
        simpa using hd
    · next hne =>
      rw [List.getLast?_cons, List.getLast?_eq_some_getLast hne, Option.getD_some] at h
      exact ih (List.getLast?_eq_some_getLast hne ▸ h)

theorem trimStart_eq_self {cs : List Char} (h : ∀ c, cs.head? = some c → isBlank c = false) :
    trimStart cs = cs := by
  cases cs with
  | nil => rfl
  | cons c cs => simp [trimStart, h c rfl]

/-- A text that begins and ends with no blank has nothing to trim. -/
theorem trim_eq_self {cs : List Char} (hhead : ∀ c, cs.head? = some c → isBlank c = false)
    (hlast : ∀ c, cs.getLast? = some c → isBlank c = false) : trim cs = cs := by
  rw [trim, trimStart_eq_self hhead]
  exact dropEndWhile_eq_self hlast

/-- Trimming leaves a part of the text. -/
theorem trim_infix_self (cs : List Char) : trim cs <:+: cs :=
  (dropEndWhile_prefix_self isBlank _).isInfix.trans (List.dropWhile_suffix isBlank).isInfix

/-- What is trimmed has nothing to trim. -/
theorem trim_trim (cs : List Char) : trim (trim cs) = trim cs := by
  refine trim_eq_self ?_ fun c => getLast?_dropEndWhile
  intro c hc
  have hstart : (trimStart cs).head? = some c := by
    obtain ⟨dropped, htrim⟩ := dropEndWhile_prefix_self isBlank (trimStart cs)
    rw [← htrim, List.head?_append]
    exact Option.or_eq_some_iff.2 (.inl hc)
  have hfails := List.head?_dropWhile_not isBlank cs
  rw [trimStart] at hstart
  simpa only [hstart] using hfails

theorem trim_of_forall {cs : List Char} (h : ∀ c ∈ cs, isBlank c = false) : trim cs = cs :=
  trim_eq_self (fun c hc => h c (List.mem_of_mem_head? hc))
    fun c hc => h c (List.mem_of_getLast? hc)

/-! ### Characters that are not blank -/

/-- The characters that are not blank. -/
def visible (cs : List Char) : List Char := cs.filter (!isBlank ·)

theorem visible_append (cs ds : List Char) : visible (cs ++ ds) = visible cs ++ visible ds :=
  List.filter_append cs ds

theorem visible_of_forall {cs : List Char} (h : ∀ c ∈ cs, isBlank c = false) : visible cs = cs :=
  List.filter_eq_self.2 fun c hc => by rw [h c hc, Bool.not_false]

theorem visible_cons_of_isBlank {c : Char} (h : isBlank c = true) (cs : List Char) :
    visible (c :: cs) = visible cs := by
  rw [visible, List.filter_cons_of_neg (by simp [h]), visible]

theorem visible_cons_of_not_isBlank {c : Char} (h : isBlank c = false) (cs : List Char) :
    visible (c :: cs) = c :: visible cs := by
  rw [visible, List.filter_cons_of_pos (by simp [h]), visible]

theorem visible_trimStart (cs : List Char) : visible (trimStart cs) = visible cs := by
  induction cs with
  | nil => rfl
  | cons c cs ih =>
    rw [trimStart, List.dropWhile_cons]
    split
    · next hc => exact ih.trans (visible_cons_of_isBlank hc cs).symm
    · rfl

theorem visible_trimEnd (cs : List Char) : visible (trimEnd cs) = visible cs := by
  induction cs with
  | nil => rfl
  | cons c cs ih =>
    rw [trimEnd, dropEndWhile]
    rw [trimEnd] at ih
    split
    · next hrest =>
      rw [hrest] at ih
      split
      · next hc => exact ih.trans (visible_cons_of_isBlank hc cs).symm
      · simp only [visible, List.filter_cons] at ih ⊢
        rw [← ih]
    · simp only [visible, List.filter_cons] at ih ⊢
      rw [← ih]

theorem visible_trim (cs : List Char) : visible (trim cs) = visible cs := by
  rw [trim, visible_trimEnd, visible_trimStart]

/-- The words of a text, one behind the other, are what is not blank. -/
theorem flatten_words (cs : List Char) : (words cs).flatten = visible cs := by
  have hpieces : (pieces isBlank cs).flatten = visible cs := by
    induction cs with
    | nil => rfl
    | cons c cs ih =>
      rw [pieces]
      split
      · next hc => rw [visible_cons_of_isBlank hc, ← ih]; rfl
      · next hc =>
        rw [visible_cons_of_not_isBlank (by simpa using hc)]
        split
        · next hnil => exact absurd hnil (pieces_ne_nil isBlank cs)
        · next hcons => rw [← ih, hcons]; rfl
  rw [words, List.flatten_filter_not_isEmpty, hpieces]

/-! ### Numbers -/

theorem number?_of_digits {limit : Nat} {cs : List Char} (hne : cs ≠ [])
    (hdigit : ∀ c ∈ cs, c.isDigit = true) (hlt : digitsValue cs < limit) :
    number? limit cs = some (digitsValue cs) := by
  cases cs with
  | nil => exact absurd rfl hne
  | cons c cs =>
    have hplus : c ≠ '+' := by
      rintro rfl
      exact absurd (hdigit '+' (List.mem_cons_self ..)) (by decide)
    have hall : (c :: cs).all Char.isDigit = true := List.all_eq_true.2 hdigit
    rw [number?]
    · simp only [hall, List.isEmpty_cons, Bool.not_true, Bool.or_self, Bool.false_eq_true,
        if_false, hlt, if_true]
    · rintro rest heq
      exact hplus (List.cons.inj heq).1

/-- A number is read back from its digits. -/
theorem number?_toDigits {limit n : Nat} (h : n < limit) :
    number? limit (Nat.toDigits 10 n) = some n := by
  have hvalue : digitsValue (Nat.toDigits 10 n) = n :=
    Nat.ofDigitChars_toDigits (by decide) (by decide)
  rw [number?_of_digits Nat.toDigits_ne_nil
    (fun c hc => Nat.isDigit_of_mem_toDigits (by decide) (by decide) hc) (by rwa [hvalue]), hvalue]

theorem toString_inj {m n : Nat} (h : toString m = toString n) : m = n := by
  have hdigits : Nat.toDigits 10 m = Nat.toDigits 10 n := by
    simpa [Nat.toString_eq_ofList_toDigits] using congrArg String.toList h
  rw [← Nat.ofDigitChars_ten_toDigits (n := m), hdigits, Nat.ofDigitChars_ten_toDigits]

end Instrument.Text
