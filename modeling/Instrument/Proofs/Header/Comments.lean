import Instrument.Proofs.Header.Lexemes
import Instrument.Proofs.Success

/-!
Headers without their comments. Main statements: a header whose comments give way to blanks has the
tokens that it had, on the same lines, or fails in the same way, if no number sign among its tokens
stands first on its line but for comments; and if it has tokens, only then.
-/

namespace Instrument.Header

/-! ### Blanks in place of comments -/

/-- What stands in place of a character of a comment; blanks, line ends among them, stay. -/
def blankOut (c : Char) : Char := if Text.isBlank c then c else ' '

/-- The text in place of a part. -/
def Lexeme.uncommented : Lexeme → List Char
  | comment text => text.map blankOut
  | l => l.text

/-- A header with blanks in place of its comments. -/
def uncommented (source : List Char) : List Char :=
  (lexemes true source).flatMap Lexeme.uncommented

theorem isBlank_blankOut (c : Char) : Text.isBlank (blankOut c) = true := by
  rw [blankOut]
  split
  · next h => exact h
  · decide

theorem blankOut_eq_newline_iff {c : Char} : blankOut c = '\n' ↔ c = '\n' := by
  rw [blankOut]
  split
  · exact Iff.rfl
  · next h =>
    constructor
    · intro hspace
      cases hspace
    · rintro rfl
      exact absurd (by decide) h

theorem count_map_blankOut (cs : List Char) : (cs.map blankOut).count '\n' = cs.count '\n' := by
  induction cs with
  | nil => rfl
  | cons c cs ih => simp only [List.map_cons, List.count_cons, ih, beq_iff_eq,
      blankOut_eq_newline_iff]

/-! ### Parts in front of another rest -/

/-- Whether one text can stand for another behind a part that is no comment: it begins in the same
way, or with a space in place of a comment. -/
def Stands (rest rest' : List Char) : Prop :=
  rest'.head? = rest.head? ∨ rest.head? = some '/' ∧ rest'.head? = some ' '

namespace Stands

variable {rest rest' : List Char} (h : Stands rest rest')
include h

theorem head?_append_eq_some {text : List Char} {c : Char} (hc : c ≠ ' ')
    (hhead : (text ++ rest').head? = some c) : (text ++ rest).head? = some c := by
  cases text with
  | cons d text => exact hhead
  | nil =>
    rcases h with h | ⟨-, h⟩
    · exact h ▸ hhead
    · cases h.symm.trans hhead
      exact absurd rfl hc

theorem eq_nil (hnil : rest = []) : rest' = [] := by
  subst hnil
  rcases h with h | ⟨h, -⟩
  · exact List.head?_eq_none_iff.1 h
  · cases h

/-- A run of characters that ends before one text ends before the other. -/
theorem head?_any_eq_false {p : Char → Bool} (hspace : p ' ' = false)
    (hrest : rest.head?.any p = false) : rest'.head?.any p = false := by
  rcases h with h | ⟨-, h⟩
  · rw [h, hrest]
  · rw [h, Option.any_some, hspace]

end Stands

theorem head?_dropWhile_any (p : Char → Bool) (cs : List Char) :
    (cs.dropWhile p).head?.any p = false := by
  have hnot := List.head?_dropWhile_not p cs
  cases hhead : (cs.dropWhile p).head? with
  | none => rfl
  | some c =>
    rw [hhead] at hnot
    exact hnot

/-- A run of characters that ends where another text begins ends there too where that text gives
way to one that can stand for it. -/
theorem Stands.span {p : Char → Bool} {text rest rest' : List Char} (h : Stands rest rest')
    (hspace : p ' ' = false) (htake : (text ++ rest).takeWhile p = text)
    (hdrop : (text ++ rest).dropWhile p = rest) :
    (text ++ rest').takeWhile p = text ∧ (text ++ rest').dropWhile p = rest' := by
  have htext : ∀ c ∈ text, p c = true := List.all_eq_true.1 (htake ▸ List.all_takeWhile)
  have hrest : rest'.head?.any p = false :=
    h.head?_any_eq_false hspace (hdrop ▸ head?_dropWhile_any p _)
  rw [List.takeWhile_append_of_pos htext, List.dropWhile_append_of_pos htext]
  cases rest' with
  | nil => exact ⟨List.append_nil text, rfl⟩
  | cons c rest' =>
    have hc : ¬p c = true := by simpa using hrest
    rw [List.takeWhile_cons_of_neg hc, List.dropWhile_cons_of_neg hc]
    exact ⟨List.append_nil text, rfl⟩

theorem head?_splitDirective (cs : List Char) :
    (splitDirective cs).2 = [] ∨ (splitDirective cs).2.head? = some '\n' := by
  fun_induction splitDirective cs with
  | case1 => exact .inl rfl
  | case2 => exact .inr rfl
  | case3 _ ih => exact ih
  | case4 _ _ _ _ ih => exact ih

theorem splitDirective_append_of {cs rest' : List Char} (h : Stands (splitDirective cs).2 rest') :
    splitDirective ((splitDirective cs).1 ++ rest') = ((splitDirective cs).1, rest') := by
  fun_induction splitDirective cs with
  | case1 =>
    rw [h.eq_nil rfl]
    rfl
  | case2 cs =>
    rcases h with h | ⟨h, -⟩
    · obtain ⟨after, rfl⟩ := List.head?_eq_some_iff.1 h
      rfl
    · cases h
  | case3 cs ih =>
    simp only [List.cons_append]
    rw [splitDirective, ih h]
  | case4 c cs hnewline hcontinued ih =>
    simp only [List.cons_append]
    rw [splitDirective, ih h]
    · exact hnewline
    · intro after hc heq
      have hhead : ((splitDirective cs).1 ++ rest').head? = some '\n' := by
        rw [heq]
        rfl
      have hcs := h.head?_append_eq_some (by decide) hhead
      rw [splitDirective_append] at hcs
      exact hcontinued _ hc (exists_cons_of_head? hcs)

theorem splitLiteral?_append {mark : Char} {cs text rest : List Char}
    (h : splitLiteral? mark cs = some (text, rest)) (rest' : List Char) :
    splitLiteral? mark (text ++ rest') = some (text, rest') := by
  have hclosed : splitLiteral? mark (mark :: rest') = some ([mark], rest') := by
    cases rest' with
    | nil => rw [splitLiteral?, if_pos rfl]
    | cons d rest' => rw [splitLiteral?, if_pos rfl]
  fun_induction splitLiteral? mark cs generalizing text rest with
  | case1 => cases h
  | case2 =>
    cases h
    exact hclosed
  | case3 => cases h
  | case4 =>
    cases h
    exact hclosed
  | case5 d cs hmark ih =>
    obtain ⟨r, hr, heq⟩ := Option.map_eq_some_iff.1 h
    cases heq
    rw [List.cons_append, List.cons_append, splitLiteral?, if_neg hmark, if_pos rfl, ih hr]
    rfl
  | case6 c d cs hmark hbackslash ih =>
    obtain ⟨r, hr, heq⟩ := Option.map_eq_some_iff.1 h
    cases heq
    have hrest := ih hr
    cases htext : r.1 ++ rest' with
    | nil =>
      rw [htext] at hrest
      cases hrest
    | cons e more =>
      rw [List.cons_append, htext, splitLiteral?, if_neg hmark, if_neg hbackslash, ← htext, hrest]
      rfl

/-- Whether a part is a comment. -/
def Lexeme.IsComment (l : Lexeme) : Prop := ∃ text, l = comment text

/-- Only a number sign is read in another way where a preprocessor line can begin. -/
theorem nextLexeme_congr {fresh fresh' : Bool} {c : Char} (h : c = '#' → fresh' = fresh)
    (rest : List Char) : nextLexeme fresh' c rest = nextLexeme fresh c rest := by
  have hsign : (c = '#' ∧ fresh' = true) = (c = '#' ∧ fresh = true) :=
    propext (and_congr_right fun hc => by rw [h hc])
  simp only [nextLexeme, hsign]

/-- A part that is no comment is found in front of another rest too. -/
theorem nextLexeme_append {fresh : Bool} {c : Char} {text rest rest' : List Char} {l : Lexeme}
    (hl : nextLexeme fresh c (text ++ rest) = (l, rest)) (hkind : ¬l.IsComment)
    (hrest : Stands rest rest') : nextLexeme fresh c (text ++ rest') = (l, rest') := by
  by_cases hnil : rest = []
  · rw [hrest.eq_nil hnil, ← hnil, hl]
  obtain ⟨text', htext, happend⟩ := text_nextLexeme fresh c (text ++ rest)
  rw [hl] at htext happend
  obtain rfl := List.append_cancel_right happend
  rw [nextLexeme_eq] at hl ⊢
  have hnext : ∀ d ∈ ['/', '*', ':'], (text' ++ rest').head? = some d →
      (text' ++ rest).head? = some d := by
    intro d hd
    refine hrest.head?_append_eq_some ?_
    rintro rfl
    exact absurd hd (by decide)
  -- what begins in front of one rest begins in front of the other
  cases hstart : startOf fresh c (text' ++ rest).head? with
  | newline | blank | symbol =>
    rw [hstart] at hl
    rw [startOf_of_next hstart (by decide) hnext]
    obtain ⟨rfl, -⟩ := Prod.mk.inj hl
    cases htext
    rfl
  | directive =>
    rw [hstart] at hl
    rw [startOf_of_next hstart (by decide) hnext]
    obtain ⟨rfl, hafter⟩ := Prod.mk.inj hl
    have hsplit := splitDirective_append_of (hafter.symm ▸ hrest)
    rw [(List.cons.inj htext).2] at hsplit
    simp only [hsplit, (List.cons.inj htext).2]
  | lineComment =>
    rw [hstart] at hl
    obtain ⟨rfl, -⟩ := Prod.mk.inj hl
    exact absurd ⟨_, rfl⟩ hkind
  | comment =>
    simp only [hstart] at hl
    split at hl
    · exact absurd (Prod.mk.inj hl).2.symm hnil
    · obtain ⟨rfl, -⟩ := Prod.mk.inj hl
      exact absurd ⟨_, rfl⟩ hkind
  | literal =>
    simp only [hstart] at hl
    rw [startOf_of_next hstart (by decide) hnext]
    split at hl
    · exact absurd (Prod.mk.inj hl).2.symm hnil
    · next heq =>
      obtain ⟨rfl, rfl⟩ := Prod.mk.inj hl
      cases htext
      simp only [splitLiteral?_append heq]
  | word | number =>
    rw [hstart] at hl
    rw [startOf_of_next hstart (by decide) hnext]
    obtain ⟨rfl, hdrop⟩ := Prod.mk.inj hl
    have htake := (List.cons.inj htext).2
    obtain ⟨htake', hdrop'⟩ := hrest.span (by decide) htake hdrop
    simp only [htake, htake', hdrop']
  | scope =>
    rw [hstart] at hl
    obtain ⟨rfl, -⟩ := Prod.mk.inj hl
    cases htext
    rw [show startOf fresh c ([':'] ++ rest').head? = .scope from hstart]
    rfl

/-! ### Parts of a header without its comments -/

/-- A blank as a part. -/
def Lexeme.ofBlank (c : Char) : Lexeme := if c = '\n' then newline else blank c

/-- What stands for a part in a header without its comments. -/
def Lexeme.blanked : Lexeme → List Lexeme
  | comment text => (text.map blankOut).map ofBlank
  | l => [l]

/-- Whether no number sign among the tokens stands first on its line but for comments; `fresh`
tells whether one in front of all parts would. -/
def NoLeadingSign (fresh : Bool) : List Lexeme → Prop
  | [] => True
  | .comment text :: ls => NoLeadingSign (fresh || text.contains '\n') ls
  | .token kind _ :: ls => ¬(kind = .symbol '#' ∧ fresh) ∧ NoLeadingSign false ls
  | .newline :: ls => NoLeadingSign true ls
  | .blank _ :: ls | .directive _ :: ls | .unended .. :: ls => NoLeadingSign fresh ls

instance decidableNoLeadingSign (fresh : Bool) :
    (ls : List Lexeme) → Decidable (NoLeadingSign fresh ls)
  | [] => inferInstanceAs (Decidable True)
  | .comment text :: ls => decidableNoLeadingSign (fresh || text.contains '\n') ls
  | .token .. :: ls =>
    have := decidableNoLeadingSign false ls
    inferInstanceAs (Decidable (_ ∧ _))
  | .newline :: ls => decidableNoLeadingSign true ls
  | .blank _ :: ls | .directive _ :: ls | .unended .. :: ls => decidableNoLeadingSign fresh ls

theorem lexemes_append_of_blank {text : List Char} (h : ∀ c ∈ text, Text.isBlank c = true)
    (fresh : Bool) (rest : List Char) :
    lexemes fresh (text ++ rest) =
      text.map Lexeme.ofBlank ++ lexemes (fresh || text.contains '\n') rest := by
  induction text generalizing fresh with
  | nil => simp
  | cons c text ih =>
    rw [List.forall_mem_cons] at h
    rw [List.cons_append, lexemes_cons, nextLexeme, List.map_cons, List.cons_append,
      Lexeme.ofBlank]
    by_cases hc : c = '\n'
    · rw [if_pos hc, if_pos hc, ih h.2]
      simp [Lexeme.freshAfter, hc]
    · rw [if_neg hc, if_neg hc, if_pos h.1, ih h.2]
      simp [Lexeme.freshAfter, Ne.symm hc]

theorem tokensAmong_ofBlank_append (line : Nat) (text : List Char) (ls : List Lexeme) :
    tokensAmong line (text.map Lexeme.ofBlank ++ ls) =
      tokensAmong (line + text.count '\n') ls := by
  induction text generalizing line with
  | nil => rfl
  | cons c text ih =>
    rw [List.map_cons, List.cons_append, add_count_cons, lineAfter, Lexeme.ofBlank]
    split
    · exact ih (line + 1)
    · exact ih line

/-- Blanks in place of comments leave the tokens where they are. -/
theorem tokensAmong_flatMap_blanked (line : Nat) (ls : List Lexeme) :
    tokensAmong line (ls.flatMap Lexeme.blanked) = tokensAmong line ls := by
  induction ls generalizing line with
  | nil => rfl
  | cons l ls ih =>
    rw [List.flatMap_cons]
    cases l with
    | comment text =>
      rw [Lexeme.blanked, tokensAmong_ofBlank_append, ih, count_map_blankOut]
      rfl
    | newline => exact ih (line + 1)
    | blank c => exact ih line
    | directive text => exact ih _
    | token kind text =>
      simp only [Lexeme.blanked, List.cons_append, List.nil_append, tokensAmong, ih]
    | unended fault text => rfl

/-! ### The parts that remain -/

section

variable {fresh fresh' : Bool} {c : Char} {rest : List Char}

/-- Whether a part begins with a given character: a comment with a slash, and a symbol with itself,
a number sign only where no preprocessor line can begin. -/
def Lexeme.BeginsWith (fresh : Bool) (c : Char) : Lexeme → Prop
  | comment _ => c = '/'
  | token (.symbol d) _ => d = c ∧ ¬(c = '#' ∧ fresh = true)
  | _ => True

theorem beginsWith_nextLexeme (fresh : Bool) (c : Char) (rest : List Char) :
    (nextLexeme fresh c rest).1.BeginsWith fresh c := by
  rw [nextLexeme]
  split
  · trivial
  split
  · trivial
  split
  · trivial
  next hsign =>
  split
  · next hline => exact hline.1
  split
  · next hblock =>
    split
    · trivial
    · exact hblock.1
  split
  · split <;> trivial
  split
  · trivial
  split
  · trivial
  split
  · trivial
  · exact ⟨rfl, hsign⟩

theorem uncommented_of_not_isComment {l : Lexeme} (h : ¬l.IsComment) : l.uncommented = l.text := by
  cases l with
  | comment text => exact absurd ⟨_, rfl⟩ h
  | newline | blank | directive | token | unended => rfl

theorem blanked_of_not_isComment {l : Lexeme} (h : ¬l.IsComment) : l.blanked = [l] := by
  cases l with
  | comment text => exact absurd ⟨_, rfl⟩ h
  | newline | blank | directive | token | unended => rfl

/-- A text without its comments can stand for the text. -/
theorem stands_uncommented (fresh : Bool) (cs : List Char) :
    Stands cs ((lexemes fresh cs).flatMap Lexeme.uncommented) := by
  cases cs with
  | nil =>
    rw [lexemes_nil]
    exact .inl rfl
  | cons c rest =>
    obtain ⟨text, htext, -⟩ := text_nextLexeme fresh c rest
    rw [lexemes_cons, List.flatMap_cons]
    by_cases hkind : (nextLexeme fresh c rest).1.IsComment
    · obtain ⟨text', hnext⟩ := hkind
      have hbegins := beginsWith_nextLexeme fresh c rest
      rw [hnext] at htext hbegins ⊢
      obtain rfl : c = '/' := hbegins
      obtain rfl : text' = '/' :: text := htext
      exact .inr ⟨rfl, rfl⟩
    · rw [uncommented_of_not_isComment hkind, htext]
      exact .inl rfl

/-- The first part of a text is found where the comments behind it are gone. -/
theorem lexemes_uncommented_cons (hkind : ¬(nextLexeme fresh c rest).1.IsComment)
    (hsign : c = '#' → fresh' = fresh) :
    lexemes fresh' ((lexemes fresh (c :: rest)).flatMap Lexeme.uncommented) =
      (nextLexeme fresh c rest).1 :: lexemes ((nextLexeme fresh c rest).1.freshAfter fresh')
        ((lexemes ((nextLexeme fresh c rest).1.freshAfter fresh)
          (nextLexeme fresh c rest).2).flatMap Lexeme.uncommented) := by
  obtain ⟨text, htext, happend⟩ := text_nextLexeme fresh c rest
  rw [lexemes_cons, List.flatMap_cons, uncommented_of_not_isComment hkind, htext]
  generalize hnext : nextLexeme fresh c rest = next at *
  obtain ⟨l, after⟩ := next
  rw [← happend] at hnext
  have hafter := nextLexeme_append hnext hkind
    (stands_uncommented (l.freshAfter fresh) after)
  rw [← nextLexeme_congr hsign] at hafter
  rw [List.cons_append, lexemes_cons, hafter]

/-- A comment gives way to blanks. -/
theorem lexemes_uncommented_comment {text : List Char} (fresh' : Bool)
    (hnext : (nextLexeme fresh c rest).1 = .comment text) :
    lexemes fresh' ((lexemes fresh (c :: rest)).flatMap Lexeme.uncommented) =
      (text.map blankOut).map Lexeme.ofBlank ++
        lexemes (fresh' || text.contains '\n')
          ((lexemes fresh (nextLexeme fresh c rest).2).flatMap Lexeme.uncommented) := by
  have hblank : ∀ d ∈ text.map blankOut, Text.isBlank d = true := by
    intro d hd
    obtain ⟨e, -, rfl⟩ := List.mem_map.1 hd
    exact isBlank_blankOut e
  have hcontains : (text.map blankOut).contains '\n' = text.contains '\n' := by
    rw [Bool.eq_iff_iff, List.contains_iff_mem, List.contains_iff_mem, List.mem_map]
    constructor
    · rintro ⟨d, hd, hnewline⟩
      exact blankOut_eq_newline_iff.1 hnewline ▸ hd
    · exact fun h => ⟨'\n', h, blankOut_eq_newline_iff.2 rfl⟩
  rw [lexemes_cons, List.flatMap_cons, hnext, Lexeme.uncommented,
    lexemes_append_of_blank hblank, hcontains]
  rfl

end

theorem NoLeadingSign.of_cons {fresh : Bool} {l : Lexeme} {ls : List Lexeme}
    (h : NoLeadingSign fresh (l :: ls)) (hkind : ¬l.IsComment) :
    NoLeadingSign (l.freshAfter fresh) ls := by
  cases l with
  | comment text => exact absurd ⟨_, rfl⟩ hkind
  | token kind text => exact h.2
  | newline | blank | directive | unended => exact h

theorem NoLeadingSign.cons {fresh : Bool} {l : Lexeme} {ls : List Lexeme}
    (h : NoLeadingSign (l.freshAfter fresh) ls) (hkind : ¬l.IsComment)
    (hsign : ∀ text, l = .token (.symbol '#') text → fresh = false) :
    NoLeadingSign fresh (l :: ls) := by
  cases l with
  | comment text => exact absurd ⟨_, rfl⟩ hkind
  | token kind text =>
    refine ⟨?_, h⟩
    rintro ⟨rfl, hfresh⟩
    cases hfresh.symm.trans (hsign text rfl)
  | newline | blank | directive | unended => exact h

theorem nextLexeme_sign (rest : List Char) :
    nextLexeme false '#' rest = (.token (.symbol '#') ['#'], rest) := by
  have hblank : Text.isBlank '#' = false := by decide
  have hword : Text.isAlphabetic '#' = false := by decide
  simp [nextLexeme, hblank, hword, Char.isDigit]

theorem freshAfter_mono {fresh fresh' : Bool} (h : fresh = true → fresh' = true) (l : Lexeme) :
    l.freshAfter fresh = true → l.freshAfter fresh' = true := by
  cases l with
  | newline => exact fun _ => rfl
  | token kind text => exact id
  | blank | directive | comment | unended => exact h

/-- The parts of a text without its comments are those of the text with blanks in place of the
comments. The induction is on the parts; `fresh` tells of a preprocessor line in the text, and
`fresh'` in the text without its comments, where one can begin in more places. -/
theorem lexemes_uncommented {fresh fresh' : Bool} (hfresh : fresh = true → fresh' = true)
    {cs : List Char} (h : NoLeadingSign fresh' (lexemes fresh cs)) :
    lexemes fresh' ((lexemes fresh cs).flatMap Lexeme.uncommented) =
      (lexemes fresh cs).flatMap Lexeme.blanked := by
  fun_induction lexemes fresh cs generalizing fresh' with
  | case1 => exact lexemes_nil fresh'
  | case2 fresh c rest ih =>
    rw [← lexemes_cons]
    by_cases hkind : (nextLexeme fresh c rest).1.IsComment
    · obtain ⟨text, hnext⟩ := hkind
      rw [hnext] at h ih
      have hmore : fresh = true → (fresh' || text.contains '\n') = true := by
        intro hc
        rw [hfresh hc, Bool.true_or]
      rw [lexemes_uncommented_comment fresh' hnext, lexemes_cons, hnext]
      exact congrArg (_ ++ ·) (ih hmore h)
    · have hsign : c = '#' → fresh' = fresh := by
        rintro rfl
        cases fresh with
        | true => exact hfresh rfl
        | false =>
          rw [nextLexeme_sign] at h
          exact Bool.eq_false_iff.2 fun hc => h.1 ⟨rfl, hc⟩
      rw [lexemes_uncommented_cons hkind hsign, ih (freshAfter_mono hfresh _) (h.of_cons hkind),
        lexemes_cons, List.flatMap_cons, blanked_of_not_isComment hkind]
      rfl

/-! ### Tokens of a header without its comments -/

theorem le_line_of_tokensAmong {line : Nat} {ls : List Lexeme} {ts : List Token}
    (h : tokensAmong line ls = .ok ts) : ∀ t ∈ ts, line ≤ t.line := by
  induction ls generalizing line ts with
  | nil =>
    cases h
    simp
  | cons l ls ih =>
    cases l with
    | token kind text =>
      obtain ⟨more, hmore, rfl⟩ := Success.map_eq_ok_iff.1 h
      rw [List.forall_mem_cons]
      exact ⟨Nat.le_refl line, fun t ht => Nat.le_trans (Nat.le_add_right ..) (ih hmore t ht)⟩
    | unended fault text => cases h
    | newline => exact fun t ht => Nat.le_of_succ_le (ih h t ht)
    | blank c => exact ih h
    | directive text | comment text =>
      exact fun t ht => Nat.le_trans (Nat.le_add_right ..) (ih h t ht)

/-- No token behind a preprocessor line stands on the line on which it begins. -/
theorem lt_line_of_tokensAmong_directive {line : Nat} {rest : List Char} {ts : List Token}
    (h : tokensAmong line (lexemes true ('#' :: rest)) = .ok ts) : ∀ t ∈ ts, line < t.line := by
  have hnext : nextLexeme true '#' rest =
      (.directive ('#' :: (splitDirective rest).1), (splitDirective rest).2) := by
    have hblank : Text.isBlank '#' = false := by decide
    simp [nextLexeme, hblank]
  rw [lexemes_cons, hnext, tokensAmong] at h
  rcases head?_splitDirective rest with hend | hend
  · rw [hend, lexemes_nil] at h
    cases h
    simp
  · obtain ⟨after, hafter⟩ := List.head?_eq_some_iff.1 hend
    rw [hafter, lexemes_cons] at h
    intro t ht
    have hle := le_line_of_tokensAmong (show tokensAmong (_ + 1) (lexemes true after) = _ from h)
      t ht
    omega

/-- Two texts that begin with the same part have the same tokens only if what follows has. -/
theorem exists_of_tokensAmong_cons {line : Nat} {l : Lexeme} {ls ls' : List Lexeme}
    {ts : List Token} (h : tokensAmong line (l :: ls) = .ok ts)
    (h' : tokensAmong line (l :: ls') = .ok ts) :
    ∃ line ts, tokensAmong line ls = .ok ts ∧ tokensAmong line ls' = .ok ts := by
  cases l with
  | token kind text =>
    obtain ⟨more, hmore, rfl⟩ := Success.map_eq_ok_iff.1 h
    obtain ⟨more', hmore', heq⟩ := Success.map_eq_ok_iff.1 h'
    obtain ⟨-, rfl⟩ := List.cons.inj heq
    exact ⟨_, more', hmore, hmore'⟩
  | unended fault text => cases h
  | newline | blank | directive | comment => exact ⟨_, ts, h, h'⟩

/-- A header that has the same tokens without its comments has no number sign among them that
stands first on its line but for comments: it would begin a preprocessor line. -/
theorem noLeadingSign_of_tokensAmong {fresh fresh' : Bool}
    (hfresh : fresh = true → fresh' = true) {line : Nat} {cs : List Char} {ts : List Token}
    (h : tokensAmong line (lexemes fresh cs) = .ok ts)
    (h' : tokensAmong line
      (lexemes fresh' ((lexemes fresh cs).flatMap Lexeme.uncommented)) = .ok ts) :
    NoLeadingSign fresh' (lexemes fresh cs) := by
  fun_induction lexemes fresh cs generalizing fresh' line ts with
  | case1 => trivial
  | case2 fresh c rest ih =>
    rw [← lexemes_cons] at h'
    by_cases hkind : (nextLexeme fresh c rest).1.IsComment
    · obtain ⟨text, hnext⟩ := hkind
      rw [hnext] at h ih ⊢
      have hmore : fresh = true → (fresh' || text.contains '\n') = true := by
        intro hc
        rw [hfresh hc, Bool.true_or]
      rw [lexemes_uncommented_comment fresh' hnext, tokensAmong_ofBlank_append,
        count_map_blankOut] at h'
      exact ih hmore h h'
    -- a sign that only the text without comments takes for a directive loses its token
    by_cases hsign : c = '#' → fresh' = fresh
    · rw [lexemes_uncommented_cons hkind hsign] at h'
      obtain ⟨line, ts, hts, hts'⟩ := exists_of_tokensAmong_cons h h'
      refine (ih (freshAfter_mono hfresh _) hts hts').cons hkind fun text htext => ?_
      have hbegins := beginsWith_nextLexeme fresh c rest
      rw [htext] at hbegins
      obtain ⟨rfl, hfresh⟩ : '#' = c ∧ ¬(c = '#' ∧ fresh = true) := hbegins
      rw [hsign rfl]
      exact Bool.eq_false_iff.2 fun hc => hfresh ⟨rfl, hc⟩
    · obtain ⟨rfl, hne⟩ := Classical.not_imp.1 hsign
      cases fresh with
      | true => exact absurd (hfresh rfl) hne
      | false =>
        obtain rfl := Bool.of_not_eq_false hne
        rw [nextLexeme_sign] at h
        obtain ⟨more, -, rfl⟩ := Success.map_eq_ok_iff.1 h
        rw [lexemes_cons, nextLexeme_sign, List.flatMap_cons] at h'
        exact absurd (lt_line_of_tokensAmong_directive h' _ (List.mem_cons_self ..))
          (Nat.lt_irrefl line)

/-- A header without its comments has the tokens that it had. -/
theorem tokens_uncommented {source : List Char} (h : NoLeadingSign true (lexemes true source)) :
    tokens (uncommented source) = tokens source := by
  rw [tokens, tokens, scan_eq, scan_eq, uncommented, lexemes_uncommented id h,
    tokensAmong_flatMap_blanked]

/-- A header that has tokens keeps them without its comments if and only if no number sign among
them stands first on its line but for comments. -/
theorem tokens_uncommented_eq_ok_iff {source : List Char} {ts : List Token}
    (h : tokens source = .ok ts) :
    tokens (uncommented source) = .ok ts ↔ NoLeadingSign true (lexemes true source) := by
  refine ⟨fun h' => ?_, fun hsign => (tokens_uncommented hsign).trans h⟩
  rw [tokens, scan_eq] at h h'
  exact noLeadingSign_of_tokensAmong id h h'

end Instrument.Header
