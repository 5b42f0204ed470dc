import Mathlib.Data.List.Chain
import Instrument.Proofs.Header.Names
import Instrument.Proofs.Text.Case
import Instrument.Proofs.Text.Pieces

/-!
Lines of a header and their tokens. A line of code is put together from words, numbers, marks and
blanks; other lines are preprocessor lines. Main statement: the tokens of a header are those of its
lines of code, each with the number of its line.
-/

namespace Instrument.Header

/-! ### Pieces -/

/-- A part of a line of code. -/
inductive Piece where
  | word (text : String)
  | number (n : Nat)
  | scope
  | mark (c : Char)
  | blank
deriving DecidableEq, Repr

/-- The marks that stand for themselves wherever they stand, but that two colons are one token. -/
def marks : List Char := ['<', '>', '(', ')', '{', '}', ',', ';', '&', '*', ':']

namespace Piece

/-- The characters of a part. -/
def text : Piece → List Char
  | word text => text.toList
  | number n => Nat.toDigits 10 n
  | scope => [':', ':']
  | mark c => [c]
  | blank => [' ']

/-- The token that a part is. -/
def kind? : Piece → Option TokenKind
  | word text => some (.word text)
  | number n => some (.number (toString n))
  | scope => some .scope
  | mark c => some (.symbol c)
  | blank => none

/-- Whether a part can be written. -/
def IsValid : Piece → Prop
  | word text => IsName text
  | mark c => c ∈ marks
  | _ => True

instance (p : Piece) : Decidable p.IsValid :=
  match p with
  | word text => inferInstanceAs (Decidable (IsName text))
  | mark c => inferInstanceAs (Decidable (c ∈ marks))
  | number _ | scope | blank => inferInstanceAs (Decidable True)

/-- Whether a part would be read as one with the part that follows it. -/
def joins : Piece → Piece → Bool
  | word _, word _ | word _, number _ | number _, word _ | number _, number _ => true
  | mark ':', scope | mark ':', mark ':' => true
  | _, _ => false

end Piece

/-- Whether no part would be read as one with the next. -/
def AreApart (ps : List Piece) : Prop := ps.IsChain fun p q => p.joins q = false

instance (ps : List Piece) : Decidable (AreApart ps) :=
  inferInstanceAs (Decidable (List.IsChain ..))

/-- The text of a line of code. -/
def pieceText (ps : List Piece) : List Char := ps.flatMap Piece.text

/-- The tokens of a line of code. -/
def pieceKinds (ps : List Piece) : List TokenKind := ps.filterMap Piece.kind?

/-! ### Scanning one token -/

/-- Whether a text does not go on with a character of a word or a number. -/
def breaksOff (rest : List Char) : Bool := rest.head?.all (!isNumberChar ·)

theorem takeWhile_breaksOff {p : Char → Bool} (hp : ∀ c, p c = true → isNumberChar c = true)
    {cs rest : List Char} (hcs : ∀ c ∈ cs, p c = true) (hrest : breaksOff rest = true) :
    (cs ++ rest).takeWhile p = cs ∧ (cs ++ rest).dropWhile p = rest := by
  rw [List.takeWhile_append_of_pos hcs, List.dropWhile_append_of_pos hcs]
  cases rest with
  | nil => simp
  | cons d rest =>
    have hd : p d = false := by
      rw [Bool.eq_false_iff]
      intro hd
      simp [breaksOff, hp d hd] at hrest
    simp [hd]

section

variable {line : Nat} {fresh : Bool} {c : Char} {cs rest : List Char}

theorem scan_blank (hc : Text.isBlank c = true) (hne : c ≠ '\n') :
    scan line fresh (c :: cs) = scan line fresh cs := by
  rw [scan, if_neg hne, if_pos hc]

theorem scan_word (hc : beginsWord c = true) (hcs : ∀ d ∈ cs, Text.isWordChar d = true)
    (hrest : breaksOff rest = true) :
    scan line fresh (c :: cs ++ rest) =
      (scan line false rest).map (⟨.word (String.ofList (c :: cs)), line⟩ :: ·) := by
  have hletter : Text.isAlphabetic c = true ∨ c = '_' := by simpa [beginsWord] using hc
  have hblank : Text.isBlank c = false := by
    refine Text.isBlank_eq_false_of_isWordChar ?_
    rcases hletter with hletter | rfl
    · rw [Text.isWordChar, Text.isAlphanumeric_of_isAlphabetic hletter, Bool.true_or]
    · decide
  have hne (d : Char) (hd : beginsWord d = false) : c ≠ d := by
    rintro rfl
    rw [hd] at hc
    cases hc
  obtain ⟨htake, hdrop⟩ := takeWhile_breaksOff (p := Text.isWordChar)
    (fun d hd => by simp [isNumberChar, hd]) hcs hrest
  rw [List.cons_append, scan, if_neg (hne _ (by decide)), if_neg (by simp [hblank]),
    if_neg (fun h => hne _ (by decide) h.1), if_neg (fun h => hne _ (by decide) h.1),
    if_neg (fun h => hne _ (by decide) h.1),
    if_neg (fun h => h.elim (hne _ (by decide)) (hne _ (by decide))), if_pos hletter, htake, hdrop]

theorem scan_number (hc : c.isDigit = true) (hcs : ∀ d ∈ cs, d.isDigit = true)
    (hrest : breaksOff rest = true) :
    scan line fresh (c :: cs ++ rest) =
      (scan line false rest).map (⟨.number (String.ofList (c :: cs)), line⟩ :: ·) := by
  have hword := Text.isWordChar_of_isDigit hc
  have hletter : ¬(Text.isAlphabetic c = true ∨ c = '_') :=
    Text.forall_digit (P := fun c => ¬(Text.isAlphabetic c = true ∨ c = '_')) (by decide) hc
  have hne (d : Char) (hd : d.isDigit = false) : c ≠ d := by
    rintro rfl
    rw [hd] at hc
    cases hc
  obtain ⟨htake, hdrop⟩ := takeWhile_breaksOff (p := isNumberChar) (fun d hd => hd)
    (fun d hd => by simp [isNumberChar, Text.isWordChar_of_isDigit (hcs d hd)]) hrest
  rw [List.cons_append, scan, if_neg (hne _ (by decide)),
    if_neg (by simp [Text.isBlank_eq_false_of_isWordChar hword]),
    if_neg (fun h => hne _ (by decide) h.1), if_neg (fun h => hne _ (by decide) h.1),
    if_neg (fun h => hne _ (by decide) h.1),
    if_neg (fun h => h.elim (hne _ (by decide)) (hne _ (by decide))), if_neg hletter, if_pos hc,
    htake, hdrop]

theorem scan_scope :
    scan line fresh (':' :: ':' :: rest) = (scan line false rest).map (⟨.scope, line⟩ :: ·) := by
  rw [scan, if_neg (by decide), if_neg (by decide), if_neg (by simp), if_neg (by simp),
    if_neg (by simp), if_neg (by decide), if_neg (by decide), if_neg (by decide),
    if_pos ⟨rfl, rfl⟩]
  rfl

theorem scan_mark (hc : c ∈ marks) (hrest : c = ':' → rest.head? ≠ some ':') :
    scan line fresh (c :: rest) = (scan line false rest).map (⟨.symbol c, line⟩ :: ·) := by
  have hother : ∀ c ∈ marks, c ≠ '\n' ∧ Text.isBlank c = false ∧ c ≠ '#' ∧ c ≠ '/' ∧
      ¬(c = '"' ∨ c = '\'') ∧ ¬(Text.isAlphabetic c = true ∨ c = '_') ∧ c.isDigit = false := by
    decide
  obtain ⟨hnewline, hblank, hdirective, hslash, hliteral, hletter, hdigit⟩ := hother c hc
  rw [scan, if_neg hnewline, if_neg (by simp [hblank]), if_neg (fun h => hdirective h.1),
    if_neg (fun h => hslash h.1), if_neg (fun h => hslash h.1), if_neg hliteral, if_neg hletter,
    if_neg (by simp [hdigit]), if_neg (fun h => hrest h.1 h.2)]

end

/-! ### Scanning lines -/

/-- A token that is found in front of others. -/
theorem map_cons_map {α β : Type} (x : Except β (List α)) (a : α) (more : List α) :
    ((x.map (more ++ ·)).map (a :: ·)) = x.map (a :: more ++ ·) := by
  cases x <;> rfl

/-- A word or a number ends where a part begins that would not be read as one with it. -/
theorem breaksOff_pieceText {p : Piece} (hp : p.joins (.word "") = true) {ps : List Piece}
    (hvalid : ∀ q ∈ ps, q.IsValid) (hapart : AreApart (p :: ps)) (rest : List Char) :
    breaksOff (pieceText ps ++ '\n' :: rest) = true := by
  cases ps with
  | nil =>
    change (!isNumberChar '\n') = true
    decide
  | cons q ps =>
    have hjoins := (List.isChain_cons_cons.1 hapart).1
    cases q with
    | word text => cases p <;> simp_all [Piece.joins]
    | number n => cases p <;> simp_all [Piece.joins]
    | scope =>
      change (!isNumberChar ':') = true
      decide
    | blank =>
      change (!isNumberChar ' ') = true
      decide
    | mark c =>
      have hmark : ∀ c ∈ marks, (!isNumberChar c) = true := by decide
      exact hmark c (hvalid _ (List.mem_cons_self ..))

/-- A colon ends where a part begins that would not be read as one with it. -/
theorem head?_pieceText_ne_colon {ps : List Piece} (hvalid : ∀ q ∈ ps, q.IsValid)
    (hapart : AreApart (.mark ':' :: ps)) (rest : List Char) :
    (pieceText ps ++ '\n' :: rest).head? ≠ some ':' := by
  cases ps with
  | nil => simp [pieceText]
  | cons q ps =>
    have hjoins := (List.isChain_cons_cons.1 hapart).1
    cases q with
    | word text =>
      obtain ⟨c, cs, hcs, hbegins, -⟩ :=
        (hvalid _ (List.mem_cons_self ..) : IsName text).exists_cons
      have hne : c ≠ ':' := by
        rintro rfl
        exact absurd hbegins (by decide)
      simpa [pieceText, Piece.text, hcs] using hne
    | number n =>
      obtain ⟨c, cs, hcs⟩ := List.exists_cons_of_ne_nil (Nat.toDigits_ne_nil (n := n) (b := 10))
      have hne : c ≠ ':' := by
        rintro rfl
        have hdigit := Nat.isDigit_of_mem_toDigits (b := 10) (n := n) (c := ':') (by decide)
          (by decide) (by simp [hcs])
        exact absurd hdigit (by decide)
      simpa [pieceText, Piece.text, hcs] using hne
    | scope => cases hjoins
    | blank => simp [pieceText, Piece.text]
    | mark c =>
      have hne : c ≠ ':' := by
        rintro rfl
        cases hjoins
      simpa [pieceText, Piece.text] using hne

/-- A line of code gives its tokens. -/
theorem scan_pieceText {ps : List Piece} (hvalid : ∀ p ∈ ps, p.IsValid)
    (hapart : AreApart ps) (line : Nat) (fresh : Bool) (rest : List Char) :
    scan line fresh (pieceText ps ++ '\n' :: rest) =
      (scan (line + 1) true rest).map ((pieceKinds ps).map (⟨·, line⟩) ++ ·) := by
  induction ps generalizing fresh with
  | nil =>
    rw [pieceText, List.flatMap_nil, List.nil_append, scan_newline]
    cases scan (line + 1) true rest <;> rfl
  | cons p ps ih =>
    rw [List.forall_mem_cons] at hvalid
    have htail (fresh : Bool) := ih hvalid.2 (List.IsChain.tail hapart) fresh
    have htext : pieceText (p :: ps) ++ '\n' :: rest =
        p.text ++ (pieceText ps ++ '\n' :: rest) := by
      simp [pieceText]
    rw [htext]
    cases p with
    | blank =>
      rw [Piece.text, List.singleton_append, scan_blank (by decide) (by decide), htail]
      rfl
    | word text =>
      obtain ⟨c, cs, hcs, hbegins, hword⟩ := (hvalid.1 : IsName text).exists_cons
      -- no word character follows, so that the word ends where its piece does
      have hbreaks := breaksOff_pieceText rfl hvalid.2 hapart rest
      have hkind : String.ofList (c :: cs) = text := by rw [← hcs, String.ofList_toList]
      rw [Piece.text, hcs, scan_word hbegins hword hbreaks, htail, map_cons_map, hkind]
      rfl
    | number n =>
      obtain ⟨c, cs, hcs⟩ := List.exists_cons_of_ne_nil (Nat.toDigits_ne_nil (n := n) (b := 10))
      have hdigit : ∀ d ∈ c :: cs, d.isDigit = true := fun d hd =>
        Nat.isDigit_of_mem_toDigits (b := 10) (n := n) (by decide) (by decide) (by rwa [hcs])
      rw [List.forall_mem_cons] at hdigit
      have hbreaks := breaksOff_pieceText rfl hvalid.2 hapart rest
      have hkind : String.ofList (c :: cs) = toString n := by
        rw [← hcs, ← Nat.toList_repr, String.ofList_toList]
        rfl
      rw [Piece.text, hcs, scan_number hdigit.1 hdigit.2 hbreaks, htail, map_cons_map, hkind]
      rfl
    | scope =>
      rw [Piece.text, List.cons_append, List.singleton_append, scan_scope, htail, map_cons_map]
      rfl
    | mark c =>
      have hcolon : c = ':' → (pieceText ps ++ '\n' :: rest).head? ≠ some ':' := by
        rintro rfl
        exact head?_pieceText_ne_colon hvalid.2 hapart rest
      rw [Piece.text, List.singleton_append, scan_mark hvalid.1 hcolon, htail, map_cons_map]
      rfl

/-! ### Headers -/

/-- A line of a header: code, or what follows the number sign of a preprocessor line. -/
inductive Line where
  | code (pieces : List Piece)
  | directive (body : List Char)
deriving DecidableEq, Repr

namespace Line

/-- The characters of a line. -/
def text : Line → List Char
  | code ps => pieceText ps
  | directive body => ' ' :: ' ' :: ' ' :: ' ' :: '#' :: body

/-- The tokens of a line. -/
def kinds : Line → List TokenKind
  | code ps => pieceKinds ps
  | directive _ => []

/-- Whether a line can be written: a preprocessor line has one line and is not continued. -/
def IsValid : Line → Prop
  | code ps => (∀ p ∈ ps, p.IsValid) ∧ AreApart ps
  | directive body => '\n' ∉ body ∧ body.getLast? ≠ some '\\' ∧ body.getLast? ≠ some '\r'

instance (l : Line) : Decidable l.IsValid :=
  match l with
  | code ps => inferInstanceAs (Decidable ((∀ p ∈ ps, p.IsValid) ∧ AreApart ps))
  | directive _ => inferInstanceAs (Decidable (_ ∧ _ ∧ _))

end Line

/-- The text of a header. -/
def lineText (ls : List Line) : List Char := ls.flatMap (·.text ++ ['\n'])

/-- The tokens of some lines, the first of which has the number `line`. -/
def lineTokens (line : Nat) : List Line → List Token
  | [] => []
  | l :: ls => l.kinds.map (⟨·, line⟩) ++ lineTokens (line + 1) ls

theorem lineTokens_append (line : Nat) (ls ms : List Line) :
    lineTokens line (ls ++ ms) = lineTokens line ls ++ lineTokens (line + ls.length) ms := by
  induction ls generalizing line with
  | nil => rfl
  | cons l ls ih =>
    rw [List.cons_append, lineTokens, ih, lineTokens, List.append_assoc, List.length_cons,
      Nat.add_right_comm, Nat.add_assoc]

theorem skipDirective_append {body : List Char} (hnewline : '\n' ∉ body)
    (hlast : body.getLast? ≠ some '\\') (line : Nat) (rest : List Char) :
    skipDirective line (body ++ '\n' :: rest) = ('\n' :: rest, line) := by
  induction body with
  | nil => rw [List.nil_append, skipDirective]
  | cons c cs ih =>
    rw [List.mem_cons, not_or] at hnewline
    have htail : cs.getLast? ≠ some '\\' := by
      intro hcs
      exact hlast (by rw [List.getLast?_cons, hcs]; rfl)
    rw [List.cons_append, skipDirective, ih hnewline.2 htail]
    · exact fun hc => hnewline.1 hc.symm
    · -- A backslash that continues the line would be the last character of the body.
      rintro rest' rfl heq
      cases cs with
      | nil => exact hlast rfl
      | cons d ds => exact hnewline.2 (by simp [(List.cons.inj heq).1])

/-- A line gives its tokens. -/
theorem scan_line {l : Line} (h : l.IsValid) (line : Nat) (rest : List Char) :
    scan line true (l.text ++ '\n' :: rest) =
      (scan (line + 1) true rest).map (l.kinds.map (⟨·, line⟩) ++ ·) := by
  cases l with
  | code ps => exact scan_pieceText h.1 h.2 line true rest
  | directive body =>
    have hblank (cs : List Char) : scan line true (' ' :: cs) = scan line true cs :=
      scan_blank (by decide) (by decide)
    have hmark : scan line true ('#' :: (body ++ '\n' :: rest)) =
        scan (skipDirective line (body ++ '\n' :: rest)).2 true
          (skipDirective line (body ++ '\n' :: rest)).1 := by
      rw [scan, if_neg (by decide), if_neg (by decide), if_pos ⟨rfl, rfl⟩]
    simp only [Line.text, List.cons_append, hblank, hmark, skipDirective_append h.1 h.2.1,
      scan_newline]
    cases scan (line + 1) true rest <;> rfl

/-- The tokens of a header are those of its lines. -/
theorem scan_lineText {ls : List Line} (h : ∀ l ∈ ls, l.IsValid) (line : Nat) :
    scan line true (lineText ls) = .ok (lineTokens line ls) := by
  induction ls generalizing line with
  | nil => rw [lineText, List.flatMap_nil, scan, lineTokens]
  | cons l ls ih =>
    rw [List.forall_mem_cons] at h
    have htext : lineText (l :: ls) = l.text ++ '\n' :: lineText ls := by
      simp [lineText]
    rw [htext, scan_line h.1, ih h.2]
    rfl

/-! ### Lines of text -/

/-- The characters of which code consists. -/
theorem mem_pieceText {ps : List Piece} (h : ∀ p ∈ ps, p.IsValid) {c : Char}
    (hc : c ∈ pieceText ps) : Text.isWordChar c = true ∨ c ∈ ' ' :: marks := by
  obtain ⟨p, hp, hc⟩ := List.mem_flatMap.1 hc
  cases p with
  | word text => exact .inl ((h _ hp : IsName text).isWordChar c hc)
  | number n =>
    have hdigit := Nat.isDigit_of_mem_toDigits (b := 10) (n := n) (by decide) (by decide) hc
    exact .inl (Text.isWordChar_of_isDigit hdigit)
  | scope =>
    obtain rfl : c = ':' := by simpa [Piece.text] using hc
    exact .inr (by decide)
  | blank =>
    obtain rfl : c = ' ' := by simpa [Piece.text] using hc
    exact .inr (by decide)
  | mark d =>
    obtain rfl : c = d := by simpa [Piece.text] using hc
    exact .inr (List.mem_cons_of_mem _ (h _ hp))

/-- A character that is in no code. -/
theorem not_mem_pieceText {ps : List Piece} (h : ∀ p ∈ ps, p.IsValid) {c : Char}
    (hword : Text.isWordChar c = false) (hmark : c ∉ ' ' :: marks) : c ∉ pieceText ps := by
  intro hc
  rcases mem_pieceText h hc with hc | hc
  · rw [hword] at hc
    cases hc
  · exact hmark hc

/-- The lines of the text of a header are those that it is put together from. -/
theorem lines_lineText {ls : List Line} (h : ∀ l ∈ ls, l.IsValid) :
    Text.lines (lineText ls) = ls.map Line.text := by
  have hflat : lineText ls = (ls.map Line.text).flatMap (· ++ ['\n']) := by
    rw [lineText, List.flatMap_map]
  rw [hflat]
  refine Text.lines_flatMap ?_
  intro cs hcs
  obtain ⟨l, hl, rfl⟩ := List.mem_map.1 hcs
  cases l with
  | code ps =>
    exact ⟨not_mem_pieceText (h _ hl).1 (by decide) (by decide), fun hlast =>
      not_mem_pieceText (h _ hl).1 (by decide) (by decide) (List.mem_of_getLast? hlast)⟩
  | directive body =>
    obtain ⟨hnewline, -, hreturn⟩ := h _ hl
    refine ⟨by simpa [Line.text] using hnewline, ?_⟩
    cases body with
    | nil => simp [Line.text]
    | cons c cs => simpa [Line.text, List.getLast?_cons] using hreturn

end Instrument.Header
