import Instrument.Header.Token

/-!
The text of a header taken apart as the scanner does it. Main statement: the parts of a text, one
behind the other, are the text, and its tokens are those among the parts, each with the line on
which it begins.
-/

namespace Instrument.Header

/-! ### What begins with a character -/

/-- What the scanner can find at a character. -/
inductive Start where
  | newline | blank | directive | lineComment | comment | literal | word | number | scope | symbol
deriving DecidableEq

/-- What begins with the character `c`, by the character after it. -/
def startOf (fresh : Bool) (c : Char) (next? : Option Char) : Start :=
  if c = '\n' then .newline
  else if Text.isBlank c then .blank
  else if c = '#' ∧ fresh then .directive
  else if c = '/' ∧ next? = some '/' then .lineComment
  else if c = '/' ∧ next? = some '*' then .comment
  else if c = '"' ∨ c = '\'' then .literal
  else if Text.isAlphabetic c ∨ c = '_' then .word
  else if c.isDigit then .number
  else if c = ':' ∧ next? = some ':' then .scope
  else .symbol

/-- A choice by the questions of the scanner is one by what begins with the character. -/
theorem ite_eq_startOf {α : Type} (fresh : Bool) (c : Char) (next? : Option Char)
    (newline blank directive lineComment comment literal word number scope symbol : α) :
    (if c = '\n' then newline
      else if Text.isBlank c then blank
      else if c = '#' ∧ fresh then directive
      else if c = '/' ∧ next? = some '/' then lineComment
      else if c = '/' ∧ next? = some '*' then comment
      else if c = '"' ∨ c = '\'' then literal
      else if Text.isAlphabetic c ∨ c = '_' then word
      else if c.isDigit then number
      else if c = ':' ∧ next? = some ':' then scope
      else symbol) =
    match startOf fresh c next? with
      | .newline => newline
      | .blank => blank
      | .directive => directive
      | .lineComment => lineComment
      | .comment => comment
      | .literal => literal
      | .word => word
      | .number => number
      | .scope => scope
      | .symbol => symbol := by
  fun_cases startOf fresh c next? with
  | case1 hnewline => rw [if_pos hnewline]
  | case2 hnewline hblank => rw [if_neg hnewline, if_pos hblank]
  | case3 hnewline hblank hsign => rw [if_neg hnewline, if_neg hblank, if_pos hsign]
  | case4 hnewline hblank hsign hline =>
    rw [if_neg hnewline, if_neg hblank, if_neg hsign, if_pos hline]
  | case5 hnewline hblank hsign hline hblock =>
    rw [if_neg hnewline, if_neg hblank, if_neg hsign, if_neg hline, if_pos hblock]
  | case6 hnewline hblank hsign hline hblock hmark =>
    rw [if_neg hnewline, if_neg hblank, if_neg hsign, if_neg hline, if_neg hblock, if_pos hmark]
  | case7 hnewline hblank hsign hline hblock hmark hword =>
    rw [if_neg hnewline, if_neg hblank, if_neg hsign, if_neg hline, if_neg hblock, if_neg hmark,
      if_pos hword]
  | case8 hnewline hblank hsign hline hblock hmark hword hdigit =>
    rw [if_neg hnewline, if_neg hblank, if_neg hsign, if_neg hline, if_neg hblock, if_neg hmark,
      if_neg hword, if_pos hdigit]
  | case9 hnewline hblank hsign hline hblock hmark hword hdigit hscope =>
    rw [if_neg hnewline, if_neg hblank, if_neg hsign, if_neg hline, if_neg hblock, if_neg hmark,
      if_neg hword, if_neg hdigit, if_pos hscope]
  | case10 hnewline hblank hsign hline hblock hmark hword hdigit hscope =>
    rw [if_neg hnewline, if_neg hblank, if_neg hsign, if_neg hline, if_neg hblock, if_neg hmark,
      if_neg hword, if_neg hdigit, if_neg hscope]

/-- A step of the scanner, by what begins with the next character. -/
theorem scan_cons (line : Nat) (fresh : Bool) (c : Char) (rest : List Char) :
    scan line fresh (c :: rest) = match startOf fresh c rest.head? with
      | .newline => scan (line + 1) true rest
      | .blank => scan line fresh rest
      | .directive => scan (skipDirective line rest).2 fresh (skipDirective line rest).1
      | .lineComment => scan line fresh (rest.dropWhile (· != '\n'))
      | .comment => match skipComment? line (rest.drop 1) with
        | none => .error ⟨line, .unterminatedComment⟩
        | some (rest, line') => scan line' fresh rest
      | .literal => match skipLiteral? c line rest with
        | none => .error ⟨line, .unterminatedLiteral⟩
        | some (rest, line') => (scan line' false rest).map (⟨.literal, line⟩ :: ·)
      | .word => (scan line false (rest.dropWhile Text.isWordChar)).map
          (⟨.word (String.ofList (c :: rest.takeWhile Text.isWordChar)), line⟩ :: ·)
      | .number => (scan line false (rest.dropWhile isNumberChar)).map
          (⟨.number (String.ofList (c :: rest.takeWhile isNumberChar)), line⟩ :: ·)
      | .scope => (scan line false (rest.drop 1)).map (⟨.scope, line⟩ :: ·)
      | .symbol => (scan line false rest).map (⟨.symbol c, line⟩ :: ·) := by
  rw [scan]
  refine (ite_eq_startOf fresh c rest.head? _ _ _ _ _ _ _ _ _ _).trans ?_
  cases startOf fresh c rest.head? with
  | comment | literal =>
    dsimp only
    split <;> simp only [*]
  | _ => rfl

/-- The character after the first matters only if it is a slash, a star or a colon. -/
theorem startOf_of_next {fresh : Bool} {c : Char} {next? next?' : Option Char} {start : Start}
    (h : startOf fresh c next? = start)
    (hstart : start ≠ .lineComment ∧ start ≠ .comment ∧ start ≠ .scope)
    (hnext : ∀ d ∈ ['/', '*', ':'], next?' = some d → next? = some d) :
    startOf fresh c next?' = start := by
  have hslash := hnext '/' (by decide)
  have hstar := hnext '*' (by decide)
  have hcolon := hnext ':' (by decide)
  subst h
  fun_cases startOf fresh c next? <;> grind [startOf]

theorem ne_newline_of_startOf {fresh : Bool} {c : Char} {next? : Option Char} {start : Start}
    (h : startOf fresh c next? = start) (hstart : start ≠ .newline) : c ≠ '\n' := by
  rintro rfl
  exact hstart (h.symm.trans (if_pos rfl))

theorem eq_sign_of_startOf {fresh : Bool} {c : Char} {next? : Option Char}
    (h : startOf fresh c next? = .directive) : c = '#' := by
  grind [startOf]

theorem isAlphabetic_or_of_startOf {fresh : Bool} {c : Char} {next? : Option Char}
    (h : startOf fresh c next? = .word) : Text.isAlphabetic c ∨ c = '_' := by
  grind [startOf]

theorem isDigit_of_startOf {fresh : Bool} {c : Char} {next? : Option Char}
    (h : startOf fresh c next? = .number) : c.isDigit := by
  grind [startOf]

/-! ### Parts of a text -/

/-- A part of the text of a header. -/
inductive Lexeme where
  | newline
  /-- A blank that ends no line. -/
  | blank (c : Char)
  /-- A preprocessor line up to its end. -/
  | directive (text : List Char)
  | comment (text : List Char)
  | token (kind : TokenKind) (text : List Char)
  /-- The rest of a text from something on that has no end. -/
  | unended (fault : ParseFault) (text : List Char)
deriving DecidableEq, Repr

namespace Lexeme

/-- The characters of a part. -/
def text : Lexeme → List Char
  | newline => ['\n']
  | blank c => [c]
  | directive text | comment text | token _ text | unended _ text => text

/-- Whether a number sign right behind a part opens a preprocessor line; `fresh` tells it of one in
its place. -/
def freshAfter (fresh : Bool) : Lexeme → Bool
  | newline => true
  | token .. => false
  | _ => fresh

end Lexeme

/-- A preprocessor line up to its end, and the rest from there on. -/
def splitDirective : List Char → List Char × List Char
  | [] => ([], [])
  | '\n' :: cs => ([], '\n' :: cs)
  | '\\' :: '\n' :: cs => ('\\' :: '\n' :: (splitDirective cs).1, (splitDirective cs).2)
  | c :: cs => (c :: (splitDirective cs).1, (splitDirective cs).2)

/-- A comment after its opening, and what follows it. -/
def splitComment? : List Char → Option (List Char × List Char)
  | [] => none
  | '*' :: '/' :: cs => some (['*', '/'], cs)
  | c :: cs => (splitComment? cs).map fun r => (c :: r.1, r.2)

/-- A literal after its opening `mark`, and what follows it. -/
def splitLiteral? (mark : Char) : List Char → Option (List Char × List Char)
  | [] => none
  | [c] => if c = mark then some ([c], []) else none
  | c :: d :: cs =>
    if c = mark then some ([c], d :: cs)
    else if c = '\\' then (splitLiteral? mark cs).map fun r => (c :: d :: r.1, r.2)
    else (splitLiteral? mark (d :: cs)).map fun r => (c :: r.1, r.2)

/-- What begins with the character `c`, and what follows it. -/
def nextLexeme (fresh : Bool) (c : Char) (rest : List Char) : Lexeme × List Char :=
  if c = '\n' then (.newline, rest)
  else if Text.isBlank c then (.blank c, rest)
  else if c = '#' ∧ fresh then
    (.directive (c :: (splitDirective rest).1), (splitDirective rest).2)
  else if c = '/' ∧ rest.head? = some '/' then
    (.comment (c :: rest.takeWhile (· != '\n')), rest.dropWhile (· != '\n'))
  else if c = '/' ∧ rest.head? = some '*' then
    match splitComment? (rest.drop 1) with
    | none => (.unended .unterminatedComment (c :: rest), [])
    | some (text, rest) => (.comment (c :: '*' :: text), rest)
  else if c = '"' ∨ c = '\'' then
    match splitLiteral? c rest with
    | none => (.unended .unterminatedLiteral (c :: rest), [])
    | some (text, rest) => (.token .literal (c :: text), rest)
  else if Text.isAlphabetic c ∨ c = '_' then
    let text := c :: rest.takeWhile Text.isWordChar
    (.token (.word (String.ofList text)) text, rest.dropWhile Text.isWordChar)
  else if c.isDigit then
    let text := c :: rest.takeWhile isNumberChar
    (.token (.number (String.ofList text)) text, rest.dropWhile isNumberChar)
  else if c = ':' ∧ rest.head? = some ':' then (.token .scope [c, ':'], rest.drop 1)
  else (.token (.symbol c) [c], rest)

/-- The next part, by what begins with the character. -/
theorem nextLexeme_eq (fresh : Bool) (c : Char) (rest : List Char) :
    nextLexeme fresh c rest = match startOf fresh c rest.head? with
      | .newline => (.newline, rest)
      | .blank => (.blank c, rest)
      | .directive => (.directive (c :: (splitDirective rest).1), (splitDirective rest).2)
      | .lineComment =>
        (.comment (c :: rest.takeWhile (· != '\n')), rest.dropWhile (· != '\n'))
      | .comment => match splitComment? (rest.drop 1) with
        | none => (.unended .unterminatedComment (c :: rest), [])
        | some (text, rest) => (.comment (c :: '*' :: text), rest)
      | .literal => match splitLiteral? c rest with
        | none => (.unended .unterminatedLiteral (c :: rest), [])
        | some (text, rest) => (.token .literal (c :: text), rest)
      | .word => (.token (.word (String.ofList (c :: rest.takeWhile Text.isWordChar)))
          (c :: rest.takeWhile Text.isWordChar), rest.dropWhile Text.isWordChar)
      | .number => (.token (.number (String.ofList (c :: rest.takeWhile isNumberChar)))
          (c :: rest.takeWhile isNumberChar), rest.dropWhile isNumberChar)
      | .scope => (.token .scope [c, ':'], rest.drop 1)
      | .symbol => (.token (.symbol c) [c], rest) := by
  exact ite_eq_startOf fresh c rest.head? _ _ _ _ _ _ _ _ _ _

theorem splitDirective_append (cs : List Char) :
    (splitDirective cs).1 ++ (splitDirective cs).2 = cs := by
  fun_induction splitDirective cs <;> simp_all

theorem append_of_splitComment? {cs text rest : List Char}
    (h : splitComment? cs = some (text, rest)) : text ++ rest = cs := by
  fun_induction splitComment? cs generalizing text rest with
  | case1 => cases h
  | case2 => cases h; rfl
  | case3 c cs _ ih =>
    obtain ⟨r, hr, heq⟩ := Option.map_eq_some_iff.1 h
    cases heq
    rw [List.cons_append, ih hr]

theorem append_of_splitLiteral? {mark : Char} {cs text rest : List Char}
    (h : splitLiteral? mark cs = some (text, rest)) : text ++ rest = cs := by
  fun_induction splitLiteral? mark cs generalizing text rest with
  | case1 => cases h
  | case2 => cases h; rfl
  | case3 => cases h
  | case4 => cases h; rfl
  | case5 d cs _ ih =>
    obtain ⟨r, hr, heq⟩ := Option.map_eq_some_iff.1 h
    cases heq
    rw [List.cons_append, List.cons_append, ih hr]
  | case6 c d cs _ _ ih =>
    obtain ⟨r, hr, heq⟩ := Option.map_eq_some_iff.1 h
    cases heq
    rw [List.cons_append, ih hr]

theorem exists_cons_of_head? {cs : List Char} {c : Char} (h : cs.head? = some c) :
    cs = c :: cs.drop 1 := by
  cases cs with
  | nil => cases h
  | cons d cs => rw [Option.some.inj h]; rfl

/-- A part begins with its first character, and what follows it is the rest. -/
theorem text_nextLexeme (fresh : Bool) (c : Char) (rest : List Char) :
    ∃ text, (nextLexeme fresh c rest).1.text = c :: text ∧
      text ++ (nextLexeme fresh c rest).2 = rest := by
  unfold nextLexeme
  split
  · next h => exact ⟨[], by rw [h]; rfl, rfl⟩
  split
  · exact ⟨[], rfl, rfl⟩
  split
  · exact ⟨_, rfl, splitDirective_append rest⟩
  split
  · exact ⟨_, rfl, List.takeWhile_append_dropWhile⟩
  split
  · next h =>
    split
    · exact ⟨rest, rfl, List.append_nil rest⟩
    · next heq =>
      refine ⟨_, rfl, ?_⟩
      rw [List.cons_append, append_of_splitComment? heq, ← exists_cons_of_head? h.2]
  split
  · split
    · exact ⟨rest, rfl, List.append_nil rest⟩
    · next heq => exact ⟨_, rfl, append_of_splitLiteral? heq⟩
  split
  · exact ⟨_, rfl, List.takeWhile_append_dropWhile⟩
  split
  · exact ⟨_, rfl, List.takeWhile_append_dropWhile⟩
  split
  · next h => exact ⟨[':'], rfl, (exists_cons_of_head? h.2).symm⟩
  · exact ⟨[], rfl, rfl⟩

theorem length_nextLexeme_lt (fresh : Bool) (c : Char) (rest : List Char) :
    (nextLexeme fresh c rest).2.length < (c :: rest).length := by
  obtain ⟨text, -, happend⟩ := text_nextLexeme fresh c rest
  have hlength := congrArg List.length happend
  rw [List.length_append] at hlength
  rw [List.length_cons]
  omega

/-- The parts of a text. -/
def lexemes (fresh : Bool) (cs : List Char) : List Lexeme :=
  match cs with
  | [] => []
  | c :: rest =>
    (nextLexeme fresh c rest).1 ::
      lexemes ((nextLexeme fresh c rest).1.freshAfter fresh) (nextLexeme fresh c rest).2
termination_by cs.length
decreasing_by exact length_nextLexeme_lt fresh c rest

theorem lexemes_nil (fresh : Bool) : lexemes fresh [] = [] := by rw [lexemes]

theorem lexemes_cons (fresh : Bool) (c : Char) (rest : List Char) :
    lexemes fresh (c :: rest) =
      (nextLexeme fresh c rest).1 ::
        lexemes ((nextLexeme fresh c rest).1.freshAfter fresh) (nextLexeme fresh c rest).2 := by
  rw [lexemes]

/-- The parts of a text, one behind the other, are the text. -/
theorem flatMap_text_lexemes (fresh : Bool) (cs : List Char) :
    (lexemes fresh cs).flatMap Lexeme.text = cs := by
  fun_induction lexemes fresh cs with
  | case1 => rfl
  | case2 fresh c rest ih =>
    obtain ⟨text, htext, happend⟩ := text_nextLexeme fresh c rest
    rw [List.flatMap_cons, ih, htext, List.cons_append, happend]

/-! ### Tokens -/

/-- The tokens among some parts, the first of which begins on line `line`. -/
def tokensAmong (line : Nat) : List Lexeme → Except ParseError (List Token)
  | [] => .ok []
  | .token kind text :: ls => (tokensAmong (line + text.count '\n') ls).map (⟨kind, line⟩ :: ·)
  | .unended fault _ :: _ => .error ⟨line, fault⟩
  | .newline :: ls => tokensAmong (line + 1) ls
  | .blank _ :: ls => tokensAmong line ls
  | .directive text :: ls | .comment text :: ls => tokensAmong (line + text.count '\n') ls

theorem skipDirective_eq (line : Nat) (cs : List Char) :
    skipDirective line cs =
      ((splitDirective cs).2, line + (splitDirective cs).1.count '\n') := by
  fun_induction skipDirective line cs with
  | case1 line => rfl
  | case2 line cs => rfl
  | case3 line cs ih =>
    rw [ih, splitDirective]
    simp only [List.count_cons, Prod.mk.injEq, true_and]
    simp
    omega
  | case4 line c cs hnewline hbackslash ih =>
    have hne : c ≠ '\n' := fun hc => hnewline hc
    rw [ih, splitDirective]
    · simp [hne]
    · exact hnewline
    · exact hbackslash

theorem skipComment?_eq (line : Nat) (cs : List Char) :
    skipComment? line cs =
      (splitComment? cs).map fun r => (r.2, line + r.1.count '\n') := by
  fun_induction skipComment? line cs with
  | case1 => rfl
  | case2 line cs => rfl
  | case3 line cs ih =>
    have hsplit : splitComment? ('\n' :: cs) =
        (splitComment? cs).map fun r => ('\n' :: r.1, r.2) := by
      simp [splitComment?]
    rw [ih, hsplit, Option.map_map]
    congr 1
    funext r
    simp only [Function.comp_apply, List.count_cons_self, Prod.mk.injEq, true_and]
    omega
  | case4 line c cs hclose hnewline ih =>
    have hsplit : splitComment? (c :: cs) = (splitComment? cs).map fun r => (c :: r.1, r.2) := by
      rw [splitComment?]
      exact hclose
    rw [ih, hsplit, Option.map_map]
    congr 1
    funext r
    simp only [Function.comp_apply, List.count_cons_of_ne hnewline]

/-- The number of line feeds in a text that begins with a character. -/
theorem add_count_cons (line : Nat) (c : Char) (cs : List Char) :
    line + (c :: cs).count '\n' = lineAfter c line + cs.count '\n' := by
  rw [List.count_cons, lineAfter]
  by_cases hc : c = '\n'
  · simp [hc]
    omega
  · simp [hc]

theorem skipLiteral?_eq (mark : Char) (hmark : mark ≠ '\n') (line : Nat) (cs : List Char) :
    skipLiteral? mark line cs =
      (splitLiteral? mark cs).map fun r => (r.2, line + r.1.count '\n') := by
  fun_induction skipLiteral? mark line cs with
  | case1 => rfl
  | case2 line =>
    rw [splitLiteral?, if_pos rfl]
    simp [List.count_cons_of_ne hmark]
  | case3 line c hc => rw [splitLiteral?, if_neg hc]; rfl
  | case4 line d cs =>
    rw [splitLiteral?, if_pos rfl]
    simp [List.count_cons_of_ne hmark]
  | case5 line d cs hc ih =>
    rw [ih, splitLiteral?, if_neg hc, if_pos rfl, Option.map_map]
    congr 1
    funext r
    rw [Function.comp_apply, add_count_cons, add_count_cons]
    rfl
  | case6 line c d cs hc hbackslash ih =>
    rw [ih, splitLiteral?, if_neg hc, if_neg hbackslash, Option.map_map]
    congr 1
    funext r
    rw [Function.comp_apply, add_count_cons]

theorem count_takeWhile {p : Char → Bool} (hp : p '\n' = false) (cs : List Char) :
    (cs.takeWhile p).count '\n' = 0 := by
  rw [List.count_eq_zero]
  intro hmem
  have htrue := List.all_eq_true.1 List.all_takeWhile _ hmem
  rw [hp] at htrue
  cases htrue

/-- What the scanner makes of a part and of the text after it. -/
def Lexeme.scanOn (line : Nat) (fresh : Bool) (after : List Char) :
    Lexeme → Except ParseError (List Token)
  | newline => scan (line + 1) true after
  | blank _ => scan line fresh after
  | directive text | comment text => scan (line + text.count '\n') fresh after
  | token kind text => (scan (line + text.count '\n') false after).map (⟨kind, line⟩ :: ·)
  | unended fault _ => .error ⟨line, fault⟩

/-- A step of the scanner, by the part of the text that comes next. -/
theorem scan_of_nextLexeme {fresh : Bool} {c : Char} {rest after : List Char} {l : Lexeme}
    (h : nextLexeme fresh c rest = (l, after)) (line : Nat) :
    scan line fresh (c :: rest) = l.scanOn line fresh after := by
  rw [nextLexeme_eq] at h
  rw [scan_cons]
  cases hstart : startOf fresh c rest.head? with
  | newline | blank =>
    rw [hstart] at h
    cases h
    rfl
  -- no other part begins with a newline, so its lines are those behind the first character
  | directive =>
    have hne := ne_newline_of_startOf hstart nofun
    rw [hstart] at h
    cases h
    simp only [Lexeme.scanOn, skipDirective_eq, List.count_cons_of_ne hne]
  | lineComment =>
    have hne := ne_newline_of_startOf hstart nofun
    rw [hstart] at h
    cases h
    simp only [Lexeme.scanOn, List.count_cons_of_ne hne, Nat.add_zero,
      count_takeWhile (p := (· != '\n')) rfl]
  | comment =>
    have hne := ne_newline_of_startOf hstart nofun
    rw [hstart] at h
    simp only [skipComment?_eq]
    cases hsplit : splitComment? (rest.drop 1) with
    | none =>
      simp only [hsplit] at h
      cases h
      rfl
    | some r =>
      simp only [hsplit] at h
      cases h
      simp only [Lexeme.scanOn, Option.map_some, List.count_cons_of_ne hne,
        List.count_cons_of_ne (show '*' ≠ '\n' by decide)]
  | literal =>
    have hne := ne_newline_of_startOf hstart nofun
    rw [hstart] at h
    simp only [skipLiteral?_eq c hne]
    cases hsplit : splitLiteral? c rest with
    | none =>
      simp only [hsplit] at h
      cases h
      rfl
    | some r =>
      simp only [hsplit] at h
      cases h
      simp only [Lexeme.scanOn, Option.map_some, List.count_cons_of_ne hne]
  | word | number =>
    have hne := ne_newline_of_startOf hstart nofun
    rw [hstart] at h
    cases h
    simp only [Lexeme.scanOn, List.count_cons_of_ne hne, Nat.add_zero,
      count_takeWhile (p := Text.isWordChar) (by decide),
      count_takeWhile (p := isNumberChar) (by decide)]
  | scope | symbol =>
    have hne := ne_newline_of_startOf hstart nofun
    rw [hstart] at h
    cases h
    simp [Lexeme.scanOn, List.count_cons_of_ne hne]

/-- The tokens of a text are those among its parts. -/
theorem scan_eq (line : Nat) (fresh : Bool) (cs : List Char) :
    scan line fresh cs = tokensAmong line (lexemes fresh cs) := by
  fun_induction lexemes fresh cs generalizing line with
  | case1 => rw [scan]; rfl
  | case2 fresh c rest ih =>
    rw [scan_of_nextLexeme (Prod.eta _).symm]
    cases hl : (nextLexeme fresh c rest).1 with
    | newline | blank | directive | comment =>
      rw [hl] at ih
      exact ih _
    | token kind text =>
      rw [hl] at ih
      exact congrArg (Except.map _) (ih _)
    | unended => rfl

end Instrument.Header
