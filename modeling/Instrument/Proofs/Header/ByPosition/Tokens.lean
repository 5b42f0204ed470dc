import Instrument.Proofs.Header.ByPosition.Loop
import Instrument.Proofs.Header.Lexemes
import Instrument.Proofs.Text.Case

/-!
The scanner by position. Main statement: it finds the tokens of a header, and refuses what the
scanner refuses; it asks for no character that is not there, and each of its rounds gets on.
-/

namespace Instrument.Header.ByPosition

/-! ### What separates tokens -/

/-- A round of `directiveEnd`. -/
def directiveRound (cs : List Char) (pos line : Nat) : Reading (Round Nat (Nat × Nat)) :=
  if pos < cs.length then do
    let c ← entry cs pos
    if c = '\n' then return .done (pos, line)
    else if c = '\\' ∧ cs[pos + 1]? = some '\n' then return .again (pos + 2) (line + 1)
    else return .again (pos + 1) line
  else return .done (pos, line)

/-- The end of a preprocessor line, and the line that is reached. -/
def directiveEnd (cs : List Char) (pos line : Nat) : Reading (Nat × Nat) :=
  loop cs.length (directiveRound cs) pos line

/-- A round of `commentEnd`. -/
def commentRound (cs : List Char) (start pos line : Nat) : Reading (Round Nat (Nat × Nat)) :=
  match cs[pos]? with
  | none => refuse start .unterminatedComment
  | some c =>
    if c = '*' ∧ cs[pos + 1]? = some '/' then return .done (pos + 2, line)
    else return .again (pos + 1) (lineAfter c line)

/-- The position after a comment that begins on line `start`, given the one after its opening; and
the line that is reached. -/
def commentEnd (cs : List Char) (start pos : Nat) : Reading (Nat × Nat) :=
  loop cs.length (commentRound cs start) pos start

/-- A round of `literalEnd`. -/
def literalRound (cs : List Char) (mark : Char) (pos line : Nat) :
    Reading (Round Nat (Nat × Nat)) :=
  if pos < cs.length then do
    let c ← entry cs pos
    if c = mark then return .done (pos, line)
    else
      let pos := if c = '\\' then pos + 1 else pos
      return .again (pos + 1) (if cs[pos]? = some '\n' then line + 1 else line)
  else return .done (pos, line)

/-- The position after the mark that closes a literal, which must be there. -/
def closeLiteral (cs : List Char) (start : Nat) (place : Nat × Nat) : Reading (Nat × Nat) :=
  if cs.length ≤ place.1 then refuse start .unterminatedLiteral
  else return (place.1 + 1, place.2)

/-- The position after a literal that begins on line `start`, given the one after its opening; and
the line that is reached. -/
def literalEnd (cs : List Char) (mark : Char) (start pos : Nat) : Reading (Nat × Nat) := do
  closeLiteral cs start (← loop cs.length (literalRound cs mark) pos start)

/-! ### The scanner -/

/-- What the scanner knows at a position: its line, whether a number sign opens a preprocessor
line, and the tokens so far. -/
structure Scanner where
  line : Nat
  fresh : Bool
  found : List Token

/-- The scanner with one more token, which begins on its line. -/
def Scanner.push (s : Scanner) (kind : TokenKind) (line : Nat) : Scanner :=
  ⟨line, false, s.found ++ [⟨kind, s.line⟩]⟩

/-- A round of the scanner at a position where `c` stands. -/
def scanAt (cs : List Char) (pos : Nat) (s : Scanner) (c : Char) :
    Reading (Round Scanner (List Token)) :=
  if c = '\n' then return .again (pos + 1) { s with line := s.line + 1, fresh := true }
  else if Text.isBlank c then return .again (pos + 1) s
  else if c = '#' ∧ s.fresh then do
    let (pos, line) ← directiveEnd cs pos s.line
    return .again pos { s with line := line }
  else if c = '/' ∧ cs[pos + 1]? = some '/' then do
    return .again (← skipWhile (· != '\n') cs pos) s
  else if c = '/' ∧ cs[pos + 1]? = some '*' then do
    let (pos, line) ← commentEnd cs s.line (pos + 2)
    return .again pos { s with line := line }
  else if c = '"' ∨ c = '\'' then do
    let (pos, line) ← literalEnd cs c s.line (pos + 1)
    return .again pos (s.push .literal line)
  else if Text.isAlphabetic c ∨ c = '_' then do
    let last ← skipWhile Text.isWordChar cs pos
    let text ← slice cs pos last
    return .again last (s.push (.word (String.ofList text)) s.line)
  else if c.isDigit then do
    let last ← skipWhile isNumberChar cs pos
    let text ← slice cs pos last
    return .again last (s.push (.number (String.ofList text)) s.line)
  else if c = ':' ∧ cs[pos + 1]? = some ':' then return .again (pos + 2) (s.push .scope s.line)
  else return .again (pos + 1) (s.push (.symbol c) s.line)

/-- A round of the scanner. -/
def scanRound (cs : List Char) (pos : Nat) (s : Scanner) : Reading (Round Scanner (List Token)) :=
  if pos < cs.length then do scanAt cs pos s (← entry cs pos)
  else return .done s.found

/-- The tokens of a header. -/
def tokens (cs : List Char) : Reading (List Token) := loop cs.length (scanRound cs) 0 ⟨1, true, []⟩

/-! ### Agreement -/

/-- A position, with a line, from which some rest with the same line goes on. -/
def IsPlace (cs : List Char) (place : Nat × Nat) (rest : List Char × Nat) : Prop :=
  cs.drop place.1 = rest.1 ∧ rest.2 = place.2

section

variable {cs rest : List Char} {c : Char} {pos : Nat}

theorem directiveRound_of_drop (line : Nat) (h : cs.drop pos = c :: rest) :
    directiveRound cs pos line =
      if c = '\n' then .ok (.done (pos, line))
      else if c = '\\' ∧ rest.head? = some '\n' then .ok (.again (pos + 2) (line + 1))
      else .ok (.again (pos + 1) line) := by
  rw [directiveRound, if_pos (lt_length_of_drop h), entry_of_drop h, getElem?_succ_of_drop h]
  rfl

theorem directiveEnd_eq_ok (line : Nat) (h : cs.drop pos = rest) :
    ∃ place, directiveEnd cs pos line = .ok place ∧
      IsPlace cs place (skipDirective line rest) := by
  unfold directiveEnd
  fun_induction skipDirective line rest generalizing pos with
  | case1 line =>
    refine ⟨(pos, line), loop_of_done ?_, h, rfl⟩
    exact if_neg (Nat.not_lt.2 (List.drop_eq_nil_iff.1 h))
  | case2 line rest =>
    exact ⟨(pos, line), loop_of_done (directiveRound_of_drop line h), h, rfl⟩
  | case3 line rest ih =>
    obtain ⟨place, hloop, hplace⟩ := ih (drop_succ_of_drop (drop_succ_of_drop h))
    refine ⟨place, ?_, hplace⟩
    rw [← hloop]
    exact loop_of_again (directiveRound_of_drop line h) (lt_length_of_drop h) (by omega)
  | case4 line c rest hnewline hescape ih =>
    obtain ⟨place, hloop, hplace⟩ := ih (drop_succ_of_drop h)
    refine ⟨place, ?_, hplace⟩
    have hescape' : ¬(c = '\\' ∧ rest.head? = some '\n') := by
      rintro ⟨hc, hhead⟩
      obtain ⟨rest', rfl⟩ := List.head?_eq_some_iff.1 hhead
      exact hescape rest' hc rfl
    rw [← hloop]
    refine loop_of_succ h ?_
    rw [directiveRound_of_drop line h, if_neg hnewline, if_neg hescape']

theorem commentRound_of_drop (start line : Nat) (h : cs.drop pos = c :: rest) :
    commentRound cs start pos line =
      if c = '*' ∧ rest.head? = some '/' then .ok (.done (pos + 2, line))
      else .ok (.again (pos + 1) (lineAfter c line)) := by
  rw [commentRound, getElem?_of_drop h, getElem?_succ_of_drop h]
  rfl

theorem agrees_commentEnd (start : Nat) (h : cs.drop pos = rest) :
    Agrees (IsPlace cs) (commentEnd cs start pos)
      (match skipComment? start rest with
        | none => .error ⟨start, .unterminatedComment⟩
        | some place => .ok place) := by
  unfold commentEnd
  suffices hloop : ∀ line, Agrees (IsPlace cs) (loop cs.length (commentRound cs start) pos line)
      (match skipComment? line rest with
        | none => .error ⟨start, .unterminatedComment⟩
        | some place => .ok place) from hloop start
  intro line
  fun_induction skipComment? line rest generalizing pos with
  | case1 line =>
    have hend : commentRound cs start pos line =
        .error (.refused ⟨start, .unterminatedComment⟩) := by
      rw [commentRound, getElem?_of_drop_nil h]
      rfl
    rw [loop_of_error hend]
    exact .refused _
  | case2 line rest =>
    rw [loop_of_done (commentRound_of_drop start line h)]
    exact .ok ⟨drop_succ_of_drop (drop_succ_of_drop h), rfl⟩
  | case3 line rest ih =>
    rw [loop_of_succ h (commentRound_of_drop start line h)]
    exact ih (drop_succ_of_drop h)
  | case4 line c rest hclose hnewline ih =>
    have hclose' : ¬(c = '*' ∧ rest.head? = some '/') := by
      rintro ⟨hc, hhead⟩
      obtain ⟨rest', rfl⟩ := List.head?_eq_some_iff.1 hhead
      exact hclose rest' hc rfl
    have hagain := commentRound_of_drop start line h
    rw [if_neg hclose', lineAfter, if_neg hnewline] at hagain
    rw [loop_of_succ h hagain]
    exact ih (drop_succ_of_drop h)

theorem literalRound_of_drop (mark : Char) (line : Nat) (h : cs.drop pos = c :: rest) :
    literalRound cs mark pos line =
      if c = mark then .ok (.done (pos, line))
      else if c = '\\' then
        .ok (.again (pos + 2) (if rest.head? = some '\n' then line + 1 else line))
      else .ok (.again (pos + 1) (lineAfter c line)) := by
  rw [literalRound, if_pos (lt_length_of_drop h), entry_of_drop h]
  change (if c = mark then _ else _) = _
  split
  · rfl
  · split
    · rw [getElem?_succ_of_drop h]
      rfl
    · rw [getElem?_of_drop h, lineAfter]
      simp only [Option.some.injEq]
      rfl

theorem loop_literalRound_nil (mark : Char) (line : Nat) (h : cs.drop pos = []) :
    loop cs.length (literalRound cs mark) pos line = .ok (pos, line) :=
  loop_of_done (if_neg (Nat.not_lt.2 (List.drop_eq_nil_iff.1 h)))

/-- Behind the last character no mark closes a literal. -/
theorem agrees_closeLiteral_of_le (start line : Nat) (h : cs.length ≤ pos) :
    Agrees (IsPlace cs) (closeLiteral cs start (pos, line))
      (.error ⟨start, .unterminatedLiteral⟩) := by
  rw [closeLiteral, if_pos h]
  exact .refused _

theorem agrees_closeLiteral_of_drop (start line : Nat) (h : cs.drop pos = c :: rest) :
    Agrees (IsPlace cs) (closeLiteral cs start (pos, line)) (.ok (rest, line)) := by
  rw [closeLiteral, if_neg (Nat.not_le.2 (lt_length_of_drop h))]
  exact .ok ⟨drop_succ_of_drop h, rfl⟩

theorem agrees_literalEnd (mark : Char) (start : Nat) (h : cs.drop pos = rest) :
    Agrees (IsPlace cs) (literalEnd cs mark start pos)
      (match skipLiteral? mark start rest with
        | none => .error ⟨start, .unterminatedLiteral⟩
        | some place => .ok place) := by
  unfold literalEnd
  -- a literal that is not closed is left behind the end, two characters on at the most
  suffices hloop : ∀ line, Agrees (IsPlace cs)
      (loop cs.length (literalRound cs mark) pos line >>= closeLiteral cs start)
      (match skipLiteral? mark line rest with
        | none => .error ⟨start, .unterminatedLiteral⟩
        | some place => .ok place) from hloop start
  intro line
  fun_induction skipLiteral? mark line rest generalizing pos with
  | case1 line =>
    rw [loop_literalRound_nil mark line h]
    exact agrees_closeLiteral_of_le start line (List.drop_eq_nil_iff.1 h)
  | case2 line =>
    rw [loop_of_done ((literalRound_of_drop mark line h).trans (if_pos rfl))]
    exact agrees_closeLiteral_of_drop start line h
  | case3 line c hmark =>
    have hnil := drop_succ_of_drop h
    have hle := List.drop_eq_nil_iff.1 hnil
    have hround := (literalRound_of_drop mark line h).trans (if_neg hmark)
    by_cases hescape : c = '\\'
    · rw [if_pos hescape] at hround
      rw [loop_of_again hround (lt_length_of_drop h) (by omega),
        loop_literalRound_nil mark _ (List.drop_eq_nil_iff.2 (by omega))]
      exact agrees_closeLiteral_of_le start _ (by omega)
    · rw [if_neg hescape] at hround
      rw [loop_of_succ h hround, loop_literalRound_nil mark _ hnil]
      exact agrees_closeLiteral_of_le start _ hle
  | case4 line d rest =>
    rw [loop_of_done ((literalRound_of_drop mark line h).trans (if_pos rfl))]
    exact agrees_closeLiteral_of_drop start line h
  | case5 line d rest hmark ih =>
    have hline : (if (d :: rest).head? = some '\n' then line + 1 else line) = lineAfter d line := by
      simp only [List.head?_cons, Option.some.injEq, lineAfter]
    have hagain := (literalRound_of_drop mark line h).trans ((if_neg hmark).trans (if_pos rfl))
    rw [hline] at hagain
    rw [loop_of_again hagain (lt_length_of_drop h) (by omega)]
    exact ih (drop_succ_of_drop (drop_succ_of_drop h))
  | case6 line c d rest hmark hescape ih =>
    have hagain := literalRound_of_drop mark line h
    rw [if_neg hmark, if_neg hescape] at hagain
    rw [loop_of_succ h hagain]
    exact ih (drop_succ_of_drop h)

end

/-- Tokens that are found after others. -/
def Extends (found all more : List Token) : Prop := all = found ++ more

theorem Agrees.push {found : List Token} {t : Token} {x : Reading (List Token)}
    {y : Except ParseError (List Token)} (h : Agrees (Extends (found ++ [t])) x y) :
    Agrees (Extends found) x (y.map (t :: ·)) :=
  h.map_right fun _ more hall => hall.trans (List.append_assoc found [t] more)

section

variable {cs rest : List Char} {c : Char} {pos line : Nat} {fresh : Bool} {found : List Token}

/-- A round of the scanner, by what begins with the character at its position. -/
theorem scanRound_of_drop (h : cs.drop pos = c :: rest) (s : Scanner) :
    scanRound cs pos s = match startOf s.fresh c rest.head? with
      | .newline => .ok (.again (pos + 1) { s with line := s.line + 1, fresh := true })
      | .blank => .ok (.again (pos + 1) s)
      | .directive => do
        let (pos, line) ← directiveEnd cs pos s.line
        return .again pos { s with line := line }
      | .lineComment => do return .again (← skipWhile (· != '\n') cs pos) s
      | .comment => do
        let (pos, line) ← commentEnd cs s.line (pos + 2)
        return .again pos { s with line := line }
      | .literal => do
        let (pos, line) ← literalEnd cs c s.line (pos + 1)
        return .again pos (s.push .literal line)
      | .word => do
        let last ← skipWhile Text.isWordChar cs pos
        let text ← slice cs pos last
        return .again last (s.push (.word (String.ofList text)) s.line)
      | .number => do
        let last ← skipWhile isNumberChar cs pos
        let text ← slice cs pos last
        return .again last (s.push (.number (String.ofList text)) s.line)
      | .scope => .ok (.again (pos + 2) (s.push .scope s.line))
      | .symbol => .ok (.again (pos + 1) (s.push (.symbol c) s.line)) := by
  have hround : scanRound cs pos s = scanAt cs pos s c := by
    rw [scanRound, if_pos (lt_length_of_drop h), entry_of_drop h]
    rfl
  rw [hround, scanAt, getElem?_succ_of_drop h]
  exact ite_eq_startOf s.fresh c rest.head? _ _ _ _ _ _ _ _ _ _

/-! ### Rounds of the scanner, one for each thing that it can find -/

/-- The scanner finds the tokens of whatever is shorter, from any position on. -/
def AgreesBelow (cs : List Char) (length : Nat) : Prop :=
  ∀ ⦃rest : List Char⦄ ⦃pos : Nat⦄ (line : Nat) (fresh : Bool) (found : List Token),
    rest.length < length → cs.drop pos = rest →
      Agrees (Extends found) (loop cs.length (scanRound cs) pos ⟨line, fresh, found⟩)
        (scan line fresh rest)

/-- After a round that gets on, the scanner finds the tokens of what is left. -/
theorem AgreesBelow.again (ih : AgreesBelow cs (c :: rest).length) (h : cs.drop pos = c :: rest)
    {s : Scanner} {pos' line' : Nat} {fresh' : Bool} {found' : List Token} {rest' : List Char}
    (hround : scanRound cs pos s = .ok (.again pos' ⟨line', fresh', found'⟩))
    (hdrop : cs.drop pos' = rest') (hlt : rest'.length < (c :: rest).length) :
    Agrees (Extends found') (loop cs.length (scanRound cs) pos s) (scan line' fresh' rest') := by
  rw [loop_of_again hround (lt_length_of_drop h) (lt_of_drop h hdrop hlt)]
  exact ih line' fresh' found' hlt hdrop

theorem agrees_scan_of_directive (ih : AgreesBelow cs (c :: rest).length)
    (h : cs.drop pos = c :: rest) (hstart : startOf fresh c rest.head? = .directive) :
    Agrees (Extends found) (loop cs.length (scanRound cs) pos ⟨line, fresh, found⟩)
      (scan line fresh (c :: rest)) := by
  have hround := scanRound_of_drop h ⟨line, fresh, found⟩
  simp only [hstart] at hround
  have hdirection : skipDirective line (c :: rest) = skipDirective line rest := by
    rw [eq_sign_of_startOf hstart, skipDirective] <;> simp
  obtain ⟨⟨pos', line'⟩, hend, hplace⟩ := directiveEnd_eq_ok line h
  rw [hdirection] at hplace
  obtain ⟨hdrop, rfl⟩ := hplace
  rw [hend] at hround
  simp only [scan_cons, hstart]
  exact ih.again h hround hdrop (Nat.lt_succ_of_le (length_skipDirective_le line rest))

theorem agrees_scan_of_lineComment (ih : AgreesBelow cs (c :: rest).length)
    (h : cs.drop pos = c :: rest) (hstart : startOf fresh c rest.head? = .lineComment) :
    Agrees (Extends found) (loop cs.length (scanRound cs) pos ⟨line, fresh, found⟩)
      (scan line fresh (c :: rest)) := by
  have hround := scanRound_of_drop h ⟨line, fresh, found⟩
  simp only [hstart] at hround
  obtain ⟨last, hlast, -, hdrop, -⟩ := slice_skipWhile h (p := (· != '\n'))
    (by simpa using ne_newline_of_startOf hstart nofun)
  rw [hlast] at hround
  simp only [scan_cons, hstart]
  exact ih.again h hround hdrop (Nat.lt_succ_of_le (length_dropWhile_le _ rest))

theorem agrees_scan_of_comment (ih : AgreesBelow cs (c :: rest).length)
    (h : cs.drop pos = c :: rest) (hstart : startOf fresh c rest.head? = .comment) :
    Agrees (Extends found) (loop cs.length (scanRound cs) pos ⟨line, fresh, found⟩)
      (scan line fresh (c :: rest)) := by
  have hround := scanRound_of_drop h ⟨line, fresh, found⟩
  have hend := agrees_commentEnd line (drop_of_drop_cons h 1)
  simp only [hstart] at hround
  simp only [scan_cons, hstart]
  cases hskip : skipComment? line (rest.drop 1) with
  | none =>
    rw [hskip] at hend
    rw [hend.eq_refused] at hround
    rw [loop_of_error hround]
    exact .refused _
  | some place =>
    rw [hskip] at hend
    obtain ⟨⟨pos', _⟩, hplace, hdrop, rfl⟩ := hend.exists_eq_ok
    rw [hplace] at hround
    have hle := length_le_of_skipComment? hskip
    rw [List.length_drop] at hle
    exact ih.again h hround hdrop (Nat.lt_succ_of_le (Nat.le_trans hle (Nat.sub_le _ _)))

theorem agrees_scan_of_literal (ih : AgreesBelow cs (c :: rest).length)
    (h : cs.drop pos = c :: rest) (hstart : startOf fresh c rest.head? = .literal) :
    Agrees (Extends found) (loop cs.length (scanRound cs) pos ⟨line, fresh, found⟩)
      (scan line fresh (c :: rest)) := by
  have hround := scanRound_of_drop h ⟨line, fresh, found⟩
  have hend := agrees_literalEnd c line (drop_succ_of_drop h)
  simp only [hstart] at hround
  simp only [scan_cons, hstart]
  cases hskip : skipLiteral? c line rest with
  | none =>
    rw [hskip] at hend
    rw [hend.eq_refused] at hround
    rw [loop_of_error hround]
    exact .refused _
  | some place =>
    rw [hskip] at hend
    obtain ⟨⟨pos', _⟩, hplace, hdrop, rfl⟩ := hend.exists_eq_ok
    rw [hplace] at hround
    exact (ih.again h hround hdrop (Nat.lt_succ_of_le (length_le_of_skipLiteral? hskip))).push

theorem agrees_scan_of_word (ih : AgreesBelow cs (c :: rest).length)
    (h : cs.drop pos = c :: rest) (hstart : startOf fresh c rest.head? = .word) :
    Agrees (Extends found) (loop cs.length (scanRound cs) pos ⟨line, fresh, found⟩)
      (scan line fresh (c :: rest)) := by
  have hround := scanRound_of_drop h ⟨line, fresh, found⟩
  simp only [hstart] at hround
  have hword : Text.isWordChar c = true := by
    rw [Text.isWordChar, Bool.or_eq_true, beq_iff_eq]
    exact (isAlphabetic_or_of_startOf hstart).imp_left Text.isAlphanumeric_of_isAlphabetic
  obtain ⟨last, hlast, htext, hdrop, -⟩ := slice_skipWhile h hword
  rw [hlast] at hround
  change _ = slice cs pos last >>= _ at hround
  rw [htext] at hround
  simp only [scan_cons, hstart]
  exact (ih.again h hround hdrop (Nat.lt_succ_of_le (length_dropWhile_le _ rest))).push

theorem agrees_scan_of_number (ih : AgreesBelow cs (c :: rest).length)
    (h : cs.drop pos = c :: rest) (hstart : startOf fresh c rest.head? = .number) :
    Agrees (Extends found) (loop cs.length (scanRound cs) pos ⟨line, fresh, found⟩)
      (scan line fresh (c :: rest)) := by
  have hround := scanRound_of_drop h ⟨line, fresh, found⟩
  simp only [hstart] at hround
  have hnumber : isNumberChar c = true := by
    rw [isNumberChar, Text.isWordChar_of_isDigit (isDigit_of_startOf hstart), Bool.true_or]
  obtain ⟨last, hlast, htext, hdrop, -⟩ := slice_skipWhile h hnumber
  rw [hlast] at hround
  change _ = slice cs pos last >>= _ at hround
  rw [htext] at hround
  simp only [scan_cons, hstart]
  exact (ih.again h hround hdrop (Nat.lt_succ_of_le (length_dropWhile_le _ rest))).push

/-- What is one character long, or two, needs no search for its end. -/
theorem agrees_scan_of_short (ih : AgreesBelow cs (c :: rest).length)
    (h : cs.drop pos = c :: rest)
    (hstart : startOf fresh c rest.head? ∈ [.newline, .blank, .scope, .symbol]) :
    Agrees (Extends found) (loop cs.length (scanRound cs) pos ⟨line, fresh, found⟩)
      (scan line fresh (c :: rest)) := by
  have hround := scanRound_of_drop h ⟨line, fresh, found⟩
  simp only [List.mem_cons, List.not_mem_nil, or_false] at hstart
  rcases hstart with hstart | hstart | hstart | hstart
  · simp only [hstart] at hround
    simp only [scan_cons, hstart]
    exact ih.again h hround (drop_succ_of_drop h) (Nat.lt_succ_self _)
  · simp only [hstart] at hround
    simp only [scan_cons, hstart]
    exact ih.again h hround (drop_succ_of_drop h) (Nat.lt_succ_self _)
  · simp only [hstart] at hround
    simp only [scan_cons, hstart]
    have hle : (rest.drop 1).length ≤ rest.length := List.length_drop ▸ Nat.sub_le _ _
    exact (ih.again h hround (drop_of_drop_cons h 1) (Nat.lt_succ_of_le hle)).push
  · simp only [hstart] at hround
    simp only [scan_cons, hstart]
    exact (ih.again h hround (drop_succ_of_drop h) (Nat.lt_succ_self _)).push

end

/-- From any position on, the scanner finds the tokens of what is left. -/
theorem agrees_scan {cs rest : List Char} {pos line : Nat} {fresh : Bool} {found : List Token}
    (h : cs.drop pos = rest) :
    Agrees (Extends found) (loop cs.length (scanRound cs) pos ⟨line, fresh, found⟩)
      (scan line fresh rest) := by
  -- every round leaves less, however much of the text belongs to what it finds
  induction hlength : rest.length using Nat.strongRecOn generalizing rest pos line fresh found
    with
  | _ length hshorter =>
  have ih : AgreesBelow cs rest.length := fun rest' pos' line' fresh' found' hlt hdrop =>
    hshorter rest'.length (hlength ▸ hlt) hdrop rfl
  cases rest with
  | nil =>
    rw [loop_of_done (if_neg (Nat.not_lt.2 (List.drop_eq_nil_iff.1 h))), scan]
    exact .ok (List.append_nil found).symm
  | cons c rest =>
    cases hstart : startOf fresh c rest.head? with
    | newline | blank | scope | symbol => exact agrees_scan_of_short ih h (by simp [hstart])
    | directive => exact agrees_scan_of_directive ih h hstart
    | lineComment => exact agrees_scan_of_lineComment ih h hstart
    | comment => exact agrees_scan_of_comment ih h hstart
    | literal => exact agrees_scan_of_literal ih h hstart
    | word => exact agrees_scan_of_word ih h hstart
    | number => exact agrees_scan_of_number ih h hstart

theorem agrees_tokens (cs : List Char) : Agrees Eq (tokens cs) (Header.tokens cs) :=
  (agrees_scan rfl).mono fun _ _ h => h

end Instrument.Header.ByPosition
