import Instrument.Header.Parser
import Instrument.Proofs.Header.ByPosition.Method

/-!
What is skipped in a header, by position: blocks, parameter lists of templates, initial values,
whole declarations. Main statement: by position the same is skipped as from a list, and the same is
refused. Whether a block is the body of a function is seen by the token in front of it, so this
holds where a declaration can begin: behind no token that a body can follow.
-/

namespace Instrument.Header.ByPosition

/-- The line of the token at a position, or the last line of the header if there is none. -/
def lineAt (last : Nat) (ts : List Token) (pos : Nat) : Nat := (ts[pos]?.map (·.line)).getD last

/-- The position after a pair of brackets and what stands in it. -/
def skipPair (opening closing : Char) (fault : ParseFault) (last : Nat) (ts : List Token)
    (pos : Nat) : Reading Nat := do
  match ← closing? opening closing ts pos with
  | none => refuse (lineAt last ts pos) fault
  | some close => return close + 1

/-- The position after a block. -/
def skipBraces (last : Nat) (ts : List Token) (pos : Nat) : Reading Nat :=
  skipPair '{' '}' .unbalancedBraces last ts pos

/-- The position after a template parameter list, if there is one. -/
def skipTemplate (last : Nat) (ts : List Token) (pos : Nat) : Reading Nat :=
  if ts[pos]?.any (·.isSymbol '<') then skipPair '<' '>' .unbalancedTemplate last ts pos
  else return pos

/-- A round of `skipDeclaration`, after `parens` open parentheses. -/
def declarationRound (last line : Nat) (ts : List Token) (pos parens : Nat) :
    Reading (Round Nat Nat) :=
  match ts[pos]? with
  | none => refuse line .unterminatedDeclaration
  | some t =>
    if t.isSymbol '(' then return .again (pos + 1) (parens + 1)
    else if t.isSymbol ')' then return .again (pos + 1) (parens - 1)
    else if parens = 0 ∧ t.isSymbol ';' then return .done (pos + 1)
    else if parens = 0 ∧ t.isSymbol '}' then return .done pos
    else if parens = 0 ∧ t.isSymbol '{' then do
      let body ← follows precedesBody ts pos
      let next ← skipBraces last ts pos
      return if ts[next]?.any (·.isSymbol ';') then .done (next + 1)
        else if body then .done next
        else .again next parens
    else return .again (pos + 1) parens

/-- The position after a declaration. -/
def skipDeclaration (last : Nat) (ts : List Token) (pos : Nat) : Reading Nat :=
  loop ts.length (declarationRound last (lineAt last ts pos) ts) pos 0

/-! ### Initial values -/

/-- Whether the name of a member, or of its type, ends with a token. -/
def endsName (t : Token) : Bool := t.word?.isSome || t.isSymbol '>'

/-- A round of `nextBrace`, after `parens` open parentheses. -/
def braceRound (line : Nat) (ts : List Token) (pos parens : Nat) : Reading (Round Nat Nat) :=
  match ts[pos]? with
  | none => refuse line .unterminatedConstructor
  | some t =>
    if t.isSymbol '(' then return .again (pos + 1) (parens + 1)
    else if t.isSymbol ')' then return .again (pos + 1) (parens - 1)
    else if parens = 0 ∧ t.isSymbol '{' then return .done pos
    else return .again (pos + 1) parens

/-- The next opening brace outside parentheses. -/
def nextBrace (last : Nat) (ts : List Token) (pos : Nat) : Reading Nat :=
  loop ts.length (braceRound (lineAt last ts pos) ts) pos 0

/-- A round of `skipInitializers`. -/
def initializerRound (last : Nat) (ts : List Token) (pos : Nat) (_ : Unit) :
    Reading (Round Unit Nat) := do
  let named ← follows endsName ts pos
  let next ← skipBraces last ts pos
  if named then return .again (← nextBrace last ts next) ()
  else return .done next

/-- The position after the initial values and the body of a constructor, given that of the first
opening brace. -/
def skipInitializers (last : Nat) (ts : List Token) (pos : Nat) : Reading Nat :=
  loop ts.length (initializerRound last ts) pos ()

/-! ### Positions where declarations can begin -/

/-- A position from which some tokens are left; if the first of them opens a block, that does not
follow a token that the body of a function can follow. -/
structure Stands (ts : List Token) (pos : Nat) (rest : List Token) : Prop where
  left : ts.drop pos = rest
  quiet : rest.head?.any (·.isSymbol '{') = true →
    (ts.take pos).getLast?.any precedesBody = false

section

variable {ts rest : List Token} {t : Token} {pos : Nat}

theorem getLast?_take_succ (h : ts.drop pos = t :: rest) :
    (ts.take (pos + 1)).getLast? = some t := by
  rw [List.take_add_one, getElem?_of_drop h, Option.toList_some, List.getLast?_concat]

theorem precedesBody_of_isSymbol {c : Char} (h : t.isSymbol c = true) :
    precedesBody t = (c == ')') := by
  obtain ⟨line, rfl⟩ := Token.exists_of_isSymbol h
  rw [precedesBody, Token.isSymbol_of_isSymbol h]
  simp [Token.isOneOf, Token.word?]

theorem endsName_of_isSymbol {c : Char} (h : t.isSymbol c = true) : endsName t = (c == '>') := by
  obtain ⟨line, rfl⟩ := Token.exists_of_isSymbol h
  rw [endsName, Token.isSymbol_of_isSymbol h]
  rfl

/-- A declaration can begin behind a token that no body can follow. -/
theorem stands_succ (h : ts.drop pos = t :: rest) (ht : precedesBody t = false) :
    Stands ts (pos + 1) rest :=
  ⟨drop_succ_of_drop h, fun _ => by rw [getLast?_take_succ h, Option.any_some, ht]⟩

theorem stands_succ_of_isSymbol {c : Char} (h : ts.drop pos = t :: rest) (ht : t.isSymbol c = true)
    (hc : (c == ')') = false) : Stands ts (pos + 1) rest :=
  stands_succ h ((precedesBody_of_isSymbol ht).trans hc)

/-- A declaration can begin in front of anything but a block. -/
theorem stands_of_head (h : ts.drop pos = rest)
    (hhead : rest.head?.any (·.isSymbol '{') = false) : Stands ts pos rest :=
  ⟨h, fun hbrace => absurd (hbrace.symm.trans hhead) (by decide)⟩

theorem stands_nil (h : ts.drop pos = []) : Stands ts pos [] := stands_of_head h rfl

theorem lineAt_eq (h : ts.drop pos = rest) (last : Nat) :
    lineAt last ts pos = lineOf last rest := by
  rw [lineAt, getElem?_eq_head? h, lineOf]

end

/-! ### Blocks and parameter lists agree -/

/-- A position right behind a closing bracket, from which some tokens are left. -/
def IsBehind (closing : Char) (ts : List Token) (pos : Nat) (rest : List Token) : Prop :=
  ∃ close t, pos = close + 1 ∧ ts.drop close = t :: rest ∧ t.isSymbol closing = true

section

variable {ts rest : List Token} {t : Token} {pos : Nat} {opening closing : Char}

theorem IsBehind.left (h : IsBehind closing ts pos rest) : ts.drop pos = rest := by
  obtain ⟨close, t, rfl, hdrop, -⟩ := h
  exact drop_succ_of_drop hdrop

theorem IsBehind.stands (h : IsBehind closing ts pos rest) (hclosing : (closing == ')') = false) :
    Stands ts pos rest := by
  obtain ⟨close, t, rfl, hdrop, ht⟩ := h
  exact stands_succ_of_isSymbol hdrop ht hclosing

/-- No name ends with a closing brace. -/
theorem IsBehind.endsName_eq_false (h : IsBehind '}' ts pos rest) :
    (ts.take pos).getLast?.any endsName = false := by
  obtain ⟨close, t, rfl, hdrop, ht⟩ := h
  rw [getLast?_take_succ hdrop, Option.any_some, endsName_of_isSymbol ht]
  rfl

theorem agrees_skipPair (closing : Char) (fault : ParseFault) (last : Nat)
    (h : ts.drop pos = t :: rest) (ht : t.isSymbol opening = true) :
    Agrees (IsBehind closing ts) (skipPair opening closing fault last ts pos)
      (match enclosed? opening closing 0 rest with
        | none => .error ⟨t.line, fault⟩
        | some (_, after) => .ok after) := by
  rw [skipPair]
  obtain ⟨henclosed, hclose⟩ | ⟨inside, after, close, henclosed, hclose, -, u, hu, hdrop⟩ :=
    closing?_cases closing h ht
  · rw [henclosed, hclose, lineAt_eq h]
    exact .refused _
  · rw [henclosed, hclose]
    exact .ok ⟨close, u, rfl, hdrop, hu⟩

theorem skipBraces_eq_refused (last : Nat) (h : ts.drop pos = t :: rest)
    (ht : t.isSymbol '{' = true) (hblock : enclosed? '{' '}' 0 rest = none) :
    skipBraces last ts pos = .error (.refused ⟨t.line, .unbalancedBraces⟩) := by
  have hagrees := agrees_skipPair '}' .unbalancedBraces last h ht
  rw [hblock] at hagrees
  exact hagrees.eq_refused

theorem exists_skipBraces (last : Nat) {inside after : List Token} (h : ts.drop pos = t :: rest)
    (ht : t.isSymbol '{' = true) (hblock : enclosed? '{' '}' 0 rest = some (inside, after)) :
    ∃ next, skipBraces last ts pos = .ok next ∧ IsBehind '}' ts next after := by
  have hagrees := agrees_skipPair '}' .unbalancedBraces last h ht
  rw [hblock] at hagrees
  exact hagrees.exists_eq_ok

/-- Only where a brace opens can braces be skipped: at one that closes, the count would fall. -/
example : skipBraces 1 [⟨.symbol '}', 1⟩] 0 = .error .belowZero := by cbv

theorem agrees_skipTemplate (last : Nat) (h : Stands ts pos rest) :
    Agrees (Stands ts) (skipTemplate last ts pos) (Header.skipTemplate rest) := by
  rw [skipTemplate, getElem?_eq_head? h.left]
  cases rest with
  | nil => exact .ok h
  | cons t rest =>
    rw [Header.skipTemplate, List.head?_cons, Option.any_some]
    split
    · next hopening =>
      exact (agrees_skipPair '>' _ last h.left hopening).mono fun _ _ hbehind => hbehind.stands rfl
    · exact .ok h

/-! ### Declarations agree -/

theorem declarationRound_of_drop (last line parens : Nat) (h : ts.drop pos = t :: rest) :
    declarationRound last line ts pos parens =
      if t.isSymbol '(' then .ok (.again (pos + 1) (parens + 1))
      else if t.isSymbol ')' then .ok (.again (pos + 1) (parens - 1))
      else if parens = 0 ∧ t.isSymbol ';' then .ok (.done (pos + 1))
      else if parens = 0 ∧ t.isSymbol '}' then .ok (.done pos)
      else if parens = 0 ∧ t.isSymbol '{' then
        skipBraces last ts pos >>= fun next =>
          .ok (if ts[next]?.any (·.isSymbol ';') then .done (next + 1)
            else if (ts.take pos).getLast?.any precedesBody then .done next
            else .again next parens)
      else .ok (.again (pos + 1) parens) := by
  rw [declarationRound, getElem?_of_drop h,
    follows_eq_ok precedesBody (Nat.le_of_lt (lt_length_of_drop h))]
  rfl

/-- A block in a declaration is skipped, and what follows it tells how the declaration goes on. -/
theorem declarationRound_of_block (last line : Nat) {inside after : List Token} {body : Bool}
    (h : ts.drop pos = t :: rest) (ht : t.isSymbol '{' = true)
    (hbody : (ts.take pos).getLast?.any precedesBody = body)
    (hblock : enclosed? '{' '}' 0 rest = some (inside, after)) :
    ∃ next, Stands ts next after ∧ declarationRound last line ts pos 0 =
      .ok (if after.head?.any (·.isSymbol ';') then .done (next + 1)
        else if body then .done next
        else .again next 0) := by
  obtain ⟨next, hnext, hbehind⟩ := exists_skipBraces last h ht hblock
  refine ⟨next, hbehind.stands rfl, ?_⟩
  have hother (c : Char) : t.isSymbol c = ('{' == c) := Token.isSymbol_of_isSymbol ht c
  rw [declarationRound_of_drop last line 0 h, hother, hother, hother, hother, hnext, hbody, ht,
    if_neg (by decide), if_neg (by decide), if_neg (by decide), if_neg (by decide),
    if_pos ⟨rfl, rfl⟩, ← getElem?_eq_head? hbehind.left]
  rfl

/-- Past a token that opens no block, the loop goes on one position further. -/
theorem agrees_of_passed {last line parens parens' : Nat} {body : Bool}
    (h : ts.drop pos = t :: rest)
    (hround : declarationRound last line ts pos parens = .ok (.again (pos + 1) parens'))
    (ht : precedesBody t = body)
    (ih : ts.drop (pos + 1) = rest → (rest.head?.any (·.isSymbol '{') = true →
        (ts.take (pos + 1)).getLast?.any precedesBody = body) →
      Agrees (Stands ts) (loop ts.length (declarationRound last line ts) (pos + 1) parens')
        (skipFrom line parens' body rest)) :
    Agrees (Stands ts) (loop ts.length (declarationRound last line ts) pos parens)
      (skipFrom line parens' body rest) := by
  rw [loop_of_succ h hround]
  exact ih (drop_succ_of_drop h) fun _ => by rw [getLast?_take_succ h, Option.any_some, ht]

/-- A block ends a declaration with the semicolon behind it, or as the body of a function. Else the
loop goes on behind it, where no body can follow. -/
theorem agrees_of_block {last line : Nat} {inside after : List Token} {body : Bool}
    (h : ts.drop pos = t :: rest) (ht : t.isSymbol '{' = true)
    (hbody : (ts.take pos).getLast?.any precedesBody = body)
    (hblock : enclosed? '{' '}' 0 rest = some (inside, after))
    (ih : after.head?.any (·.isSymbol ';') ≠ true → body ≠ true → ∀ next, Stands ts next after →
      Agrees (Stands ts) (loop ts.length (declarationRound last line ts) next 0)
        (skipFrom line 0 false after)) :
    Agrees (Stands ts) (loop ts.length (declarationRound last line ts) pos 0)
      (if after.head?.any (·.isSymbol ';') then .ok after.tail
        else if body then .ok after
        else skipFrom line 0 false after) := by
  obtain ⟨next, hstands, hround⟩ := declarationRound_of_block last line h ht hbody hblock
  by_cases hhead : after.head?.any (·.isSymbol ';') = true
  · rw [if_pos hhead] at hround ⊢
    rw [loop_of_done hround]
    cases after with
    | nil => cases hhead
    | cons s after => exact .ok (stands_succ_of_isSymbol hstands.left hhead rfl)
  rw [if_neg hhead] at hround ⊢
  by_cases hbody' : body = true
  · rw [if_pos hbody'] at hround ⊢
    rw [loop_of_done hround]
    exact .ok hstands
  rw [if_neg hbody'] at hround ⊢
  rw [loop_of_again hround (lt_length_of_drop h)]
  · exact ih hhead hbody' next hstands
  · exact lt_of_drop h hstands.left (Nat.lt_succ_of_lt (length_lt_of_enclosed? hblock))

theorem agrees_loop_declarationRound {last line parens : Nat} {body : Bool}
    (h : ts.drop pos = rest) (hbody : rest.head?.any (·.isSymbol '{') = true →
      (ts.take pos).getLast?.any precedesBody = body) :
    Agrees (Stands ts) (loop ts.length (declarationRound last line ts) pos parens)
      (skipFrom line parens body rest) := by
  fun_induction skipFrom line parens body rest generalizing pos with
  | case1 parens body =>
    have hround : declarationRound last line ts pos parens =
        .error (.refused ⟨line, .unterminatedDeclaration⟩) := by
      rw [declarationRound, getElem?_of_drop_nil h]
      rfl
    rw [loop_of_error hround]
    exact .refused _
  | case2 parens body t rest hopening ih =>
    have hround := (declarationRound_of_drop last line parens h).trans (if_pos hopening)
    exact agrees_of_passed h hround (precedesBody_of_isSymbol hopening) ih
  | case3 parens body t rest hopening hclosing ih =>
    have hround := declarationRound_of_drop last line parens h
    rw [if_neg hopening, if_pos hclosing] at hround
    exact agrees_of_passed h hround (precedesBody_of_isSymbol hclosing) ih
  | case4 parens body t rest hopening hclosing hsemicolon =>
    have hround := declarationRound_of_drop last line parens h
    rw [if_neg hopening, if_neg hclosing, if_pos hsemicolon] at hround
    rw [loop_of_done hround]
    exact .ok (stands_succ_of_isSymbol h hsemicolon.2 rfl)
  | case5 parens body t rest hopening hclosing hsemicolon hend =>
    have hround := declarationRound_of_drop last line parens h
    rw [if_neg hopening, if_neg hclosing, if_neg hsemicolon, if_pos hend] at hround
    rw [loop_of_done hround]
    exact .ok (stands_of_head h (Token.isSymbol_of_isSymbol hend.2 '{'))
  | case6 parens body t rest hopening hclosing hsemicolon hend hbrace hunbalanced =>
    have hround := declarationRound_of_drop last line parens h
    rw [if_neg hopening, if_neg hclosing, if_neg hsemicolon, if_neg hend, if_pos hbrace,
      skipBraces_eq_refused last h hbrace.2 hunbalanced] at hround
    rw [loop_of_error hround]
    exact .refused _
  -- the three ends of a block, told by what follows it and by what stands in front of it
  | case7 parens body t rest hopening hclosing hsemicolon hend hbrace inside after hblock hhead =>
    obtain ⟨rfl, hbrace⟩ := hbrace
    have hends : Agrees (Stands ts) (loop ts.length (declarationRound last line ts) pos 0) _ :=
      agrees_of_block h hbrace (hbody hbrace) hblock fun hne => absurd hhead hne
    rwa [if_pos hhead] at hends
  | case8 parens t rest hopening hclosing hsemicolon hend hbrace inside after hblock hhead =>
    obtain ⟨rfl, hbrace⟩ := hbrace
    have hends : Agrees (Stands ts) (loop ts.length (declarationRound last line ts) pos 0) _ :=
      agrees_of_block h hbrace (hbody hbrace) hblock fun _ hne => absurd rfl hne
    rwa [if_neg hhead, if_pos rfl] at hends
  | case9 parens body t rest hopening hclosing hsemicolon hend hbrace inside after hblock hhead
      hbody' ih =>
    obtain ⟨rfl, hbrace⟩ := hbrace
    have hends := agrees_of_block h hbrace (hbody hbrace) hblock fun _ _ _ hstands =>
      ih hstands.left hstands.quiet
    rwa [if_neg hhead, if_neg hbody'] at hends
  | case10 parens body t rest hopening hclosing hsemicolon hend hbrace ih =>
    have hround := declarationRound_of_drop last line parens h
    rw [if_neg hopening, if_neg hclosing, if_neg hsemicolon, if_neg hend, if_neg hbrace] at hround
    exact agrees_of_passed h hround rfl ih

theorem agrees_skipDeclaration (last : Nat) (h : Stands ts pos rest) :
    Agrees (Stands ts) (skipDeclaration last ts pos) (Header.skipDeclaration last rest) := by
  rw [skipDeclaration, Header.skipDeclaration, lineAt_eq h.left]
  exact agrees_loop_declarationRound h.left h.quiet

/-! ### Initial values agree -/

/-- An opening brace, with what tells how the reading goes on from it: whether it follows a name,
its line, and what stands behind it. -/
def IsBrace (ts : List Token) (pos : Nat) : Bool × Nat × List Token → Prop
  | (named, line, rest) => ∃ t : Token, ts.drop pos = t :: rest ∧ t.isSymbol '{' = true ∧
      t.line = line ∧ (ts.take pos).getLast?.any endsName = named

theorem braceRound_of_drop (line parens : Nat) (h : ts.drop pos = t :: rest) :
    braceRound line ts pos parens =
      if t.isSymbol '(' then .ok (.again (pos + 1) (parens + 1))
      else if t.isSymbol ')' then .ok (.again (pos + 1) (parens - 1))
      else if parens = 0 ∧ t.isSymbol '{' then .ok (.done pos)
      else .ok (.again (pos + 1) parens) := by
  rw [braceRound, getElem?_of_drop h]
  rfl

theorem agrees_loop_braceRound {line parens : Nat} {named : Bool} (h : ts.drop pos = rest)
    (hnamed : (ts.take pos).getLast?.any endsName = named) :
    Agrees (IsBrace ts) (loop ts.length (braceRound line ts) pos parens)
      (match nextBrace? parens named rest with
        | none => .error ⟨line, .unterminatedConstructor⟩
        | some brace => .ok brace) := by
  -- behind a token, whether a name ends there is told by the token
  have hends {t : Token} {rest : List Token} {pos : Nat} (h : ts.drop pos = t :: rest) :
      (ts.take (pos + 1)).getLast?.any endsName = endsName t := by
    rw [getLast?_take_succ h, Option.any_some]
  fun_induction nextBrace? parens named rest generalizing pos with
  | case1 parens named =>
    have hend : braceRound line ts pos parens =
        .error (.refused ⟨line, .unterminatedConstructor⟩) := by
      rw [braceRound, getElem?_of_drop_nil h]
      rfl
    rw [loop_of_error hend]
    exact .refused _
  | case2 parens named t rest _ hopening =>
    rename_i ih
    rw [loop_of_succ h ((braceRound_of_drop line parens h).trans (if_pos hopening))]
    exact ih (drop_succ_of_drop h) (hends h)
  | case3 parens named t rest _ hopening hclosing =>
    rename_i ih
    have hagain := braceRound_of_drop line parens h
    rw [if_neg hopening, if_pos hclosing] at hagain
    rw [loop_of_succ h hagain]
    exact ih (drop_succ_of_drop h) (hends h)
  | case4 parens named t rest hopening hclosing hbrace =>
    have hdone := braceRound_of_drop line parens h
    rw [if_neg hopening, if_neg hclosing, if_pos hbrace] at hdone
    rw [loop_of_done hdone]
    exact .ok ⟨t, h, hbrace.2, rfl, hnamed⟩
  | case5 parens named t rest _ hopening hclosing hbrace =>
    rename_i ih
    have hagain := braceRound_of_drop line parens h
    rw [if_neg hopening, if_neg hclosing, if_neg hbrace] at hagain
    rw [loop_of_succ h hagain]
    exact ih (drop_succ_of_drop h) (hends h)

theorem agrees_nextBrace (last : Nat) (h : ts.drop pos = rest)
    (hnamed : (ts.take pos).getLast?.any endsName = false) :
    Agrees (IsBrace ts) (nextBrace last ts pos)
      (match nextBrace? 0 false rest with
        | none => .error ⟨lineOf last rest, .unterminatedConstructor⟩
        | some brace => .ok brace) := by
  rw [nextBrace, lineAt_eq h]
  exact agrees_loop_braceRound h hnamed

theorem initializerRound_of_drop (last : Nat) (h : ts.drop pos = t :: rest) :
    initializerRound last ts pos () = skipBraces last ts pos >>= fun next =>
      if (ts.take pos).getLast?.any endsName then
        nextBrace last ts next >>= fun brace => .ok (.again brace ())
      else .ok (.done next) := by
  rw [initializerRound, follows_eq_ok endsName (Nat.le_of_lt (lt_length_of_drop h))]
  rfl

theorem agrees_skipInitializers {last line : Nat} {named : Bool}
    (h : IsBrace ts pos (named, line, rest)) :
    Agrees (Stands ts) (skipInitializers last ts pos)
      (Header.skipInitializers last named line rest) := by
  unfold skipInitializers
  fun_induction Header.skipInitializers last named line rest generalizing pos with
  | case1 named line rest hunbalanced =>
    obtain ⟨t, hdrop, ht, rfl, -⟩ := h
    have hround := initializerRound_of_drop last hdrop
    rw [skipBraces_eq_refused last hdrop ht hunbalanced] at hround
    rw [loop_of_error hround]
    exact .refused _
  | case2 line rest inside after hblock hnone =>
    obtain ⟨t, hdrop, ht, rfl, hends⟩ := h
    obtain ⟨next, hskip, hbehind⟩ := exists_skipBraces last hdrop ht hblock
    have hbrace := agrees_nextBrace last hbehind.left hbehind.endsName_eq_false
    rw [hnone] at hbrace
    have hround := initializerRound_of_drop last hdrop
    rw [hskip, hends] at hround
    change _ = nextBrace last ts next >>= _ at hround
    rw [hbrace.eq_refused] at hround
    rw [loop_of_error hround]
    exact .refused _
  | case3 line rest inside after hblock named' line' rest' hnext ih =>
    obtain ⟨t, hdrop, ht, rfl, hends⟩ := h
    obtain ⟨next, hskip, hbehind⟩ := exists_skipBraces last hdrop ht hblock
    have hbrace := agrees_nextBrace last hbehind.left hbehind.endsName_eq_false
    rw [hnext] at hbrace
    obtain ⟨brace, hfound, hbrace⟩ := hbrace.exists_eq_ok
    have hround := initializerRound_of_drop last hdrop
    rw [hskip, hends] at hround
    change _ = nextBrace last ts next >>= _ at hround
    rw [hfound] at hround
    rw [loop_of_again hround (lt_length_of_drop hdrop)]
    · exact ih hbrace
    -- a block and what leads to the next brace are shorter than what was left
    · obtain ⟨t', hdrop', -⟩ := hbrace
      have hafter := length_lt_of_enclosed? hblock
      have hrest' := length_lt_of_nextBrace? hnext
      exact lt_of_drop hdrop hdrop' (by simp only [List.length_cons]; omega)
  | case4 named line rest inside after hblock hnamed =>
    obtain ⟨t, hdrop, ht, rfl, hends⟩ := h
    obtain ⟨next, hskip, hbehind⟩ := exists_skipBraces last hdrop ht hblock
    have hround := initializerRound_of_drop last hdrop
    rw [hskip, hends] at hround
    change _ = (if named = true then _ else _) at hround
    rw [if_neg hnamed] at hround
    rw [loop_of_done hround]
    exact .ok (hbehind.stands rfl)

end

end Instrument.Header.ByPosition
