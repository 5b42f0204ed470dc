import Instrument.Header.Method
import Instrument.Proofs.Header.Attributes
import Instrument.Proofs.Header.ByPosition.Loop
import Instrument.Proofs.Success

/-!
The method that the tokens of a member declare, read by position. Main statement: it is the method
that a reading of lists gives; no token is asked for where there is none, and no count of brackets
falls below zero.
-/

namespace Instrument.Header.ByPosition

open Success

/-! ### Brackets -/

/-- A round of `closing?`. -/
def closingRound (opening closing : Char) (ts : List Token) (pos depth : Nat) :
    Reading (Round Nat (Option Nat)) :=
  match ts[pos]? with
  | none => return .done none
  | some t =>
    if t.isSymbol opening then return .again (pos + 1) (depth + 1)
    else if t.isSymbol closing then do
      let depth ← decrement depth
      return if depth = 0 then .done (some pos) else .again (pos + 1) depth
    else return .again (pos + 1) depth

/-- Where the bracket that opens at a position is closed, if it is. -/
def closing? (opening closing : Char) (ts : List Token) (pos : Nat) : Reading (Option Nat) :=
  loop ts.length (closingRound opening closing ts) pos 0

/-! ### Parameters -/

/-- What `splitAtCommas` knows at a position: how deep in brackets it is, where the piece begins,
and the pieces before. -/
structure Splitting where
  depth : Int
  first : Nat
  found : List (List Token)

/-- A round of `splitAtCommas`. -/
def splitRound (ts : List Token) (pos : Nat) (s : Splitting) :
    Reading (Round Splitting (List (List Token))) :=
  match ts[pos]? with
  | none => do return .done (s.found ++ [← slice ts s.first ts.length])
  | some t =>
    if t.isSymbol ',' ∧ s.depth = 0 then do
      return .again (pos + 1) { s with
        first := pos + 1
        found := s.found ++ [← slice ts s.first pos] }
    else return .again (pos + 1) { s with
      depth := depthAfter ['<', '(', '{', '['] ['>', ')', '}', ']'] s.depth t }

/-- The tokens between commas outside all brackets. -/
def splitAtCommas (ts : List Token) : Reading (List (List Token)) :=
  loop ts.length (splitRound ts) 0 ⟨0, 0, []⟩

/-- A round of `defaultStart`. -/
def defaultRound (ts : List Token) (pos : Nat) (depth : Int) : Reading (Round Int Nat) :=
  match ts[pos]? with
  | none => return .done ts.length
  | some t =>
    if t.isSymbol '=' ∧ depth = 0 then return .done pos
    else return .again (pos + 1) (depthAfter ['<', '(', '{'] ['>', ')', '}'] depth t)

/-- Where the default value of a parameter begins. -/
def defaultStart (ts : List Token) : Reading Nat := loop ts.length (defaultRound ts) 0 0

/-- The parameter that some tokens declare. -/
def parameter (ts : List Token) : Reading Parameter := do
  let ts ← slice ts 0 (← defaultStart ts)
  return match ts.getLast? with
    | some last =>
      if isParameterName ts.dropLast last then ⟨last.word?, typeText ts.dropLast⟩
      else ⟨none, typeText ts⟩
    | none => ⟨none, typeText ts⟩

/-- The parameters that a list between parentheses declares. -/
def parameters (ts : List Token) : Reading (List Parameter) :=
  if ts.isEmpty then return []
  else do
    return match ← (← splitAtCommas ts).mapM parameter with
      | [⟨none, "void"⟩] => []
      | all => all

/-! ### The result -/

/-- A round of `attributeEnd`. -/
def attributeRound (ts : List Token) (pos : Nat) (_ : Unit) : Reading (Round Unit Nat) :=
  if pos < ts.length then do
    let t ← entry ts pos
    return if t.isSymbol ']' ∧ ts[pos + 1]?.any (·.isSymbol ']') then .done pos
      else .again (pos + 1) ()
  else return .done pos

/-- Where the brackets stand that close an attribute. -/
def attributeEnd (ts : List Token) (pos : Nat) : Reading Nat :=
  loop ts.length (attributeRound ts) pos ()

/-- A round of `dropSpecifiers`. -/
def specifierRound (ts : List Token) (pos : Nat) (kept : List Token) :
    Reading (Round (List Token) (List Token)) :=
  if pos < ts.length then do
    let t ← entry ts pos
    if t.isSymbol '[' ∧ ts[pos + 1]?.any (·.isSymbol '[') then do
      return .again ((← attributeEnd ts pos) + 2) kept
    else return .again (pos + 1) (if t.isOneOf specifiers then kept else kept ++ [t])
  else return .done kept

/-- The tokens without attributes and specifiers. -/
def dropSpecifiers (ts : List Token) : Reading (List Token) :=
  loop ts.length (specifierRound ts) 0 []

/-- Where the first arrow stands. -/
def arrow? (ts : List Token) : Option Nat :=
  (ts.zip ts.tail).findIdx? fun (a, b) => a.isSymbol '-' && b.isSymbol '>'

/-- The text of the type of a result. -/
def resultText (before after : List Token) : Reading String := do
  let text := typeText (← dropSpecifiers before)
  match arrow? after with
  | none => return text
  | some arrow => do
    let tail ← slice after (arrow + 2) after.length
    return if text = "auto" then
        typeText (tail.takeWhile fun t => !(t.isOneOf ["override", "final"] || t.isSymbol '='))
      else text

/-! ### The method -/

/-- The method whose parameters stand between the parentheses at `opening` and `close`, and whose
result stands in front of `last`. -/
def methodNamed (className : String) (isPublic : Bool) (ts : List Token) (word : String)
    (destructor : Bool) (last opening close : Nat) : Reading (Option Method) := do
  let parameters ← parameters (← slice ts (opening + 1) close)
  let result ← resultText (← slice ts 0 last) (← slice ts (close + 1) ts.length)
  let name := if destructor then "~" ++ word else word
  return if result.isEmpty && name != className && !destructor then none
    else some {
      name := name
      line := (ts.head?.map (·.line)).getD 0
      returnType := result
      parameters := parameters
      isPublic := isPublic }

/-- Where the result ends in front of a name at `place`; a tilde there is no part of it. -/
def resultEnd (destructor : Bool) (place : Nat) : Reading Nat :=
  if destructor then decrement place else return place

/-- The method whose parameters begin with the parenthesis at `opening`, which is not the first
token. -/
def methodAt (className : String) (isPublic : Bool) (ts : List Token) (opening : Nat) :
    Reading (Option Method) := do
  let place ← decrement opening
  match (← entry ts place).word? with
  | none => return none
  | some word =>
    if typeWords.contains word then return none
    else do
      let destructor ← follows (·.isSymbol '~') ts place
      let last ← resultEnd destructor place
      match ← closing? '(' ')' ts opening with
      | none => return none
      | some close => methodNamed className isPublic ts word destructor last opening close

/-- The method that the tokens of a member declare. -/
def method? (className : String) (isPublic : Bool) (ts : List Token) : Reading (Option Method) :=
  if ts.any (·.isWord "operator") then return none
  else
    match ts.findIdx? (·.isSymbol '(') with
    | none => return none
    | some opening =>
      if opening = 0 then return none else methodAt className isPublic ts opening

/-- Whether initial values of members stand between a constructor's parameters and its body. -/
def hasInitializers (ts : List Token) : Reading Bool :=
  match ts.findIdx? (·.isSymbol '(') with
  | none => return false
  | some opening => do
    match ← closing? '(' ')' ts opening with
    | none => return false
    | some close => return (← slice ts (close + 1) ts.length).any (·.isSymbol ':')

/-! ### Brackets agree -/

section

variable {opening closing : Char} {ts rest : List Token} {t : Token} {pos : Nat}

theorem closingRound_of_drop (opening closing : Char) (h : ts.drop pos = t :: rest) (depth : Nat) :
    closingRound opening closing ts pos depth =
      if t.isSymbol opening then .ok (.again (pos + 1) (depth + 1))
      else if t.isSymbol closing then
        decrement depth >>= fun depth =>
          .ok (if depth = 0 then .done (some pos) else .again (pos + 1) depth)
      else .ok (.again (pos + 1) depth) := by
  rw [closingRound, getElem?_of_drop h]
  rfl

theorem loop_closingRound (depth : Nat) (h : ts.drop pos = rest) :
    loop ts.length (closingRound opening closing ts) pos (depth + 1) =
      .ok ((enclosed? opening closing depth rest).map fun (inside, _) => pos + inside.length) := by
  have hshift (t : Token) (pos : Nat) (r : Option (List Token × List Token)) :
      (r.map fun (inside, rest) => (t :: inside, rest)).map (fun (inside, _) =>
        pos + inside.length) = r.map fun (inside, _) => pos + 1 + inside.length := by
    cases r with
    | none => rfl
    | some r => simp [Nat.add_assoc, Nat.add_comm 1]
  fun_induction enclosed? opening closing depth rest generalizing pos with
  | case1 depth =>
    refine loop_of_done ?_
    rw [closingRound, getElem?_of_drop_nil h]
    rfl
  | case2 depth t rest hopening ih =>
    have hround := (closingRound_of_drop opening closing h (depth + 1)).trans (if_pos hopening)
    rw [loop_of_succ h hround,
      ih (drop_succ_of_drop h), hshift]
  | case3 t rest hopening hclosing =>
    exact loop_of_done ((closingRound_of_drop opening closing h 1).trans
      ((if_neg hopening).trans (if_pos hclosing)))
  | case4 t rest hopening hclosing depth ih =>
    have hround := (closingRound_of_drop opening closing h (depth + 2)).trans
      ((if_neg hopening).trans (if_pos hclosing))
    rw [loop_of_succ h hround,
      ih (drop_succ_of_drop h), hshift]
  | case5 depth t rest hopening hclosing ih =>
    have hround := (closingRound_of_drop opening closing h (depth + 1)).trans
      ((if_neg hopening).trans (if_neg hclosing))
    rw [loop_of_succ h hround,
      ih (drop_succ_of_drop h), hshift]

/-- A bracket is closed where the tokens between it and the closing one end. -/
theorem closing?_eq_ok (closing : Char) (h : ts.drop pos = t :: rest)
    (ht : t.isSymbol opening = true) :
    closing? opening closing ts pos =
      .ok ((enclosed? opening closing 0 rest).map fun (inside, _) =>
        pos + 1 + inside.length) := by
  have hround := (closingRound_of_drop opening closing h 0).trans (if_pos ht)
  rw [closing?, loop_of_succ h hround]
  exact loop_closingRound 0 (drop_succ_of_drop h)

/-- Where a bracket is not closed, none is found; else the tokens between the brackets, and those
behind, can be cut out. -/
theorem closing?_cases (closing : Char) (h : ts.drop pos = t :: rest)
    (ht : t.isSymbol opening = true) :
    (enclosed? opening closing 0 rest = none ∧ closing? opening closing ts pos = .ok none) ∨
    ∃ inside after close, enclosed? opening closing 0 rest = some (inside, after) ∧
      closing? opening closing ts pos = .ok (some close) ∧
      slice ts (pos + 1) close = .ok inside ∧
      (∃ u : Token, u.isSymbol closing = true ∧ ts.drop close = u :: after) := by
  have hclosing := closing?_eq_ok closing h ht
  cases henclosed : enclosed? opening closing 0 rest with
  | none => exact .inl ⟨rfl, by rw [hclosing, henclosed]; rfl⟩
  | some r =>
    obtain ⟨inside, after⟩ := r
    obtain ⟨u, hu, rfl⟩ := eq_append_of_enclosed? henclosed
    have hdrop := drop_succ_of_drop h
    refine .inr ⟨inside, after, pos + 1 + inside.length, rfl, ?_, ?_, u, hu, ?_⟩
    · rw [hclosing, henclosed]
      rfl
    · exact slice_of_drop hdrop (lt_length_of_drop h)
    · exact drop_of_drop_append hdrop

end

/-! ### Parameters agree -/

section

variable {ts rest front : List Token} {t : Token} {pos : Nat}

theorem splitRound_of_drop (h : ts.drop pos = t :: rest) (s : Splitting) :
    splitRound ts pos s =
      if t.isSymbol ',' ∧ s.depth = 0 then
        slice ts s.first pos >>= fun piece =>
          .ok (.again (pos + 1) ⟨s.depth, pos + 1, s.found ++ [piece]⟩)
      else .ok (.again (pos + 1)
        ⟨depthAfter ['<', '(', '{', '['] ['>', ')', '}', ']'] s.depth t, s.first, s.found⟩) := by
  rw [splitRound, getElem?_of_drop h]
  rfl

/-- From any position on, the pieces of what is left follow those before; the first of them goes on
with the tokens from `first` on. -/
theorem loop_splitRound {first : Nat} (front : List Token) (depth : Int) (found : List (List Token))
    (h : ts.drop first = front ++ rest) (hfirst : first ≤ ts.length) :
    ∃ piece more, Header.splitAtCommas depth rest = piece :: more ∧
      loop ts.length (splitRound ts) (first + front.length) ⟨depth, first, found⟩ =
        .ok (found ++ (front ++ piece) :: more) := by
  induction rest generalizing first front depth found with
  | nil =>
    have hend := drop_of_drop_append h
    have hslice := slice_to_end (h.trans (List.append_nil front)) hfirst
    refine ⟨[], [], rfl, loop_of_done ?_⟩
    rw [splitRound, getElem?_of_drop_nil hend]
    change slice ts first ts.length >>= _ = _
    rw [hslice, List.append_nil]
    rfl
  | cons t rest ih =>
    have hpos := drop_of_drop_append h
    by_cases hcomma : t.isSymbol ',' = true ∧ depth = 0
    · obtain ⟨piece, more, hsplit, hloop⟩ := ih [] depth (found ++ [front])
        (drop_succ_of_drop hpos) (lt_length_of_drop hpos)
      refine ⟨[], piece :: more, ?_, ?_⟩
      · rw [Header.splitAtCommas, if_pos hcomma, hsplit]
      · have hround := (splitRound_of_drop hpos ⟨depth, first, found⟩).trans (if_pos hcomma)
        rw [slice_of_drop h hfirst] at hround
        rw [loop_of_succ hpos hround]
        refine hloop.trans ?_
        rw [List.append_nil, List.append_assoc]
        rfl
    -- the token belongs to the piece that began at the first position
    · have hfront : ts.drop first = (front ++ [t]) ++ rest := by
        rw [h, List.append_assoc, List.singleton_append]
      obtain ⟨piece, more, hsplit, hloop⟩ :=
        ih (front ++ [t]) (depthAfter ['<', '(', '{', '['] ['>', ')', '}', ']'] depth t) found
          hfront hfirst
      refine ⟨t :: piece, more, ?_, ?_⟩
      · rw [Header.splitAtCommas, if_neg hcomma, hsplit]
      · have hround := (splitRound_of_drop hpos ⟨depth, first, found⟩).trans (if_neg hcomma)
        rw [loop_of_succ hpos hround]
        rw [List.length_append, List.length_singleton, ← Nat.add_assoc] at hloop
        rw [hloop, List.append_assoc, List.singleton_append]

theorem splitAtCommas_eq_ok (ts : List Token) :
    splitAtCommas ts = .ok (Header.splitAtCommas 0 ts) := by
  obtain ⟨piece, more, hsplit, hloop⟩ := loop_splitRound [] 0 [] (List.drop_zero (l := ts))
    (Nat.zero_le _)
  rw [hsplit]
  exact hloop

theorem dropDefault_isPrefix (depth : Int) (ts : List Token) : dropDefault depth ts <+: ts := by
  fun_induction dropDefault depth ts with
  | case1 => exact List.prefix_refl []
  | case2 => exact List.nil_prefix
  | case3 depth t ts _ ih => exact (List.prefix_cons_inj t).2 ih

theorem loop_defaultRound (depth : Int) (h : ts.drop pos = rest) (hpos : pos ≤ ts.length) :
    loop ts.length (defaultRound ts) pos depth = .ok (pos + (dropDefault depth rest).length) := by
  fun_induction dropDefault depth rest generalizing pos with
  | case1 depth =>
    rw [Nat.le_antisymm hpos (List.drop_eq_nil_iff.1 h)]
    refine loop_of_done ?_
    rw [defaultRound, List.getElem?_eq_none (Nat.le_refl _)]
    rfl
  | case2 depth t rest hdefault =>
    refine loop_of_done ?_
    rw [defaultRound, getElem?_of_drop h]
    exact if_pos hdefault
  | case3 depth t rest hdefault ih =>
    have hround : defaultRound ts pos depth =
        .ok (.again (pos + 1) (depthAfter ['<', '(', '{'] ['>', ')', '}'] depth t)) := by
      rw [defaultRound, getElem?_of_drop h]
      exact if_neg hdefault
    rw [loop_of_succ h hround,
      ih (drop_succ_of_drop h) (lt_length_of_drop h), List.length_cons, Nat.add_assoc,
      Nat.add_comm 1]

theorem parameter_eq_ok (ts : List Token) : parameter ts = .ok (Header.parameter ts) := by
  have hstart : defaultStart ts = .ok (dropDefault 0 ts).length := by
    rw [defaultStart, loop_defaultRound 0 List.drop_zero (Nat.zero_le _), Nat.zero_add]
  have hslice : slice ts 0 (dropDefault 0 ts).length = .ok (dropDefault 0 ts) := by
    obtain ⟨rest, hrest⟩ := dropDefault_isPrefix 0 ts
    have hts : ts.drop 0 = dropDefault 0 ts ++ rest := hrest.symm
    simpa only [Nat.zero_add] using slice_of_drop hts (Nat.zero_le _)
  rw [parameter, hstart]
  change slice ts 0 (dropDefault 0 ts).length >>= _ = _
  rw [hslice]
  rfl

theorem parameters_eq_ok (ts : List Token) : parameters ts = .ok (Header.parameters ts) := by
  rw [parameters, Header.parameters]
  split
  · rfl
  · rw [splitAtCommas_eq_ok]
    change List.mapM parameter (Header.splitAtCommas 0 ts) >>= _ = _
    rw [mapM_eq_ok fun piece _ => parameter_eq_ok piece]
    rfl

end

/-! ### Results agree -/

section

variable {ts rest : List Token} {t : Token} {pos : Nat}

theorem attributeRound_of_drop (h : ts.drop pos = t :: rest) :
    attributeRound ts pos () =
      .ok (if t.isSymbol ']' ∧ rest.head?.any (·.isSymbol ']') then .done pos
        else .again (pos + 1) ()) := by
  rw [attributeRound, if_pos (lt_length_of_drop h), entry_of_drop h, getElem?_succ_of_drop h]
  rfl

theorem attributeEnd_eq_ok (h : ts.drop pos = rest) :
    ∃ last, attributeEnd ts pos = .ok last ∧ ts.drop (last + 2) = afterAttribute rest := by
  unfold attributeEnd
  have hend {pos : Nat} (h : ts.drop pos = []) :
      loop ts.length (attributeRound ts) pos () = .ok pos ∧ ts.drop (pos + 2) = [] := by
    have hle := List.drop_eq_nil_iff.1 h
    exact ⟨loop_of_done (if_neg (Nat.not_lt.2 hle)), List.drop_eq_nil_iff.2 (by omega)⟩
  fun_induction afterAttribute rest generalizing pos with
  | case1 t u rest hclose =>
    refine ⟨pos, loop_of_done ((attributeRound_of_drop h).trans ?_), drop_of_drop_cons h 1⟩
    rw [if_pos (by simpa using hclose)]
  | case2 t u rest hclose ih =>
    have hagain : attributeRound ts pos () = .ok (.again (pos + 1) ()) := by
      rw [attributeRound_of_drop h, if_neg (by simpa using hclose)]
    rw [loop_of_succ h hagain]
    exact ih (drop_succ_of_drop h)
  | case3 rest hshort =>
    obtain _ | ⟨t, _ | ⟨u, rest⟩⟩ := rest
    · exact ⟨pos, hend h⟩
    · have hagain : attributeRound ts pos () = .ok (.again (pos + 1) ()) := by
        rw [attributeRound_of_drop h, if_neg (by simp)]
      rw [loop_of_succ h hagain]
      exact ⟨pos + 1, hend (drop_succ_of_drop h)⟩
    · exact absurd rfl (hshort t u rest)

theorem specifierRound_of_drop (kept : List Token) (h : ts.drop pos = t :: rest) :
    specifierRound ts pos kept =
      if t.isSymbol '[' ∧ rest.head?.any (·.isSymbol '[') then
        attributeEnd ts pos >>= fun last => .ok (.again (last + 2) kept)
      else .ok (.again (pos + 1) (if t.isOneOf specifiers then kept else kept ++ [t])) := by
  rw [specifierRound, if_pos (lt_length_of_drop h), entry_of_drop h, getElem?_succ_of_drop h]
  rfl

theorem loop_specifierRound (kept : List Token) (h : ts.drop pos = rest) :
    loop ts.length (specifierRound ts) pos kept = .ok (kept ++ Header.dropSpecifiers rest) := by
  fun_induction Header.dropSpecifiers rest generalizing pos kept with
  | case1 =>
    rw [List.append_nil]
    exact loop_of_done (if_neg (Nat.not_lt.2 (List.drop_eq_nil_iff.1 h)))
  | case2 t rest hattribute ih =>
    obtain ⟨last, hlast, hdrop⟩ := attributeEnd_eq_ok h
    -- the search for the end of an attribute begins at its second bracket
    have hafter : afterAttribute (t :: rest) = afterAttribute (rest.drop 1) := by
      rw [afterAttribute_cons_of_ne (Token.isSymbol_of_isSymbol hattribute.1 ']')]
      cases rest with
      | nil => rfl
      | cons u rest =>
        exact afterAttribute_cons_of_ne (Token.isSymbol_of_isSymbol hattribute.2 ']') rest
    rw [hafter] at hdrop
    have hagain := (specifierRound_of_drop kept h).trans (if_pos hattribute)
    rw [hlast] at hagain
    rw [loop_of_again hagain (lt_length_of_drop h)]
    · exact ih kept hdrop
    · refine lt_of_drop h hdrop (Nat.lt_succ_of_le ?_)
      have hle := length_afterAttribute_le (rest.drop 1)
      rw [List.length_drop] at hle
      omega
  | case3 t rest hattribute hspecifier ih =>
    have hagain := (specifierRound_of_drop kept h).trans (if_neg hattribute)
    rw [if_pos hspecifier] at hagain
    rw [loop_of_succ h hagain]
    exact ih kept (drop_succ_of_drop h)
  | case4 t rest hattribute hspecifier ih =>
    have hagain := (specifierRound_of_drop kept h).trans (if_neg hattribute)
    rw [if_neg hspecifier] at hagain
    rw [loop_of_succ h hagain,
      ih (kept ++ [t]) (drop_succ_of_drop h), List.append_assoc, List.singleton_append]

theorem dropSpecifiers_eq_ok (ts : List Token) :
    dropSpecifiers ts = .ok (Header.dropSpecifiers ts) :=
  loop_specifierRound [] List.drop_zero

theorem afterArrow?_eq (ts : List Token) :
    afterArrow? ts = (arrow? ts).map fun arrow => ts.drop (arrow + 2) := by
  fun_induction afterArrow? ts with
  | case1 t u rest harrow =>
    have hfound : arrow? (t :: u :: rest) = some 0 := by
      rw [arrow?, List.tail_cons, List.zip_cons_cons, List.findIdx?_cons,
        if_pos (by simpa using harrow)]
    rw [hfound]
    rfl
  | case2 t u rest harrow ih =>
    have hnext : arrow? (t :: u :: rest) = (arrow? (u :: rest)).map (· + 1) := by
      rw [arrow?, List.tail_cons, List.zip_cons_cons, List.findIdx?_cons,
        if_neg (by simpa using harrow)]
      rfl
    rw [ih, hnext, Option.map_map]
    rfl
  | case3 ts hshort =>
    obtain _ | ⟨t, _ | ⟨u, rest⟩⟩ := ts
    · rfl
    · rfl
    · exact absurd rfl (hshort t u rest)

theorem arrow?_lt {ts : List Token} {arrow : Nat} (h : arrow? ts = some arrow) :
    arrow + 2 ≤ ts.length := by
  obtain ⟨hlt, -⟩ := List.findIdx?_eq_some_iff_getElem.1 h
  rw [List.length_zip, List.length_tail] at hlt
  omega

theorem resultText_eq_ok (before after : List Token) :
    resultText before after = .ok (Header.resultText before after) := by
  rw [resultText, Header.resultText, dropSpecifiers_eq_ok, afterArrow?_eq]
  cases harrow : arrow? after with
  | none => rfl
  | some arrow =>
    change slice after (arrow + 2) after.length >>= _ = _
    rw [slice_to_end rfl (arrow?_lt harrow)]
    rfl

end

/-! ### Methods agree -/

section

variable {ts : List Token}

/-- The parentheses of a signature are found where the tokens are split at them. -/
theorem signature_cases (ts : List Token) :
    (ts.findIdx? (·.isSymbol '(') = none ∧ splitSignature? ts = none) ∨
    ∃ opening, ts.findIdx? (·.isSymbol '(') = some opening ∧ opening < ts.length ∧
      ((closing? '(' ')' ts opening = .ok none ∧ splitSignature? ts = none) ∨
      ∃ inside after close, closing? '(' ')' ts opening = .ok (some close) ∧
        splitSignature? ts = some (ts.take opening, inside, after) ∧
        slice ts (opening + 1) close = .ok inside ∧
        slice ts (close + 1) ts.length = .ok after) := by
  -- the list is cut where the search by position stops
  have hfun : (fun t : Token => !!t.isSymbol '(') = (·.isSymbol '(') :=
    funext fun t => Bool.not_not _
  cases hfound : ts.findIdx? (·.isSymbol '(') with
  | none =>
    refine .inl ⟨rfl, ?_⟩
    have hnone : ts.dropWhile (!·.isSymbol '(') = [] := by
      rw [List.dropWhile_eq_drop_findIdx_not, hfun,
        List.findIdx_eq_length.2 (List.findIdx?_eq_none_iff.1 hfound), List.drop_length]
    rw [splitSignature?, hnone]
  | some opening =>
    obtain ⟨hlt, hplace⟩ := List.findIdx?_eq_some_iff_findIdx_eq.1 hfound
    refine .inr ⟨opening, rfl, hlt, ?_⟩
    have hbefore : ts.takeWhile (!·.isSymbol '(') = ts.take opening := by
      rw [List.takeWhile_eq_take_findIdx_not, hfun, hplace]
    have hdrop : ts.dropWhile (!·.isSymbol '(') = ts.drop opening := by
      rw [List.dropWhile_eq_drop_findIdx_not, hfun, hplace]
    obtain ⟨t, rest, hrest⟩ : ∃ t rest, ts.drop opening = t :: rest :=
      List.exists_cons_of_ne_nil fun hnil => by
        have := List.drop_eq_nil_iff.1 hnil
        omega
    have ht : t.isSymbol '(' = true := by
      obtain ⟨_, hopening, -⟩ := List.findIdx?_eq_some_iff_getElem.1 hfound
      have hget := getElem?_of_drop hrest
      rw [List.getElem?_eq_getElem hlt] at hget
      exact Option.some.inj hget ▸ hopening
    have hsplit : splitSignature? ts = (enclosed? '(' ')' 0 rest).map fun (inside, after) =>
        (ts.take opening, inside, after) := by
      rw [splitSignature?, hdrop, hrest, hbefore]
    obtain ⟨henclosed, hclosing⟩ | ⟨inside, after, close, henclosed, hclosing, hinside, u, -, hu⟩ :=
      closing?_cases ')' hrest ht
    · exact .inl ⟨hclosing, by rw [hsplit, henclosed]; rfl⟩
    · refine .inr ⟨inside, after, close, hclosing, by rw [hsplit, henclosed]; rfl, hinside, ?_⟩
      exact slice_to_end (drop_succ_of_drop hu) (lt_length_of_drop hu)

theorem hasInitializers_eq_ok (ts : List Token) :
    hasInitializers ts = .ok (Header.hasInitializers ts) := by
  rw [hasInitializers, Header.hasInitializers]
  obtain ⟨hfound, hsplit⟩ | ⟨opening, hfound, -, ⟨hclosing, hsplit⟩ |
    ⟨inside, after, close, hclosing, hsplit, -, hafter⟩⟩ := signature_cases ts
  · rw [hfound, hsplit]
    rfl
  · rw [hfound, hsplit]
    change closing? '(' ')' ts opening >>= _ = _
    rw [hclosing]
    rfl
  · rw [hfound, hsplit]
    change closing? '(' ')' ts opening >>= _ = _
    rw [hclosing]
    change slice ts (close + 1) ts.length >>= _ = _
    rw [hafter]
    rfl

/-- The method with a given name, given the tokens of its result, of its parameters and behind
them. -/
def methodWith? (className : String) (isPublic : Bool) (ts : List Token) (word : String)
    (destructor : Bool) (front inside after : List Token) : Option Method :=
  let name := if destructor then "~" ++ word else word
  let result := Header.resultText front after
  if result.isEmpty && name != className && !destructor then none
  else some {
    name := name
    line := (ts.head?.map (·.line)).getD 0
    returnType := result
    parameters := Header.parameters inside
    isPublic := isPublic }

/-- The method of a signature, given what stands in front of its parameters, in them and behind. -/
def methodOf? (className : String) (isPublic : Bool) (ts : List Token) :
    List Token × List Token × List Token → Option Method
  | (before, inside, after) => do
    let word ← (← before.getLast?).word?
    if typeWords.contains word then none
    else
      let front := before.dropLast
      let destructor := front.getLast?.any (·.isSymbol '~')
      methodWith? className isPublic ts word destructor
        (if destructor then front.dropLast else front) inside after

/-- In front of a name, with or without a tilde, stands what can be cut out. -/
theorem resultEnd_eq_ok {place : Nat} (hlt : place < ts.length) :
    let destructor := (ts.take place).getLast?.any (·.isSymbol '~')
    ∃ last, resultEnd destructor place = .ok last ∧
      slice ts 0 last =
        .ok (if destructor then (ts.take place).dropLast else ts.take place) := by
  intro destructor
  cases hdestructor : destructor with
  | false => exact ⟨place, rfl, slice_zero (Nat.le_of_lt hlt)⟩
  | true =>
    cases place with
    | zero => exact absurd (show false = true from hdestructor) Bool.false_ne_true
    | succ place =>
      refine ⟨place, rfl, ?_⟩
      rw [if_pos rfl, List.dropLast_take hlt, slice_zero (by omega), Nat.add_sub_cancel]

theorem methodNamed_eq_ok (className : String) (isPublic : Bool) {word : String}
    {destructor : Bool} {last opening close : Nat} {front inside after : List Token}
    (hinside : slice ts (opening + 1) close = .ok inside) (hfront : slice ts 0 last = .ok front)
    (hafter : slice ts (close + 1) ts.length = .ok after) :
    methodNamed className isPublic ts word destructor last opening close =
      .ok (methodWith? className isPublic ts word destructor front inside after) := by
  rw [methodNamed, hinside]
  change parameters inside >>= _ = _
  rw [parameters_eq_ok]
  change slice ts 0 last >>= _ = _
  rw [hfront]
  change slice ts (close + 1) ts.length >>= _ = _
  rw [hafter]
  change resultText front after >>= _ = _
  rw [resultText_eq_ok]
  rfl

theorem methodAt_succ (className : String) (isPublic : Bool) {place last : Nat} {t : Token}
    (ht : ts[place]? = some t)
    (hlast : resultEnd ((ts.take place).getLast?.any (·.isSymbol '~')) place = .ok last) :
    methodAt className isPublic ts (place + 1) =
      match t.word? with
      | none => .ok none
      | some word =>
        if typeWords.contains word then .ok none
        else closing? '(' ')' ts (place + 1) >>= fun
          | none => .ok none
          | some close => methodNamed className isPublic ts word
              ((ts.take place).getLast?.any (·.isSymbol '~')) last (place + 1) close := by
  have hplace : place < ts.length := (List.getElem?_eq_some_iff.1 ht).1
  have hentry : entry ts place = .ok t := by rw [entry, ht]
  rw [methodAt]
  change entry ts place >>= _ = _
  rw [hentry]
  change (match t.word? with
    | none => _
    | some word => _) = _
  cases t.word? with
  | none => rfl
  | some word =>
    dsimp only
    rw [follows_eq_ok _ (Nat.le_of_lt hplace)]
    change (if _ then _ else resultEnd _ place >>= _) = _
    rw [hlast]
    rfl

theorem methodAt_eq_ok (className : String) (isPublic : Bool) {place : Nat}
    (hlt : place + 1 < ts.length)
    (h : (closing? '(' ')' ts (place + 1) = .ok none ∧ splitSignature? ts = none) ∨
      ∃ inside after close, closing? '(' ')' ts (place + 1) = .ok (some close) ∧
        splitSignature? ts = some (ts.take (place + 1), inside, after) ∧
        slice ts (place + 2) close = .ok inside ∧
        slice ts (close + 1) ts.length = .ok after) :
    methodAt className isPublic ts (place + 1) =
      .ok ((splitSignature? ts).bind (methodOf? className isPublic ts)) := by
  have hplace : place < ts.length := by omega
  obtain ⟨t, ht⟩ : ∃ t, ts[place]? = some t := ⟨_, List.getElem?_eq_getElem hplace⟩
  have htake : ts.take (place + 1) = ts.take place ++ [t] := by
    rw [List.take_add_one, ht, Option.toList_some]
  obtain ⟨last, hlast, hfront⟩ := resultEnd_eq_ok hplace
  rw [methodAt_succ className isPublic ht hlast]
  obtain ⟨hclosing, hsplit⟩ | ⟨inside, after, close, hclosing, hsplit, hinside, hafter⟩ := h
  · rw [hsplit, hclosing, Option.bind_none]
    cases t.word? with
    | none => rfl
    | some word => exact ite_self _
  · rw [hsplit, hclosing, Option.bind_some, methodOf?, htake, List.getLast?_concat,
      List.dropLast_concat]
    change _ = Except.ok (t.word?.bind _)
    cases t.word? with
    | none => rfl
    | some word =>
      dsimp only [Option.bind_some]
      split
      · rfl
      · exact methodNamed_eq_ok className isPublic hinside hfront hafter

theorem method?_eq_ok (className : String) (isPublic : Bool) (ts : List Token) :
    method? className isPublic ts = .ok (Header.method? className isPublic ts) := by
  have hmodel : Header.method? className isPublic ts =
      if ts.any (·.isWord "operator") then none
      else (splitSignature? ts).bind (methodOf? className isPublic ts) := by
    rw [Header.method?]
    split <;> rfl
  rw [method?, hmodel]
  split
  · rfl
  obtain ⟨hfound, hsplit⟩ | ⟨opening, hfound, hlt, h⟩ := signature_cases ts
  · rw [hfound, hsplit]
    rfl
  · rw [hfound]
    cases opening with
    | zero =>
      change Except.ok none = _
      obtain ⟨-, hsplit⟩ | ⟨inside, after, close, -, hsplit, -⟩ := h
      · rw [hsplit]
        rfl
      · rw [hsplit, List.take_zero]
        rfl
    | succ opening => exact methodAt_eq_ok className isPublic hlt h

end

end Instrument.Header.ByPosition
