import Instrument.Proofs.Header.ByPosition.Skipping
import Instrument.Proofs.Header.ByPosition.Tokens

/-!
The classes of a header, read by position. Main statement: by position the same classes are read
from every text, or the same fault is found. So reading never asks for a character or a token where
there is none, never counts below zero, and gets on in every round of every loop.
-/

namespace Instrument.Header.ByPosition

/-! ### Members -/

/-- A round of `memberEnd`, in `depth` open brackets. -/
def memberRound (ts : List Token) (pos depth : Nat) : Reading (Round Nat Nat) :=
  match ts[pos]? with
  | none => return .done pos
  | some t =>
    if depth = 0 ∧ (t.isSymbol ';' ∨ t.isSymbol '{' ∨ t.isSymbol '}') then return .done pos
    else return .again (pos + 1) (memberDepth depth t)

/-- Where the semicolon or brace stands that ends a member. -/
def memberEnd (ts : List Token) (pos : Nat) : Reading Nat := loop ts.length (memberRound ts) pos 0

/-- The position after the block of a member, which is a body or an initial value. -/
def skipBlock (last : Nat) (isMethod : Bool) (ts : List Token) (pos : Nat) : Reading Nat := do
  let next ← skipBraces last ts pos
  if !isMethod then skipDeclaration last ts next
  else return if ts[next]?.any (·.isSymbol ';') then next + 1 else next

/-- The position after a member that begins on line `line` and has the tokens `head` up to `pos`. -/
def skipMemberEnd (last : Nat) (className : String) (line : Nat) (head : List Token)
    (isMethod : Bool) (ts : List Token) (pos : Nat) : Reading Nat :=
  match ts[pos]? with
  | none => refuse line (.unterminatedMember className)
  | some t =>
    if t.isSymbol ';' then return pos + 1
    else if t.isSymbol '{' then do
      let initialized ← (if isMethod then hasInitializers head else pure false : Reading Bool)
      if initialized then skipInitializers last ts pos else skipBlock last isMethod ts pos
    else return pos

/-- Reads one member: the method that it declares, if it declares one, and the position after it. -/
def member (last : Nat) (className : String) (isPublic : Bool) (ts : List Token) (pos : Nat) :
    Reading (Option Method × Nat) := do
  let t ← entry ts pos
  let ending ← memberEnd ts pos
  let head ← slice ts pos ending
  let found ← method? className isPublic head
  return (found, ← skipMemberEnd last className t.line head found.isSome ts ending)

/-! ### Classes -/

/-- The position after what follows the keyword of a template. -/
def skipTemplated (last : Nat) (ts : List Token) (pos : Nat) : Reading Nat := do
  skipDeclaration last ts (← skipTemplate last ts pos)

/-- Reads what begins with the token `t` in the body of a class. -/
def bodyItem (last : Nat) (className : String) (isPublic : Bool) (ts : List Token) (pos : Nat)
    (t : Token) : Reading (BodyItem × Nat) :=
  if t.isSymbol '}' then return (.closed, pos + 1)
  else if t.isSymbol ';' then return (.skipped, pos + 1)
  else if t.isOneOf ["public", "private", "protected"] ∧ ts[pos + 1]?.any (·.isSymbol ':') then
    return (.access (t.isWord "public"), pos + 2)
  else if t.isWord "template" then do
    return (.skipped, ← skipTemplated last ts (pos + 1))
  else if t.isOneOf nestedWords then do return (.skipped, ← skipDeclaration last ts pos)
  else do
    let (found, next) ← member last className isPublic ts pos
    return (match found with | some m => .method m | none => .skipped, next)

/-- What is known in the body of a class: whether members are public, and the methods so far. -/
structure Body where
  isPublic : Bool
  found : List Method

/-- How the body of a class goes on after something in it. -/
def Body.after (body : Body) : BodyItem × Nat → Round Body (List Method × Nat)
  | (.closed, next) => .done (body.found, next)
  | (.access isPublic, next) => .again next { body with isPublic := isPublic }
  | (.skipped, next) => .again next body
  | (.method m, next) => .again next { body with found := body.found ++ [m] }

/-- A round of `classBody`. -/
def bodyRound (last line : Nat) (className : String) (ts : List Token) (pos : Nat) (body : Body) :
    Reading (Round Body (List Method × Nat)) :=
  match ts[pos]? with
  | none => refuse line (.unclosedClass className)
  | some t => do return body.after (← bodyItem last className body.isPublic ts pos t)

/-- The methods of a class up to its closing brace, and the position after that. -/
def classBody (last line : Nat) (className : String) (isPublic : Bool) (ts : List Token)
    (pos : Nat) : Reading (List Method × Nat) :=
  loop ts.length (bodyRound last line className ts) pos ⟨isPublic, []⟩

/-- A round of `trailing`. -/
def trailingRound (ts : List Token) (pos : Nat) (_ : Unit) : Reading (Round Unit Nat) :=
  match ts[pos]? with
  | none => return .done pos
  | some t => return if t.isSymbol ';' then .done (pos + 1) else .again (pos + 1) ()

/-- The position after the next semicolon. -/
def trailing (ts : List Token) (pos : Nat) : Reading Nat :=
  loop ts.length (trailingRound ts) pos ()

/-- Reads a class from the position of its keyword on. -/
def classDeclaration (last : Nat) (ts : List Token) (pos : Nat) :
    Reading (Option Class × Nat) := do
  let keyword ← entry ts pos
  match ts[pos + 1]?.bind (·.word?) with
  | none => return (none, ← skipDeclaration last ts (pos + 1))
  | some name => do
    let next ← skipWhile (fun t => !(t.isSymbol '{' || t.isSymbol ';')) ts (pos + 2)
    match ts[next]? with
    | none => refuse keyword.line (.unterminatedClass name)
    | some t =>
      if t.isSymbol ';' then return (none, next + 1)
      else do
        let (methods, next) ←
          classBody last keyword.line name (keyword.isWord "struct") ts (next + 1)
        return (some ⟨name, keyword.line, methods⟩, ← trailing ts next)

/-! ### Headers -/

/-- Goes into a namespace, or skips what stands in its place. -/
def skipNamespace (last : Nat) (ts : List Token) (pos : Nat) : Reading (Option Class × Nat) := do
  let next ← skipWhile (fun t => !(t.isSymbol '{' || t.isSymbol ';' || t.isSymbol '=')) ts pos
  if ts[next]?.any (·.isSymbol '{') then return (none, next + 1)
  else return (none, ← skipDeclaration last ts next)

/-- Reads what begins with the token `t` outside all classes. -/
def topItem (last : Nat) (ts : List Token) (pos : Nat) (t : Token) :
    Reading (Option Class × Nat) :=
  if t.isWord "namespace" then skipNamespace last ts (pos + 1)
  else if t.isWord "extern" ∧ ts[pos + 1]?.any (·.kind == .literal) then
    return (none, if ts[pos + 2]?.any (·.isSymbol '{') then pos + 3 else pos + 2)
  else if t.isWord "template" then do
    return (none, ← skipTemplated last ts (pos + 1))
  else if t.isOneOf ["class", "struct"] then classDeclaration last ts pos
  else if t.isSymbol '}' ∨ t.isSymbol ';' then return (none, pos + 1)
  else do return (none, ← skipDeclaration last ts pos)

/-- A round of `topLevel`. -/
def topRound (last : Nat) (ts : List Token) (pos : Nat) (found : List Class) :
    Reading (Round (List Class) (List Class)) :=
  match ts[pos]? with
  | none => return .done found
  | some t => do
    let (more, next) ← topItem last ts pos t
    return .again next (found ++ more.toList)

/-- The classes that some tokens declare. -/
def topLevel (last : Nat) (ts : List Token) : Reading (List Class) :=
  loop ts.length (topRound last ts) 0 []

/-- The classes that a header declares, in order. -/
def classes (source : List Char) : Reading (List Class) := do
  let ts ← tokens source
  topLevel ((ts.getLast?.map (·.line)).getD 1) ts

/-! ### Members agree -/

/-- Something that is read, and a position after it from which some tokens are left. -/
def IsRead {α : Type} (ts : List Token) (read : α × Nat) (read' : α × List Token) : Prop :=
  read.1 = read'.1 ∧ Stands ts read.2 read'.2

section

variable {ts rest : List Token} {t : Token} {pos last : Nat} {className : String}
  {isPublic : Bool}

theorem Agrees.isRead {α : Type} {x : Reading Nat} {y : Except ParseError (List Token)}
    (h : Agrees (Stands ts) x y) (a : α) :
    Agrees (IsRead ts) (x.map (a, ·)) (y.map (a, ·)) :=
  h.map fun _ _ hstands => ⟨rfl, hstands⟩

theorem loop_memberRound (depth : Nat) (h : ts.drop pos = rest) :
    loop ts.length (memberRound ts) pos depth =
      .ok (pos + (splitMember depth rest).1.length) := by
  fun_induction splitMember depth rest generalizing pos with
  | case1 depth =>
    refine loop_of_done ?_
    rw [memberRound, getElem?_of_drop_nil h]
    rfl
  | case2 depth t rest hend =>
    refine loop_of_done ?_
    rw [memberRound, getElem?_of_drop h]
    exact if_pos hend
  | case3 depth t rest hend head rest' hsplit ih =>
    have hround : memberRound ts pos depth = .ok (.again (pos + 1) (memberDepth depth t)) := by
      rw [memberRound, getElem?_of_drop h]
      exact if_neg hend
    rw [loop_of_succ h hround,
      ih (drop_succ_of_drop h), hsplit, List.length_cons, Nat.add_assoc, Nat.add_comm 1]

theorem agrees_skipBlock (isMethod : Bool) (h : ts.drop pos = t :: rest)
    (ht : t.isSymbol '{' = true) :
    Agrees (Stands ts) (skipBlock last isMethod ts pos)
      (match enclosed? '{' '}' 0 rest with
        | none => .error ⟨t.line, .unbalancedBraces⟩
        | some (_, after) =>
          if !isMethod then Header.skipDeclaration last after
          else if after.head?.any (·.isSymbol ';') then .ok after.tail
          else .ok after) := by
  rw [skipBlock]
  cases hblock : enclosed? '{' '}' 0 rest with
  | none =>
    rw [skipBraces_eq_refused last h ht hblock]
    exact .refused _
  | some r =>
    obtain ⟨inside, after⟩ := r
    obtain ⟨next, hskip, hbehind⟩ := exists_skipBraces last h ht hblock
    rw [hskip]
    cases isMethod with
    | false => exact agrees_skipDeclaration last (hbehind.stands rfl)
    | true =>
      change Agrees _ (.ok (if ts[next]?.any _ then next + 1 else next)) (if _ then _ else _)
      rw [getElem?_eq_head? hbehind.left]
      cases after with
      | nil => exact .ok (hbehind.stands rfl)
      | cons s after =>
        rw [List.head?_cons, Option.any_some]
        split
        · next hsemicolon => exact .ok (stands_succ_of_isSymbol hbehind.left hsemicolon rfl)
        · exact .ok (hbehind.stands rfl)

theorem agrees_skipMemberEnd {line : Nat} {head : List Token} {isMethod : Bool}
    (h : ts.drop pos = rest) (hline : rest = [] → line = lineOf last head)
    (hhead : isMethod = true → (ts.take pos).getLast? = head.getLast?) :
    Agrees (Stands ts) (skipMemberEnd last className line head isMethod ts pos)
      (Header.skipMemberEnd last className head isMethod rest) := by
  rw [skipMemberEnd, getElem?_eq_head? h]
  cases rest with
  | nil =>
    rw [Header.skipMemberEnd, ← hline rfl]
    exact .refused _
  | cons t rest =>
    rw [Header.skipMemberEnd, List.head?_cons]
    dsimp only
    by_cases hsemicolon : t.isSymbol ';' = true
    · rw [if_pos hsemicolon, if_pos hsemicolon]
      exact .ok (stands_succ_of_isSymbol h hsemicolon rfl)
    rw [if_neg hsemicolon, if_neg hsemicolon]
    by_cases hbrace : t.isSymbol '{' = true
    · rw [if_pos hbrace, if_pos hbrace]
      -- only a method is asked for initial values
      by_cases hinitialized : isMethod = true ∧ Header.hasInitializers head = true
      · obtain ⟨rfl, hinit⟩ := hinitialized
        rw [if_pos rfl, if_pos ⟨rfl, hinit⟩, hasInitializers_eq_ok, hinit]
        exact agrees_skipInitializers ⟨t, h, hbrace, rfl, congrArg (·.any endsName) (hhead rfl)⟩
      · have hplain : (if isMethod then hasInitializers head else pure false) = .ok false := by
          cases isMethod with
          | false => rfl
          | true =>
            rw [if_pos rfl, hasInitializers_eq_ok]
            exact congrArg Except.ok (by simpa using hinitialized)
        rw [if_neg hinitialized, hplain]
        exact agrees_skipBlock isMethod h hbrace
    · rw [if_neg hbrace, if_neg hbrace]
      exact .ok (stands_of_head h (by simpa using hbrace))

theorem agrees_member (h : ts.drop pos = t :: rest) :
    Agrees (IsRead ts) (member last className isPublic ts pos)
      (Header.member last className isPublic (t :: rest)) := by
  have happend := splitMember_append 0 (t :: rest)
  have hend := loop_memberRound 0 h
  rw [member, Header.member, entry_of_drop h]
  generalize splitMember 0 (t :: rest) = split at happend hend
  obtain ⟨head, ending⟩ := split
  have hdrop : ts.drop pos = head ++ ending := h.trans happend.symm
  change Agrees _ (memberEnd ts pos >>= _) (Except.map _ _)
  rw [memberEnd, hend]
  change Agrees _ (slice ts pos (pos + head.length) >>= _) _
  rw [slice_of_drop hdrop (Nat.le_of_lt (lt_length_of_drop h))]
  change Agrees _ (method? className isPublic head >>= _) _
  rw [method?_eq_ok]
  refine (agrees_skipMemberEnd (drop_of_drop_append hdrop) ?_ ?_).isRead _
  · intro hnil
    obtain rfl : head = t :: rest := by simpa [hnil] using happend
    rfl
  · intro hmethod
    have hne : head ≠ [] := by
      rintro rfl
      cases hmethod
    rw [List.take_add, hdrop, List.take_left, List.getLast?_append_of_ne_nil _ hne]

/-! ### Classes agree -/

theorem precedesBody_of_isOneOf {words : List String} (h : t.isOneOf words = true)
    (hwords : words.any ["const", "override", "final", "noexcept"].contains = false) :
    precedesBody t = false := by
  obtain ⟨word, hword, hkind⟩ := Token.exists_of_isOneOf h
  obtain ⟨kind, line⟩ := t
  obtain rfl : kind = .word word := hkind
  exact (Bool.not_eq_true _).mp (List.any_eq_false.1 hwords word hword)

theorem precedesBody_of_isLiteral (h : (t.kind == .literal) = true) : precedesBody t = false := by
  obtain ⟨kind, line⟩ := t
  obtain rfl : kind = .literal := by simpa using h
  rfl

theorem agrees_skipTemplated (h : ts.drop pos = t :: rest) (ht : t.isWord "template" = true) :
    Agrees (Stands ts) (skipTemplated last ts (pos + 1))
      (Header.skipTemplate rest >>= Header.skipDeclaration last) := by
  have hquiet : precedesBody t = false := by
    obtain ⟨line, rfl⟩ := Token.exists_of_isWord ht
    rfl
  exact (agrees_skipTemplate last (stands_succ h hquiet)).bind
    fun _ _ hstands => agrees_skipDeclaration last hstands

theorem agrees_bodyItem (last : Nat) (className : String) (isPublic : Bool)
    (h : Stands ts pos (t :: rest)) :
    Agrees (IsRead ts) (bodyItem last className isPublic ts pos t)
      (Header.bodyItem last className isPublic t rest) := by
  rw [bodyItem, Header.bodyItem, getElem?_succ_of_drop h.left]
  by_cases hend : t.isSymbol '}' = true
  · rw [if_pos hend, if_pos hend]
    exact .ok ⟨rfl, stands_succ_of_isSymbol h.left hend rfl⟩
  rw [if_neg hend, if_neg hend]
  by_cases hsemicolon : t.isSymbol ';' = true
  · rw [if_pos hsemicolon, if_pos hsemicolon]
    exact .ok ⟨rfl, stands_succ_of_isSymbol h.left hsemicolon rfl⟩
  rw [if_neg hsemicolon, if_neg hsemicolon]
  by_cases haccess : t.isOneOf ["public", "private", "protected"] ∧
      rest.head?.any (·.isSymbol ':') = true
  · rw [if_pos haccess, if_pos haccess]
    obtain ⟨-, hcolon⟩ := haccess
    cases rest with
    | nil => cases hcolon
    | cons u rest =>
      exact .ok ⟨rfl, stands_succ_of_isSymbol (drop_succ_of_drop h.left) hcolon rfl⟩
  rw [if_neg haccess, if_neg haccess]
  by_cases htemplate : t.isWord "template" = true
  · rw [if_pos htemplate, if_pos htemplate]
    exact (agrees_skipTemplated h.left htemplate).isRead _
  rw [if_neg htemplate, if_neg htemplate]
  by_cases hnested : t.isOneOf nestedWords = true
  · rw [if_pos hnested, if_pos hnested]
    exact (agrees_skipDeclaration last h).isRead _
  rw [if_neg hnested, if_neg hnested]
  refine (agrees_member h.left).map fun a b hread => ?_
  obtain ⟨found, next⟩ := a
  obtain ⟨rfl, hstands⟩ := hread
  exact ⟨rfl, hstands⟩

/-- A round in the body of a class comes to what is read in it, and gets on. -/
theorem exists_bodyRound (line : Nat) (found : List Method) {item : BodyItem} {rest' : List Token}
    (h : Stands ts pos (t :: rest))
    (hitem : Header.bodyItem last className isPublic t rest = .ok (item, rest')) :
    ∃ next, bodyRound last line className ts pos ⟨isPublic, found⟩ =
        .ok (Body.after ⟨isPublic, found⟩ (item, next)) ∧
      Stands ts next rest' ∧ pos < next := by
  have hagrees := agrees_bodyItem last className isPublic h
  rw [hitem] at hagrees
  obtain ⟨⟨item', next⟩, hread, hsame, hstands⟩ := hagrees.exists_eq_ok
  obtain rfl : item' = item := hsame
  refine ⟨next, ?_, hstands, lt_of_drop h.left hstands.left (length_lt_of_bodyItem hitem)⟩
  rw [bodyRound, getElem?_of_drop h.left]
  change bodyItem last className isPublic ts pos t >>= _ = _
  rw [hread]
  rfl

/-- From any position where a member can begin, the methods of what is left of a class follow those
before. -/
theorem agrees_loop_bodyRound {line : Nat} (found : List Method) (h : Stands ts pos rest) :
    Agrees (fun (read : List Method × Nat) (read' : List Method × List Token) =>
        IsRead ts read (found ++ read'.1, read'.2))
      (loop ts.length (bodyRound last line className ts) pos ⟨isPublic, found⟩)
      (Header.classBody last line className isPublic rest) := by
  fun_induction Header.classBody last line className isPublic rest generalizing pos found with
  | case1 isPublic =>
    have hround : bodyRound last line className ts pos ⟨isPublic, found⟩ =
        .error (.refused ⟨line, .unclosedClass className⟩) := by
      rw [bodyRound, getElem?_of_drop_nil h.left]
      rfl
    rw [loop_of_error hround]
    exact .refused _
  | case2 isPublic t rest e hitem =>
    have hagrees := agrees_bodyItem last className isPublic h
    rw [hitem] at hagrees
    have hround : bodyRound last line className ts pos ⟨isPublic, found⟩ = .error (.refused e) := by
      rw [bodyRound, getElem?_of_drop h.left]
      change bodyItem last className isPublic ts pos t >>= _ = _
      rw [hagrees.eq_refused]
      rfl
    rw [loop_of_error hround]
    exact .refused e
  | case3 isPublic t rest rest' hitem =>
    obtain ⟨next, hround, hstands, -⟩ := exists_bodyRound line found h hitem
    rw [loop_of_done hround]
    exact .ok ⟨(List.append_nil found).symm, hstands⟩
  -- three kinds of items leave the body open, and only a method adds to what was found
  | case4 isPublic t rest isPublic' rest' hitem ih =>
    obtain ⟨next, hround, hstands, hlt⟩ := exists_bodyRound line found h hitem
    rw [loop_of_again hround (lt_length_of_drop h.left) hlt]
    exact ih found hstands
  | case5 isPublic t rest rest' hitem ih =>
    obtain ⟨next, hround, hstands, hlt⟩ := exists_bodyRound line found h hitem
    rw [loop_of_again hround (lt_length_of_drop h.left) hlt]
    exact ih found hstands
  | case6 isPublic t rest m rest' hitem ih =>
    obtain ⟨next, hround, hstands, hlt⟩ := exists_bodyRound line found h hitem
    rw [loop_of_again hround (lt_length_of_drop h.left) hlt]
    refine (ih (found ++ [m]) hstands).map_right fun read read' hread => ?_
    exact ⟨hread.1.trans (List.append_assoc found [m] read'.1), hread.2⟩

theorem agrees_classBody {line : Nat} (h : Stands ts pos rest) :
    Agrees (IsRead ts) (classBody last line className isPublic ts pos)
      (Header.classBody last line className isPublic rest) :=
  agrees_loop_bodyRound [] h

theorem trailing_eq_ok (h : ts.drop pos = rest) :
    ∃ next, trailing ts pos = .ok next ∧
      Stands ts next ((rest.dropWhile (!·.isSymbol ';')).drop 1) := by
  unfold trailing
  induction rest generalizing pos with
  | nil =>
    refine ⟨pos, loop_of_done ?_, stands_nil h⟩
    rw [trailingRound, getElem?_of_drop_nil h]
    rfl
  | cons t rest ih =>
    have hround : trailingRound ts pos () =
        .ok (if t.isSymbol ';' then .done (pos + 1) else .again (pos + 1) ()) := by
      rw [trailingRound, getElem?_of_drop h]
      rfl
    cases hsemicolon : t.isSymbol ';' with
    | true =>
      rw [hsemicolon] at hround
      refine ⟨pos + 1, loop_of_done hround, ?_⟩
      rw [List.dropWhile_cons_of_neg (by simp [hsemicolon])]
      exact stands_succ_of_isSymbol h hsemicolon rfl
    | false =>
      rw [hsemicolon] at hround
      rw [loop_of_succ h hround,
        List.dropWhile_cons_of_pos (by simp [hsemicolon])]
      exact ih (drop_succ_of_drop h)

theorem agrees_classDeclaration (h : ts.drop pos = t :: rest)
    (ht : t.isOneOf ["class", "struct"] = true) :
    Agrees (IsRead ts) (classDeclaration last ts pos) (Header.classDeclaration last t rest) := by
  have hstands : Stands ts (pos + 1) rest := stands_succ h (precedesBody_of_isOneOf ht rfl)
  rw [classDeclaration, entry_of_drop h, getElem?_succ_of_drop h]
  cases rest with
  | nil => exact (agrees_skipDeclaration last hstands).isRead none
  | cons u rest =>
    rw [Header.classDeclaration]
    change Agrees _ (match u.word? with
      | none => _
      | some name => _) _
    cases u.word? with
    | none => exact (agrees_skipDeclaration last hstands).isRead none
    | some name =>
      obtain ⟨next, hnext, hdrop⟩ := exists_skipWhile
        (fun t => !(t.isSymbol '{' || t.isSymbol ';')) (drop_succ_of_drop hstands.left)
      dsimp only
      rw [hnext]
      have hstop := rest.head?_dropWhile_not fun t => !(t.isSymbol '{' || t.isSymbol ';')
      generalize rest.dropWhile (fun t => !(t.isSymbol '{' || t.isSymbol ';')) = left
        at hdrop hstop
      change Agrees _ (match ts[next]? with
        | none => _
        | some t => _) _
      rw [getElem?_eq_head? hdrop]
      cases left with
      | nil => exact .refused _
      | cons v left =>
        dsimp only [List.head?_cons]
        -- what is found is a semicolon or an opening brace
        by_cases hsemicolon : v.isSymbol ';' = true
        · rw [if_pos hsemicolon, if_pos hsemicolon]
          exact .ok ⟨rfl, stands_succ_of_isSymbol hdrop hsemicolon rfl⟩
        rw [if_neg hsemicolon, if_neg hsemicolon]
        have hbrace : v.isSymbol '{' = true := by simpa [hsemicolon] using hstop
        have hbody : Stands ts (next + 1) left := stands_succ_of_isSymbol hdrop hbrace rfl
        refine (agrees_classBody hbody).bind_map fun read read' hread => ?_
        obtain ⟨methods, next'⟩ := read
        obtain ⟨methods', rest'⟩ := read'
        obtain ⟨rfl, hstands'⟩ := hread
        obtain ⟨last', hlast', hend⟩ := trailing_eq_ok hstands'.left
        exact ⟨_, by rw [hlast']; rfl, rfl, hend⟩

/-! ### Headers agree -/

theorem agrees_skipNamespace (last : Nat) (h : ts.drop pos = rest) :
    Agrees (IsRead ts) (skipNamespace last ts pos)
      (match rest.dropWhile fun t => !(t.isSymbol '{' || t.isSymbol ';' || t.isSymbol '=') with
        | [] => (Header.skipDeclaration last []).map fun rest => (none, rest)
        | t :: rest =>
          if t.isSymbol '{' then .ok (none, rest)
          else (Header.skipDeclaration last (t :: rest)).map fun rest => (none, rest)) := by
  obtain ⟨next, hnext, hdrop⟩ := exists_skipWhile
    (fun t => !(t.isSymbol '{' || t.isSymbol ';' || t.isSymbol '=')) h
  rw [skipNamespace, hnext]
  generalize rest.dropWhile _ = left at hdrop
  change Agrees _ (if ts[next]?.any (·.isSymbol '{') then _ else _) _
  rw [getElem?_eq_head? hdrop]
  cases left with
  | nil => exact (agrees_skipDeclaration last (stands_nil hdrop)).isRead none
  | cons u left =>
    rw [List.head?_cons, Option.any_some]
    by_cases hbrace : u.isSymbol '{' = true
    · rw [if_pos hbrace]
      dsimp only
      rw [if_pos hbrace]
      exact .ok ⟨rfl, stands_succ_of_isSymbol hdrop hbrace rfl⟩
    · rw [if_neg hbrace]
      dsimp only
      rw [if_neg hbrace]
      exact (agrees_skipDeclaration last (stands_of_head hdrop (by simpa using hbrace))).isRead none

/-- A linkage block is gone into, and so is a declaration with a linkage of its own. -/
theorem agrees_linkage (h : ts.drop pos = t :: rest)
    (hliteral : rest.head?.any (·.kind == .literal) = true) :
    Agrees (IsRead ts)
      (.ok ((none : Option Class), if ts[pos + 2]?.any (·.isSymbol '{') then pos + 3 else pos + 2))
      (.ok (none, if rest.tail.head?.any (·.isSymbol '{') then rest.tail.tail else rest.tail)) := by
  cases rest with
  | nil => cases hliteral
  | cons u rest =>
    have hdrop := drop_succ_of_drop h
    rw [getElem?_succ_of_drop hdrop, List.tail_cons]
    have hquiet : precedesBody u = false := precedesBody_of_isLiteral hliteral
    have hstands : Stands ts (pos + 2) rest := stands_succ hdrop hquiet
    cases rest with
    | nil => exact .ok ⟨rfl, hstands⟩
    | cons v rest =>
      rw [List.head?_cons, Option.any_some]
      by_cases hbrace : v.isSymbol '{' = true
      · rw [if_pos hbrace, if_pos hbrace]
        exact .ok ⟨rfl, stands_succ_of_isSymbol hstands.left hbrace rfl⟩
      · rw [if_neg hbrace, if_neg hbrace]
        exact .ok ⟨rfl, hstands⟩

theorem agrees_topItem (last : Nat) (h : Stands ts pos (t :: rest)) :
    Agrees (IsRead ts) (topItem last ts pos t) (Header.topItem last t rest) := by
  rw [topItem, Header.topItem, getElem?_succ_of_drop h.left]
  by_cases hnamespace : t.isWord "namespace" = true
  · rw [if_pos hnamespace, if_pos hnamespace]
    exact agrees_skipNamespace last (drop_succ_of_drop h.left)
  rw [if_neg hnamespace, if_neg hnamespace]
  by_cases hextern : t.isWord "extern" ∧ rest.head?.any (·.kind == .literal) = true
  · rw [if_pos hextern, if_pos hextern]
    exact agrees_linkage h.left hextern.2
  rw [if_neg hextern, if_neg hextern]
  by_cases htemplate : t.isWord "template" = true
  · rw [if_pos htemplate, if_pos htemplate]
    exact (agrees_skipTemplated h.left htemplate).isRead none
  rw [if_neg htemplate, if_neg htemplate]
  by_cases hclass : t.isOneOf ["class", "struct"] = true
  · rw [if_pos hclass, if_pos hclass]
    exact agrees_classDeclaration h.left hclass
  rw [if_neg hclass, if_neg hclass]
  by_cases hend : t.isSymbol '}' = true ∨ t.isSymbol ';' = true
  · rw [if_pos hend, if_pos hend]
    obtain hbrace | hsemicolon := hend
    · exact .ok ⟨rfl, stands_succ_of_isSymbol h.left hbrace rfl⟩
    · exact .ok ⟨rfl, stands_succ_of_isSymbol h.left hsemicolon rfl⟩
  rw [if_neg hend, if_neg hend]
  exact (agrees_skipDeclaration last h).isRead none

theorem agrees_loop_topRound (found : List Class) (h : Stands ts pos rest) :
    Agrees (fun all more => all = found ++ more) (loop ts.length (topRound last ts) pos found)
      (Header.topLevel last rest) := by
  fun_induction Header.topLevel last rest generalizing pos found with
  | case1 =>
    have hround : topRound last ts pos found = .ok (.done found) := by
      rw [topRound, getElem?_of_drop_nil h.left]
      rfl
    rw [loop_of_done hround]
    exact .ok (List.append_nil found).symm
  | case2 t rest e hitem =>
    have hagrees := agrees_topItem last h
    rw [hitem] at hagrees
    have hround : topRound last ts pos found = .error (.refused e) := by
      rw [topRound, getElem?_of_drop h.left]
      change topItem last ts pos t >>= _ = _
      rw [hagrees.eq_refused]
      rfl
    rw [loop_of_error hround]
    exact .refused e
  | case3 t rest more rest' hitem ih =>
    have hagrees := agrees_topItem last h
    rw [hitem] at hagrees
    obtain ⟨⟨more', next⟩, hread, hsame, hstands⟩ := hagrees.exists_eq_ok
    obtain rfl : more' = more := hsame
    have hround : topRound last ts pos found = .ok (.again next (found ++ more'.toList)) := by
      rw [topRound, getElem?_of_drop h.left]
      change topItem last ts pos t >>= _ = _
      rw [hread]
      rfl
    -- every item is at least one token long, so that the position grows
    have hlt := lt_of_drop h.left hstands.left (length_lt_of_topItem hitem)
    rw [loop_of_again hround (lt_length_of_drop h.left) hlt]
    exact (ih _ hstands).map_right fun all more hmore => hmore.trans (List.append_assoc _ _ _)

theorem agrees_topLevel (last : Nat) (ts : List Token) :
    Agrees Eq (topLevel last ts) (Header.topLevel last ts) :=
  agrees_loop_topRound [] ⟨List.drop_zero, fun _ => rfl⟩

theorem agrees_classes (source : List Char) :
    Agrees Eq (classes source) (Header.classes source) := by
  refine (agrees_tokens source).bind fun ts ts' hts => ?_
  obtain rfl := hts
  exact agrees_topLevel _ ts

/-- Whatever its text, a header is read by position to its end or refused: no character and no token
is asked for where there is none, no count falls below zero, and every round of every loop gets on.
What is read, or the fault, is that of the reading of lists. -/
theorem classes_eq_ok_or_refused (source : List Char) :
    ((∃ found, classes source = .ok found) ∨ ∃ e, classes source = .error (.refused e)) ∧
      classes source = (Header.classes source).mapError .refused := by
  have hagrees := agrees_classes source
  refine ⟨?_, hagrees.eq_mapError⟩
  cases hclasses : Header.classes source with
  | ok found =>
    rw [hclasses] at hagrees
    obtain ⟨found', hfound, -⟩ := hagrees.exists_eq_ok
    exact .inl ⟨found', hfound⟩
  | error e =>
    rw [hclasses] at hagrees
    exact .inr ⟨e, hagrees.eq_refused⟩

end

end Instrument.Header.ByPosition
