import Instrument.Header.Method

/-!
Reading the declarations of a header. Everything but classes and their methods is skipped. Main
statement of the small lemmas: each declaration that is read or skipped, unless it is a closing
brace, takes at least one token, so that reading ends.
-/

namespace Instrument.Header

/-! ### Skipping declarations -/

/-- Whether a token may stand right before the body of a function. -/
def precedesBody (t : Token) : Bool :=
  t.isSymbol ')' || t.isOneOf ["const", "override", "final", "noexcept"]

/-- The tokens after the declaration that began on line `line`, after `parens` open parentheses.
A declaration ends with a semicolon, with the body of a function, or before a closing brace;
`body` tells whether a brace would open a body. -/
def skipFrom (line parens : Nat) (body : Bool) (ts : List Token) :
    Except ParseError (List Token) :=
  match ts with
  | [] => .error ⟨line, .unterminatedDeclaration⟩
  | t :: rest =>
    if t.isSymbol '(' then skipFrom line (parens + 1) false rest
    else if t.isSymbol ')' then skipFrom line (parens - 1) true rest
    else if parens = 0 ∧ t.isSymbol ';' then .ok rest
    else if parens = 0 ∧ t.isSymbol '}' then .ok ts
    else if parens = 0 ∧ t.isSymbol '{' then
      match _h : enclosed? '{' '}' 0 rest with
      | none => .error ⟨t.line, .unbalancedBraces⟩
      | some (_, after) =>
        if after.head?.any (·.isSymbol ';') then .ok after.tail
        else if body then .ok after
        else skipFrom line 0 false after
    else skipFrom line parens (precedesBody t) rest
termination_by ts.length
decreasing_by
  · simp
  · simp
  · have := length_lt_of_enclosed? _h
    simp only [List.length_cons]
    omega
  · simp

/-- The line of the first token, or the last line of the header if there is none. -/
def lineOf (last : Nat) (ts : List Token) : Nat := (ts.head?.map (·.line)).getD last

/-- The tokens after a declaration. -/
def skipDeclaration (last : Nat) (ts : List Token) : Except ParseError (List Token) :=
  skipFrom (lineOf last ts) 0 false ts

/-- The tokens after a template parameter list, if there is one. -/
def skipTemplate (ts : List Token) : Except ParseError (List Token) :=
  match ts with
  | [] => .ok []
  | t :: rest =>
    if t.isSymbol '<' then
      match enclosed? '<' '>' 0 rest with
      | none => .error ⟨t.line, .unbalancedTemplate⟩
      | some (_, after) => .ok after
    else .ok ts

theorem length_le_of_skipFrom {line parens : Nat} {body : Bool} {ts rest : List Token}
    (h : skipFrom line parens body ts = .ok rest) : rest.length ≤ ts.length := by
  fun_induction skipFrom line parens body ts with
  | case1 => simp at h
  | case2 parens body t rest' _ ih => have := ih h; simp; omega
  | case3 parens body t rest' _ _ ih => have := ih h; simp; omega
  | case4 => simp_all
  | case5 => simp_all
  | case6 => simp at h
  | case7 parens body t rest' _ _ _ _ _ inside after heq hhead =>
    have := length_lt_of_enclosed? heq
    cases h
    simp
    omega
  | case8 parens t rest' _ _ _ _ _ inside after heq _ =>
    have := length_lt_of_enclosed? heq
    cases h
    simp
    omega
  | case9 parens body t rest' _ _ _ _ _ inside after heq _ _ ih =>
    have := length_lt_of_enclosed? heq
    have := ih h
    simp
    omega
  | case10 parens body t rest' _ _ _ _ _ ih => have := ih h; simp; omega

theorem length_lt_of_skipFrom {line parens : Nat} {body : Bool} {t : Token} {ts rest : List Token}
    (ht : t.isSymbol '}' = false) (h : skipFrom line parens body (t :: ts) = .ok rest) :
    rest.length < (t :: ts).length := by
  rw [skipFrom] at h
  simp only [List.length_cons]
  split at h
  · have := length_le_of_skipFrom h; omega
  split at h
  · have := length_le_of_skipFrom h; omega
  split at h
  · cases h; omega
  split at h
  · simp_all
  split at h
  · split at h
    · simp at h
    · next heq =>
      have := length_lt_of_enclosed? heq
      split at h
      · cases h; simp only [List.length_tail]; omega
      split at h
      · cases h; omega
      · have := length_le_of_skipFrom h; omega
  · have := length_le_of_skipFrom h; omega

theorem length_le_of_skipDeclaration {last : Nat} {ts rest : List Token}
    (h : skipDeclaration last ts = .ok rest) : rest.length ≤ ts.length :=
  length_le_of_skipFrom h

theorem length_lt_of_skipDeclaration {last : Nat} {t : Token} {ts rest : List Token}
    (ht : t.isSymbol '}' = false) (h : skipDeclaration last (t :: ts) = .ok rest) :
    rest.length < (t :: ts).length :=
  length_lt_of_skipFrom ht h

theorem length_le_of_skipTemplate {ts rest : List Token} (h : skipTemplate ts = .ok rest) :
    rest.length ≤ ts.length := by
  unfold skipTemplate at h
  split at h
  · cases h; simp
  · split at h
    · split at h
      · simp at h
      · next heq =>
        have := length_lt_of_enclosed? heq
        cases h
        simp
        omega
    · cases h; simp

/-! ### Members -/

/-- How a token changes the number of open parentheses and square brackets. -/
def memberDepth (depth : Nat) (t : Token) : Nat :=
  if t.isSymbol '(' ∨ t.isSymbol '[' then depth + 1
  else if t.isSymbol ')' ∨ t.isSymbol ']' then depth - 1
  else depth

/-- The tokens of a member up to the semicolon or brace that ends it, and the rest from there. -/
def splitMember (depth : Nat) : List Token → List Token × List Token
  | [] => ([], [])
  | t :: ts =>
    if depth = 0 ∧ (t.isSymbol ';' ∨ t.isSymbol '{' ∨ t.isSymbol '}') then ([], t :: ts)
    else
      let (head, rest) := splitMember (memberDepth depth t) ts
      (t :: head, rest)

/-- The next opening brace outside parentheses: whether a name or a closing angle bracket stands
right before it, its line, and what follows it. -/
def nextBrace? (parens : Nat) (named : Bool) : List Token → Option (Bool × Nat × List Token)
  | [] => none
  | t :: ts =>
    let named' := t.word?.isSome || t.isSymbol '>'
    if t.isSymbol '(' then nextBrace? (parens + 1) named' ts
    else if t.isSymbol ')' then nextBrace? (parens - 1) named' ts
    else if parens = 0 ∧ t.isSymbol '{' then some (named, t.line, ts)
    else nextBrace? parens named' ts

theorem length_lt_of_nextBrace? {parens : Nat} {named named' : Bool} {line : Nat}
    {ts rest : List Token} (h : nextBrace? parens named ts = some (named', line, rest)) :
    rest.length < ts.length := by
  fun_induction nextBrace? parens named ts <;> simp_all <;> omega

/-- The tokens after the initial values and the body of a constructor, given what follows an
opening brace on line `line`: after a name the brace holds an initial value, else it opens the
body. -/
def skipInitializers (last : Nat) (named : Bool) (line : Nat) (ts : List Token) :
    Except ParseError (List Token) :=
  match _h : enclosed? '{' '}' 0 ts with
  | none => .error ⟨line, .unbalancedBraces⟩
  | some (_, after) =>
    if named then
      match _h' : nextBrace? 0 false after with
      | none => .error ⟨lineOf last after, .unterminatedConstructor⟩
      | some (named, line, rest) => skipInitializers last named line rest
    else .ok after
termination_by ts.length
decreasing_by
  have := length_lt_of_enclosed? _h
  have := length_lt_of_nextBrace? _h'
  omega

/-- What follows a member whose tokens are `head`, given the rest from the token that ends it on. -/
def skipMemberEnd (last : Nat) (className : String) (head : List Token) (isMethod : Bool)
    (ts : List Token) : Except ParseError (List Token) :=
  match ts with
  | [] => .error ⟨lineOf last head, .unterminatedMember className⟩
  | t :: rest =>
    if t.isSymbol ';' then .ok rest
    else if t.isSymbol '{' then
      if isMethod ∧ hasInitializers head then
        let named := head.getLast?.any fun t => t.word?.isSome || t.isSymbol '>'
        skipInitializers last named t.line rest
      else
        match enclosed? '{' '}' 0 rest with
        | none => .error ⟨t.line, .unbalancedBraces⟩
        | some (_, after) =>
          if !isMethod then skipDeclaration last after
          else if after.head?.any (·.isSymbol ';') then .ok after.tail
          else .ok after
    else .ok ts

/-- Reads one member: the method that it declares, if it declares one, and the rest. -/
def member (last : Nat) (className : String) (isPublic : Bool) (ts : List Token) :
    Except ParseError (Option Method × List Token) :=
  let (head, ending) := splitMember 0 ts
  let found := method? className isPublic head
  (skipMemberEnd last className head found.isSome ending).map fun rest => (found, rest)

theorem splitMember_append (depth : Nat) (ts : List Token) :
    (splitMember depth ts).1 ++ (splitMember depth ts).2 = ts := by
  fun_induction splitMember depth ts <;> simp_all

theorem length_le_of_skipInitializers {last : Nat} {named : Bool} {line : Nat}
    {ts rest : List Token} (h : skipInitializers last named line ts = .ok rest) :
    rest.length ≤ ts.length := by
  fun_induction skipInitializers last named line ts with
  | case1 => simp at h
  | case2 => simp at h
  | case3 line ts inside after heq named' line' rest' heq' ih =>
    have := length_lt_of_enclosed? heq
    have := length_lt_of_nextBrace? heq'
    have := ih h
    omega
  | case4 named line ts inside after heq _ =>
    have := length_lt_of_enclosed? heq
    cases h
    omega

theorem length_le_of_skipMemberEnd {last : Nat} {className : String} {head : List Token}
    {isMethod : Bool} {ts rest : List Token}
    (h : skipMemberEnd last className head isMethod ts = .ok rest) :
    rest.length ≤ ts.length := by
  unfold skipMemberEnd at h
  split at h
  · simp at h
  · simp only [List.length_cons]
    split at h
    · cases h; omega
    split at h
    · split at h
      · have := length_le_of_skipInitializers h; omega
      · split at h
        · simp at h
        · next heq =>
          have := length_lt_of_enclosed? heq
          split at h
          · have := length_le_of_skipDeclaration h; omega
          split at h <;> cases h <;> simp <;> omega
    · cases h; simp

theorem length_lt_of_skipMemberEnd {last : Nat} {className : String} {head : List Token}
    {isMethod : Bool} {t : Token} {ts rest : List Token}
    (ht : t.isSymbol ';' ∨ t.isSymbol '{')
    (h : skipMemberEnd last className head isMethod (t :: ts) = .ok rest) :
    rest.length < (t :: ts).length := by
  simp only [skipMemberEnd] at h
  simp only [List.length_cons]
  split at h
  · cases h; omega
  split at h
  · split at h
    · have := length_le_of_skipInitializers h; omega
    · split at h
      · simp at h
      · next heq =>
        have := length_lt_of_enclosed? heq
        split at h
        · have := length_le_of_skipDeclaration h; omega
        split at h <;> cases h <;> simp <;> omega
  · simp_all

theorem length_lt_of_member {last : Nat} {className : String} {isPublic : Bool} {t : Token}
    {ts rest : List Token} {found : Option Method} (ht : t.isSymbol '}' = false)
    (h : member last className isPublic (t :: ts) = .ok (found, rest)) :
    rest.length < (t :: ts).length := by
  simp only [member] at h
  cases hend : skipMemberEnd last className (splitMember 0 (t :: ts)).1
      (method? className isPublic (splitMember 0 (t :: ts)).1).isSome
      (splitMember 0 (t :: ts)).2 with
  | error e => rw [hend] at h; simp [Except.map] at h
  | ok r =>
    rw [hend] at h
    simp only [Except.map, Except.ok.injEq, Prod.mk.injEq] at h
    obtain ⟨_, rfl⟩ := h
    have happ := congrArg List.length (splitMember_append 0 (t :: ts))
    rw [List.length_append] at happ
    by_cases hstop : t.isSymbol ';' ∨ t.isSymbol '{'
    · have hsplit : (splitMember 0 (t :: ts)).2 = t :: ts := by
        rw [splitMember, if_pos ⟨rfl, hstop.elim .inl fun h => .inr (.inl h)⟩]
      rw [hsplit] at hend
      exact length_lt_of_skipMemberEnd hstop hend
    · have hlen : 0 < (splitMember 0 (t :: ts)).1.length := by
        rw [splitMember, if_neg (by simp_all)]
        simp
      have := length_le_of_skipMemberEnd hend
      omega

/-! ### Classes -/

/-- Words that begin declarations in a class that are no members of their own. -/
def nestedWords : List String :=
  ["using", "typedef", "friend", "static_assert", "enum", "union", "class", "struct"]

/-- What one step in the body of a class yields. -/
inductive BodyItem where
  /-- The closing brace. -/
  | closed
  /-- From here on members are public or are not. -/
  | access (isPublic : Bool)
  | skipped
  | method (found : Method)
deriving DecidableEq, Repr

/-- Reads what begins with the token `t` in the body of a class. -/
def bodyItem (last : Nat) (className : String) (isPublic : Bool) (t : Token) (ts : List Token) :
    Except ParseError (BodyItem × List Token) :=
  if t.isSymbol '}' then .ok (.closed, ts)
  else if t.isSymbol ';' then .ok (.skipped, ts)
  else if t.isOneOf ["public", "private", "protected"] ∧ ts.head?.any (·.isSymbol ':') then
    .ok (.access (t.isWord "public"), ts.tail)
  else if t.isWord "template" then
    (skipTemplate ts >>= skipDeclaration last).map fun rest => (.skipped, rest)
  else if t.isOneOf nestedWords then
    (skipDeclaration last (t :: ts)).map fun rest => (.skipped, rest)
  else
    (member last className isPublic (t :: ts)).map fun (found, rest) =>
      (match found with | some m => .method m | none => .skipped, rest)

theorem length_lt_of_map_skip {α : Type} {a : α} {item : α} {ts rest : List Token}
    {result : Except ParseError (List Token)}
    (hlt : ∀ r, result = .ok r → r.length < ts.length)
    (h : (result.map fun rest => (a, rest)) = .ok (item, rest)) : rest.length < ts.length := by
  cases result with
  | error e => simp [Except.map] at h
  | ok r =>
    simp only [Except.map, Except.ok.injEq, Prod.mk.injEq] at h
    exact h.2 ▸ hlt r rfl

theorem length_le_of_skipTemplate_skipDeclaration {last : Nat} {ts rest : List Token}
    (h : (skipTemplate ts >>= skipDeclaration last) = .ok rest) : rest.length ≤ ts.length := by
  cases htemplate : skipTemplate ts with
  | error e => rw [htemplate] at h; simp [bind, Except.bind] at h
  | ok r =>
    rw [htemplate] at h
    have := length_le_of_skipTemplate htemplate
    have := length_le_of_skipDeclaration (show skipDeclaration last r = .ok rest from h)
    omega

theorem Token.isSymbol_eq_false_of_isOneOf {t : Token} {words : List String} {c : Char}
    (h : t.isOneOf words = true) : t.isSymbol c = false := by
  obtain ⟨kind, line⟩ := t
  cases kind <;> simp_all [Token.isOneOf, Token.word?, Token.isSymbol]

theorem length_lt_of_bodyItem {last : Nat} {className : String} {isPublic : Bool} {t : Token}
    {ts rest : List Token} {item : BodyItem}
    (h : bodyItem last className isPublic t ts = .ok (item, rest)) :
    rest.length < (t :: ts).length := by
  unfold bodyItem at h
  split at h
  · cases h; simp
  split at h
  · cases h; simp
  split at h
  · cases h; simp only [List.length_cons, List.length_tail]; omega
  split at h
  · refine length_lt_of_map_skip (fun r hr => ?_) h
    have := length_le_of_skipTemplate_skipDeclaration hr
    simp
    omega
  split at h
  · next hword =>
    refine length_lt_of_map_skip (fun r hr => ?_) h
    exact length_lt_of_skipDeclaration (Token.isSymbol_eq_false_of_isOneOf hword) hr
  · next hclose _ _ _ _ =>
    cases hm : member last className isPublic (t :: ts) with
    | error e => rw [hm] at h; simp [Except.map] at h
    | ok r =>
      rw [hm] at h
      simp only [Except.map, Except.ok.injEq, Prod.mk.injEq] at h
      obtain ⟨_, rfl⟩ := h
      exact length_lt_of_member (by simpa using hclose) hm

/-- The methods of a class from here to its closing brace, and what follows that. -/
def classBody (last line : Nat) (className : String) (isPublic : Bool) (ts : List Token) :
    Except ParseError (List Method × List Token) :=
  match ts with
  | [] => .error ⟨line, .unclosedClass className⟩
  | t :: ts =>
    match _h : bodyItem last className isPublic t ts with
    | .error e => .error e
    | .ok (.closed, rest) => .ok ([], rest)
    | .ok (.access isPublic, rest) => classBody last line className isPublic rest
    | .ok (.skipped, rest) => classBody last line className isPublic rest
    | .ok (.method found, rest) =>
      (classBody last line className isPublic rest).map fun (methods, rest) =>
        (found :: methods, rest)
termination_by ts.length
decreasing_by all_goals exact length_lt_of_bodyItem _h

theorem length_lt_of_classBody {last line : Nat} {className : String} {isPublic : Bool}
    {ts rest : List Token} {methods : List Method}
    (h : classBody last line className isPublic ts = .ok (methods, rest)) :
    rest.length < ts.length := by
  fun_induction classBody last line className isPublic ts generalizing methods rest with
  | case1 => simp at h
  | case2 => simp at h
  | case3 isPublic t ts rest' hitem =>
    cases h
    exact length_lt_of_bodyItem hitem
  | case4 isPublic t ts isPublic' rest' hitem ih =>
    exact Nat.lt_trans (ih h) (length_lt_of_bodyItem hitem)
  | case5 isPublic t ts rest' hitem ih =>
    exact Nat.lt_trans (ih h) (length_lt_of_bodyItem hitem)
  | case6 isPublic t ts found rest' hitem ih =>
    cases hbody : classBody last line className isPublic rest' with
    | error e => rw [hbody] at h; simp [Except.map] at h
    | ok r =>
      rw [hbody] at h
      simp only [Except.map, Except.ok.injEq, Prod.mk.injEq] at h
      obtain ⟨_, rfl⟩ := h
      exact Nat.lt_trans (ih hbody) (length_lt_of_bodyItem hitem)

/-- Reads what follows the keyword of a class. Forward declarations and types without a name
declare no class. -/
def classDeclaration (last : Nat) (keyword : Token) (ts : List Token) :
    Except ParseError (Option Class × List Token) :=
  match ts with
  | [] => (skipDeclaration last ts).map fun rest => (none, rest)
  | t :: rest =>
    match t.word? with
    | none => (skipDeclaration last ts).map fun rest => (none, rest)
    | some name =>
      match rest.dropWhile fun t => !(t.isSymbol '{' || t.isSymbol ';') with
      | [] => .error ⟨keyword.line, .unterminatedClass name⟩
      | t :: rest =>
        if t.isSymbol ';' then .ok (none, rest)
        else
          (classBody last keyword.line name (keyword.isWord "struct") rest).map
            fun (methods, rest) =>
              (some ⟨name, keyword.line, methods⟩, (rest.dropWhile (!·.isSymbol ';')).drop 1)

theorem length_dropWhile_token_le (p : Token → Bool) (ts : List Token) :
    (ts.dropWhile p).length ≤ ts.length := length_dropWhile_le p ts

theorem length_le_of_classDeclaration {last : Nat} {keyword : Token} {ts rest : List Token}
    {found : Option Class} (h : classDeclaration last keyword ts = .ok (found, rest)) :
    rest.length ≤ ts.length := by
  have hskip {ts' : List Token} (h' : ((skipDeclaration last ts').map fun rest => (none, rest)) =
      Except.ok (found, rest)) : rest.length ≤ ts'.length := by
    refine Nat.lt_succ_iff.1 ?_
    have : rest.length < (keyword :: ts').length :=
      length_lt_of_map_skip (fun r hr => by
        have := length_le_of_skipDeclaration hr
        simp
        omega) h'
    simpa using this
  unfold classDeclaration at h
  split at h
  · exact hskip h
  · next t rest' =>
    split at h
    · exact hskip h
    · split at h
      · simp at h
      · next t' rest'' heq =>
        have hdrop := length_dropWhile_token_le
          (fun t => !(t.isSymbol '{' || t.isSymbol ';')) rest'
        rw [heq] at hdrop
        simp only [List.length_cons] at hdrop ⊢
        split at h
        · cases h; omega
        · generalize hbody :
            classBody last keyword.line _ (keyword.isWord "struct") rest'' = body at h
          cases body with
          | error e => simp [Except.map] at h
          | ok r =>
            obtain ⟨methods, r⟩ := r
            simp only [Except.map, Except.ok.injEq, Prod.mk.injEq] at h
            obtain ⟨_, rfl⟩ := h
            have := length_lt_of_classBody hbody
            have := length_dropWhile_token_le (!·.isSymbol ';') r
            simp only [List.length_drop]
            omega

/-! ### Headers -/

/-- Reads what begins with the token `t` outside all classes. Namespaces and linkage blocks are
transparent. -/
def topItem (last : Nat) (t : Token) (ts : List Token) :
    Except ParseError (Option Class × List Token) :=
  let skip (result : Except ParseError (List Token)) := result.map fun rest => (none, rest)
  if t.isWord "namespace" then
    match ts.dropWhile fun t => !(t.isSymbol '{' || t.isSymbol ';' || t.isSymbol '=') with
    | [] => skip (skipDeclaration last [])
    | t :: rest =>
      if t.isSymbol '{' then .ok (none, rest) else skip (skipDeclaration last (t :: rest))
  else if t.isWord "extern" ∧ ts.head?.any (·.kind == .literal) then
    .ok (none, if ts.tail.head?.any (·.isSymbol '{') then ts.tail.tail else ts.tail)
  else if t.isWord "template" then skip (skipTemplate ts >>= skipDeclaration last)
  else if t.isOneOf ["class", "struct"] then classDeclaration last t ts
  else if t.isSymbol '}' ∨ t.isSymbol ';' then .ok (none, ts)
  else skip (skipDeclaration last (t :: ts))

theorem length_lt_of_topItem {last : Nat} {t : Token} {ts rest : List Token}
    {found : Option Class} (h : topItem last t ts = .ok (found, rest)) :
    rest.length < (t :: ts).length := by
  unfold topItem at h
  split at h
  · have hdrop := length_dropWhile_token_le
      (fun t => !(t.isSymbol '{' || t.isSymbol ';' || t.isSymbol '=')) ts
    split at h
    · refine length_lt_of_map_skip (fun r hr => ?_) h
      have := length_le_of_skipDeclaration hr
      simp at this
      simp [this]
    · next heq =>
      rw [heq] at hdrop
      simp only [List.length_cons] at hdrop
      split at h
      · cases h; simp only [List.length_cons]; omega
      · refine length_lt_of_map_skip (fun r hr => ?_) h
        have := length_le_of_skipDeclaration hr
        simp at this
        simp
        omega
  split at h
  · cases h
    split <;> simp only [List.length_cons, List.length_tail] <;> omega
  split at h
  · refine length_lt_of_map_skip (fun r hr => ?_) h
    have := length_le_of_skipTemplate_skipDeclaration hr
    simp
    omega
  split at h
  · have := length_le_of_classDeclaration h
    simp
    omega
  split at h
  · cases h; simp
  · next hend =>
    refine length_lt_of_map_skip (fun r hr => ?_) h
    exact length_lt_of_skipDeclaration (by simp_all) hr

/-- The classes that some tokens declare. -/
def topLevel (last : Nat) (ts : List Token) : Except ParseError (List Class) :=
  match ts with
  | [] => .ok []
  | t :: ts =>
    match _h : topItem last t ts with
    | .error e => .error e
    | .ok (found, rest) => (topLevel last rest).map (found.toList ++ ·)
termination_by ts.length
decreasing_by exact length_lt_of_topItem _h

/-- The classes that a header declares, in order. -/
def classes (source : List Char) : Except ParseError (List Class) := do
  let ts ← tokens source
  topLevel ((ts.getLast?.map (·.line)).getD 1) ts

end Instrument.Header
