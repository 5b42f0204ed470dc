import Instrument.Proofs.Header.Lookahead.Places

/-!
Declarations as they are skipped. A declaration has a head and ends with a semicolon or with a
block, or goes on after a block. Main statement: the heads tell whether reading goes on behind a
declaration as if it were not there, and if they tell that it does not, then some members that may
follow show it.
-/

namespace Instrument.Header

/-! ### Heads -/

/-- How a token changes the number of open parentheses. -/
def parenDepth (depth : Nat) (t : Token) : Nat :=
  if t.isSymbol '(' then depth + 1 else if t.isSymbol ')' then depth - 1 else depth

/-- Whether no semicolon and no brace stand outside brackets, and the brackets are closed in the
end; `count` counts those that are open. -/
def IsFlat (count : Nat → Token → Nat) (depth : Nat) : List Token → Prop
  | [] => depth = 0
  | t :: ts => (depth = 0 → ¬endsMember t) ∧ IsFlat count (count depth t) ts

instance (t : Token) : Decidable (endsMember t) := inferInstanceAs (Decidable (_ ∨ _ ∨ _))

instance decidableIsFlat (count : Nat → Token → Nat) :
    (depth : Nat) → (ts : List Token) → Decidable (IsFlat count depth ts)
  | depth, [] => inferInstanceAs (Decidable (depth = 0))
  | depth, t :: ts => @instDecidableAnd _ _ _ (decidableIsFlat count (count depth t) ts)

/-- Whether a brace after a token holds an initial value. -/
def namesInitial (t : Token) : Bool := t.word?.isSome || t.isSymbol '>'

/-- Whether a block after some tokens counts as the body of a function. -/
def takesBody (head : List Token) : Bool := head.getLast?.any precedesBody

/-- Whether a block after some tokens holds an initial value. -/
def takesInitial (head : List Token) : Bool := head.getLast?.any namesInitial

theorem getD_getLast?_cons {α : Type} (f : Token → α) (t : Token) (ts : List Token) (a : α) :
    ((t :: ts).getLast?.map f).getD a = (ts.getLast?.map f).getD (f t) := by
  cases ts with
  | nil => rfl
  | cons u ts =>
    rw [List.getLast?_cons_cons, List.getLast?_eq_some_getLast (List.cons_ne_nil u ts)]
    rfl

theorem getD_getLast?_eq_any (f : Token → Bool) (head : List Token) :
    (head.getLast?.map f).getD false = head.getLast?.any f := by
  cases head.getLast? <;> rfl

/-- What ends no declaration is skipped, and its last token tells whether a body may follow. -/
theorem skipFrom_append {line depth : Nat} {body : Bool} {ts : List Token}
    (h : IsFlat parenDepth depth ts) (rest : List Token) :
    skipFrom line depth body (ts ++ rest) =
      skipFrom line 0 ((ts.getLast?.map precedesBody).getD body) rest := by
  induction ts generalizing depth body with
  | nil =>
    have hdepth : depth = 0 := h
    rw [hdepth]
    rfl
  | cons t ts ih =>
    obtain ⟨hends, hflat⟩ := h
    have hstep : skipFrom line depth body (t :: (ts ++ rest)) =
        skipFrom line (parenDepth depth t) (precedesBody t) (ts ++ rest) := by
      have hstop (c : Char) (hc : t.isSymbol c → endsMember t) : ¬(depth = 0 ∧ t.isSymbol c) :=
        fun hboth => hends hboth.1 (hc hboth.2)
      rw [skipFrom_cons, if_neg (hstop ';' .inl), if_neg (hstop '}' fun h => .inr (.inr h)),
        if_neg (hstop '{' fun h => .inr (.inl h)), parenDepth]
      by_cases hopen : t.isSymbol '('
      · have hbody : precedesBody t = false := by
          obtain ⟨line, rfl⟩ := Token.exists_of_isSymbol hopen
          rfl
        rw [if_pos hopen, if_pos hopen, hbody]
      rw [if_neg hopen, if_neg hopen]
      by_cases hclose : t.isSymbol ')'
      · rw [if_pos hclose, if_pos hclose, precedesBody, hclose, Bool.true_or]
      · rw [if_neg hclose, if_neg hclose]
    rw [List.cons_append, hstep, ih hflat, getD_getLast?_cons]

theorem splitMember_flat {depth : Nat} {head : List Token} (h : IsFlat memberDepth depth head)
    {t : Token} (ht : endsMember t) (rest : List Token) :
    splitMember depth (head ++ t :: rest) = (head, t :: rest) := by
  induction head generalizing depth with
  | nil =>
    have hdepth : depth = 0 := h
    rw [hdepth]
    exact splitMember_of_ends ht rest
  | cons u head ih =>
    obtain ⟨hends, hflat⟩ := h
    have hne : ¬(depth = 0 ∧ (u.isSymbol ';' ∨ u.isSymbol '{' ∨ u.isSymbol '}')) :=
      fun hstop => hends hstop.1 hstop.2
    rw [List.cons_append, splitMember, if_neg hne, ih hflat]

theorem nextBrace?_append_flat {depth : Nat} {named : Bool} {ts : List Token}
    (h : IsFlat parenDepth depth ts) (rest : List Token) :
    nextBrace? depth named (ts ++ rest) =
      nextBrace? 0 ((ts.getLast?.map namesInitial).getD named) rest := by
  induction ts generalizing depth named with
  | nil =>
    have hdepth : depth = 0 := h
    rw [hdepth]
    rfl
  | cons t ts ih =>
    obtain ⟨hends, hflat⟩ := h
    have hbrace : ¬(depth = 0 ∧ t.isSymbol '{') := fun hboth => hends hboth.1 (.inr (.inl hboth.2))
    have hstep : nextBrace? depth named (t :: (ts ++ rest)) =
        nextBrace? (parenDepth depth t) (namesInitial t) (ts ++ rest) := by
      simp only [nextBrace?, if_neg hbrace, parenDepth]
      split
      · rfl
      split <;> rfl
    rw [List.cons_append, hstep, ih hflat, getD_getLast?_cons]

/-- A head is empty or begins with a token that ends nothing. -/
theorem head_cases {count : Nat → Token → Nat} {head : List Token} (h : IsFlat count 0 head) :
    head = [] ∨ ∃ t ts, head = t :: ts ∧ t.isSymbol ';' = false := by
  cases head with
  | nil => exact .inl rfl
  | cons t ts => exact .inr ⟨t, ts, rfl, by simpa using fun hsymbol => h.1 rfl (.inl hsymbol)⟩

/-! ### Declarations -/

/-- A semicolon. -/
abbrev Semicolon := { t : Token // t.isSymbol ';' }

/-- A declaration, or the rest of one after a block. -/
inductive Declaration where
  | ended (head : List Token) (semicolon : Semicolon)
  | defined (head : List Token) (body : Block)
  | onward (head : List Token) (block : Block) (rest : Declaration)

/-- How tokens are read in the body of a class. -/
inductive Reading where
  /-- As a member that they begin. -/
  | member
  /-- As what goes on with a declaration that is skipped. -/
  | onward
  /-- As what goes on with the initial values of a constructor, up to its body. -/
  | initial
deriving DecidableEq

namespace Reading

/-- How a token changes the number of the brackets in which nothing ends. -/
def depth : Reading → Nat → Token → Nat
  | member => memberDepth
  | onward | initial => parenDepth

section

variable (className : String) (isPublic : Bool)

/-- The method that a head declares. -/
def found? (head : List Token) : Reading → Option Method
  | member => method? className isPublic head
  | onward | initial => none

/-- How the tokens after a block are read. -/
def afterBlock (head : List Token) : Reading → Reading
  | member =>
    if (method? className isPublic head).isNone then onward
    else if hasInitializers head && takesInitial head then initial
    else member
  | onward => if takesBody head then member else onward
  | initial => if takesInitial head then initial else member

end

/-- How the tokens after a semicolon are read. -/
def afterSemicolon : Reading → Reading
  | member | onward => member
  | initial => initial

end Reading

namespace Declaration

/-- The tokens of a declaration. -/
def tokens : Declaration → List Token
  | ended head semicolon => head ++ [semicolon.1]
  | defined head body => head ++ body.tokens
  | onward head block rest => head ++ (block.tokens ++ rest.tokens)

/-- The tokens before the first semicolon or block. -/
def head : Declaration → List Token
  | ended head _ | defined head _ | onward head .. => head

/-- How a declaration is read where it begins: one that begins with a word of those that begin no
member goes on to be skipped. -/
def entered (r : Reading) (d : Declaration) : Reading :=
  if r = .member ∧ d.tokens.head?.any (·.isOneOf nestedWords) then .onward else r

/-- Whether a declaration begins in a way that a condition on its tokens allows, if it does not
begin with a semicolon. -/
def Begins (condition : Token → List Token → Prop) (d : Declaration) : Prop :=
  ∀ t ts, d.tokens = t :: ts → t.isSymbol ';' = false → condition t ts

/-- Whether the first head of a declaration ends where reading ends it, and what is read as a member
is not taken for something else. -/
def Starts (r : Reading) (d : Declaration) : Prop :=
  IsFlat r.depth 0 d.head ∧ (r = .member → d.Begins BeginsMember)

section

variable (className : String) (isPublic : Bool)

/-- Whether the parts of a declaration are those that are told apart when it is read: each head ends
at its semicolon or block, and no part that is read as a member begins something else. -/
def Fits : Reading → Declaration → Prop
  | r, ended head semicolon => (ended head semicolon).Starts r
  | r, defined head body => (defined head body).Starts r
  | r, onward head block rest =>
    (onward head block rest).Starts r ∧
      rest.Fits (rest.entered (r.afterBlock className isPublic head))

/-- Whether a declaration is skipped exactly: no head declares a method, and what follows the end is
read as a member. -/
def IsSkipped : Reading → Declaration → Prop
  | r, ended head _ => r.found? className isPublic head = none ∧ r.afterSemicolon = .member
  | r, defined head _ =>
    r.found? className isPublic head = none ∧ r.afterBlock className isPublic head = .member
  | r, onward head _ rest =>
    r.found? className isPublic head = none ∧
      rest.IsSkipped (rest.entered (r.afterBlock className isPublic head))

instance decidableIsSkipped :
    (r : Reading) → (d : Declaration) → Decidable (d.IsSkipped className isPublic r)
  | _, ended .. => inferInstanceAs (Decidable (_ ∧ _))
  | _, defined .. => inferInstanceAs (Decidable (_ ∧ _))
  | r, onward head _ rest =>
    @instDecidableAnd _ _ _
      (decidableIsSkipped (rest.entered (r.afterBlock className isPublic head)) rest)

end

/-- Whether the parts of a declaration outside all classes are those that are told apart when it is
read. -/
def FitsOutside : Declaration → Prop
  | ended head _ | defined head _ => IsFlat parenDepth 0 head
  | onward head _ rest =>
    IsFlat parenDepth 0 head ∧ (takesBody head → rest.Begins BeginsSkipped) ∧ rest.FitsOutside

/-- Whether a declaration outside all classes is skipped exactly: what ends it is a semicolon or
counts as the body of a function. -/
def IsSkippedOutside : Declaration → Prop
  | ended .. => True
  | defined head _ => takesBody head
  | onward _ _ rest => rest.IsSkippedOutside

instance decidableIsSkippedOutside : (d : Declaration) → Decidable d.IsSkippedOutside
  | ended .. => .isTrue trivial
  | defined .. => inferInstanceAs (Decidable (_ = true))
  | onward _ _ rest => decidableIsSkippedOutside rest

theorem exists_tokens_eq_cons (d : Declaration) : ∃ t ts, d.tokens = t :: ts :=
  List.exists_cons_of_ne_nil (by cases d <;> simp [tokens, Block.tokens])

/-- A declaration is more than its first token, unless that is a semicolon. -/
theorem tokens_ne_singleton (d : Declaration) {t : Token} (ht : t.isSymbol ';' = false) :
    d.tokens ≠ [t] := by
  intro htokens
  have hlen := congrArg List.length htokens
  cases d with
  | ended head semicolon =>
    cases head with
    | nil =>
      cases htokens
      rw [semicolon.2] at ht
      cases ht
    | cons u us => simp [tokens] at hlen
  | defined head body =>
    simp only [tokens, Block.tokens, List.length_append, List.length_cons, List.length_nil] at hlen
    omega
  | onward head block rest =>
    simp only [tokens, Block.tokens, List.length_append, List.length_cons, List.length_nil] at hlen
    omega

/-- What begins a declaration begins it whatever follows, if its first two tokens tell. -/
theorem Begins.append {condition : Token → List Token → Prop} {d : Declaration}
    (hd : d.Begins condition)
    (hcondition : ∀ t u us us', condition t (u :: us) → condition t (u :: us'))
    {post us : List Token} {u : Token} (heq : d.tokens ++ post = u :: us)
    (hu : u.isSymbol ';' = false) : condition u us := by
  obtain ⟨t, ts, htokens⟩ := d.exists_tokens_eq_cons
  rw [htokens] at heq
  cases heq
  cases ts with
  | nil => exact absurd htokens (d.tokens_ne_singleton hu)
  | cons v ts => exact hcondition _ _ _ _ (hd _ _ htokens hu)

/-- The first token of a member is that of a member, whatever follows. -/
theorem Begins.member {d : Declaration} (hd : d.Begins BeginsMember) {post us : List Token}
    {u : Token} (heq : d.tokens ++ post = u :: us) (hu : u.isSymbol ';' = false) :
    BeginsMember u us :=
  hd.append (fun _ _ _ _ h => h) heq hu

/-- The first token of what is skipped outside all classes is such a token, whatever follows. -/
theorem Begins.skipped {d : Declaration} (hd : d.Begins BeginsSkipped) {post us : List Token}
    {u : Token} (heq : d.tokens ++ post = u :: us) (hu : u.isSymbol ';' = false) :
    BeginsSkipped u us :=
  hd.append (fun _ _ _ _ h => h) heq hu

/-- The first token does not end a class if the condition on it forbids that. -/
theorem Begins.head?_tokens {condition : Token → List Token → Prop} {d : Declaration}
    (hd : d.Begins condition) (hcondition : ∀ t ts, condition t ts → t.isSymbol '}' = false) :
    d.tokens.head?.any (!·.isSymbol '}') := by
  obtain ⟨t, ts, htokens⟩ := d.exists_tokens_eq_cons
  have hclose : t.isSymbol '}' = false := by
    by_cases hsemicolon : t.isSymbol ';'
    · exact Token.isSymbol_of_isSymbol hsemicolon '}'
    · exact hcondition t ts (hd t ts htokens (by simpa using hsemicolon))
  rw [htokens, List.head?_cons, Option.any_some, hclose, Bool.not_false]

theorem Fits.starts {className : String} {isPublic : Bool} {r : Reading} {d : Declaration}
    (h : d.Fits className isPublic r) : d.Starts r := by
  cases d with
  | ended => exact h
  | defined => exact h
  | onward => exact h.1

end Declaration

/-! ### Reading declarations -/

/-- What is found as a member goes before what is found after it. -/
def withMember (found : Option Method) (r : List Method × List Token) : List Method × List Token :=
  (found.toList ++ r.1, r.2)

theorem map_withMember_none (result : Except ParseError (List Method × List Token)) :
    result.map (withMember none) = result := by
  cases result <;> rfl

section Members

variable (last line : Nat) (className : String) (isPublic : Bool)

/-- The tokens after the initial values and the body of a constructor, of which some initial values
are read. -/
def skipToBody (start : Nat) (ts : List Token) : Except ParseError (List Token) :=
  match nextBrace? 0 false ts with
  | none => .error ⟨start, .unterminatedConstructor⟩
  | some (named, line, rest) => skipInitializers last named line rest

/-- Reads the rest of a class, where reading may have begun on a line `start` what goes on. -/
def readAs (start : Nat) (ts : List Token) :
    Reading → Except ParseError (List Method × List Token)
  | .member => classBody last line className isPublic ts
  | .onward => skipFrom start 0 false ts >>= classBody last line className isPublic
  | .initial => skipToBody last start ts >>= classBody last line className isPublic

theorem skipFrom_semicolon (start : Nat) (body : Bool) {t : Token} (ht : t.isSymbol ';')
    (ts : List Token) : skipFrom start 0 body (t :: ts) = .ok ts := by
  have hsymbol := Token.isSymbol_of_isSymbol ht
  simp [skipFrom_cons, hsymbol]

/-- What declares no method is read by what is left of it. -/
theorem classBody_of_skipped {t : Token} {ts : List Token} {result : Except ParseError (List Token)}
    (h : bodyItem last className isPublic t ts = result.map fun rest => (.skipped, rest)) :
    classBody last line className isPublic (t :: ts) =
      (result >>= classBody last line className isPublic) := by
  rw [classBody_cons, h]
  cases result <;> rfl

/-- Members are read in the same way with or without a semicolon before them. -/
theorem classBody_semicolon {t : Token} (ht : t.isSymbol ';') (ts : List Token) :
    classBody last line className isPublic (t :: ts) =
      classBody last line className isPublic ts := by
  have hclose : t.isSymbol '}' = false := Token.isSymbol_of_isSymbol ht '}'
  have hitem : bodyItem last className isPublic t ts = .ok (.skipped, ts) := by
    rw [bodyItem, hclose, if_neg Bool.false_ne_true, if_pos ht]
  rw [classBody_cons, hitem]

theorem skipFrom_head_block (start : Nat) {head : List Token} (h : IsFlat parenDepth 0 head)
    (block : Block) (ts : List Token) :
    skipFrom start 0 false (head ++ (block.tokens ++ ts)) =
      if ts.head?.any (·.isSymbol ';') then .ok ts.tail
      else if takesBody head then .ok ts
      else skipFrom start 0 false ts := by
  rw [skipFrom_append h, getD_getLast?_eq_any, skipFrom_block, takesBody]

theorem skipInitializers_block (named : Bool) (start : Nat) (block : Block) (ts : List Token) :
    skipInitializers last named start (block.inside ++ block.close :: ts) =
      if named then skipToBody last (lineOf last ts) ts else .ok ts := by
  rw [skipInitializers_eq, block.enclosed?_append]
  rfl

theorem skipToBody_semicolon (start : Nat) {head : List Token} (h : IsFlat parenDepth 0 head)
    {t : Token} (ht : t.isSymbol ';') (ts : List Token) :
    skipToBody last start (head ++ t :: ts) = skipToBody last start ts := by
  have hsymbol := Token.isSymbol_of_isSymbol ht
  have hword : t.word? = none := by
    obtain ⟨line, rfl⟩ := Token.exists_of_isSymbol ht
    rfl
  have hnext (named : Bool) : nextBrace? 0 named (t :: ts) = nextBrace? 0 false ts := by
    simp [nextBrace?, hsymbol, hword]
  rw [skipToBody, nextBrace?_append_flat h, hnext, skipToBody]

theorem skipToBody_block (start : Nat) {head : List Token} (h : IsFlat parenDepth 0 head)
    (block : Block) (ts : List Token) :
    skipToBody last start (head ++ (block.tokens ++ ts)) =
      if takesInitial head then skipToBody last (lineOf last ts) ts else .ok ts := by
  have hsymbol := Token.isSymbol_of_isSymbol block.isBrace
  have hnext (named : Bool) : nextBrace? 0 named (block.tokens ++ ts) =
      some (named, block.brace.line, block.inside ++ block.close :: ts) := by
    rw [block.tokens_append]
    simp [nextBrace?, hsymbol]
  rw [skipToBody, nextBrace?_append_flat h, getD_getLast?_eq_any, hnext]
  exact skipInitializers_block last _ _ block ts

/-- A member that ends with some token is read up to that token first. -/
theorem classBody_head {head : List Token} (h : IsFlat memberDepth 0 head) {t : Token}
    (ht : endsMember t) {rest us : List Token} {u : Token} (heq : head ++ t :: rest = u :: us)
    (hu : BeginsMember u us) :
    classBody last line className isPublic (head ++ t :: rest) =
      (skipMemberEnd last className head (method? className isPublic head).isSome (t :: rest) >>=
        classBody last line className isPublic).map
          (withMember (method? className isPublic head)) := by
  have hmember : member last className isPublic (u :: us) =
      (skipMemberEnd last className head (method? className isPublic head).isSome
        (t :: rest)).map fun rest => (method? className isPublic head, rest) := by
    rw [← heq, member, splitMember_flat h ht]
  rw [heq, classBody_cons, bodyItem_of_member _ _ _ _ hu, hmember]
  cases skipMemberEnd last className head (method? className isPublic head).isSome (t :: rest) with
  | error e => rfl
  | ok rest =>
    simp only [Except.map, bind, Except.bind]
    cases method? className isPublic head with
    | none =>
      simp only [memberItem]
      cases classBody last line className isPublic rest <;> rfl
    | some m => rfl

/-- What is read after a block that a member has. -/
theorem exists_skipMemberEnd_block (head : List Token) (block : Block) (ts : List Token) :
    ∃ start, (skipMemberEnd last className head (method? className isPublic head).isSome
        (block.tokens ++ ts) >>= classBody last line className isPublic) =
      readAs last line className isPublic start ts
        (Reading.member.afterBlock className isPublic head) := by
  have hsemicolon : block.brace.isSymbol ';' = false := Token.isSymbol_of_isSymbol block.isBrace ';'
  refine ⟨lineOf last ts, ?_⟩
  rw [Reading.afterBlock]
  cases hfound : method? className isPublic head with
  | none =>
    rw [skipMemberEnd_block _ _ (by simp)]
    rfl
  | some m =>
    by_cases hinitializers : hasInitializers head
    · have hend : skipMemberEnd last className head true (block.tokens ++ ts) =
          skipInitializers last (takesInitial head) block.brace.line
            (block.inside ++ block.close :: ts) := by
        rw [block.tokens_append, skipMemberEnd, hsemicolon, if_neg Bool.false_ne_true,
          if_pos block.isBrace, if_pos ⟨rfl, hinitializers⟩]
        rfl
      rw [Option.isSome_some, hend, skipInitializers_block, hinitializers]
      cases takesInitial head <;> rfl
    · rw [skipMemberEnd_block _ _ (by simp [hinitializers])]
      simp only [Option.isSome_some, Bool.not_true, Bool.false_eq_true, if_false,
        Option.isNone_some, hinitializers, Bool.false_and]
      -- a semicolon behind the body is taken with it, and would be skipped as well
      by_cases hhead : ts.head?.any (·.isSymbol ';')
      · cases ts with
        | nil => cases hhead
        | cons t ts =>
          rw [if_pos hhead]
          exact (classBody_semicolon last line className isPublic hhead ts).symm
      · rw [if_neg hhead]
        rfl

/-- Where a declaration may begin it is read as it is entered. -/
theorem exists_readAs_entered (d : Declaration) (r : Reading) (start : Nat) (post : List Token) :
    ∃ start', readAs last line className isPublic start (d.tokens ++ post) r =
      readAs last line className isPublic start' (d.tokens ++ post) (d.entered r) := by
  by_cases h : r = .member ∧ d.tokens.head?.any (·.isOneOf nestedWords)
  · obtain ⟨rfl, hnested⟩ := h
    obtain ⟨t, ts, htokens⟩ := d.exists_tokens_eq_cons
    rw [Declaration.entered, if_pos ⟨rfl, hnested⟩, htokens]
    rw [htokens] at hnested
    exact ⟨t.line, classBody_of_skipped _ _ _ _ (bodyItem_of_nested _ _ _ _ hnested)⟩
  · rw [Declaration.entered, if_neg h]
    exact ⟨start, rfl⟩

/-- Reading a declaration that ends with a semicolon. -/
theorem exists_readAs_ended {r : Reading} {head : List Token} {semicolon : Semicolon}
    (h : (Declaration.ended head semicolon).Starts r) (start : Nat) (post : List Token) :
    ∃ start', readAs last line className isPublic start
        ((Declaration.ended head semicolon).tokens ++ post) r =
      (readAs last line className isPublic start' post r.afterSemicolon).map
        (withMember (r.found? className isPublic head)) := by
  obtain ⟨hstarts, hbegins⟩ := h
  have hflat : IsFlat r.depth 0 head := hstarts
  have htokens : (Declaration.ended head semicolon).tokens ++ post =
      head ++ semicolon.1 :: post := by
    rw [Declaration.tokens, List.append_assoc, List.singleton_append]
  refine ⟨start, ?_⟩
  rw [htokens]
  cases r with
  | onward =>
    rw [Reading.found?, map_withMember_none, readAs, skipFrom_append hflat,
      skipFrom_semicolon start _ semicolon.2]
    rfl
  | initial =>
    rw [Reading.found?, map_withMember_none, readAs,
      skipToBody_semicolon last start hflat semicolon.2]
    rfl
  | member =>
    simp only [Reading.found?, Reading.afterSemicolon, readAs]
    -- a semicolon alone declares nothing
    rcases head_cases hflat with hhead | ⟨t, ts, hhead, ht⟩
    · have hnone : method? className isPublic [] = none := rfl
      rw [hhead, hnone, map_withMember_none, List.nil_append,
        classBody_semicolon _ _ _ _ semicolon.2]
    · have heq : head ++ semicolon.1 :: post = t :: (ts ++ semicolon.1 :: post) := by
        rw [hhead, List.cons_append]
      have hmember := (hbegins rfl).member (htokens.trans heq) ht
      rw [classBody_head _ _ _ _ hflat (.inl semicolon.2) heq hmember, skipMemberEnd,
        if_pos semicolon.2]
      rfl

/-- Reading a declaration up to the end of its first block. -/
theorem exists_readAs_block {r : Reading} {d : Declaration} (h : d.Starts r) {block : Block}
    {ts post : List Token} (heq : d.tokens ++ post = d.head ++ (block.tokens ++ ts)) (start : Nat) :
    ∃ start', readAs last line className isPublic start (d.head ++ (block.tokens ++ ts)) r =
      (readAs last line className isPublic start' ts
        (r.afterBlock className isPublic d.head)).map
          (withMember (r.found? className isPublic d.head)) := by
  obtain ⟨hflat, hbegins⟩ := h
  cases r with
  | onward =>
    refine ⟨start, ?_⟩
    rw [Reading.found?, map_withMember_none, readAs, skipFrom_head_block start hflat,
      Reading.afterBlock]
    -- A semicolon after the block is taken with it, and both ways to go on would skip it as well.
    by_cases hhead : ts.head?.any (·.isSymbol ';')
    · cases ts with
      | nil => cases hhead
      | cons t ts =>
        rw [if_pos hhead]
        cases takesBody d.head with
        | true => exact (classBody_semicolon last line className isPublic hhead ts).symm
        | false =>
          simp only [Bool.false_eq_true, if_false, readAs, skipFrom_semicolon start false hhead]
          rfl
    · rw [if_neg hhead]
      cases takesBody d.head <;> rfl
  | initial =>
    refine ⟨lineOf last ts, ?_⟩
    rw [Reading.found?, map_withMember_none, readAs, skipToBody_block last start hflat,
      Reading.afterBlock]
    cases takesInitial d.head <;> rfl
  | member =>
    obtain ⟨start', hend⟩ := exists_skipMemberEnd_block last line className isPublic d.head block ts
    refine ⟨start', ?_⟩
    have hends : endsMember block.brace := .inr (.inl block.isBrace)
    have hbrace : block.brace.isSymbol ';' = false := Token.isSymbol_of_isSymbol block.isBrace ';'
    have hfirst : ∃ u us, d.head ++ (block.tokens ++ ts) = u :: us ∧ u.isSymbol ';' = false := by
      rcases head_cases hflat with hhead | ⟨t, us, hhead, ht⟩
      · exact ⟨block.brace, _, by rw [hhead, block.tokens_append, List.nil_append], hbrace⟩
      · exact ⟨t, _, by rw [hhead, List.cons_append], ht⟩
    obtain ⟨u, us, hus, hu⟩ := hfirst
    have hmember := (hbegins rfl).member (heq.trans hus) hu
    rw [block.tokens_append] at hus hend ⊢
    rw [readAs, classBody_head _ _ _ _ hflat hends hus hmember, hend]
    rfl

theorem exists_readAs_defined {r : Reading} {head : List Token} {body : Block}
    (h : (Declaration.defined head body).Starts r) (start : Nat) (post : List Token) :
    ∃ start', readAs last line className isPublic start
        ((Declaration.defined head body).tokens ++ post) r =
      (readAs last line className isPublic start' post (r.afterBlock className isPublic head)).map
        (withMember (r.found? className isPublic head)) := by
  have heq : (Declaration.defined head body).tokens ++ post = head ++ (body.tokens ++ post) :=
    List.append_assoc ..
  rw [heq]
  exact exists_readAs_block last line className isPublic h heq start

theorem exists_readAs_onward {r : Reading} {head : List Token} {block : Block} {rest : Declaration}
    (h : (Declaration.onward head block rest).Starts r) (start : Nat) (post : List Token) :
    ∃ start', readAs last line className isPublic start
        ((Declaration.onward head block rest).tokens ++ post) r =
      (readAs last line className isPublic start' (rest.tokens ++ post)
        (rest.entered (r.afterBlock className isPublic head))).map
          (withMember (r.found? className isPublic head)) := by
  have heq : (Declaration.onward head block rest).tokens ++ post =
      head ++ (block.tokens ++ (rest.tokens ++ post)) := by
    rw [Declaration.tokens, List.append_assoc, List.append_assoc]
  obtain ⟨start', hblock⟩ := exists_readAs_block last line className isPublic h heq start
  obtain ⟨start'', hentered⟩ := exists_readAs_entered last line className isPublic rest
    (r.afterBlock className isPublic head) start' post
  refine ⟨start'', ?_⟩
  rw [heq, ← hentered]
  exact hblock

/-- What is skipped exactly does not change what is read after it. -/
theorem readAs_of_isSkipped {r : Reading} {d : Declaration} (hfits : d.Fits className isPublic r)
    (h : d.IsSkipped className isPublic r) (start : Nat) (post : List Token) :
    readAs last line className isPublic start (d.tokens ++ post) r =
      classBody last line className isPublic post := by
  induction d generalizing r start with
  | ended head semicolon =>
    obtain ⟨hnone, hafter⟩ := h
    obtain ⟨start', hread⟩ := exists_readAs_ended last line className isPublic hfits start post
    rw [hread, hnone, hafter, map_withMember_none]
    rfl
  | defined head body =>
    obtain ⟨hnone, hafter⟩ := h
    obtain ⟨start', hread⟩ := exists_readAs_defined last line className isPublic hfits start post
    rw [hread, hnone, hafter, map_withMember_none]
    rfl
  | onward head block rest ih =>
    -- The rest is read as it is entered after the block, and is skipped exactly in that reading.
    obtain ⟨hnone, hrest⟩ := h
    obtain ⟨hstarts, hfits⟩ := hfits
    obtain ⟨start', hread⟩ := exists_readAs_onward last line className isPublic hstarts start post
    rw [hread, hnone, map_withMember_none, ih hfits hrest start']

/-! ### What shows that more or less is skipped -/

/-- A brace that ends a class. -/
def closingBrace : Token := ⟨.symbol '}', 0⟩

/-- An empty block. -/
def emptyBlock : Block := ⟨⟨.symbol '{', 0⟩, [], closingBrace, rfl, rfl⟩

/-- An empty block and the end of a class. -/
def emptyEnd : List Token := emptyBlock.tokens ++ [closingBrace]

/-- The tokens of a method before its semicolon. -/
def methodHead : List Token :=
  [⟨.word "void", 0⟩, ⟨.word "run", 0⟩, ⟨.symbol '(', 0⟩, ⟨.symbol ')', 0⟩]

/-- A method, an empty block and the end of a class. -/
def methodEnd : List Token := methodHead ++ ⟨.symbol ';', 0⟩ :: emptyEnd

theorem classBody_closingBrace (ts : List Token) :
    classBody last line className isPublic (closingBrace :: ts) = .ok ([], ts) := by
  rw [classBody_cons, bodyItem, if_pos (show closingBrace.isSymbol '}' by rfl)]

theorem readAs_onward_closingBrace (start : Nat) :
    readAs last line className isPublic start [closingBrace] .onward = .ok ([], []) := by
  have hskip : skipFrom start 0 false [closingBrace] = .ok [closingBrace] := by
    rw [skipFrom_cons, if_neg (by decide), if_neg (by decide), if_neg (by decide),
      if_pos (by decide)]
  rw [readAs, hskip]
  exact classBody_closingBrace last line className isPublic []

/-- However they are read, no method is found in an empty block and before the end of a class. -/
theorem readAs_emptyEnd (start : Nat) (r : Reading) :
    readAs last line className isPublic start emptyEnd r = .ok ([], []) := by
  have hstarts : (Declaration.defined [] emptyBlock).Starts r := by
    refine ⟨rfl, fun _ t ts htokens _ => ?_⟩
    cases htokens
    exact ⟨rfl, rfl, fun haccess => (nomatch haccess.1), rfl, rfl⟩
  obtain ⟨start', hread⟩ := exists_readAs_block last line className isPublic hstarts
    (show (Declaration.defined [] emptyBlock).tokens ++ [closingBrace] = _ from rfl) start
  refine hread.trans ?_
  cases r with
  | member => exact congrArg _ (readAs_onward_closingBrace last line className isPublic start')
  | onward => exact congrArg _ (readAs_onward_closingBrace last line className isPublic start')
  | initial => exact congrArg _ (classBody_closingBrace last line className isPublic [])

theorem isSome_method?_methodHead : (method? className isPublic methodHead).isSome := by
  simp [method?, methodHead, splitSignature?, enclosed?, Token.isSymbol, Token.isWord, Token.word?,
    typeWords, resultText, dropSpecifiers, afterArrow?, typeText, typeTextAfter, Token.isOneOf,
    specifiers]

/-- The method before the end of a class is found if it is read as a member. -/
theorem readAs_methodEnd (start : Nat) (r : Reading) :
    readAs last line className isPublic start methodEnd r =
      .ok ((r.found? className isPublic methodHead).toList, []) := by
  have hstarts : (Declaration.ended methodHead ⟨⟨.symbol ';', 0⟩, rfl⟩).Starts r := by
    refine ⟨?_, fun _ t ts htokens _ => ?_⟩
    · cases r <;> decide
    · cases htokens
      exact ⟨rfl, rfl, fun haccess => (nomatch haccess.1), rfl, rfl⟩
  obtain ⟨start', hread⟩ := exists_readAs_ended last line className isPublic hstarts start emptyEnd
  refine hread.trans ?_
  rw [readAs_emptyEnd]
  simp [Except.map, withMember]

/-- A declaration that fits can be read to the end of the class. -/
theorem exists_readAs_tokens_emptyEnd {r : Reading} {d : Declaration}
    (hfits : d.Fits className isPublic r) :
    ∃ methods, ∀ start, readAs last line className isPublic start (d.tokens ++ emptyEnd) r =
      .ok (methods, []) := by
  induction d generalizing r with
  | ended head semicolon =>
    refine ⟨(r.found? className isPublic head).toList ++ [], fun start => ?_⟩
    obtain ⟨start', hread⟩ := exists_readAs_ended last line className isPublic hfits start emptyEnd
    rw [hread, readAs_emptyEnd]
    rfl
  | defined head body =>
    refine ⟨(r.found? className isPublic head).toList ++ [], fun start => ?_⟩
    obtain ⟨start', hread⟩ :=
      exists_readAs_defined last line className isPublic hfits start emptyEnd
    rw [hread, readAs_emptyEnd]
    rfl
  | onward head block rest ih =>
    obtain ⟨hstarts, hfits⟩ := hfits
    obtain ⟨methods, hrest⟩ := ih hfits
    refine ⟨(r.found? className isPublic head).toList ++ methods, fun start => ?_⟩
    obtain ⟨start', hread⟩ :=
      exists_readAs_onward last line className isPublic hstarts start emptyEnd
    rw [hread, hrest]
    rfl

/-- Whether a class has more or fewer methods before some tokens that end it if a declaration stands
there. -/
def IsTold (r : Reading) (d : Declaration) (post : List Token) : Prop :=
  ∃ methods methods', methods.length ≠ methods'.length ∧
    (∀ start, readAs last line className isPublic start (d.tokens ++ post) r = .ok (methods, [])) ∧
    classBody last line className isPublic post = .ok (methods', [])

section IsTold

variable {last line className isPublic} {r r' : Reading} {d : Declaration}

/-- A declaration that declares a method is told by the end of a class. -/
theorem isTold_emptyEnd {m : Method} {methods : List Method} {ts : List Token}
    (h : ∀ start, ∃ start', readAs last line className isPublic start (d.tokens ++ emptyEnd) r =
      (readAs last line className isPublic start' ts r').map (withMember (some m)))
    (hend : ∀ start', readAs last line className isPublic start' ts r' = .ok (methods, [])) :
    IsTold last line className isPublic r d emptyEnd := by
  refine ⟨m :: methods, [], by simp, fun start => ?_,
    readAs_emptyEnd last line className isPublic 0 .member⟩
  obtain ⟨start', hread⟩ := h start
  rw [hread, hend]
  rfl

/-- A declaration after which no member is read is told by a method. -/
theorem isTold_methodEnd (hr' : r' ≠ .member)
    (h : ∀ start, ∃ start', readAs last line className isPublic start (d.tokens ++ methodEnd) r =
      (readAs last line className isPublic start' methodEnd r').map (withMember none)) :
    IsTold last line className isPublic r d methodEnd := by
  obtain ⟨m, hm⟩ := Option.isSome_iff_exists.1 (isSome_method?_methodHead className isPublic)
  have hmember := readAs_methodEnd last line className isPublic 0 .member
  rw [Reading.found?, hm] at hmember
  refine ⟨[], [m], by simp, fun start => ?_, hmember⟩
  obtain ⟨start', hread⟩ := h start
  rw [hread, map_withMember_none, readAs_methodEnd]
  cases r' with
  | member => exact absurd rfl hr'
  | onward => rfl
  | initial => rfl

/-- A declaration is told if it declares a method, or if what follows its end is read as no member. -/
theorem exists_isTold_of_read {found : Option Method}
    (h : ∀ start post, ∃ start', readAs last line className isPublic start (d.tokens ++ post) r =
      (readAs last line className isPublic start' post r').map (withMember found))
    (hne : ¬(found = none ∧ r' = .member)) :
    ∃ post, IsTold last line className isPublic r d post := by
  cases found with
  | some m =>
    have hend (start' : Nat) := readAs_emptyEnd last line className isPublic start' r'
    exact ⟨emptyEnd, isTold_emptyEnd (h · emptyEnd) hend⟩
  | none => exact ⟨methodEnd, isTold_methodEnd (fun hr' => hne ⟨rfl, hr'⟩) (h · methodEnd)⟩

/-- What is not skipped exactly is told by what may follow it. -/
theorem exists_isTold (hfits : d.Fits className isPublic r)
    (h : ¬d.IsSkipped className isPublic r) :
    ∃ post, IsTold last line className isPublic r d post := by
  induction d generalizing r with
  | ended head semicolon =>
    exact exists_isTold_of_read (exists_readAs_ended last line className isPublic hfits) h
  | defined head body =>
    exact exists_isTold_of_read (exists_readAs_defined last line className isPublic hfits) h
  | onward head block rest ih =>
    obtain ⟨hstarts, hfits⟩ := hfits
    have hread := exists_readAs_onward last line className isPublic hstarts
    cases hfound : r.found? className isPublic head with
    | some m =>
      obtain ⟨methods, hend⟩ := exists_readAs_tokens_emptyEnd last line className isPublic hfits
      rw [hfound] at hread
      exact ⟨emptyEnd, isTold_emptyEnd (hread · emptyEnd) hend⟩
    | none =>
      -- What is told of the rest is told of the whole, for nothing is found before the rest.
      obtain ⟨post, methods, methods', hne, hrest, hpost⟩ := ih hfits fun hrest => h ⟨hfound, hrest⟩
      refine ⟨post, methods, methods', hne, fun start => ?_, hpost⟩
      obtain ⟨start', hstep⟩ := hread start post
      rw [hstep, hfound, map_withMember_none, hrest]

end IsTold

end Members

/-! ### Reading declarations outside classes -/

section Outside

variable (last : Nat)

/-- What declares no class is read by what is left of it. -/
theorem topLevel_of_skipped {t : Token} {ts : List Token} {result : Except ParseError (List Token)}
    (h : topItem last t ts = result.map fun rest => (none, rest)) :
    topLevel last (t :: ts) = (result >>= topLevel last) := by
  rw [topLevel_cons, h]
  cases result with
  | error e => rfl
  | ok rest =>
    simp only [Except.map, bind, Except.bind]
    cases topLevel last rest <;> rfl

theorem topLevel_semicolon {t : Token} (ht : t.isSymbol ';') (ts : List Token) :
    topLevel last (t :: ts) = topLevel last ts := by
  obtain ⟨line, rfl⟩ := Token.exists_of_isSymbol ht
  exact @topLevel_of_skipped last _ _ (.ok ts) rfl

/-- What is skipped outside all classes is read by skipping it. -/
theorem exists_topLevel_eq {d : Declaration} (hd : d.Begins BeginsSkipped) (post : List Token) :
    ∃ start, topLevel last (d.tokens ++ post) =
      (skipFrom start 0 false (d.tokens ++ post) >>= topLevel last) := by
  obtain ⟨t, ts, htokens⟩ := d.exists_tokens_eq_cons
  refine ⟨t.line, ?_⟩
  by_cases hsemicolon : t.isSymbol ';'
  · rw [htokens, List.cons_append, topLevel_semicolon last hsemicolon,
      skipFrom_semicolon t.line false hsemicolon]
    rfl
  · have heq : d.tokens ++ post = t :: (ts ++ post) := by rw [htokens, List.cons_append]
    rw [heq]
    exact topLevel_of_skipped last
      (topItem_of_skipped last _ (hd.skipped heq (by simpa using hsemicolon)))

/-- After a block the rest of a declaration is skipped as well. -/
theorem exists_skipFrom_onward {head : List Token} {block : Block} {rest : Declaration}
    (h : (Declaration.onward head block rest).FitsOutside) (start : Nat) (post : List Token) :
    ∃ start', (skipFrom start 0 false ((Declaration.onward head block rest).tokens ++ post) >>=
        topLevel last) =
      (skipFrom start' 0 false (rest.tokens ++ post) >>= topLevel last) := by
  obtain ⟨hflat, hbegins, -⟩ := h
  rw [Declaration.tokens, List.append_assoc, List.append_assoc, skipFrom_head_block start hflat]
  by_cases hhead : (rest.tokens ++ post).head?.any (·.isSymbol ';')
  · cases htokens : rest.tokens ++ post with
    | nil => rw [htokens] at hhead; cases hhead
    | cons t ts =>
      rw [htokens] at hhead
      refine ⟨start, ?_⟩
      rw [if_pos hhead, skipFrom_semicolon start false hhead]
      rfl
  · rw [if_neg hhead]
    by_cases hbody : takesBody head
    · rw [if_pos hbody]
      exact exists_topLevel_eq last (hbegins hbody) post
    · rw [if_neg hbody]
      exact ⟨start, rfl⟩

/-- What is skipped exactly does not change what is read after it. -/
theorem skipFrom_of_isSkippedOutside {d : Declaration} (hfits : d.FitsOutside)
    (h : d.IsSkippedOutside) (start : Nat) (post : List Token) :
    (skipFrom start 0 false (d.tokens ++ post) >>= topLevel last) = topLevel last post := by
  induction d generalizing start with
  | ended head semicolon =>
    rw [Declaration.tokens, List.append_assoc, List.singleton_append, skipFrom_append hfits,
      skipFrom_semicolon start _ semicolon.2]
    rfl
  | defined head body =>
    have hbody : takesBody head := h
    rw [Declaration.tokens, List.append_assoc, skipFrom_head_block start hfits, if_pos hbody]
    by_cases hhead : post.head?.any (·.isSymbol ';')
    · cases post with
      | nil => cases hhead
      | cons t ts =>
        rw [if_pos hhead]
        exact (topLevel_semicolon last hhead ts).symm
    · rw [if_neg hhead]
      rfl
  | onward head block rest ih =>
    obtain ⟨start', hread⟩ := exists_skipFrom_onward last hfits start post
    rw [hread, ih hfits.2.2 h start']

/-- A class without members. -/
def classEnd : List Token :=
  [⟨.word "class", 0⟩, ⟨.word "Device", 0⟩] ++ (emptyBlock.tokens ++ [⟨.symbol ';', 0⟩])

theorem topLevel_nil : topLevel last [] = .ok [] := by rw [topLevel]

theorem topLevel_classEnd : topLevel last classEnd = .ok [⟨"Device", 0, []⟩] := by
  have hopens : opensClass? ⟨.word "class", 0⟩
      (⟨.word "Device", 0⟩ :: (emptyBlock.tokens ++ [⟨.symbol ';', 0⟩])) =
      some ("Device", [closingBrace, ⟨.symbol ';', 0⟩]) := rfl
  have hclass : classEnd = ⟨.word "class", 0⟩ ::
      (⟨.word "Device", 0⟩ :: (emptyBlock.tokens ++ [⟨.symbol ';', 0⟩])) := rfl
  have hafter : afterClass [⟨.symbol ';', 0⟩] = [] := rfl
  rw [hclass, topLevel_cons, topItem_of_opensClass? last hopens, classBody_closingBrace]
  simp only [Except.map, hafter, topLevel_nil]
  rfl

/-- What is not skipped exactly outside all classes takes a class that follows it. -/
theorem skipFrom_of_not_isSkippedOutside {d : Declaration} (hfits : d.FitsOutside)
    (h : ¬d.IsSkippedOutside) (start : Nat) :
    (skipFrom start 0 false (d.tokens ++ classEnd) >>= topLevel last) = .ok [] := by
  induction d generalizing start with
  | ended head semicolon => exact absurd trivial h
  | defined head body =>
    have hbody : ¬takesBody head := h
    have hflat : IsFlat parenDepth 0 [⟨.word "class", 0⟩, ⟨.word "Device", 0⟩] := by decide
    rw [Declaration.tokens, List.append_assoc, skipFrom_head_block start hfits, if_neg hbody,
      if_neg (by decide), classEnd, skipFrom_head_block start hflat, if_pos (by decide)]
    exact topLevel_nil last
  | onward head block rest ih =>
    obtain ⟨start', hread⟩ := exists_skipFrom_onward last hfits start classEnd
    rw [hread, ih hfits.2.2 h start']

end Outside

end Instrument.Header
