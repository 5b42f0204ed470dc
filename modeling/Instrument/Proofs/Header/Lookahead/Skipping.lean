import Instrument.Proofs.Header.Steps
import Instrument.Proofs.Success

/-!
How far skipping looks ahead. What is read depends on the tokens that are taken and on the first one
that is left, and on that one only as far as it is a semicolon or a closing brace. Main statement:
a declaration that is skipped is skipped as well if other tokens come after it.
-/

namespace Instrument.Header

/-- Some tokens go on like others, but that a semicolon at their beginning may be taken. -/
def Resumes (ts left : List Token) : Prop := left = ts ∨ ∃ t, t.isSymbol ';' ∧ ts = t :: left

/-- Reading takes some tokens and leaves those that follow them, whichever these are: ones that
begin with the same token, or any others unless the same would begin with a closing brace or be
none. -/
structure Takes {α : Type} (read : List Token → Except ParseError α) (result : List Token → α)
    (taken rest : List Token) : Prop where
  same : ∀ rest', rest'.head? = rest.head? → read (taken ++ rest') = .ok (result rest')
  other : rest.head?.any (!·.isSymbol '}') → ∀ rest', ∃ left, Resumes rest' left ∧
    read (taken ++ rest') = .ok (result left)

theorem exists_of_head_eq {t : Token} {ts : List Token} (h : ts.head? = some t) :
    ∃ us, ts = t :: us := by
  cases ts with
  | nil => cases h
  | cons u us => exact ⟨us, by rw [Option.some.inj h]⟩

section Takes

variable {α β : Type} {read : List Token → Except ParseError α} {result : List Token → α}
  {taken rest : List Token}

theorem Takes.of_all (h : ∀ rest', read (taken ++ rest') = .ok (result rest')) :
    Takes read result taken rest :=
  ⟨fun rest' _ => h rest', fun _ rest' => ⟨rest', .inl rfl, h rest'⟩⟩

theorem Takes.tail {t : Token} (h : Takes read result (t :: taken) rest) :
    Takes (fun ts => read (t :: ts)) result taken rest := ⟨h.same, h.other⟩

theorem Takes.map (h : Takes read result taken rest) (f : α → β) :
    Takes (fun ts => (read ts).map f) (fun rest => f (result rest)) taken rest := by
  constructor
  · intro rest' hhead
    simp only [h.same rest' hhead]
    rfl
  · intro hclose rest'
    obtain ⟨left, hleft, hread⟩ := h.other hclose rest'
    refine ⟨left, hleft, ?_⟩
    simp only [hread]
    rfl

/-- Reading that goes on with other reading after some tokens. -/
theorem Takes.after {read' : List Token → Except ParseError α} (h : Takes read' result taken rest)
    (before : List Token) (hread : ∀ ts, read (before ++ ts) = read' ts) :
    Takes read result (before ++ taken) rest := by
  constructor
  · intro rest' hhead
    rw [List.append_assoc, hread, h.same rest' hhead]
  · intro hclose rest'
    obtain ⟨left, hleft, hread'⟩ := h.other hclose rest'
    exact ⟨left, hleft, by rw [List.append_assoc, hread, hread']⟩

/-- Reading that takes a semicolon if there is one after some tokens. -/
theorem Takes.of_optional (hread : ∀ ts, read (taken ++ ts) =
      if ts.head?.any (·.isSymbol ';') then .ok (result ts.tail) else .ok (result ts))
    (hrest : ¬rest.head?.any (·.isSymbol ';')) : Takes read result taken rest := by
  constructor
  · intro rest' hhead
    rw [hread, hhead, if_neg hrest]
  · intro _ rest'
    cases rest' with
    | nil => exact ⟨[], .inl rfl, hread []⟩
    | cons t ts =>
      by_cases hsemicolon : t.isSymbol ';'
      · exact ⟨ts, .inr ⟨t, hsemicolon, rfl⟩, by rw [hread, if_pos (by exact hsemicolon)]; rfl⟩
      · exact ⟨t :: ts, .inl rfl, by rw [hread, if_neg (by exact hsemicolon)]⟩

/-- Reading that takes a semicolon if there is one after some tokens, and else goes on with other
reading. -/
theorem Takes.after_optional {read' : List Token → Except ParseError α}
    (h : Takes read' result taken rest) (before : List Token)
    (hread : ∀ ts, read (before ++ ts) =
      if ts.head?.any (·.isSymbol ';') then .ok (result ts.tail) else read' ts)
    (hhead : ¬(taken ++ rest).head?.any (·.isSymbol ';')) :
    Takes read result (before ++ taken) rest := by
  constructor
  · intro rest' hsame
    have hhead' : (taken ++ rest').head? = (taken ++ rest).head? := by
      rw [List.head?_append, List.head?_append, hsame]
    rw [List.append_assoc, hread, hhead', if_neg hhead, h.same rest' hsame]
  · intro hclose rest'
    rw [List.append_assoc, hread]
    cases taken with
    | cons t taken =>
      rw [if_neg (by exact hhead)]
      exact h.other hclose rest'
    | nil =>
      by_cases hsemicolon : rest'.head?.any (·.isSymbol ';')
      · cases rest' with
        | nil => cases hsemicolon
        | cons t left => exact ⟨left, .inr ⟨t, hsemicolon, rfl⟩, if_pos hsemicolon⟩
      · rw [if_neg (by exact hsemicolon)]
        exact h.other hclose rest'

/-- Reading that is other reading because of the first token, when no tokens at all cannot be
read. -/
theorem Takes.of_head {read' : List Token → Except ParseError α} (h : Takes read' result taken rest)
    (hread : ∀ ts, ts.head? = (taken ++ rest).head? → read ts = read' ts)
    (hnil : ∀ a, read' [] ≠ .ok a) : Takes read result taken rest := by
  constructor
  · intro rest' hsame
    rw [hread _ (by rw [List.head?_append, List.head?_append, hsame])]
    exact h.same rest' hsame
  · intro hclose rest'
    cases taken with
    | cons t taken =>
      rw [hread (t :: taken ++ rest') rfl]
      exact h.other hclose rest'
    | nil =>
      -- Nothing is taken only before a closing brace, for else nothing at all would do.
      obtain ⟨left, -, habsurd⟩ := h.other hclose []
      exact absurd habsurd (hnil _)

end Takes

/-! ### Blocks -/

theorem enclosed?_append {opening closing : Char} {depth : Nat} {ts inside rest : List Token}
    (h : enclosed? opening closing depth ts = some (inside, rest)) :
    ∃ close : Token, ts = inside ++ close :: rest ∧
      ∀ rest',
        enclosed? opening closing depth (inside ++ close :: rest') = some (inside, rest') := by
  induction ts generalizing depth inside with
  | nil => cases h
  | cons t ts ih =>
    -- the token goes one level in, one level out, or stays
    by_cases hopen : t.isSymbol opening
    · simp only [enclosed?, hopen, if_true] at h
      obtain ⟨⟨inside', rest'⟩, hsub, heq⟩ := Option.map_eq_some_iff.1 h
      cases heq
      obtain ⟨close, rfl, hrest⟩ := ih hsub
      refine ⟨close, rfl, fun rest' => ?_⟩
      simp only [List.cons_append, enclosed?, hopen, if_true, hrest]
      rfl
    by_cases hclose : t.isSymbol closing
    · simp only [enclosed?, hopen, hclose, if_true] at h
      cases depth with
      | zero =>
        cases h
        refine ⟨t, rfl, fun rest' => ?_⟩
        simp only [List.nil_append, enclosed?, hopen, hclose, if_true]
        rfl
      | succ depth =>
        obtain ⟨⟨inside', rest'⟩, hsub, heq⟩ := Option.map_eq_some_iff.1 h
        cases heq
        obtain ⟨close, rfl, hrest⟩ := ih hsub
        refine ⟨close, rfl, fun rest' => ?_⟩
        simp only [List.cons_append, enclosed?, hopen, hclose, if_true, hrest]
        rfl
    · simp only [enclosed?, hopen, hclose] at h
      obtain ⟨⟨inside', rest'⟩, hsub, heq⟩ := Option.map_eq_some_iff.1 h
      cases heq
      obtain ⟨close, rfl, hrest⟩ := ih hsub
      refine ⟨close, rfl, fun rest' => ?_⟩
      simp only [List.cons_append, enclosed?, hopen, hclose, hrest]
      rfl

theorem Token.exists_of_isSymbol {t : Token} {c : Char} (h : t.isSymbol c) :
    ∃ line, t = ⟨.symbol c, line⟩ := by
  obtain ⟨kind, line⟩ := t
  have hkind : kind = .symbol c := by simpa [Token.isSymbol] using h
  exact ⟨line, by rw [hkind]⟩

theorem Token.exists_of_isWord {t : Token} {text : String} (h : t.isWord text) :
    ∃ line, t = ⟨.word text, line⟩ := by
  obtain ⟨kind, line⟩ := t
  have hkind : kind = .word text := by simpa [Token.isWord] using h
  exact ⟨line, by rw [hkind]⟩

theorem Token.isSymbol_of_isSymbol {t : Token} {c : Char} (h : t.isSymbol c) (c' : Char) :
    t.isSymbol c' = (c == c') := by
  obtain ⟨line, rfl⟩ := Token.exists_of_isSymbol h
  rw [Token.isSymbol, Bool.eq_iff_iff]
  simp

theorem Token.isSymbol_of_isWord {t : Token} {text : String} (h : t.isWord text) (c : Char) :
    t.isSymbol c = false := by
  obtain ⟨line, rfl⟩ := Token.exists_of_isWord h
  rfl

/-- A pair of braces and what stands between them. -/
structure Block where
  brace : Token
  inside : List Token
  close : Token
  isBrace : brace.isSymbol '{'
  isClosed : enclosed? '{' '}' 0 (inside ++ [close]) = some (inside, [])

/-- The tokens of a block. -/
def Block.tokens (b : Block) : List Token := b.brace :: b.inside ++ [b.close]

theorem Block.tokens_append (b : Block) (ts : List Token) :
    b.tokens ++ ts = b.brace :: (b.inside ++ b.close :: ts) := by
  simp [Block.tokens]

theorem Block.enclosed?_append (b : Block) (rest : List Token) :
    enclosed? '{' '}' 0 (b.inside ++ b.close :: rest) = some (b.inside, rest) := by
  obtain ⟨close, heq, hrest⟩ := Header.enclosed?_append b.isClosed
  cases List.append_cancel_left heq
  exact hrest rest

theorem exists_block {t : Token} {ts inside rest : List Token} (ht : t.isSymbol '{')
    (h : enclosed? '{' '}' 0 ts = some (inside, rest)) :
    ∃ b : Block, b.brace = t ∧ t :: ts = b.tokens ++ rest := by
  obtain ⟨close, rfl, hrest⟩ := enclosed?_append h
  exact ⟨⟨t, inside, close, ht, hrest []⟩, rfl, by simp [Block.tokens]⟩

/-- After a block a declaration ends with a semicolon, or if the block is the body of a function. -/
theorem skipFrom_block (line : Nat) (body : Bool) (b : Block) (ts : List Token) :
    skipFrom line 0 body (b.tokens ++ ts) =
      if ts.head?.any (·.isSymbol ';') then .ok ts.tail
      else if body then .ok ts
      else skipFrom line 0 false ts := by
  have hsymbol := Token.isSymbol_of_isSymbol b.isBrace
  rw [b.tokens_append, skipFrom_cons, b.enclosed?_append]
  simp [hsymbol]

/-! ### Skipping -/

theorem takes_skipFrom {line parens : Nat} {body : Bool} {ts rest : List Token}
    (h : skipFrom line parens body ts = .ok rest) :
    ∃ taken, ts = taken ++ rest ∧
      ∀ line', Takes (skipFrom line' parens body) id taken rest := by
  fun_induction skipFrom line parens body ts with
  | case1 => cases h
  | case2 parens body t ts hopen ih =>
    obtain ⟨taken, rfl, htakes⟩ := ih h
    refine ⟨t :: taken, rfl, fun line' => (htakes line').after [t] fun us => ?_⟩
    rw [List.singleton_append, skipFrom_cons, if_pos hopen]
  | case3 parens body t ts hopen hclose ih =>
    obtain ⟨taken, rfl, htakes⟩ := ih h
    refine ⟨t :: taken, rfl, fun line' => (htakes line').after [t] fun us => ?_⟩
    rw [List.singleton_append, skipFrom_cons, if_neg hopen, if_pos hclose]
  | case4 parens body t ts hopen hclose hsemicolon =>
    cases h
    refine ⟨[t], rfl, fun line' => .of_all fun rest' => ?_⟩
    rw [List.singleton_append, skipFrom_cons, if_neg hopen, if_neg hclose, if_pos hsemicolon]
    rfl
  | case5 parens body t ts hopen hclose hsemicolon hend =>
    cases h
    refine ⟨[], rfl, fun line' => ⟨fun rest' hhead => ?_, fun hne => ?_⟩⟩
    · obtain ⟨us, rfl⟩ := exists_of_head_eq hhead
      rw [List.nil_append, skipFrom_cons, if_neg hopen, if_neg hclose, if_neg hsemicolon,
        if_pos hend]
      rfl
    · simp [hend.2] at hne
  | case6 => cases h
  | case7 parens body t ts hopen hclose hsemicolon hend hbrace inside after heq hhead =>
    cases h
    obtain ⟨b, rfl, hb⟩ := exists_block hbrace.2 heq
    cases after with
    | nil => cases hhead
    | cons s rest =>
      refine ⟨b.tokens ++ [s], by simp [hb], fun line' => .of_all fun rest' => ?_⟩
      rw [List.append_assoc, hbrace.1, skipFrom_block, if_pos (by exact hhead)]
      rfl
  -- a body, and a block that ends nothing: a semicolon behind either would be taken too
  | case8 parens t ts hopen hclose hsemicolon hend hbrace inside after heq hhead =>
    cases h
    obtain ⟨b, rfl, hb⟩ := exists_block hbrace.2 heq
    refine ⟨b.tokens, hb, fun line' => .of_optional (fun us => ?_) hhead⟩
    rw [hbrace.1, skipFrom_block, if_pos rfl]
    rfl
  | case9 parens body t ts hopen hclose hsemicolon hend hbrace inside after heq hhead hbody ih =>
    obtain ⟨b, rfl, hb⟩ := exists_block hbrace.2 heq
    obtain ⟨taken, rfl, htakes⟩ := ih h
    refine ⟨b.tokens ++ taken, by rw [hb, List.append_assoc], fun line' =>
      (htakes line').after_optional b.tokens (fun us => ?_) hhead⟩
    rw [hbrace.1, skipFrom_block, if_neg hbody]
    rfl
  | case10 parens body t ts hopen hclose hsemicolon hend hbrace ih =>
    obtain ⟨taken, rfl, htakes⟩ := ih h
    refine ⟨t :: taken, rfl, fun line' => (htakes line').after [t] fun us => ?_⟩
    rw [List.singleton_append, skipFrom_cons, if_neg hopen, if_neg hclose, if_neg hsemicolon,
      if_neg hend, if_neg hbrace]

theorem takes_skipDeclaration {last : Nat} {ts rest : List Token}
    (h : skipDeclaration last ts = .ok rest) :
    ∃ taken, ts = taken ++ rest ∧ Takes (skipDeclaration last) id taken rest := by
  obtain ⟨taken, rfl, htakes⟩ := takes_skipFrom h
  exact ⟨taken, rfl, fun rest' => (htakes _).same rest', fun hclose rest' =>
    (htakes _).other hclose rest'⟩

theorem skipDeclaration_singleton_ne_ok {last : Nat} {t : Token}
    (ht : t.isSymbol '}' = false ∧ t.isSymbol ';' = false) (rest : List Token) :
    skipDeclaration last [t] ≠ .ok rest := by
  rw [skipDeclaration, skipFrom_cons, ht.1, ht.2]
  by_cases hbrace : t.isSymbol '{'
  · simp [hbrace, enclosed?, Token.isSymbol_of_isSymbol hbrace]
  · simp [skipFrom, hbrace]

/-- A declaration takes its first token, if that is no closing brace. -/
theorem takes_skipDeclaration_cons {last : Nat} {t : Token} {ts rest : List Token}
    (ht : t.isSymbol '}' = false) (h : skipDeclaration last (t :: ts) = .ok rest) :
    ∃ taken, ts = taken ++ rest ∧ Takes (skipDeclaration last) id (t :: taken) rest := by
  obtain ⟨taken, heq, htakes⟩ := takes_skipDeclaration h
  cases taken with
  | nil =>
    have hlt := length_lt_of_skipDeclaration ht h
    rw [heq] at hlt
    exact absurd hlt (Nat.lt_irrefl _)
  | cons u taken =>
    cases heq
    exact ⟨taken, rfl, htakes⟩

theorem skipTemplate_of_head {ts : List Token} (h : ¬ts.head?.any (·.isSymbol '<')) :
    skipTemplate ts = .ok ts := by
  cases ts with
  | nil => rfl
  | cons t ts => rw [skipTemplate, if_neg (by exact h)]

theorem takes_skipTemplate {last : Nat} {ts rest : List Token}
    (h : (skipTemplate ts >>= skipDeclaration last) = .ok rest) :
    ∃ taken, ts = taken ++ rest ∧
      Takes (fun ts => skipTemplate ts >>= skipDeclaration last) id taken rest := by
  by_cases hopen : ts.head?.any (·.isSymbol '<')
  · cases ts with
    | nil => cases hopen
    | cons t ts =>
      have hopen' : t.isSymbol '<' := hopen
      simp only [skipTemplate, hopen', if_true] at h
      cases heq : enclosed? '<' '>' 0 ts with
      | none => rw [heq] at h; cases h
      | some r =>
        obtain ⟨inside, after⟩ := r
        rw [heq] at h
        obtain ⟨close, rfl, hrest⟩ := enclosed?_append heq
        have hskip : skipDeclaration last after = .ok rest := h
        obtain ⟨taken, rfl, htakes⟩ := takes_skipDeclaration hskip
        refine ⟨(t :: inside ++ [close]) ++ taken, by simp, htakes.after _ fun us => ?_⟩
        simp only [List.cons_append, List.append_assoc, List.nil_append, skipTemplate, hopen',
          if_true, hrest]
        rfl
  · rw [skipTemplate_of_head hopen] at h
    have hdeclaration : skipDeclaration last ts = .ok rest := h
    obtain ⟨taken, rfl, htakes⟩ := takes_skipDeclaration hdeclaration
    refine ⟨taken, rfl, htakes.of_head (fun us hhead => ?_) fun a => ?_⟩
    · simp only [skipTemplate_of_head (hhead.symm ▸ hopen)]
      rfl
    · simp [skipDeclaration, skipFrom]

end Instrument.Header
