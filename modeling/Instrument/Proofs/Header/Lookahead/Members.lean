import Instrument.Proofs.Header.Lookahead.Skipping

/-!
How far reading a member of a class looks ahead. Main statement: a member that is read, with the
block or the initializers behind it, is read as well if other tokens come after it.
-/

namespace Instrument.Header

/-- Whether a token ends the tokens of a member. -/
def endsMember (t : Token) : Prop := t.isSymbol ';' ∨ t.isSymbol '{' ∨ t.isSymbol '}'

theorem splitMember_of_ends {t : Token} (ht : endsMember t) (ts : List Token) :
    splitMember 0 (t :: ts) = ([], t :: ts) := by
  rw [splitMember, if_pos ⟨rfl, ht⟩]

theorem splitMember_append_cons {depth : Nat} {ts head ending : List Token} {t : Token}
    (h : splitMember depth ts = (head, t :: ending)) :
    endsMember t ∧ ∀ ending', splitMember depth (head ++ t :: ending') = (head, t :: ending') := by
  induction ts generalizing depth head with
  | nil => cases h
  | cons u ts ih =>
    rw [splitMember] at h
    split at h
    · next hends =>
      cases h
      refine ⟨hends.2, fun ending' => ?_⟩
      rw [List.nil_append, splitMember, if_pos hends]
    · next hends =>
      cases hsplit : splitMember (memberDepth depth u) ts with
      | mk head' ending' =>
        rw [hsplit] at h
        cases h
        obtain ⟨ht, hrest⟩ := ih hsplit
        refine ⟨ht, fun ending' => ?_⟩
        rw [List.cons_append, splitMember, if_neg hends, hrest]

theorem nextBrace?_append {parens : Nat} {named named' : Bool} {line : Nat} {ts rest : List Token}
    (h : nextBrace? parens named ts = some (named', line, rest)) :
    ∃ taken, ts = taken ++ rest ∧
      ∀ rest', nextBrace? parens named (taken ++ rest') = some (named', line, rest') := by
  induction ts generalizing parens named with
  | nil => cases h
  | cons t ts ih =>
    simp only [nextBrace?] at h
    split at h
    · next hopen =>
      obtain ⟨taken, rfl, hrest⟩ := ih h
      refine ⟨t :: taken, rfl, fun rest' => ?_⟩
      simp only [List.cons_append, nextBrace?, if_pos hopen, hrest]
    split at h
    · next hopen hclose =>
      obtain ⟨taken, rfl, hrest⟩ := ih h
      refine ⟨t :: taken, rfl, fun rest' => ?_⟩
      simp only [List.cons_append, nextBrace?, if_neg hopen, if_pos hclose, hrest]
    split at h
    · next hopen hclose hbrace =>
      cases h
      refine ⟨[t], rfl, fun rest' => ?_⟩
      simp only [List.cons_append, List.nil_append, nextBrace?, if_neg hopen, if_neg hclose,
        if_pos hbrace]
    · next hopen hclose hbrace =>
      obtain ⟨taken, rfl, hrest⟩ := ih h
      refine ⟨t :: taken, rfl, fun rest' => ?_⟩
      simp only [List.cons_append, nextBrace?, if_neg hopen, if_neg hclose, if_neg hbrace, hrest]

theorem skipInitializers_append {last : Nat} {named : Bool} {line : Nat} {ts rest : List Token}
    (h : skipInitializers last named line ts = .ok rest) :
    ∃ taken, ts = taken ++ rest ∧
      ∀ rest', skipInitializers last named line (taken ++ rest') = .ok rest' := by
  fun_induction skipInitializers last named line ts with
  | case1 => cases h
  | case2 => cases h
  | case3 line ts inside after heq named line' body hnext ih =>
    obtain ⟨close, rfl, hafter⟩ := enclosed?_append heq
    obtain ⟨between, rfl, hbody⟩ := nextBrace?_append hnext
    obtain ⟨taken, rfl, hrest⟩ := ih h
    refine ⟨inside ++ close :: (between ++ taken), by simp, fun rest' => ?_⟩
    rw [List.append_assoc, List.cons_append, List.append_assoc, skipInitializers_eq, hafter]
    simp only [if_true, hbody, hrest]
  | case4 named line ts inside after heq hnamed =>
    cases h
    obtain ⟨close, rfl, hafter⟩ := enclosed?_append heq
    refine ⟨inside ++ [close], by simp, fun rest' => ?_⟩
    rw [List.append_assoc, skipInitializers_eq]
    simp only [List.cons_append, List.nil_append, hafter, if_neg hnamed]

/-- After a block a member that is no method goes on like a declaration, and a method ends. -/
theorem skipMemberEnd_block (last : Nat) (className : String) {head : List Token} {isMethod : Bool}
    (h : ¬(isMethod ∧ hasInitializers head)) (b : Block) (ts : List Token) :
    skipMemberEnd last className head isMethod (b.tokens ++ ts) =
      if !isMethod then skipDeclaration last ts
      else if ts.head?.any (·.isSymbol ';') then .ok ts.tail
      else .ok ts := by
  have hsemicolon : b.brace.isSymbol ';' = false := Token.isSymbol_of_isSymbol b.isBrace ';'
  rw [b.tokens_append, skipMemberEnd, hsemicolon, if_neg Bool.false_ne_true, if_pos b.isBrace, if_neg h,
    b.enclosed?_append]

theorem Block.tokens_append_ne_nil (b : Block) (ts : List Token) : b.tokens ++ ts ≠ [] := by
  simp [Block.tokens]

/-- What ends a member is taken, unless it is a closing brace. -/
theorem takes_skipMemberEnd {last : Nat} {className : String} {head : List Token} {isMethod : Bool}
    {t : Token} {ts rest : List Token} (ht : t.isSymbol ';' ∨ t.isSymbol '{')
    (h : skipMemberEnd last className head isMethod (t :: ts) = .ok rest) :
    ∃ taken, t :: ts = taken ++ rest ∧ taken ≠ [] ∧
      Takes (skipMemberEnd last className head isMethod) id taken rest := by
  simp only [skipMemberEnd] at h
  by_cases hsemicolon : t.isSymbol ';'
  · rw [if_pos hsemicolon] at h
    cases h
    refine ⟨[t], rfl, List.cons_ne_nil _ _, .of_all fun rest' => ?_⟩
    simp only [List.cons_append, List.nil_append, skipMemberEnd, if_pos hsemicolon]
    rfl
  -- a block: initial values and a body, the rest of a declaration, or the body of a method
  have hbrace : t.isSymbol '{' := ht.resolve_left hsemicolon
  rw [if_neg hsemicolon, if_pos hbrace] at h
  by_cases hinitializers : isMethod ∧ hasInitializers head
  · rw [if_pos hinitializers] at h
    obtain ⟨taken, rfl, hrest⟩ := skipInitializers_append h
    refine ⟨t :: taken, rfl, List.cons_ne_nil _ _, .of_all fun rest' => ?_⟩
    simp only [List.cons_append, skipMemberEnd, if_neg hsemicolon, if_pos hbrace,
      if_pos hinitializers, hrest]
    rfl
  rw [if_neg hinitializers] at h
  cases heq : enclosed? '{' '}' 0 ts with
  | none => rw [heq] at h; cases h
  | some r =>
    obtain ⟨inside, after⟩ := r
    obtain ⟨b, -, hb⟩ := exists_block hbrace heq
    have hread := skipMemberEnd_block last className hinitializers b
    rw [heq] at h
    rw [hb]
    cases isMethod with
    | false =>
      obtain ⟨taken, rfl, htakes⟩ := takes_skipDeclaration h
      exact ⟨b.tokens ++ taken, (List.append_assoc ..).symm, b.tokens_append_ne_nil taken,
        htakes.after b.tokens hread⟩
    | true =>
      have hne : b.tokens ≠ [] := List.append_nil b.tokens ▸ b.tokens_append_ne_nil []
      by_cases hhead : after.head?.any (·.isSymbol ';')
      · cases after with
        | nil => cases hhead
        | cons s after =>
          simp only [Bool.not_true, Bool.false_eq_true, if_false, hhead, if_true] at h
          cases h
          refine ⟨b.tokens ++ [s], by simp, b.tokens_append_ne_nil [s], .of_all fun rest' => ?_⟩
          rw [List.append_assoc, hread, if_neg (by simp), if_pos (by exact hhead)]
          rfl
      · simp only [Bool.not_true, Bool.false_eq_true, if_false, hhead] at h
        cases h
        exact ⟨b.tokens, rfl, hne, .of_optional hread hhead⟩

theorem exists_of_cons_eq_append {t : Token} {ts taken rest : List Token}
    (h : t :: ts = taken ++ rest) (hne : taken ≠ []) :
    ∃ taken', taken = t :: taken' ∧ ts = taken' ++ rest := by
  cases taken with
  | nil => exact absurd rfl hne
  | cons u taken => cases h; exact ⟨taken, rfl, rfl⟩

/-- A member takes its first token, if that is no closing brace. -/
theorem takes_member {last : Nat} {className : String} {isPublic : Bool} {t : Token}
    {ts rest : List Token} {found : Option Method} (ht : t.isSymbol '}' = false)
    (h : member last className isPublic (t :: ts) = .ok (found, rest)) :
    ∃ taken, t :: ts = taken ++ rest ∧ taken ≠ [] ∧
      Takes (member last className isPublic) (found, ·) taken rest := by
  have happend := splitMember_append 0 (t :: ts)
  cases hsplit : splitMember 0 (t :: ts) with
  | mk head ending =>
    rw [hsplit] at happend
    simp only [member, hsplit] at h
    cases ending with
    | nil => cases h
    | cons e ending =>
      obtain ⟨hends, hmember⟩ := splitMember_append_cons hsplit
      have hread (us : List Token) : member last className isPublic (head ++ [e] ++ us) =
          (skipMemberEnd last className head (method? className isPublic head).isSome
            (e :: us)).map fun rest => (method? className isPublic head, rest) := by
        rw [List.append_assoc, List.singleton_append]
        simp only [member, hmember us]
      obtain ⟨after, hend, hresult⟩ := Success.map_eq_ok_iff.1 h
      cases hresult
      -- the end of the class is left for the reader of members
      by_cases hclose : e.isSymbol '}'
      · have hsymbol := Token.isSymbol_of_isSymbol hclose
        have hstay (us : List Token) : skipMemberEnd last className head
            (method? className isPublic head).isSome (e :: us) = .ok (e :: us) := by
          simp [skipMemberEnd, hsymbol]
        rw [hstay] at hend
        cases hend
        refine ⟨head, happend.symm, ?_, fun rest' hsame => ?_, fun hne => ?_⟩
        · rintro rfl
          cases happend
          rw [ht] at hclose
          cases hclose
        · obtain ⟨us, rfl⟩ := exists_of_head_eq hsame
          have hmember' := hread us
          rw [List.append_assoc, List.singleton_append, hstay] at hmember'
          exact hmember'
        · simp [hclose] at hne
      · have hends' : e.isSymbol ';' ∨ e.isSymbol '{' :=
          hends.imp_right fun h => h.resolve_right hclose
        obtain ⟨taken, heq, hne, htakes⟩ := takes_skipMemberEnd hends' hend
        obtain ⟨taken, rfl, rfl⟩ := exists_of_cons_eq_append heq hne
        have hmap := htakes.tail.map fun rest => (method? className isPublic head, rest)
        exact ⟨head ++ [e] ++ taken, by simpa using happend.symm, by simp,
          hmap.after (head ++ [e]) hread⟩

end Instrument.Header
