import Instrument.Proofs.Header.Declarations
import Instrument.Proofs.Header.TypeText

/-!
Balanced brackets. Main statement: inside a pair of brackets, tokens whose brackets are balanced
are read through, whichever brackets are counted on the way.
-/

namespace Instrument.Header

/-- The pairs of brackets. -/
def bracketPairs : List (Char × Char) := [('(', ')'), ('[', ']'), ('{', '}')]

/-- Whether tokens of a kind are no brackets. -/
def TokenKind.IsNoBracket (k : TokenKind) : Prop :=
  ∀ pair ∈ bracketPairs, k ≠ .symbol pair.1 ∧ k ≠ .symbol pair.2

instance (k : TokenKind) : Decidable k.IsNoBracket :=
  inferInstanceAs (Decidable (∀ pair ∈ bracketPairs, _))

/-- Whether each bracket is closed by the other one of its pair, after those that are opened behind
it. -/
inductive IsBalanced : List TokenKind → Prop
  | nil : IsBalanced []
  | plain {k : TokenKind} {ks : List TokenKind} (hk : k.IsNoBracket) (h : IsBalanced ks) :
    IsBalanced (k :: ks)
  | nested {pair : Char × Char} {inside ks : List TokenKind} (hpair : pair ∈ bracketPairs)
    (hinside : IsBalanced inside) (h : IsBalanced ks) :
    IsBalanced (.symbol pair.1 :: (inside ++ .symbol pair.2 :: ks))

theorem IsBalanced.append {ks ls : List TokenKind} (hks : IsBalanced ks) (hls : IsBalanced ls) :
    IsBalanced (ks ++ ls) := by
  induction hks with
  | nil => exact hls
  | plain hk _ ih => exact .plain hk ih
  | nested hpair hinside _ _ ih =>
    rw [List.cons_append, List.append_assoc, List.cons_append]
    exact .nested hpair hinside ih

theorem IsBalanced.of_forall {ks : List TokenKind} (h : ∀ k ∈ ks, k.IsNoBracket) :
    IsBalanced ks := by
  induction ks with
  | nil => exact .nil
  | cons k ks ih =>
    rw [List.forall_mem_cons] at h
    exact .plain h.1 (ih h.2)

theorem IsBalanced.flatMap {α : Type} {f : α → List TokenKind} {l : List α}
    (h : ∀ a ∈ l, IsBalanced (f a)) : IsBalanced (l.flatMap f) := by
  induction l with
  | nil => exact .nil
  | cons a l ih =>
    rw [List.forall_mem_cons] at h
    rw [List.flatMap_cons]
    exact h.1.append (ih h.2)

theorem not_any_onLine (line : Nat) (ks : List TokenKind) {text : String} (h : .word text ∉ ks) :
    ¬(onLine line ks).any (·.isWord text) := by
  intro hany
  obtain ⟨t, ht, hword⟩ := List.any_eq_true.1 hany
  obtain ⟨k, hk, rfl⟩ := List.mem_map.1 ht
  have hkind : k = .word text := by simpa [Token.isWord] using hword
  exact h (hkind ▸ hk)

/-- Whether `count` counts pairs of brackets, of which it may leave out some, but no parentheses. -/
structure CountsPairs (count : Nat → Token → Nat) : Prop where
  parens : ∀ line depth : Nat, count depth ⟨.symbol '(', line⟩ = depth + 1 ∧
    count (depth + 1) ⟨.symbol ')', line⟩ = depth
  plain : ∀ (depth line : Nat) (k : TokenKind), k.IsNoBracket → count depth ⟨k, line⟩ = depth
  pair : ∀ pair ∈ bracketPairs, ∀ line : Nat,
    (∀ depth, count depth ⟨.symbol pair.1, line⟩ = depth + 1 ∧
      count (depth + 1) ⟨.symbol pair.2, line⟩ = depth) ∨
    ∀ depth, count depth ⟨.symbol pair.1, line⟩ = depth ∧
      count depth ⟨.symbol pair.2, line⟩ = depth

theorem isSymbol_of_ne {k : TokenKind} {c : Char} (h : k ≠ .symbol c) (line : Nat) :
    Token.isSymbol ⟨k, line⟩ c = false := by
  rw [Token.isSymbol]
  exact beq_eq_false_iff_ne.2 h

theorem countsPairs_memberDepth : CountsPairs memberDepth where
  parens := fun line depth => ⟨rfl, rfl⟩
  plain := by
    intro depth line k hk
    have hparens := hk ('(', ')') (by decide)
    have hsquares := hk ('[', ']') (by decide)
    simp only [memberDepth, isSymbol_of_ne hparens.1, isSymbol_of_ne hparens.2,
      isSymbol_of_ne hsquares.1, isSymbol_of_ne hsquares.2]
    rfl
  pair := by
    intro pair hpair line
    simp only [bracketPairs, List.mem_cons, List.not_mem_nil, or_false] at hpair
    rcases hpair with rfl | rfl | rfl
    · exact .inl fun depth => ⟨rfl, rfl⟩
    · exact .inl fun depth => ⟨rfl, rfl⟩
    · exact .inr fun depth => ⟨rfl, rfl⟩

theorem countsPairs_parenDepth : CountsPairs parenDepth where
  parens := fun line depth => ⟨rfl, rfl⟩
  plain := by
    intro depth line k hk
    have hparens := hk ('(', ')') (by decide)
    simp only [parenDepth, isSymbol_of_ne hparens.1, isSymbol_of_ne hparens.2]
    rfl
  pair := by
    intro pair hpair line
    simp only [bracketPairs, List.mem_cons, List.not_mem_nil, or_false] at hpair
    rcases hpair with rfl | rfl | rfl
    · exact .inl fun depth => ⟨rfl, rfl⟩
    · exact .inr fun depth => ⟨rfl, rfl⟩
    · exact .inr fun depth => ⟨rfl, rfl⟩

theorem isFlat_cons_succ {count : Nat → Token → Nat} {depth : Nat} {t : Token} {ts : List Token} :
    IsFlat count (depth + 1) (t :: ts) ↔ IsFlat count (count (depth + 1) t) ts :=
  and_iff_right fun hzero => (Nat.succ_ne_zero depth hzero).elim

/-- What follows flat tokens is flat if all of them are. -/
theorem IsFlat.append_iff {count : Nat → Token → Nat} {depth : Nat} {ts : List Token}
    (h : IsFlat count depth ts) (us : List Token) :
    IsFlat count depth (ts ++ us) ↔ IsFlat count 0 us := by
  induction ts generalizing depth with
  | nil =>
    have hdepth : depth = 0 := h
    rw [hdepth]
    rfl
  | cons t ts ih => exact (and_iff_right h.1).trans (ih h.2)

/-- Inside a bracket, balanced tokens leave the count as it is and end nothing. -/
theorem IsBalanced.isFlat_append_iff {count : Nat → Token → Nat} (hcount : CountsPairs count)
    {ks : List TokenKind} (h : IsBalanced ks) (depth line : Nat) (ts : List Token) :
    IsFlat count (depth + 1) (onLine line ks ++ ts) ↔ IsFlat count (depth + 1) ts := by
  induction h generalizing depth ts with
  | nil => rfl
  | plain hk _ ih =>
    rw [onLine_cons, List.cons_append, isFlat_cons_succ, hcount.plain _ _ _ hk, ih]
  | @nested pair inside ks hpair _ _ ihInside ih =>
    rw [onLine_cons, onLine_append, onLine_cons, List.cons_append, List.append_assoc,
      List.cons_append, isFlat_cons_succ]
    rcases hcount.pair pair hpair line with hcounted | hleft
    · rw [(hcounted _).1, ihInside, isFlat_cons_succ, (hcounted _).2, ih]
    · rw [(hleft _).1, ihInside, isFlat_cons_succ, (hleft _).2, ih]

/-- Whether braces and semicolons stand between parentheses only. -/
inductive IsUnbraced : List TokenKind → Prop
  | nil : IsUnbraced []
  | plain {k : TokenKind} {ks : List TokenKind} (hk : k.IsNoBracket) (hsemicolon : k ≠ .symbol ';')
    (h : IsUnbraced ks) : IsUnbraced (k :: ks)
  | parens {inside ks : List TokenKind} (hinside : IsBalanced inside) (h : IsUnbraced ks) :
    IsUnbraced (.symbol '(' :: (inside ++ .symbol ')' :: ks))
  | squares {inside ks : List TokenKind} (hinside : IsUnbraced inside) (h : IsUnbraced ks) :
    IsUnbraced (.symbol '[' :: (inside ++ .symbol ']' :: ks))

theorem IsUnbraced.isBalanced {ks : List TokenKind} (h : IsUnbraced ks) : IsBalanced ks := by
  have hparens : ('(', ')') ∈ bracketPairs := by decide
  have hsquares : ('[', ']') ∈ bracketPairs := by decide
  induction h with
  | nil => exact .nil
  | plain hk _ _ ih => exact .plain hk ih
  | parens hinside _ ih => exact .nested hparens hinside ih
  | squares _ _ ihInside ih => exact .nested hsquares ihInside ih

theorem isFlat_cons_of_not {count : Nat → Token → Nat} {t : Token} (h : ¬endsMember t)
    {ts : List Token} : IsFlat count 0 (t :: ts) ↔ IsFlat count (count 0 t) ts :=
  and_iff_right fun _ => h

theorem isFlat_cons_mark {count : Nat → Token → Nat} {c : Char} (hc : c ∉ [';', '{', '}'])
    {line : Nat} {ts : List Token} : IsFlat count 0 (⟨.symbol c, line⟩ :: ts) ↔
      IsFlat count (count 0 ⟨.symbol c, line⟩) ts := by
  refine isFlat_cons_of_not ?_
  simp_all [endsMember, Token.isSymbol]

/-- Without braces nothing ends, whether square brackets are counted or not. -/
theorem IsUnbraced.isFlat_append_iff {count : Nat → Token → Nat} (hcount : CountsPairs count)
    {ks : List TokenKind} (h : IsUnbraced ks) (line : Nat) (ts : List Token) :
    IsFlat count 0 (onLine line ks ++ ts) ↔ IsFlat count 0 ts := by
  induction h generalizing ts with
  | nil => rfl
  | @plain k ks hk hsemicolon _ ih =>
    have hbraces := hk ('{', '}') (by decide)
    have hends : ¬endsMember ⟨k, line⟩ := by
      simp [endsMember, isSymbol_of_ne hsemicolon, isSymbol_of_ne hbraces.1,
        isSymbol_of_ne hbraces.2]
    rw [onLine_cons, List.cons_append, isFlat_cons_of_not hends, hcount.plain _ _ _ hk, ih]
  | parens hinside _ ih =>
    rw [onLine_cons, onLine_append, onLine_cons, List.cons_append, List.append_assoc,
      List.cons_append, isFlat_cons_mark (by decide), (hcount.parens line 0).1,
      hinside.isFlat_append_iff hcount, isFlat_cons_succ, (hcount.parens line 0).2, ih]
  | squares hinside _ ihInside ih =>
    rw [onLine_cons, onLine_append, onLine_cons, List.cons_append, List.append_assoc,
      List.cons_append, isFlat_cons_mark (by decide)]
    rcases hcount.pair ('[', ']') (by decide) line with hcounted | hleft
    · rw [(hcounted 0).1, hinside.isBalanced.isFlat_append_iff hcount, isFlat_cons_succ,
        (hcounted 0).2, ih]
    · rw [(hleft 0).1, ihInside, isFlat_cons_mark (by decide), (hleft 0).2, ih]

/-- What is balanced between braces is enclosed by them. -/
theorem IsBalanced.enclosed?_append {ks : List TokenKind} (h : IsBalanced ks) (depth line : Nat)
    (ts : List Token) :
    enclosed? '{' '}' depth (onLine line ks ++ ts) =
      (enclosed? '{' '}' depth ts).map fun r => (onLine line ks ++ r.1, r.2) := by
  have hskip (k : TokenKind) (ts : List Token) (depth : Nat) (hopen : k ≠ .symbol '{')
      (hclose : k ≠ .symbol '}') : enclosed? '{' '}' depth (⟨k, line⟩ :: ts) =
        (enclosed? '{' '}' depth ts).map fun r => (⟨k, line⟩ :: r.1, r.2) := by
    simp only [enclosed?, isSymbol_of_ne hopen, isSymbol_of_ne hclose, Bool.false_eq_true,
      if_false]
  induction h generalizing depth ts with
  | nil => simp [onLine_nil]
  | plain hk _ ih =>
    have hbraces := hk ('{', '}') (by decide)
    rw [onLine_cons, List.cons_append, hskip _ _ _ hbraces.1 hbraces.2, ih, Option.map_map]
    rfl
  | @nested pair inside ks hpair _ _ ihInside ih =>
    rw [onLine_cons, onLine_append, onLine_cons, List.cons_append, List.append_assoc,
      List.cons_append]
    -- only braces change the depth; the other pairs are passed token by token
    by_cases hbrace : pair = ('{', '}')
    · subst hbrace
      simp only [enclosed?, show Token.isSymbol ⟨.symbol '{', line⟩ '{' = true by rfl,
        show Token.isSymbol ⟨.symbol '}', line⟩ '{' = false by rfl,
        show Token.isSymbol ⟨.symbol '}', line⟩ '}' = true by rfl, ihInside, ih, if_true,
        Bool.false_eq_true, if_false, Option.map_map]
      congr 1
      funext r
      simp
    · have hne : pair.1 ≠ '{' ∧ pair.1 ≠ '}' ∧ pair.2 ≠ '{' ∧ pair.2 ≠ '}' := by
        simp only [bracketPairs, List.mem_cons, List.not_mem_nil, or_false] at hpair
        rcases hpair with rfl | rfl | rfl
        · decide
        · decide
        · exact absurd rfl hbrace
      obtain ⟨hopen, hopen', hclose, hclose'⟩ := hne
      rw [hskip _ _ _ (by simpa using hopen) (by simpa using hopen'), ihInside,
        hskip _ _ _ (by simpa using hclose) (by simpa using hclose'), ih]
      simp only [Option.map_map]
      congr 1
      funext r
      simp

/-- Flat tokens are read through before what ends a member. -/
theorem splitMember_append_flat {depth : Nat} {ts : List Token} (h : IsFlat memberDepth depth ts)
    (us : List Token) :
    splitMember depth (ts ++ us) = (ts ++ (splitMember 0 us).1, (splitMember 0 us).2) := by
  induction ts generalizing depth with
  | nil =>
    have hdepth : depth = 0 := h
    rw [hdepth]
    rfl
  | cons t ts ih =>
    obtain ⟨hends, hflat⟩ := h
    have hne : ¬(depth = 0 ∧ (t.isSymbol ';' ∨ t.isSymbol '{' ∨ t.isSymbol '}')) :=
      fun hstop => hends hstop.1 hstop.2
    rw [List.cons_append, splitMember, if_neg hne, ih hflat]
    rfl

end Instrument.Header
