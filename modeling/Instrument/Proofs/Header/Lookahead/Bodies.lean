import Instrument.Proofs.Header.Lookahead.Members

/-!
How far reading the body of a class looks ahead, item by item. Main statements: an item that is read
is read as well if other tokens come after it, and so is a whole body.
-/

namespace Instrument.Header

/-- Whether a token and the tokens after it tell who has access to the members that follow. -/
def IsAccess (t : Token) (ts : List Token) : Prop :=
  t.isOneOf ["public", "private", "protected"] ∧ ts.head?.any (·.isSymbol ':')

section bodyItem

variable (last : Nat) (className : String) (isPublic : Bool) {t : Token} (ts : List Token)

theorem bodyItem_of_template (ht : t.isWord "template") :
    bodyItem last className isPublic t ts =
      (skipTemplate ts >>= skipDeclaration last).map fun rest => (.skipped, rest) := by
  obtain ⟨line, rfl⟩ := Token.exists_of_isWord ht
  rfl

theorem bodyItem_of_nested (ht : t.isOneOf nestedWords) :
    bodyItem last className isPublic t ts =
      (skipDeclaration last (t :: ts)).map fun rest => (.skipped, rest) := by
  obtain ⟨kind, line⟩ := t
  obtain ⟨word, hword, hkind⟩ := Token.exists_of_isOneOf ht
  simp only at hkind
  subst hkind
  simp only [nestedWords, List.mem_cons, List.not_mem_nil, or_false] at hword
  rcases hword with rfl | rfl | rfl | rfl | rfl | rfl | rfl | rfl <;> rfl

/-- Whether a token and the tokens after it begin a member that is read as such. -/
def BeginsMember (t : Token) (ts : List Token) : Prop :=
  t.isSymbol '}' = false ∧ t.isSymbol ';' = false ∧ ¬IsAccess t ts ∧ t.isWord "template" = false ∧
    t.isOneOf nestedWords = false

/-- What a member yields. -/
def memberItem (found : Option Method) : BodyItem :=
  match found with
  | some m => .method m
  | none => .skipped

theorem bodyItem_of_member (ht : BeginsMember t ts) :
    bodyItem last className isPublic t ts =
      (member last className isPublic (t :: ts)).map fun r => (memberItem r.1, r.2) := by
  obtain ⟨hclose, hsemicolon, haccess, htemplate, hnested⟩ := ht
  rw [bodyItem, hclose, hsemicolon, htemplate, hnested, if_neg Bool.false_ne_true,
    if_neg Bool.false_ne_true, if_neg (by exact haccess), if_neg Bool.false_ne_true,
    if_neg Bool.false_ne_true]
  rfl

theorem member_singleton_ne_ok (ht : t.isSymbol '}' = false) (hsemicolon : t.isSymbol ';' = false)
    (r : Option Method × List Token) : member last className isPublic [t] ≠ .ok r := by
  by_cases hbrace : t.isSymbol '{'
  · have hsplit : splitMember 0 [t] = ([], [t]) := splitMember_of_ends (.inr (.inl hbrace)) []
    have hnone : method? className isPublic [] = none := rfl
    simp [member, hsplit, skipMemberEnd, hsemicolon, hbrace, enclosed?, hnone, Except.map]
  · have hsplit : splitMember 0 [t] = ([t], []) := by
      simp [splitMember, ht, hsemicolon, hbrace]
    simp [member, hsplit, skipMemberEnd, Except.map]

end bodyItem

section takes

variable {last : Nat} {className : String} {isPublic : Bool} {t : Token} {ts rest : List Token}
  {item : BodyItem}

theorem takes_bodyItem_of_access (hclose : ¬t.isSymbol '}') (hsemicolon : ¬t.isSymbol ';')
    (haccess : IsAccess t ts) (h : bodyItem last className isPublic t ts = .ok (item, rest)) :
    ∃ taken, ts = taken ++ rest ∧
      Takes (bodyItem last className isPublic t) (item, ·) taken rest := by
  cases ts with
  | nil => cases haccess.2
  | cons u ts =>
    have haccess' (us : List Token) : IsAccess t (u :: us) := haccess
    have hitem (us : List Token) : bodyItem last className isPublic t (u :: us) =
        .ok (.access (t.isWord "public"), us) := by
      rw [bodyItem, if_neg hclose, if_neg hsemicolon, if_pos (by exact haccess' us)]
      rfl
    rw [hitem] at h
    cases h
    exact ⟨[u], rfl, .of_all fun rest' => hitem rest'⟩

theorem takes_bodyItem_of_template (ht : t.isWord "template")
    (h : bodyItem last className isPublic t ts = .ok (item, rest)) :
    ∃ taken, ts = taken ++ rest ∧
      Takes (bodyItem last className isPublic t) (item, ·) taken rest := by
  rw [bodyItem_of_template _ _ _ _ ht] at h
  obtain ⟨after, hskip, hresult⟩ := Success.map_eq_ok_iff.1 h
  cases hresult
  obtain ⟨taken, rfl, htakes⟩ := takes_skipTemplate hskip
  refine ⟨taken, rfl, ?_⟩
  simp only [funext fun us => bodyItem_of_template last className isPublic us ht]
  exact htakes.map _

theorem takes_bodyItem_of_nested (ht : t.isOneOf nestedWords)
    (h : bodyItem last className isPublic t ts = .ok (item, rest)) :
    ∃ taken, ts = taken ++ rest ∧
      Takes (bodyItem last className isPublic t) (item, ·) taken rest := by
  rw [bodyItem_of_nested _ _ _ _ ht] at h
  obtain ⟨after, hskip, hresult⟩ := Success.map_eq_ok_iff.1 h
  cases hresult
  have hclose : t.isSymbol '}' = false := Token.isSymbol_eq_false_of_isOneOf ht
  obtain ⟨taken, rfl, htakes⟩ := takes_skipDeclaration_cons hclose hskip
  refine ⟨taken, rfl, ?_⟩
  simp only [funext fun us => bodyItem_of_nested last className isPublic us ht]
  exact htakes.tail.map _

theorem takes_bodyItem_of_member (ht : BeginsMember t ts)
    (h : bodyItem last className isPublic t ts = .ok (item, rest)) :
    ∃ taken, ts = taken ++ rest ∧
      Takes (bodyItem last className isPublic t) (item, ·) taken rest := by
  rw [bodyItem_of_member _ _ _ _ ht] at h
  obtain ⟨hclose, hsemicolon, haccess, hrest⟩ := ht
  obtain ⟨⟨found, after⟩, hmember, hresult⟩ := Success.map_eq_ok_iff.1 h
  cases hresult
  obtain ⟨taken, heq, hne, htakes⟩ := takes_member hclose hmember
  obtain ⟨taken, rfl, rfl⟩ := exists_of_cons_eq_append heq hne
  have hmap := htakes.tail.map fun r => (memberItem r.1, r.2)
  refine ⟨taken, rfl, hmap.of_head (fun us hhead => ?_) fun a => ?_⟩
  · have haccess' : ¬IsAccess t us := by
      rwa [IsAccess, hhead]
    exact bodyItem_of_member _ _ _ _ ⟨hclose, hsemicolon, haccess', hrest⟩
  · intro habsurd
    obtain ⟨r, hnone, -⟩ := Success.map_eq_ok_iff.1 habsurd
    exact member_singleton_ne_ok _ _ _ hclose hsemicolon r hnone

/-- What is taken in the body of a class is taken whatever follows. -/
theorem takes_bodyItem (h : bodyItem last className isPublic t ts = .ok (item, rest)) :
    ∃ taken, ts = taken ++ rest ∧
      Takes (bodyItem last className isPublic t) (item, ·) taken rest := by
  by_cases hclose : t.isSymbol '}'
  · simp only [bodyItem, hclose, if_true] at h
    cases h
    refine ⟨[], rfl, .of_all fun rest' => ?_⟩
    simp only [bodyItem, hclose, if_true, List.nil_append]
  by_cases hsemicolon : t.isSymbol ';'
  · simp only [bodyItem, hclose, hsemicolon, if_true] at h
    cases h
    refine ⟨[], rfl, .of_all fun rest' => ?_⟩
    simp only [bodyItem, hclose, hsemicolon, if_true, List.nil_append]
    rfl
  by_cases haccess : IsAccess t ts
  · exact takes_bodyItem_of_access hclose hsemicolon haccess h
  by_cases htemplate : t.isWord "template"
  · exact takes_bodyItem_of_template htemplate h
  by_cases hnested : t.isOneOf nestedWords
  · exact takes_bodyItem_of_nested hnested h
  · have hbegins : BeginsMember t ts := ⟨by simpa using hclose, by simpa using hsemicolon, haccess,
      by simpa using htemplate, by simpa using hnested⟩
    exact takes_bodyItem_of_member hbegins h

end takes

/-- Only a closing brace closes a class. -/
theorem eq_of_closed {last : Nat} {className : String} {isPublic : Bool} {t : Token}
    {ts rest : List Token} (h : bodyItem last className isPublic t ts = .ok (.closed, rest)) :
    t.isSymbol '}' ∧ rest = ts := by
  by_cases hclose : t.isSymbol '}'
  · simp only [bodyItem, hclose, if_true] at h
    cases h
    exact ⟨hclose, rfl⟩
  have hskip (result : Except ParseError (List Token)) :
      (result.map fun rest => (BodyItem.skipped, rest)) ≠ .ok (.closed, rest) := by
    cases result <;> simp [Except.map]
  unfold bodyItem at h
  rw [if_neg hclose] at h
  split at h
  · cases h
  split at h
  · cases h
  split at h
  · exact absurd h (hskip _)
  split at h
  · exact absurd h (hskip _)
  · cases hmember : member last className isPublic (t :: ts) with
    | error e => rw [hmember] at h; cases h
    | ok r =>
      obtain ⟨found, after⟩ := r
      rw [hmember] at h
      cases found <;> cases h

/-- What is read from more tokens after some that are taken is read whatever follows. -/
theorem bodyItem_append {last : Nat} {className : String} {isPublic : Bool} {t : Token}
    {ts more rest : List Token} {item : BodyItem}
    (h : bodyItem last className isPublic t ts = .ok (item, more ++ rest)) (hne : more ≠ []) :
    ∃ taken, ts = taken ++ (more ++ rest) ∧ ∀ rest',
      bodyItem last className isPublic t (taken ++ (more ++ rest')) = .ok (item, more ++ rest') := by
  obtain ⟨taken, rfl, htakes⟩ := takes_bodyItem h
  refine ⟨taken, rfl, fun rest' => htakes.same _ ?_⟩
  cases more with
  | nil => exact absurd rfl hne
  | cons u more => rfl

/-- The methods of a class are read from the tokens up to its closing brace, whatever follows. -/
theorem classBody_append {last line : Nat} {className : String} {isPublic : Bool}
    {ts rest : List Token} {methods : List Method}
    (h : classBody last line className isPublic ts = .ok (methods, rest)) :
    ∃ taken, ts = taken ++ rest ∧ taken ≠ [] ∧ ∀ rest',
      classBody last line className isPublic (taken ++ rest') = .ok (methods, rest') := by
  fun_induction classBody last line className isPublic ts generalizing methods rest with
  | case1 => cases h
  | case2 => cases h
  | case3 isPublic t ts after hitem =>
    cases h
    obtain ⟨hclose, rfl⟩ := eq_of_closed hitem
    refine ⟨[t], rfl, List.cons_ne_nil _ _, fun rest' => ?_⟩
    simp only [List.singleton_append, classBody_cons, bodyItem, hclose, if_true]
  -- an item takes its own tokens, and the body goes on with what is left
  | case4 isPublic t ts isPublic' after hitem ih =>
    obtain ⟨more, rfl, hne, hmore⟩ := ih h
    obtain ⟨taken, rfl, htaken⟩ := bodyItem_append hitem hne
    refine ⟨t :: (taken ++ more), by simp, List.cons_ne_nil _ _, fun rest' => ?_⟩
    rw [List.cons_append, List.append_assoc, classBody_cons, htaken]
    exact hmore rest'
  | case5 isPublic t ts after hitem ih =>
    obtain ⟨more, rfl, hne, hmore⟩ := ih h
    obtain ⟨taken, rfl, htaken⟩ := bodyItem_append hitem hne
    refine ⟨t :: (taken ++ more), by simp, List.cons_ne_nil _ _, fun rest' => ?_⟩
    rw [List.cons_append, List.append_assoc, classBody_cons, htaken]
    exact hmore rest'
  | case6 isPublic t ts found after hitem ih =>
    obtain ⟨⟨methods', rest'⟩, hbody, hresult⟩ := Success.map_eq_ok_iff.1 h
    cases hresult
    obtain ⟨more, rfl, hne, hmore⟩ := ih hbody
    obtain ⟨taken, rfl, htaken⟩ := bodyItem_append hitem hne
    refine ⟨t :: (taken ++ more), by simp, List.cons_ne_nil _ _, fun rest' => ?_⟩
    rw [List.cons_append, List.append_assoc, classBody_cons, htaken]
    simp only [hmore rest']
    rfl

end Instrument.Header
