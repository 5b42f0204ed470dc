import Instrument.Proofs.Header.Lookahead.Bodies

/-!
How far reading a header looks ahead. Main statement: a place that is read in a header is read as
well if other tokens come from there on.
-/

namespace Instrument.Header

theorem dropWhile_append {p : Token → Bool} {ts rest : List Token} {t : Token}
    (h : ts.dropWhile p = t :: rest) :
    ¬p t ∧ ∃ skipped, ts = skipped ++ t :: rest ∧ ∀ rest',
      (skipped ++ t :: rest').dropWhile p = t :: rest' := by
  induction ts with
  | nil => cases h
  | cons u ts ih =>
    by_cases hu : p u
    · rw [List.dropWhile_cons_of_pos hu] at h
      obtain ⟨ht, skipped, rfl, hrest⟩ := ih h
      refine ⟨ht, u :: skipped, rfl, fun rest' => ?_⟩
      rw [List.cons_append, List.dropWhile_cons_of_pos hu, hrest]
    · rw [List.dropWhile_cons_of_neg hu] at h
      cases h
      exact ⟨hu, [], rfl, fun rest' => List.dropWhile_cons_of_neg hu⟩

/-- After a class what follows the next semicolon is left, if there is one. -/
theorem takes_afterClass (ts : List Token) :
    ∃ taken, ts = taken ++ afterClass ts ∧
      Takes (fun ts => .ok (afterClass ts)) id taken (afterClass ts) := by
  cases h : ts.dropWhile (!·.isSymbol ';') with
  | nil =>
    have hnil : afterClass ts = [] := by rw [afterClass, h]; rfl
    rw [hnil]
    refine ⟨ts, (List.append_nil ts).symm, fun rest' hsame => ?_, fun hne => nomatch hne⟩
    rw [List.head?_eq_none_iff.1 hsame, List.append_nil, hnil]
    rfl
  | cons t rest =>
    have hrest : afterClass ts = rest := by rw [afterClass, h]; rfl
    obtain ⟨-, skipped, rfl, hskipped⟩ := dropWhile_append h
    rw [hrest]
    refine ⟨skipped ++ [t], by simp, .of_all fun rest' => ?_⟩
    rw [List.append_assoc, List.singleton_append, afterClass, hskipped]
    rfl

/-- A declaration that is skipped by some reading. -/
theorem takes_of_skipDeclaration {α : Type} {last : Nat} {f : List Token → α}
    {read : List Token → Except ParseError α} {ts rest : List Token}
    (h : skipDeclaration last ts = .ok rest)
    (hread : ∀ us, us.head? = ts.head? → read us = (skipDeclaration last us).map f) :
    ∃ taken, ts = taken ++ rest ∧ Takes read f taken rest := by
  obtain ⟨taken, rfl, htakes⟩ := takes_skipDeclaration h
  refine ⟨taken, rfl, (htakes.map f).of_head hread fun a => ?_⟩
  simp [skipDeclaration, skipFrom, Except.map]

theorem takes_classDeclaration {last : Nat} {keyword : Token} {ts rest : List Token}
    {found : Option Class} (h : classDeclaration last keyword ts = .ok (found, rest)) :
    ∃ taken, ts = taken ++ rest ∧ Takes (classDeclaration last keyword) (found, ·) taken rest := by
  cases ts with
  | nil => simp [classDeclaration, skipDeclaration, skipFrom, Except.map] at h
  | cons t ts =>
    cases hname : t.word? with
    | none =>
      simp only [classDeclaration, hname] at h
      obtain ⟨after, hskip, hresult⟩ := Success.map_eq_ok_iff.1 h
      cases hresult
      refine takes_of_skipDeclaration hskip fun us hhead => ?_
      obtain ⟨us, rfl⟩ := exists_of_head_eq hhead
      simp only [classDeclaration, hname]
    | some name =>
      simp only [classDeclaration, hname] at h
      cases hdrop : ts.dropWhile fun t => !(t.isSymbol '{' || t.isSymbol ';') with
      | nil => rw [hdrop] at h; cases h
      | cons brace body =>
        obtain ⟨-, skipped, rfl, hskipped⟩ := dropWhile_append hdrop
        rw [hdrop] at h
        -- a forward declaration ends here, a class with its members and what stands behind them
        by_cases hsemicolon : brace.isSymbol ';'
        · simp only [hsemicolon, if_true] at h
          cases h
          refine ⟨t :: skipped ++ [brace], by simp, .of_all fun rest' => ?_⟩
          simp only [List.cons_append, List.append_assoc, List.nil_append, classDeclaration, hname,
            hskipped, hsemicolon, if_true]
        · simp only [hsemicolon] at h
          obtain ⟨⟨methods, after⟩, hbody, hresult⟩ := Success.map_eq_ok_iff.1 h
          cases hresult
          obtain ⟨members, rfl, -, hmembers⟩ := classBody_append hbody
          obtain ⟨taken, hafter, htakes⟩ := takes_afterClass after
          have hmap := htakes.map fun rest =>
            (some (⟨name, keyword.line, methods⟩ : Class), rest)
          refine ⟨t :: skipped ++ brace :: members ++ taken, ?_, hmap.after _ fun us => ?_⟩
          · change t :: _ = t :: skipped ++ brace :: members ++ taken ++ afterClass after
            simp only [List.cons_append, List.append_assoc]
            rw [← hafter]
          · simp only [List.cons_append, List.append_assoc, classDeclaration, hname, hskipped,
              hsemicolon, hmembers]
            rfl

/-- Whether a token and the tokens after it tell the language of a declaration that follows them. -/
def IsLinkage (t : Token) (ts : List Token) : Prop :=
  t.isWord "extern" ∧ ts.head?.any (·.kind == .literal) ∧ ¬ts.tail.head?.any (·.isSymbol '{')

section topItem

variable (last : Nat) {t : Token} (ts : List Token)

theorem topItem_of_template (ht : t.isWord "template") :
    topItem last t ts =
      (skipTemplate ts >>= skipDeclaration last).map fun rest => (none, rest) := by
  obtain ⟨line, rfl⟩ := Token.exists_of_isWord ht
  rfl

/-- Whether a token and the tokens after it begin a declaration that is skipped. -/
def BeginsSkipped (t : Token) (ts : List Token) : Prop :=
  t.isWord "namespace" = false ∧ ¬(t.isWord "extern" ∧ ts.head?.any (·.kind == .literal)) ∧
    t.isWord "template" = false ∧ t.isOneOf ["class", "struct"] = false ∧
    t.isSymbol '}' = false ∧ t.isSymbol ';' = false

theorem topItem_of_skipped (ht : BeginsSkipped t ts) :
    topItem last t ts = (skipDeclaration last (t :: ts)).map fun rest => (none, rest) := by
  obtain ⟨hnamespace, hliteral, htemplate, hclass, hclose, hsemicolon⟩ := ht
  rw [topItem, hnamespace, htemplate, hclass, hclose, hsemicolon, if_neg Bool.false_ne_true,
    if_neg hliteral, if_neg Bool.false_ne_true, if_neg Bool.false_ne_true, if_neg (by simp)]

/-- The language of a declaration is told apart from the declaration. -/
theorem topItem_of_linkage {language : Token} (ht : t.isWord "extern")
    (hlanguage : language.kind == .literal) (hts : ¬ts.head?.any (·.isSymbol '{')) :
    topItem last t (language :: ts) = .ok (none, ts) := by
  obtain ⟨line, rfl⟩ := Token.exists_of_isWord ht
  have hliteral : (language :: ts).head?.any (·.kind == .literal) := hlanguage
  rw [topItem, if_neg (by simp [Token.isWord]), if_pos ⟨ht, hliteral⟩, if_neg (by exact hts)]
  rfl

end topItem

section takes

variable {last : Nat} {t : Token} {ts rest : List Token} {found : Option Class}

theorem takes_topItem_of_namespace (ht : t.isWord "namespace")
    (h : topItem last t ts = .ok (found, rest)) :
    ∃ taken, ts = taken ++ rest ∧ Takes (topItem last t) (found, ·) taken rest := by
  simp only [topItem, ht, if_true] at h
  cases hdrop : ts.dropWhile fun t => !(t.isSymbol '{' || t.isSymbol ';' || t.isSymbol '=') with
  | nil =>
    rw [hdrop] at h
    simp [skipDeclaration, skipFrom, Except.map] at h
  | cons u us =>
    obtain ⟨hu, skipped, rfl, hskipped⟩ := dropWhile_append hdrop
    rw [hdrop] at h
    by_cases hbrace : u.isSymbol '{'
    · simp only [hbrace, if_true] at h
      cases h
      refine ⟨skipped ++ [u], by simp, .of_all fun rest' => ?_⟩
      simp only [List.append_assoc, List.singleton_append, topItem, ht, if_true, hskipped, hbrace]
    · simp only [hbrace] at h
      obtain ⟨after, hskip, hresult⟩ := Success.map_eq_ok_iff.1 h
      cases hresult
      have hclose : u.isSymbol '}' = false := by
        simp only [hbrace, Bool.not_eq_true', Bool.not_eq_false, Bool.false_or,
          Bool.or_eq_true] at hu
        rcases hu with hu | hu <;> exact Token.isSymbol_of_isSymbol hu '}'
      obtain ⟨taken, rfl, htakes⟩ := takes_skipDeclaration_cons hclose hskip
      refine ⟨skipped ++ [u] ++ taken, by simp, (htakes.tail.map _).after _ fun us => ?_⟩
      simp only [List.append_assoc, List.singleton_append, topItem, ht, if_true, hskipped, hbrace]
      rfl

theorem takes_topItem_of_block (hnamespace : ¬t.isWord "namespace")
    (hlanguage : t.isWord "extern" ∧ ts.head?.any (·.kind == .literal))
    (hbrace : ts.tail.head?.any (·.isSymbol '{')) (h : topItem last t ts = .ok (found, rest)) :
    ∃ taken, ts = taken ++ rest ∧ Takes (topItem last t) (found, ·) taken rest := by
  cases ts with
  | nil => cases hlanguage.2
  | cons u ts =>
    cases ts with
    | nil => cases hbrace
    | cons brace ts =>
      have hread (us : List Token) : topItem last t (u :: brace :: us) = .ok (none, us) := by
        have hlanguage' : t.isWord "extern" ∧ (u :: brace :: us).head?.any (·.kind == .literal) :=
          hlanguage
        have hbrace' : (u :: brace :: us).tail.head?.any (·.isSymbol '{') := hbrace
        rw [topItem, if_neg hnamespace, if_pos hlanguage', if_pos hbrace']
        rfl
      rw [hread] at h
      cases h
      exact ⟨[u, brace], rfl, .of_all fun rest' => hread rest'⟩

theorem takes_topItem_of_template (ht : t.isWord "template")
    (h : topItem last t ts = .ok (found, rest)) :
    ∃ taken, ts = taken ++ rest ∧ Takes (topItem last t) (found, ·) taken rest := by
  rw [topItem_of_template _ _ ht] at h
  obtain ⟨after, hskip, hresult⟩ := Success.map_eq_ok_iff.1 h
  cases hresult
  obtain ⟨taken, rfl, htakes⟩ := takes_skipTemplate hskip
  have hread : topItem last t = _ := funext fun us => topItem_of_template last us ht
  rw [hread]
  exact ⟨taken, rfl, htakes.map _⟩

theorem takes_topItem_of_end (ht : t.isSymbol '}' ∨ t.isSymbol ';')
    (h : topItem last t ts = .ok (found, rest)) :
    ∃ taken, ts = taken ++ rest ∧ Takes (topItem last t) (found, ·) taken rest := by
  have hread (us : List Token) : topItem last t us = .ok (none, us) := by
    rcases ht with ht | ht
    · obtain ⟨line, rfl⟩ := Token.exists_of_isSymbol ht
      rfl
    · obtain ⟨line, rfl⟩ := Token.exists_of_isSymbol ht
      rfl
  rw [hread] at h
  cases h
  exact ⟨[], rfl, .of_all fun rest' => hread rest'⟩

theorem takes_topItem_of_skipped (ht : BeginsSkipped t ts)
    (h : topItem last t ts = .ok (found, rest)) :
    ∃ taken, ts = taken ++ rest ∧ Takes (topItem last t) (found, ·) taken rest := by
  rw [topItem_of_skipped _ _ ht] at h
  obtain ⟨hnamespace, hlanguage, hrest⟩ := ht
  obtain ⟨after, hskip, hresult⟩ := Success.map_eq_ok_iff.1 h
  cases hresult
  obtain ⟨taken, rfl, htakes⟩ := takes_skipDeclaration_cons hrest.2.2.1 hskip
  refine ⟨taken, rfl, (htakes.tail.map _).of_head (fun us hhead => ?_) fun a => ?_⟩
  · exact topItem_of_skipped last us ⟨hnamespace, by rwa [hhead], hrest⟩
  · intro habsurd
    obtain ⟨r, hnone, -⟩ := Success.map_eq_ok_iff.1 habsurd
    exact skipDeclaration_singleton_ne_ok hrest.2.2 r hnone

/-- What is taken for a declaration outside all classes is taken whatever follows, but that the
declaration may follow whose language is told. -/
theorem takes_topItem (h : topItem last t ts = .ok (found, rest)) (hlinkage : ¬IsLinkage t ts) :
    ∃ taken, ts = taken ++ rest ∧ Takes (topItem last t) (found, ·) taken rest := by
  by_cases hnamespace : t.isWord "namespace"
  · exact takes_topItem_of_namespace hnamespace h
  by_cases hlanguage : t.isWord "extern" ∧ ts.head?.any (·.kind == .literal)
  · have hbrace : ts.tail.head?.any (·.isSymbol '{') :=
      Decidable.byContradiction fun hbrace => hlinkage ⟨hlanguage.1, hlanguage.2, hbrace⟩
    exact takes_topItem_of_block hnamespace hlanguage hbrace h
  by_cases htemplate : t.isWord "template"
  · exact takes_topItem_of_template htemplate h
  by_cases hclass : t.isOneOf ["class", "struct"]
  · rw [topItem_of_isClass last hclass] at h
    have hread : topItem last t = _ := funext fun us => topItem_of_isClass last hclass us
    rw [hread]
    exact takes_classDeclaration h
  by_cases hend : t.isSymbol '}' ∨ t.isSymbol ';'
  · exact takes_topItem_of_end hend h
  · have hbegins : BeginsSkipped t ts := ⟨by simpa using hnamespace, hlanguage,
      by simpa using htemplate, by simpa using hclass, by simpa using fun h => hend (.inl h),
      by simpa using fun h => hend (.inr h)⟩
    exact takes_topItem_of_skipped hbegins h

end takes

/-! ### Places -/

theorem exists_of_opensClass?_append {keyword : Token} {ts body : List Token} {name : String}
    (h : opensClass? keyword ts = some (name, body)) :
    ∃ taken, ts = taken ++ body ∧ ∀ body',
      opensClass? keyword (taken ++ body') = some (name, body') := by
  obtain ⟨hkeyword, t, rest, brace, rfl, hname, hdrop, hsemicolon⟩ := exists_of_opensClass? h
  obtain ⟨-, skipped, rfl, hskipped⟩ := dropWhile_append hdrop
  refine ⟨t :: skipped ++ [brace], by simp, fun body' => ?_⟩
  simp only [List.cons_append, List.append_assoc, List.nil_append, opensClass?, hkeyword, hname,
    hskipped, hsemicolon]
  rfl

/-- A step takes some tokens, whatever follows them. -/
theorem exists_of_step {last : Nat} {p p' : Place} {ts rest : List Token}
    (h : Step last p ts p' rest) :
    ∃ taken, ts = taken ++ rest ∧ taken ≠ [] ∧
      (∀ rest', rest'.head? = rest.head? → Step last p (taken ++ rest') p' rest') ∧
      (rest.head?.any (!·.isSymbol '}') →
        (p'.IsOutside → ¬taken.getLast?.any (·.kind == .literal)) →
        ∀ rest', ∃ left, Resumes rest' left ∧ Step last p (taken ++ rest') p' left) := by
  cases h with
  | @item found t ts rest more hitem =>
    -- behind a linkage literal the next token tells whether a block follows
    by_cases hlinkage : IsLinkage t ts
    · obtain ⟨hkeyword, hliteral, hbrace⟩ := hlinkage
      cases ts with
      | nil => cases hliteral
      | cons u ts =>
        have hread (us : List Token) (hus : ¬us.head?.any (·.isSymbol '{')) :=
          topItem_of_linkage last us hkeyword hliteral hus
        rw [hread ts hbrace] at hitem
        cases hitem
        refine ⟨[t, u], rfl, List.cons_ne_nil _ _, fun rest' hsame => ?_, fun _ hne => ?_⟩
        · exact .item (hread rest' (by rwa [hsame]))
        · exact absurd hliteral (hne trivial)
    · obtain ⟨taken, rfl, htakes⟩ := takes_topItem hitem hlinkage
      refine ⟨t :: taken, rfl, List.cons_ne_nil _ _,
        fun rest' hsame => .item (htakes.same rest' hsame), fun hclose _ rest' => ?_⟩
      obtain ⟨left, hleft, hread⟩ := htakes.other hclose rest'
      exact ⟨left, hleft, .item hread⟩
  | @enter found t ts body name hclass =>
    obtain ⟨taken, rfl, htaken⟩ := exists_of_opensClass?_append hclass
    exact ⟨t :: taken, rfl, List.cons_ne_nil _ _, fun rest' _ => .enter (htaken rest'),
      fun _ _ rest' => ⟨rest', .inl rfl, .enter (htaken rest')⟩⟩
  | @member found c t ts rest item hitem hclosed =>
    obtain ⟨taken, rfl, htakes⟩ := takes_bodyItem hitem
    refine ⟨t :: taken, rfl, List.cons_ne_nil _ _,
      fun rest' hsame => .member (htakes.same rest' hsame) hclosed, fun hclose _ rest' => ?_⟩
    obtain ⟨left, hleft, hread⟩ := htakes.other hclose rest'
    exact ⟨left, hleft, .member hread hclosed⟩
  -- names and a semicolon may follow the brace that closes a class
  | @leave found c t ts rest hitem =>
    obtain ⟨hclose, rfl⟩ := eq_of_closed hitem
    obtain ⟨taken, hafter, htakes⟩ := takes_afterClass rest
    have hleave (us left : List Token)
        (hus : (.ok (afterClass us) : Except ParseError (List Token)) = .ok left) :
        Step last (.inside found c) (t :: us)
          (.outside (found ++ [⟨c.name, c.line, c.methods⟩])) left := by
      rw [← Except.ok.inj hus]
      refine .leave ?_
      rw [bodyItem, if_pos hclose]
    refine ⟨t :: taken, ?_, List.cons_ne_nil _ _, fun rest' hsame => ?_, fun hne _ rest' => ?_⟩
    · rw [List.cons_append, ← hafter]
    · exact hleave _ _ (htakes.same rest' hsame)
    · obtain ⟨left, hleft, hread⟩ := htakes.other hne rest'
      exact ⟨left, hleft, hleave _ _ hread⟩

/-- A place that is read in a header is read as well if other tokens come from there on, though a
semicolon may be taken that they begin with. -/
theorem exists_of_reads {last : Nat} {p : Place} {ts rest : List Token} (h : Reads last ts p rest) :
    ∃ pre, ts = pre ++ rest ∧
      (∀ rest', rest'.head? = rest.head? → Reads last (pre ++ rest') p rest') ∧
      (rest.head?.any (!·.isSymbol '}') →
        (p.IsOutside → ¬pre.getLast?.any (·.kind == .literal)) →
        ∀ rest', ∃ left, Resumes rest' left ∧ Reads last (pre ++ rest') p left) := by
  induction h with
  | start =>
    exact ⟨[], rfl, fun rest' _ => .start, fun _ _ rest' => ⟨rest', .inl rfl, .start⟩⟩
  | @step q _ _ _ h hstep ih =>
    obtain ⟨pre, rfl, hsame, -⟩ := ih
    obtain ⟨taken, rfl, hne, hstep', hother⟩ := exists_of_step hstep
    -- All but the last step are followed by the tokens that the last one takes.
    have hreads (rest' : List Token) :
        Reads last (pre ++ taken ++ rest') q (taken ++ rest') := by
      rw [List.append_assoc]
      refine hsame _ ?_
      cases taken with
      | nil => exact absurd rfl hne
      | cons t taken => rfl
    refine ⟨pre ++ taken, (List.append_assoc ..).symm,
      fun rest' hhead => (hreads rest').step (hstep' rest' hhead), fun hclose hliteral rest' => ?_⟩
    have hlast : (pre ++ taken).getLast? = taken.getLast? := by
      rw [List.getLast?_append, List.getLast?_eq_some_getLast hne]
      rfl
    rw [hlast] at hliteral
    obtain ⟨left, hleft, hstep''⟩ := hother hclose hliteral rest'
    exact ⟨left, hleft, (hreads rest').step hstep''⟩

end Instrument.Header
