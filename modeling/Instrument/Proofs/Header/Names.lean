import Instrument.Proofs.Header.Lookahead.Places
import Instrument.Proofs.Text.Case

/-!
The names that a header gives. Main statement: the name of a class that a header declares is a word,
that is a letter or an underscore and letters, number signs and underscores after it; and so are the
names of its methods, but that those of destructors begin with a tilde.
-/

namespace Instrument.Header

/-- Whether a character can begin a word. -/
def beginsWord (c : Char) : Bool := Text.isAlphabetic c || c == '_'

/-- Whether a text is a word of a header. -/
structure IsName (s : String) : Prop where
  begins : s.toList.head?.any beginsWord = true
  isWordChar : ∀ c ∈ s.toList, Text.isWordChar c = true

instance (s : String) : Decidable (IsName s) :=
  decidable_of_iff (s.toList.head?.any beginsWord = true ∧ ∀ c ∈ s.toList, Text.isWordChar c = true)
    ⟨fun h => ⟨h.1, h.2⟩, fun h => ⟨h.1, h.2⟩⟩

theorem IsName.exists_cons {s : String} (h : IsName s) :
    ∃ c cs, s.toList = c :: cs ∧ beginsWord c = true ∧ ∀ d ∈ cs, Text.isWordChar d = true := by
  obtain ⟨hbegins, hword⟩ := h
  cases hs : s.toList with
  | nil => simp [hs] at hbegins
  | cons c cs =>
    rw [hs, List.forall_mem_cons] at hword
    exact ⟨c, cs, rfl, by simpa [hs] using hbegins, hword.2⟩

theorem IsName.ne_nil {s : String} (h : IsName s) : s.toList ≠ [] := by
  obtain ⟨c, cs, hs, -⟩ := h.exists_cons
  rw [hs]
  exact List.cons_ne_nil c cs

/-- Whether a text can name a method. -/
def IsMethodName (s : String) : Prop := ∃ word, IsName word ∧ (s = word ∨ s = "~" ++ word)

/-! ### Words -/

/-- Whether all words among some tokens are words of a header. -/
def AreNamed (ts : List Token) : Prop := ∀ t ∈ ts, ∀ word, t.word? = some word → IsName word

section

variable {t : Token} {ts taken rest : List Token}

theorem areNamed_nil : AreNamed [] := by simp [AreNamed]

theorem areNamed_cons_iff :
    AreNamed (t :: ts) ↔ (∀ word, t.word? = some word → IsName word) ∧ AreNamed ts := by
  simp only [AreNamed, List.forall_mem_cons]

theorem AreNamed.subset (h : AreNamed ts) (hsub : taken ⊆ ts) : AreNamed taken :=
  fun t ht => h t (hsub ht)

theorem AreNamed.right (h : AreNamed (taken ++ rest)) : AreNamed rest :=
  h.subset (List.subset_append_right _ _)

end

theorem isName_of_takeWhile {c : Char} (hc : Text.isAlphabetic c = true ∨ c = '_')
    (rest : List Char) : IsName (String.ofList (c :: rest.takeWhile Text.isWordChar)) where
  begins := by simpa [beginsWord] using hc
  isWordChar := by
    rw [String.toList_ofList, List.forall_mem_cons]
    refine ⟨?_, List.all_eq_true.1 (List.all_takeWhile ..)⟩
    rcases hc with hc | rfl
    · rw [Text.isWordChar, Text.isAlphanumeric_of_isAlphabetic hc, Bool.true_or]
    · decide

/-- What the scanner finds is named. The induction follows its cases, one of which gives a word. -/
theorem areNamed_of_scan {line : Nat} {fresh : Bool} {cs : List Char} {ts : List Token}
    (h : scan line fresh cs = .ok ts) : AreNamed ts := by
  fun_induction scan line fresh cs generalizing ts with
  | case1 =>
    cases h
    exact areNamed_nil
  | case6 | case8 => cases h
  | case2 _ _ _ ih => exact ih h
  | case3 _ _ _ _ _ _ ih => exact ih h
  | case4 _ _ _ _ _ _ _ ih => exact ih h
  | case5 _ _ _ _ _ _ _ _ ih => exact ih h
  | case7 _ _ _ _ _ _ _ _ _ _ _ _ ih => exact ih h
  | case9 =>
    rename_i ih
    obtain ⟨more, hmore, rfl⟩ := Success.map_eq_ok_iff.1 h
    exact areNamed_cons_iff.2 ⟨by simp [Token.word?], ih hmore⟩
  | case10 =>
    rename_i hc text ih
    obtain ⟨more, hmore, rfl⟩ := Success.map_eq_ok_iff.1 h
    refine areNamed_cons_iff.2 ⟨?_, ih hmore⟩
    rintro word hword
    cases hword
    exact isName_of_takeWhile hc _
  | case11 | case12 | case13 =>
    rename_i ih
    obtain ⟨more, hmore, rfl⟩ := Success.map_eq_ok_iff.1 h
    exact areNamed_cons_iff.2 ⟨by simp [Token.word?], ih hmore⟩

/-! ### Methods -/

theorem splitMember_fst_subset (depth : Nat) (ts : List Token) : (splitMember depth ts).1 ⊆ ts := by
  intro t ht
  rw [← splitMember_append depth ts]
  exact List.mem_append_left _ ht

/-- What stands before the parameters of a method. -/
theorem splitSignature?_fst {ts before inside after : List Token}
    (h : splitSignature? ts = some (before, inside, after)) :
    before = ts.takeWhile (!·.isSymbol '(') := by
  unfold splitSignature? at h
  split at h
  · cases h
  · obtain ⟨r, -, heq⟩ := Option.map_eq_some_iff.1 h
    cases heq
    rfl

/-- A method is named by a word that stands before its parameters. -/
theorem isMethodName_of_method? {className : String} {isPublic : Bool} {ts : List Token}
    {m : Method} (hts : AreNamed ts) (h : method? className isPublic ts = some m) :
    IsMethodName m.name := by
  simp only [method?] at h
  split at h
  · cases h
  simp only [Option.bind_eq_bind, Option.bind_eq_some_iff, Option.pure_def] at h
  obtain ⟨⟨before, inside, after⟩, hsplit, nameToken, hlast, word, hword, h⟩ := h
  split at h
  · cases h
  have hmem : nameToken ∈ ts := by
    have hbefore := List.mem_of_getLast? hlast
    rw [splitSignature?_fst hsplit] at hbefore
    exact (List.takeWhile_sublist _).subset hbefore
  have hname := hts nameToken hmem word hword
  -- The name of a destructor is the word behind a tilde.
  split at h
  · split at h
    · cases h
    · cases h
      exact ⟨word, hname, .inr rfl⟩
  · split at h
    · cases h
    · cases h
      exact ⟨word, hname, .inl rfl⟩

section

variable {last line : Nat} {className : String} {isPublic : Bool} {t : Token}
  {ts rest : List Token}

theorem isMethodName_of_bodyItem {m : Method} (hts : AreNamed (t :: ts))
    (h : bodyItem last className isPublic t ts = .ok (.method m, rest)) : IsMethodName m.name := by
  have hskip (result : Except ParseError (List Token)) :
      (result.map fun rest => (BodyItem.skipped, rest)) ≠ .ok (.method m, rest) := by
    cases result <;> simp [Except.map]
  unfold bodyItem at h
  split at h
  · cases h
  split at h
  · cases h
  split at h
  · cases h
  split at h
  · exact absurd h (hskip _)
  split at h
  · exact absurd h (hskip _)
  obtain ⟨⟨found, after⟩, hmember, hresult⟩ := Success.map_eq_ok_iff.1 h
  cases found with
  | none => cases hresult
  | some m' =>
    cases hresult
    obtain ⟨_, -, hfound⟩ := Success.map_eq_ok_iff.1 hmember
    have hmethod := congrArg Prod.fst hfound
    exact isMethodName_of_method? (hts.subset (splitMember_fst_subset _ _)) hmethod

theorem areNamed_of_bodyItem {item : BodyItem} (hts : AreNamed (t :: ts))
    (h : bodyItem last className isPublic t ts = .ok (item, rest)) : AreNamed rest := by
  obtain ⟨taken, rfl, -⟩ := takes_bodyItem h
  exact (areNamed_cons_iff.1 hts).2.right

/-- The methods of a class are named, one after the other. -/
theorem isMethodName_of_classBody {methods : List Method} (hts : AreNamed ts)
    (h : classBody last line className isPublic ts = .ok (methods, rest)) :
    ∀ m ∈ methods, IsMethodName m.name := by
  fun_induction classBody last line className isPublic ts generalizing methods rest with
  | case1 => cases h
  | case2 => cases h
  | case3 =>
    cases h
    intro m hm
    cases hm
  | case4 isPublic t ts isPublic' after hitem ih => exact ih (areNamed_of_bodyItem hts hitem) h
  | case5 isPublic t ts after hitem ih => exact ih (areNamed_of_bodyItem hts hitem) h
  | case6 isPublic t ts found after hitem ih =>
    obtain ⟨⟨more, _⟩, hmore, hresult⟩ := Success.map_eq_ok_iff.1 h
    cases hresult
    rw [List.forall_mem_cons]
    exact ⟨isMethodName_of_bodyItem hts hitem, ih (areNamed_of_bodyItem hts hitem) hmore⟩

end

/-! ### Classes -/

/-- Whether a class and its methods are named. -/
structure Class.IsNamed (c : Class) : Prop where
  name : IsName c.name
  methods : ∀ m ∈ c.methods, IsMethodName m.name

section

variable {last : Nat} {t : Token} {ts rest : List Token} {c : Class}

theorem isNamed_of_topItem (hts : AreNamed (t :: ts))
    (h : topItem last t ts = .ok (some c, rest)) : c.IsNamed := by
  obtain ⟨body, after, hopens, -, hbody⟩ := exists_opensClass?_of_topItem h
  obtain ⟨-, u, us, brace, rfl, hname, hdrop, -⟩ := exists_of_opensClass? hopens
  obtain ⟨hu, hus⟩ := areNamed_cons_iff.1 (areNamed_cons_iff.1 hts).2
  have hbodyNamed : AreNamed (brace :: body) :=
    hus.subset (hdrop ▸ (List.dropWhile_suffix _).subset)
  exact ⟨hu c.name hname, isMethodName_of_classBody (areNamed_cons_iff.1 hbodyNamed).2 hbody⟩

theorem subset_of_topItem {found : Option Class} (h : topItem last t ts = .ok (found, rest)) :
    rest ⊆ ts := by
  by_cases hlinkage : IsLinkage t ts
  · obtain ⟨hkeyword, hliteral, hbrace⟩ := hlinkage
    cases ts with
    | nil => cases hliteral
    | cons language us =>
      rw [topItem_of_linkage last us hkeyword hliteral hbrace] at h
      cases h
      exact List.subset_cons_self _ _
  · obtain ⟨taken, rfl, -⟩ := takes_topItem h hlinkage
    exact List.subset_append_right _ _

theorem isNamed_of_topLevel {found : List Class} (hts : AreNamed ts)
    (h : topLevel last ts = .ok found) : ∀ c ∈ found, c.IsNamed := by
  fun_induction topLevel last ts generalizing found with
  | case1 =>
    cases h
    exact fun c hc => nomatch hc
  | case2 => cases h
  | case3 t ts first rest hitem ih =>
    obtain ⟨more, hmore, rfl⟩ := Success.map_eq_ok_iff.1 h
    intro c hc
    rcases List.mem_append.1 hc with hc | hc
    · rw [Option.mem_toList] at hc
      subst hc
      exact isNamed_of_topItem hts hitem
    · exact ih ((areNamed_cons_iff.1 hts).2.subset (subset_of_topItem hitem)) hmore c hc

end

/-- The classes that a header declares are named. -/
theorem isNamed_of_classes {source : List Char} {found : List Class}
    (h : classes source = .ok found) : ∀ c ∈ found, c.IsNamed := by
  obtain ⟨ts, hts, htop⟩ := Success.bind_eq_ok_iff.1 h
  exact isNamed_of_topLevel (areNamed_of_scan hts) htop

end Instrument.Header
