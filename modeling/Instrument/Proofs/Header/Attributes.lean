import Instrument.Proofs.Header.Brackets
import Instrument.Proofs.Header.Deletion

/-!
Attributes in front of methods. Main statement: attributes can stand in front of every method, and
the header declares the same, just if none of them has arguments and none is called `operator`.
-/

namespace Instrument.Header

/-! ### Attributes as they are written -/

/-- An attribute: its name, after that of a namespace, then its arguments, then three dots. -/
structure Attribute where
  space? : Option String
  name : String
  arguments? : Option { ks : List TokenKind // IsBalanced ks }
  isPack : Bool

/-- The kinds of the tokens of an attribute. -/
def Attribute.kinds (a : Attribute) : List TokenKind :=
  a.space?.elim [] (fun space => [.word space, .scope]) ++
    (.word a.name :: a.arguments?.elim [] fun ks => .symbol '(' :: (ks.1 ++ [.symbol ')'])) ++
    if a.isPack then [.symbol '.', .symbol '.', .symbol '.'] else []

/-- Attributes between two pairs of square brackets, with commas between them, where any may be
left out; the namespace of all of them may stand before them. -/
structure AttributeList where
  space? : Option String
  first? : Option Attribute
  more : List (Option Attribute)

namespace AttributeList

/-- The attributes of a list. -/
def attributes (l : AttributeList) : List Attribute := (l.first? :: l.more).filterMap id

/-- What is written before each attribute, and the attribute. -/
def parts (l : AttributeList) : List (List TokenKind × Option Attribute) :=
  (l.space?.elim [] fun space => [.word "using", .word space, .symbol ':'], l.first?) ::
    l.more.map ([.symbol ','], ·)

/-- The kinds of the tokens between the brackets. -/
def content (l : AttributeList) : List TokenKind :=
  l.parts.flatMap fun part => part.1 ++ part.2.elim [] Attribute.kinds

/-- The kinds of the tokens of a list of attributes. -/
def kinds (l : AttributeList) : List TokenKind :=
  .symbol '[' :: .symbol '[' :: (l.content ++ [.symbol ']', .symbol ']'])

end AttributeList

/-- The kinds of the tokens of some lists of attributes, one behind the other. -/
def attributeKinds (lists : List AttributeList) : List TokenKind :=
  lists.flatMap AttributeList.kinds

/-- Whether attributes, with the tokens of some kinds, can be put in front of a method on its first
line: a header that is accepted declares the same with them. -/
def AreTransparent (attributes : List TokenKind) : Prop :=
  ∀ (last : Nat) (pre post rest : List Token) (t : Token) (found : List Class) (c : OpenClass)
    (m : Method) (all : List Class),
    Reads last (pre ++ t :: post) (.inside found c) (t :: post) →
    bodyItem last c.name c.isPublic t post = .ok (.method m, rest) →
    topLevel last (pre ++ t :: post) = .ok all →
    topLevel last (pre ++ (onLine t.line attributes ++ t :: post)) = .ok all

/-- Whether attributes can be put in front of a method in the text of a header. -/
def AreTextTransparent (attributes : List TokenKind) : Prop :=
  ∀ (source source' : List Char) (pre post rest : List Token) (t : Token) (found : List Class)
    (c : OpenClass) (m : Method) (all : List Class),
    tokens source = .ok (pre ++ t :: post) →
    Reads (lastLine (pre ++ t :: post)) (pre ++ t :: post) (.inside found c) (t :: post) →
    bodyItem (lastLine (pre ++ t :: post)) c.name c.isPublic t post = .ok (.method m, rest) →
    classes source = .ok all →
    tokens source' = .ok (pre ++ (onLine t.line attributes ++ t :: post)) →
    classes source' = .ok all

/-! ### What stands before the arguments -/

/-- What separates the words of attributes, but for two colons. -/
def attributeMarks : List Char := [',', ':', '.']

/-- Whether a token stands in a list of attributes, but neither is a bracket nor stands between
parentheses. -/
def TokenKind.isQuiet : TokenKind → Bool
  | .word _ | .scope => true
  | .symbol c => attributeMarks.contains c
  | .number _ | .literal => false

theorem TokenKind.ne_symbol_of_isQuiet {k : TokenKind} (hk : k.isQuiet) {c : Char}
    (hc : c ∉ attributeMarks) : k ≠ .symbol c := by
  rintro rfl
  exact hc (by simpa [isQuiet] using hk)

theorem TokenKind.isNoBracket_of_isQuiet {k : TokenKind} (hk : k.isQuiet) : k.IsNoBracket := by
  intro pair hpair
  simp only [bracketPairs, List.mem_cons, List.not_mem_nil, or_false] at hpair
  rcases hpair with rfl | rfl | rfl
  · exact ⟨ne_symbol_of_isQuiet hk (by decide), ne_symbol_of_isQuiet hk (by decide)⟩
  · exact ⟨ne_symbol_of_isQuiet hk (by decide), ne_symbol_of_isQuiet hk (by decide)⟩
  · exact ⟨ne_symbol_of_isQuiet hk (by decide), ne_symbol_of_isQuiet hk (by decide)⟩

/-- Whether tokens of some kinds name an attribute with arguments, after which others come. -/
def IsCall (ks : List TokenKind) : Prop :=
  ∃ (before after : List TokenKind) (name : String), (∀ k ∈ before, k.isQuiet) ∧
    ks = before ++ .word name :: .symbol '(' :: after

theorem IsCall.append {ks : List TokenKind} (h : IsCall ks) (ls : List TokenKind) :
    IsCall (ks ++ ls) := by
  obtain ⟨before, after, name, hbefore, rfl⟩ := h
  exact ⟨before, after ++ ls, name, hbefore, by simp⟩

theorem IsCall.append_of_isQuiet {ks ls : List TokenKind} (hks : ∀ k ∈ ks, k.isQuiet)
    (h : IsCall ls) : IsCall (ks ++ ls) := by
  obtain ⟨before, after, name, hbefore, rfl⟩ := h
  exact ⟨ks ++ before, after, name, List.forall_mem_append.2 ⟨hks, hbefore⟩, by simp⟩

theorem Attribute.isQuiet_of_arguments? {a : Attribute} (h : a.arguments? = none) :
    ∀ k ∈ a.kinds, k.isQuiet := by
  obtain ⟨space?, name, arguments?, isPack⟩ := a
  cases h
  cases space? <;> cases isPack <;> simp [kinds, TokenKind.isQuiet, attributeMarks]

theorem Attribute.isCall_of_arguments? {a : Attribute} (h : a.arguments? ≠ none) :
    IsCall a.kinds := by
  obtain ⟨ks, hks⟩ := Option.ne_none_iff_exists'.1 h
  rw [kinds, hks, List.append_assoc]
  refine .append_of_isQuiet (by cases a.space? <;> simp [TokenKind.isQuiet, attributeMarks]) ?_
  exact ⟨[], _, a.name, by simp, rfl⟩

/-- An attribute is balanced, whatever its arguments. -/
theorem Attribute.isBalanced_kinds (a : Attribute) : IsBalanced a.kinds := by
  have hquiet (ks : List TokenKind) (hks : ∀ k ∈ ks, k.isQuiet) : IsBalanced ks :=
    .of_forall fun k hk => TokenKind.isNoBracket_of_isQuiet (hks k hk)
  refine .append (.append (hquiet _ ?_) (.append (hquiet [.word a.name] ?_) ?_)) (hquiet _ ?_)
  · cases a.space? <;> simp [TokenKind.isQuiet, attributeMarks]
  · simp [TokenKind.isQuiet, attributeMarks]
  · cases a.arguments? with
    | none => exact .nil
    | some ks =>
      have hpair : ('(', ')') ∈ bracketPairs := by decide
      exact .nested hpair ks.2 .nil
  · cases a.isPack <;> simp [TokenKind.isQuiet, attributeMarks]

/-- Pieces without arguments are quiet; of others, the first one with arguments tells them. -/
theorem isQuiet_or_isCall (parts : List (List TokenKind × Option Attribute))
    (hparts : ∀ part ∈ parts, ∀ k ∈ part.1, k.isQuiet) :
    ((∀ part ∈ parts, ∀ a ∈ part.2, a.arguments? = none) ∧
        ∀ k ∈ parts.flatMap fun part => part.1 ++ part.2.elim [] Attribute.kinds, k.isQuiet) ∨
      ((∃ part ∈ parts, ∃ a ∈ part.2, a.arguments? ≠ none) ∧
        IsCall (parts.flatMap fun part => part.1 ++ part.2.elim [] Attribute.kinds)) := by
  induction parts with
  | nil => exact .inl (by simp)
  | cons part parts ih =>
    rw [List.forall_mem_cons] at hparts
    obtain ⟨hlead, hparts⟩ := hparts
    rw [List.flatMap_cons]
    by_cases hcall : ∃ a ∈ part.2, a.arguments? ≠ none
    · obtain ⟨a, ha, harguments⟩ := hcall
      refine .inr ⟨⟨part, List.mem_cons_self, a, ha, harguments⟩, .append ?_ _⟩
      rw [Option.mem_def.1 ha]
      exact (Attribute.isCall_of_arguments? harguments).append_of_isQuiet hlead
    have hplain : ∀ a ∈ part.2, a.arguments? = none := by simpa using hcall
    have hquiet : ∀ k ∈ part.1 ++ part.2.elim [] Attribute.kinds, k.isQuiet := by
      refine List.forall_mem_append.2 ⟨hlead, ?_⟩
      cases hpart : part.2 with
      | none => simp
      | some a => exact Attribute.isQuiet_of_arguments? (hplain a hpart)
    rcases ih hparts with ⟨hnone, hrest⟩ | ⟨⟨part', hpart', hsome⟩, hrest⟩
    · exact .inl ⟨List.forall_mem_cons.2 ⟨hplain, hnone⟩, List.forall_mem_append.2 ⟨hquiet, hrest⟩⟩
    · exact .inr ⟨⟨part', List.mem_cons_of_mem _ hpart', hsome⟩, hrest.append_of_isQuiet hquiet⟩

namespace AttributeList

variable (l : AttributeList)

theorem mem_attributes_iff {a : Attribute} : a ∈ l.attributes ↔ ∃ part ∈ l.parts, a ∈ part.2 := by
  simp [attributes, parts, eq_comm]

theorem isQuiet_of_mem_parts : ∀ part ∈ l.parts, ∀ k ∈ part.1, k.isQuiet := by
  refine List.forall_mem_cons.2 ⟨?_, List.forall_mem_map.2 fun _ _ => ?_⟩
  · cases l.space? <;> simp [TokenKind.isQuiet, attributeMarks]
  · simp [TokenKind.isQuiet, attributeMarks]

theorem isQuiet_content_or :
    ((∀ a ∈ l.attributes, a.arguments? = none) ∧ ∀ k ∈ l.content, k.isQuiet) ∨
      ((∃ a ∈ l.attributes, a.arguments? ≠ none) ∧ IsCall l.content) := by
  rcases isQuiet_or_isCall l.parts l.isQuiet_of_mem_parts with ⟨hnone, h⟩ | ⟨hsome, h⟩
  · refine .inl ⟨fun a ha => ?_, h⟩
    obtain ⟨part, hpart, ha⟩ := l.mem_attributes_iff.1 ha
    exact hnone part hpart a ha
  · obtain ⟨part, hpart, a, ha, harguments⟩ := hsome
    exact .inr ⟨⟨a, l.mem_attributes_iff.2 ⟨part, hpart, ha⟩, harguments⟩, h⟩

/-- A list of attributes is balanced, whatever the arguments. -/
theorem isBalanced_content : IsBalanced l.content := by
  refine .flatMap fun part hpart => .append (.of_forall fun k hk => ?_) ?_
  · exact TokenKind.isNoBracket_of_isQuiet (l.isQuiet_of_mem_parts part hpart k hk)
  · cases part.2 with
    | none => exact .nil
    | some a => exact a.isBalanced_kinds

/-- A list of attributes ends no member. -/
theorem isFlat_append_iff (line : Nat) (ts : List Token) :
    IsFlat memberDepth 0 (onLine line l.kinds ++ ts) ↔ IsFlat memberDepth 0 ts := by
  have hinner : IsBalanced (.symbol '[' :: (l.content ++ [.symbol ']'])) := by
    have hpair : ('[', ']') ∈ bracketPairs := by decide
    exact .nested hpair l.isBalanced_content .nil
  have hkinds : l.kinds =
      .symbol '[' :: ((.symbol '[' :: (l.content ++ [.symbol ']'])) ++ [.symbol ']']) := by
    simp [kinds]
  rw [hkinds, onLine_cons, onLine_append, List.cons_append, List.append_assoc]
  refine (isFlat_cons_mark (by decide)).trans ?_
  exact (hinner.isFlat_append_iff countsPairs_memberDepth 0 line _).trans isFlat_cons_succ

end AttributeList

theorem attributeKinds_cons (l : AttributeList) (lists : List AttributeList) :
    attributeKinds (l :: lists) = l.kinds ++ attributeKinds lists := List.flatMap_cons

/-- Whether no attribute of some lists has arguments. -/
def HaveNoArguments (lists : List AttributeList) : Prop :=
  ∀ l ∈ lists, ∀ a ∈ l.attributes, a.arguments? = none

/-- Lists of attributes are plain, or plain ones stand before the first attribute with arguments. -/
theorem arePlain_or_isCall (lists : List AttributeList) :
    HaveNoArguments lists ∨ ∃ (before : List AttributeList) (ks : List TokenKind),
      HaveNoArguments before ∧ IsCall ks ∧
      attributeKinds lists = attributeKinds before ++ .symbol '[' :: .symbol '[' :: ks := by
  induction lists with
  | nil => exact .inl fun l hl => absurd hl List.not_mem_nil
  | cons l lists ih =>
    rcases l.isQuiet_content_or with ⟨hplain, -⟩ | ⟨-, hcall⟩
    · rcases ih with hlists | ⟨before, ks, hbefore, hks, heq⟩
      · exact .inl (List.forall_mem_cons.2 ⟨hplain, hlists⟩)
      · refine .inr ⟨l :: before, ks, List.forall_mem_cons.2 ⟨hplain, hbefore⟩, hks, ?_⟩
        rw [attributeKinds_cons, heq, attributeKinds_cons, List.append_assoc]
    · refine .inr ⟨[], _, fun l hl => absurd hl List.not_mem_nil,
        hcall.append ([.symbol ']', .symbol ']'] ++ attributeKinds lists), ?_⟩
      rw [attributeKinds_cons, AttributeList.kinds]
      simp [attributeKinds]

/-! ### Reading a method with attributes -/

theorem afterAttribute_cons_of_ne {t : Token} (h : t.isSymbol ']' = false) (ts : List Token) :
    afterAttribute (t :: ts) = afterAttribute ts := by
  cases ts with
  | nil => rfl
  | cons u ts => rw [afterAttribute, h, if_neg (by simp)]

theorem afterAttribute_append_of_isQuiet {ks : List TokenKind} (h : ∀ k ∈ ks, k.isQuiet)
    (line : Nat) (ts : List Token) :
    afterAttribute (onLine line ks ++ ts) = afterAttribute ts := by
  induction ks with
  | nil => rfl
  | cons k ks ih =>
    rw [List.forall_mem_cons] at h
    have hclose : k ≠ .symbol ']' := TokenKind.ne_symbol_of_isQuiet h.1 (by decide)
    rw [onLine_cons, List.cons_append, afterAttribute_cons_of_ne (isSymbol_of_ne hclose line),
      ih h.2]

/-- Tokens before the first parenthesis of a member stand before its signature. -/
theorem splitSignature?_append {us : List Token} (h : ∀ u ∈ us, u.isSymbol '(' = false)
    (ts : List Token) :
    splitSignature? (us ++ ts) = (splitSignature? ts).map fun r => (us ++ r.1, r.2) := by
  have hall : ∀ u ∈ us, (!u.isSymbol '(') = true := fun u hu => by rw [h u hu, Bool.not_false]
  rw [splitSignature?, List.dropWhile_append_of_pos hall, List.takeWhile_append_of_pos hall,
    splitSignature?]
  cases ts.dropWhile (!·.isSymbol '(') with
  | nil => rfl
  | cons t inside =>
    simp only [Option.map_map]
    rfl

section

variable {lists : List AttributeList} (line : Nat)

theorem isQuiet_content (h : HaveNoArguments lists) {l : AttributeList} (hl : l ∈ lists) :
    ∀ k ∈ l.content, k.isQuiet := by
  rcases l.isQuiet_content_or with ⟨-, hquiet⟩ | ⟨⟨a, ha, hsome⟩, -⟩
  · exact hquiet
  · exact absurd (h l hl a ha) hsome

/-- Plain attributes are no part of a type. -/
theorem dropSpecifiers_attributes (h : HaveNoArguments lists) (ts : List Token) :
    dropSpecifiers (onLine line (attributeKinds lists) ++ ts) = dropSpecifiers ts := by
  induction lists with
  | nil => rfl
  | cons l lists ih =>
    have hquiet := isQuiet_content h List.mem_cons_self
    have hafter := afterAttribute_append_of_isQuiet hquiet line
      (⟨.symbol ']', line⟩ :: ⟨.symbol ']', line⟩ :: (onLine line (attributeKinds lists) ++ ts))
    rw [HaveNoArguments, List.forall_mem_cons] at h
    rw [← ih h.2, attributeKinds_cons, AttributeList.kinds]
    simp only [onLine_cons, onLine_append, List.cons_append, List.append_assoc, List.nil_append]
    rw [dropSpecifiers, if_pos ⟨rfl, rfl⟩, List.drop_one, List.tail_cons, hafter, afterAttribute,
      if_pos ⟨rfl, rfl⟩]

/-- Plain attributes have no marks but their own and square brackets. -/
theorem ne_symbol_of_mem_attributeKinds (h : HaveNoArguments lists) {c : Char}
    (hc : c ∉ '[' :: ']' :: attributeMarks) : ∀ k ∈ attributeKinds lists, k ≠ .symbol c := by
  intro k hk
  simp only [List.mem_cons, not_or] at hc
  obtain ⟨hopen, hclose, hmark⟩ := hc
  obtain ⟨l, hl, hk⟩ := List.mem_flatMap.1 hk
  simp only [AttributeList.kinds, List.mem_cons, List.mem_append, List.not_mem_nil, or_false] at hk
  rcases hk with rfl | rfl | hk | rfl | rfl
  · simpa using Ne.symm hopen
  · simpa using Ne.symm hopen
  · exact TokenKind.ne_symbol_of_isQuiet (isQuiet_content h hl k hk) hmark
  · simpa using Ne.symm hclose
  · simpa using Ne.symm hclose

/-- Plain attributes have no parentheses. -/
theorem isSymbol_of_mem_attributes (h : HaveNoArguments lists) :
    ∀ u ∈ onLine line (attributeKinds lists), u.isSymbol '(' = false :=
  List.forall_mem_map.2 fun k hk =>
    isSymbol_of_ne (ne_symbol_of_mem_attributeKinds h (by decide) k hk) line

/-- The last token of attributes is a bracket. -/
theorem isSymbol_of_mem_getLast? {u : Token}
    (hu : u ∈ (onLine line (attributeKinds lists)).getLast?) : u.isSymbol ']' := by
  rcases List.eq_nil_or_concat lists with rfl | ⟨before, l, rfl⟩
  · cases hu
  · have hlast : attributeKinds (before ++ [l]) = attributeKinds before ++
        (.symbol '[' :: .symbol '[' :: (l.content ++ [.symbol ']'])) ++ [.symbol ']'] := by
      simp [attributeKinds, AttributeList.kinds]
    rw [List.concat_eq_append, hlast, onLine_append, onLine_cons, onLine_nil,
      List.getLast?_concat] at hu
    cases hu
    rfl

variable (className : String) (isPublic : Bool)

/-- Attributes say nothing of the name, the parameters and the result of a method. -/
theorem methodOf?_attributes (h : HaveNoArguments lists) (line' : Nat)
    (before inside after : List Token) :
    methodOf? className isPublic line' (onLine line (attributeKinds lists) ++ before) inside after =
      methodOf? className isPublic line' before inside after := by
  have hlast := @isSymbol_of_mem_getLast? lists line
  have hdrop := dropSpecifiers_attributes line h
  generalize onLine line (attributeKinds lists) = us at hlast hdrop
  rcases List.eq_nil_or_concat before with rfl | ⟨front, name, rfl⟩
  · -- Without a name behind them the last token would be a bracket, which is no name either.
    have hnone : us.getLast?.bind Token.word? = none := by
      cases hu : us.getLast? with
      | none => rfl
      | some u =>
        obtain ⟨line, rfl⟩ := Token.exists_of_isSymbol (hlast hu)
        rfl
    simp only [methodOf?, List.append_nil, hnone]
    rfl
  · have hdestructor : (us ++ front).getLast?.any (·.isSymbol '~') =
        front.getLast?.any (·.isSymbol '~') := by
      rcases List.eq_nil_or_concat front with rfl | ⟨front, u, rfl⟩
      · cases hu : us.getLast? with
        | none => simp [hu]
        | some u => simp [hu, Token.isSymbol_of_isSymbol (hlast hu)]
      · rw [List.concat_eq_append, ← List.append_assoc, List.getLast?_concat, List.getLast?_concat]
    have hresult : resultText (if front.getLast?.any (·.isSymbol '~') then (us ++ front).dropLast
        else us ++ front) after =
        resultText (if front.getLast?.any (·.isSymbol '~') then front.dropLast else front)
          after := by
      split
      · next htilde =>
        have hne : front ≠ [] := by rintro rfl; cases htilde
        rw [List.dropLast_append_of_ne_nil hne, resultText, hdrop, resultText]
      · rw [resultText, hdrop, resultText]
    simp only [methodOf?, List.concat_eq_append, ← List.append_assoc, List.getLast?_concat,
      List.dropLast_concat, hdestructor, hresult]

theorem any_attributes (hoperator : .word "operator" ∉ attributeKinds lists) (ts : List Token) :
    (onLine line (attributeKinds lists) ++ ts).any (·.isWord "operator") =
      ts.any (·.isWord "operator") := by
  rw [List.any_append, Bool.eq_false_iff.2 (not_any_onLine line _ hoperator), Bool.false_or]

/-- Plain attributes on its first line change nothing about a method. -/
theorem method?_attributes (h : HaveNoArguments lists)
    (hoperator : .word "operator" ∉ attributeKinds lists) (t : Token) (head : List Token) :
    method? className isPublic (onLine t.line (attributeKinds lists) ++ t :: head) =
      method? className isPublic (t :: head) := by
  have hline : ((onLine t.line (attributeKinds lists) ++ t :: head).head?.map (·.line)).getD 0 =
      (((t :: head).head?).map (·.line)).getD 0 := by
    cases attributeKinds lists <;> rfl
  rw [method?_eq, method?_eq, any_attributes t.line hoperator, hline,
    splitSignature?_append (isSymbol_of_mem_attributes t.line h)]
  split
  · rfl
  rcases splitSignature? (t :: head) with _ | ⟨before, inside, after⟩
  · rfl
  · exact methodOf?_attributes t.line className isPublic h _ before inside after

theorem hasInitializers_attributes (h : HaveNoArguments lists) (head : List Token) :
    hasInitializers (onLine line (attributeKinds lists) ++ head) = hasInitializers head := by
  rw [hasInitializers, splitSignature?_append (isSymbol_of_mem_attributes line h), Option.any_map,
    hasInitializers]

theorem isFlat_attributes_append_iff (ts : List Token) :
    IsFlat memberDepth 0 (onLine line (attributeKinds lists) ++ ts) ↔ IsFlat memberDepth 0 ts := by
  induction lists with
  | nil => rfl
  | cons l lists ih =>
    rw [attributeKinds_cons, onLine_append, List.append_assoc, l.isFlat_append_iff, ih]

theorem skipMemberEnd_attributes (h : HaveNoArguments lists) (last : Nat) (t : Token)
    (head ts : List Token) (isMethod : Bool) :
    skipMemberEnd last className (onLine t.line (attributeKinds lists) ++ t :: head) isMethod ts =
      skipMemberEnd last className (t :: head) isMethod ts := by
  have hline : lineOf last (onLine t.line (attributeKinds lists) ++ t :: head) =
      lineOf last (t :: head) := by
    cases attributeKinds lists <;> rfl
  have hnamed : (onLine t.line (attributeKinds lists) ++ t :: head).getLast? =
      (t :: head).getLast? := List.getLast?_append_of_ne_nil _ (List.cons_ne_nil t head)
  cases ts with
  | nil => rw [skipMemberEnd, skipMemberEnd, hline]
  | cons u ts =>
    simp only [skipMemberEnd, hasInitializers_attributes t.line h, hnamed]

theorem member_attributes (h : HaveNoArguments lists)
    (hoperator : .word "operator" ∉ attributeKinds lists) (last : Nat) {t : Token}
    (ht : ¬endsMember t) (ts : List Token) :
    member last className isPublic (onLine t.line (attributeKinds lists) ++ t :: ts) =
      member last className isPublic (t :: ts) := by
  have hflat : IsFlat memberDepth 0 (onLine t.line (attributeKinds lists)) := by
    have hnil := @isFlat_attributes_append_iff lists t.line []
    rw [List.append_nil] at hnil
    exact hnil.2 rfl
  obtain ⟨head, hhead⟩ : ∃ head, (splitMember 0 (t :: ts)).1 = t :: head := by
    rw [splitMember, if_neg fun hends => ht hends.2]
    exact ⟨_, rfl⟩
  simp only [member, splitMember_append_flat hflat, hhead, skipMemberEnd_attributes className h,
    method?_attributes className isPublic h hoperator]

end

/-- What declares a method begins a member. -/
theorem beginsMember_of_method {last : Nat} {className : String} {isPublic : Bool} {t : Token}
    {ts rest : List Token} {m : Method}
    (h : bodyItem last className isPublic t ts = .ok (.method m, rest)) : BeginsMember t ts := by
  have hskip (result : Except ParseError (List Token)) :
      (result.map fun rest => (BodyItem.skipped, rest)) ≠ .ok (.method m, rest) := by
    cases result <;> simp [Except.map]
  unfold bodyItem at h
  split at h
  · cases h
  split at h
  · cases h
  split at h
  · cases h
  split at h
  · exact absurd h (hskip _)
  split at h
  · exact absurd h (hskip _)
  · next hclose hsemicolon haccess htemplate hnested =>
    exact ⟨by simpa using hclose, by simpa using hsemicolon, haccess, by simpa using htemplate,
      by simpa using hnested⟩

/-- A method does not begin with a brace. -/
theorem not_endsMember_of_method {last : Nat} {className : String} {isPublic : Bool} {t : Token}
    {ts rest : List Token} {m : Method}
    (h : bodyItem last className isPublic t ts = .ok (.method m, rest)) : ¬endsMember t := by
  have hbegins := beginsMember_of_method h
  rintro (hsemicolon | hbrace | hclose)
  · rw [hbegins.2.1] at hsemicolon
    cases hsemicolon
  · have hnone : method? className isPublic [] = none := rfl
    rw [bodyItem_of_member _ _ _ _ hbegins, member, splitMember_of_ends (.inr (.inl hbrace))] at h
    simp only [hnone] at h
    cases hend : skipMemberEnd last className [] (none : Option Method).isSome (t :: ts) with
    | error e => rw [hend] at h; cases h
    | ok rest => rw [hend] at h; cases h
  · rw [hbegins.1] at hclose
    cases hclose

/-- Some attributes begin with a bracket. -/
theorem attributeKinds_eq_nil_or (lists : List AttributeList) :
    attributeKinds lists = [] ∨ ∃ ks, attributeKinds lists = .symbol '[' :: ks := by
  cases lists with
  | nil => exact .inl rfl
  | cons l lists => exact .inr ⟨_, rfl⟩

theorem beginsMember_bracket (line : Nat) (ts : List Token) : BeginsMember ⟨.symbol '[', line⟩ ts :=
  ⟨rfl, rfl, fun haccess => Bool.false_ne_true haccess.1, rfl, rfl⟩

/-- Members are read in the same way with plain attributes in front of a method. -/
theorem classBody_attributes {lists : List AttributeList} (h : HaveNoArguments lists)
    (hoperator : .word "operator" ∉ attributeKinds lists) {last line : Nat} {className : String}
    {isPublic : Bool} {t : Token} {ts rest : List Token} {m : Method}
    (hitem : bodyItem last className isPublic t ts = .ok (.method m, rest)) :
    classBody last line className isPublic (onLine t.line (attributeKinds lists) ++ t :: ts) =
      classBody last line className isPublic (t :: ts) := by
  have hmember := member_attributes className isPublic h hoperator last
    (not_endsMember_of_method hitem) ts
  rcases attributeKinds_eq_nil_or lists with hnil | ⟨ks, hks⟩
  · rw [hnil]
    rfl
  · rw [hks, onLine_cons, List.cons_append] at hmember ⊢
    rw [classBody_cons, classBody_cons,
      bodyItem_of_member _ _ _ _ (beginsMember_bracket t.line _), hmember,
      ← bodyItem_of_member _ _ _ _ (beginsMember_of_method hitem)]

/-- Plain attributes can be put in front of every method. -/
theorem topLevel_attributes {lists : List AttributeList} (h : HaveNoArguments lists)
    (hoperator : .word "operator" ∉ attributeKinds lists) {last : Nat} {pre post rest : List Token}
    {t : Token} {found : List Class} {c : OpenClass} {m : Method}
    (hreads : Reads last (pre ++ t :: post) (.inside found c) (t :: post))
    (hitem : bodyItem last c.name c.isPublic t post = .ok (.method m, rest)) :
    topLevel last (pre ++ (onLine t.line (attributeKinds lists) ++ t :: post)) =
      topLevel last (pre ++ t :: post) := by
  rcases attributeKinds_eq_nil_or lists with hnil | ⟨ks, hks⟩
  · rw [hnil]
    rfl
  -- Reading comes to the same place before the attributes, which begin with no semicolon.
  obtain ⟨pre', heq, -, hother⟩ := exists_of_reads hreads
  cases List.append_cancel_right heq
  have hclose : (t :: post).head?.any (!·.isSymbol '}') := by
    rw [List.head?_cons, Option.any_some, (beginsMember_of_method hitem).1, Bool.not_false]
  obtain ⟨left, hleft, hreads'⟩ := hother hclose (fun houtside => houtside.elim)
    (onLine t.line (attributeKinds lists) ++ t :: post)
  obtain rfl | ⟨u, hu, heq⟩ := hleft
  · rw [topLevel_of_reads hreads', topLevel_of_reads hreads, Place.finish, Place.finish,
      classBody_attributes h hoperator hitem]
  · rw [hks, onLine_cons, List.cons_append] at heq
    cases heq
    cases hu

/-! ### Attributes that hide a method -/

/-- Before the arguments of an attribute nothing tells the type of a result. -/
theorem dropSpecifiers_of_unclosed {before : List AttributeList} (hbefore : HaveNoArguments before)
    {ks : List TokenKind} (hks : ∀ k ∈ ks, k.isQuiet) (line : Nat) :
    dropSpecifiers (onLine line (attributeKinds before ++ .symbol '[' :: .symbol '[' :: ks)) =
      [] := by
  have hnil : afterAttribute (onLine line ks) = [] := by
    have happend := afterAttribute_append_of_isQuiet hks line []
    rw [List.append_nil] at happend
    exact happend
  rw [onLine_append, dropSpecifiers_attributes line hbefore, onLine_cons, onLine_cons,
    dropSpecifiers, if_pos ⟨rfl, rfl⟩, List.drop_one, List.tail_cons, hnil, dropSpecifiers]

/-- What is taken for the name and the parameters of a method are those of an attribute, which has
no result; so it is no method, unless it has the name of the class. -/
theorem exists_method?_of_isCall {before : List AttributeList} (hbefore : HaveNoArguments before)
    {ks : List TokenKind} (hks : IsCall ks) :
    ∃ name, ∀ className, className ≠ name → ∀ (isPublic : Bool) (line : Nat) (head : List Token),
      method? className isPublic (onLine line (attributeKinds before ++
        .symbol '[' :: .symbol '[' :: ks) ++ head) = none := by
  obtain ⟨quiet, after, name, hquiet, rfl⟩ := hks
  refine ⟨name, fun className hname isPublic line head => ?_⟩
  have hdrop := dropSpecifiers_of_unclosed hbefore hquiet line
  -- Neither a parenthesis nor the mark of a destructor stands before the name.
  have hfront (c : Char) (hc : c ∉ '[' :: ']' :: attributeMarks) :
      ∀ u ∈ onLine line (attributeKinds before ++ .symbol '[' :: .symbol '[' :: quiet),
        u.isSymbol c = false := by
    refine List.forall_mem_map.2 fun k hk => isSymbol_of_ne ?_ line
    rw [List.mem_append, List.mem_cons, List.mem_cons] at hk
    have hopen : c ≠ '[' := fun h => hc (h ▸ List.mem_cons_self)
    rcases hk with hk | rfl | rfl | hk
    · exact ne_symbol_of_mem_attributeKinds hbefore hc k hk
    · simpa using hopen.symm
    · simpa using hopen.symm
    · refine TokenKind.ne_symbol_of_isQuiet (hquiet k hk) fun hmark => hc ?_
      exact List.mem_cons_of_mem _ (List.mem_cons_of_mem _ hmark)
  have hparen := hfront '(' (by decide)
  have htilde := hfront '~' (by decide)
  have hkinds : onLine line (attributeKinds before ++ .symbol '[' :: .symbol '[' ::
        (quiet ++ .word name :: .symbol '(' :: after)) ++ head =
      onLine line (attributeKinds before ++ .symbol '[' :: .symbol '[' :: quiet) ++
        ⟨.word name, line⟩ :: ⟨.symbol '(', line⟩ :: (onLine line after ++ head) := by
    simp [onLine]
  generalize onLine line (attributeKinds before ++ .symbol '[' :: .symbol '[' :: quiet) = front at *
  have hdestructor : front.getLast?.any (·.isSymbol '~') = false := by
    cases hlast : front.getLast? with
    | none => rfl
    | some u => exact htilde u (List.mem_of_getLast? hlast)
  have hsplit : splitSignature? (⟨.word name, line⟩ :: ⟨.symbol '(', line⟩ ::
        (onLine line after ++ head)) =
      (enclosed? '(' ')' 0 (onLine line after ++ head)).map ([⟨.word name, line⟩], ·) := rfl
  rw [hkinds, method?_eq, splitSignature?_append hparen, hsplit]
  split
  · rfl
  rcases enclosed? '(' ')' 0 (onLine line after ++ head) with _ | ⟨inside, after⟩
  · rfl
  · have hresult : resultText front after = "" := by
      rw [resultText, hdrop]
      cases afterArrow? after <;> rfl
    simp only [Option.map_some, Option.bind_some, methodOf?, List.getLast?_concat,
      List.dropLast_concat, hdestructor, Bool.false_eq_true, if_false, hresult]
    have hword : Token.word? ⟨.word name, line⟩ = some name := rfl
    simp only [hword, Option.bind_some]
    split
    · rfl
    · rw [if_pos (by simpa using hname.symm)]

/-- A method that ends a class is read as such. -/
theorem exists_bodyItem_methodEnd (className : String) :
    ∃ m, bodyItem 0 className true ⟨.word "void", 0⟩ methodEnd.tail = .ok (.method m, emptyEnd) ∧
      classBody 0 0 className true methodEnd = .ok ([m], []) := by
  obtain ⟨m, hm⟩ := Option.isSome_iff_exists.1 (isSome_method?_methodHead className true)
  have hbegins : BeginsMember ⟨.word "void", 0⟩ methodEnd.tail :=
    ⟨rfl, rfl, fun haccess => Bool.false_ne_true haccess.1, rfl, rfl⟩
  have hflat : IsFlat memberDepth 0 methodHead := by decide
  have hsplit : splitMember 0 (⟨.word "void", 0⟩ :: methodEnd.tail) =
      (methodHead, ⟨.symbol ';', 0⟩ :: emptyEnd) := splitMember_flat hflat (.inl rfl) emptyEnd
  refine ⟨m, ?_, ?_⟩
  · rw [bodyItem_of_member _ _ _ _ hbegins, member, hsplit]
    simp only [hm, skipMemberEnd]
    rfl
  · have hread := readAs_methodEnd 0 0 className true 0 .member
    rw [Reading.found?, hm] at hread
    exact hread

/-- Attributes that hide a method of some class cannot be put in front of it. -/
theorem not_areTransparent {lists : List AttributeList} {className : String}
    (h : method? className true (onLine 0 (attributeKinds lists) ++ methodHead) = none) :
    ¬AreTransparent (attributeKinds lists) := by
  intro htransparent
  obtain ⟨m, hitem, hbody⟩ := exists_bodyItem_methodEnd className
  have hreads := @MemberDeclaration.reads_classStart className true 0 methodEnd
  have hsame := htransparent 0 (MemberDeclaration.classStart className true) methodEnd.tail emptyEnd
    ⟨.word "void", 0⟩ [] ⟨className, 0, true, []⟩ m _ hreads hitem
    (MemberDeclaration.topLevel_classStart hbody)
  -- With the attributes the class has no method at all.
  have hstarts : (Declaration.ended (onLine 0 (attributeKinds lists) ++ methodHead)
      ⟨⟨.symbol ';', 0⟩, rfl⟩).Starts .member := by
    refine ⟨(isFlat_attributes_append_iff 0 methodHead).2 (by decide), fun _ t ts htokens _ => ?_⟩
    rcases attributeKinds_eq_nil_or lists with hnil | ⟨ks, hks⟩
    · have hsome := isSome_method?_methodHead className true
      rw [hnil] at h
      rw [show onLine 0 [] ++ methodHead = methodHead from rfl] at h
      rw [h] at hsome
      cases hsome
    · rw [hks] at htokens
      cases htokens
      exact beginsMember_bracket 0 _
  obtain ⟨start', hread⟩ := exists_readAs_ended 0 0 className true hstarts 0 emptyEnd
  rw [Reading.found?, h, map_withMember_none, Reading.afterSemicolon, readAs_emptyEnd] at hread
  have htokens : (Declaration.ended (onLine 0 (attributeKinds lists) ++ methodHead)
      ⟨⟨.symbol ';', 0⟩, rfl⟩).tokens ++ emptyEnd =
      onLine 0 (attributeKinds lists) ++ ⟨.word "void", 0⟩ :: methodEnd.tail := by
    simp [Declaration.tokens, methodEnd, methodHead]
  rw [htokens] at hread
  rw [MemberDeclaration.topLevel_classStart hread] at hsame
  cases hsame

/-! ### Which attributes hide methods -/

/-- Attributes can stand in front of every method just if none of them has arguments and none is
called `operator`, and then they can stand there in the text of the header. -/
theorem areTransparent_iff (lists : List AttributeList) :
    (AreTransparent (attributeKinds lists) ↔
      HaveNoArguments lists ∧ .word "operator" ∉ attributeKinds lists) ∧
    (AreTransparent (attributeKinds lists) → AreTextTransparent (attributeKinds lists)) := by
  refine ⟨⟨fun h => ⟨?_, fun hoperator => ?_⟩, fun ⟨hplain, hoperator⟩ => ?_⟩, fun h => ?_⟩
  · refine (arePlain_or_isCall lists).resolve_right ?_
    rintro ⟨before, ks, hbefore, hks, heq⟩
    obtain ⟨name, hnone⟩ := exists_method?_of_isCall hbefore hks
    -- a class of another name than the one that is called hides the method
    have hname : ∃ className, className ≠ name := by
      by_cases hpump : "Pump" = name
      · exact ⟨"Valve", fun hvalve => absurd (hpump.trans hvalve.symm) (by decide)⟩
      · exact ⟨"Pump", hpump⟩
    obtain ⟨className, hclass⟩ := hname
    have hhidden := hnone className hclass true 0 methodHead
    rw [← heq] at hhidden
    exact not_areTransparent hhidden h
  · have hany : (onLine 0 (attributeKinds lists) ++ methodHead).any (·.isWord "operator") := by
      refine List.any_eq_true.2 ⟨⟨.word "operator", 0⟩, List.mem_append_left _ ?_, rfl⟩
      exact List.mem_map_of_mem hoperator
    have hhidden : method? "Pump" true (onLine 0 (attributeKinds lists) ++ methodHead) = none :=
      MemberDeclaration.method?_of_operator hany
    exact not_areTransparent hhidden h
  · intro last pre post rest t found c m all hreads hitem hall
    rw [topLevel_attributes hplain hoperator hreads hitem, hall]
  · intro source source' pre post rest t found c m all htokens hreads hitem hall htokens'
    have hlast : lastLine (pre ++ (onLine t.line (attributeKinds lists) ++ t :: post)) =
        lastLine (pre ++ t :: post) := by
      rw [lastLine, lastLine, ← List.append_assoc,
        List.getLast?_append_of_ne_nil _ (List.cons_ne_nil t post),
        List.getLast?_append_of_ne_nil _ (List.cons_ne_nil t post)]
    rw [classes_of_tokens htokens] at hall
    rw [classes_of_tokens htokens', hlast]
    exact h _ pre post rest t found c m all hreads hitem hall

/-- An attribute without arguments, between its brackets. -/
def bareAttribute (name : String) : AttributeList := ⟨none, some ⟨none, name, none, false⟩, []⟩

/-- An attribute whose argument is a text, between its brackets. -/
def textAttribute (name : String) : AttributeList :=
  ⟨none, some ⟨none, name, some ⟨[.literal], .of_forall (by decide)⟩, false⟩, []⟩

theorem areTransparent_iff_pump :
    AreTextTransparent (attributeKinds [bareAttribute "nodiscard", bareAttribute "deprecated"]) ∧
      ¬AreTransparent (attributeKinds [bareAttribute "nodiscard", textAttribute "deprecated"]) := by
  constructor
  · have hplain : HaveNoArguments [bareAttribute "nodiscard", bareAttribute "deprecated"] := by
      simp [HaveNoArguments, bareAttribute, AttributeList.attributes]
    exact (areTransparent_iff _).2 ((areTransparent_iff _).1.2 ⟨hplain, by decide⟩)
  · intro h
    have hplain := ((areTransparent_iff _).1.1 h).1 (textAttribute "deprecated") (by simp) _
      List.mem_cons_self
    cases hplain

/-- The arguments of an attribute are taken for the parameters of the method behind it. -/
theorem classes_pump_deprecated :
    classes (pumpStart ++ "    [[deprecated(\"use stop\")]]".toList ++ pumpEnd) =
      .ok [⟨"Pump", 1, [⟨"stop", 4, "void", [], true⟩]⟩] ∧
    classes (pumpStart ++ pumpEnd) =
      .ok [⟨"Pump", 1, [⟨"start", 3, "void", [], true⟩, ⟨"stop", 4, "void", [], true⟩]⟩] := by
  rw [← Success.toOption_eq_some_iff, ← Success.toOption_eq_some_iff]
  decide +kernel

end Instrument.Header
