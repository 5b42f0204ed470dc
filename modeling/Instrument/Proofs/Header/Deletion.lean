import Instrument.Proofs.Header.Declarations
import Instrument.Proofs.Header.Lines
import Instrument.Proofs.Success

/-!
Deleting declarations that are skipped. Main statement: a declaration can be deleted from every
header that is accepted, and the header declares the same, just if the declaration is skipped exactly.
-/

namespace Instrument.Header

/-! ### What is skipped -/

/-- The parameters of a template, with the angle brackets around them. -/
structure TemplateParameters where
  opening : Token
  inside : List Token
  close : Token
  isOpening : opening.isSymbol '<'
  isClosed : enclosed? '<' '>' 0 (inside ++ [close]) = some (inside, [])

namespace TemplateParameters

/-- The tokens of template parameters. -/
def tokens (parameters : TemplateParameters) : List Token :=
  parameters.opening :: (parameters.inside ++ [parameters.close])

theorem skipTemplate_append (parameters : TemplateParameters) (ts : List Token) :
    skipTemplate (parameters.tokens ++ ts) = .ok ts := by
  obtain ⟨close, heq, hrest⟩ := enclosed?_append parameters.isClosed
  cases List.append_cancel_left heq
  rw [tokens, List.cons_append, List.append_assoc, skipTemplate, if_pos parameters.isOpening,
    List.singleton_append, hrest]

end TemplateParameters

/-- A declaration in the body of a class. -/
inductive MemberDeclaration where
  | plain (d : Declaration)
  | template (keyword : Token) (parameters : TemplateParameters) (d : Declaration)

namespace MemberDeclaration

/-- The tokens of a declaration. -/
def tokens : MemberDeclaration → List Token
  | plain d => d.tokens
  | template keyword parameters d => keyword :: (parameters.tokens ++ d.tokens)

/-- The declaration without the parameters of a template. -/
def declaration : MemberDeclaration → Declaration
  | plain d | template _ _ d => d

/-- How a declaration is read. -/
def reading : MemberDeclaration → Reading
  | plain d => d.entered .member
  | template .. => .onward

/-- Whether the first token is that of such a declaration. -/
def IsBegun : MemberDeclaration → Prop
  | plain _ => True
  | template keyword .. => keyword.isWord "template"

section

variable (className : String) (isPublic : Bool)

/-- Whether the parts of a declaration are those that are told apart when it is read. -/
def Fits (D : MemberDeclaration) : Prop :=
  D.IsBegun ∧ D.declaration.Fits className isPublic D.reading

/-- Whether a declaration is skipped exactly. -/
def IsSkipped (D : MemberDeclaration) : Prop :=
  D.declaration.IsSkipped className isPublic D.reading

instance (D : MemberDeclaration) : Decidable (D.IsSkipped className isPublic) :=
  inferInstanceAs (Decidable (D.declaration.IsSkipped className isPublic D.reading))

end

end MemberDeclaration

/-- A declaration outside all classes. -/
inductive OutsideDeclaration where
  | plain (d : Declaration)
  | template (keyword : Token) (parameters : TemplateParameters) (d : Declaration)
  /-- A declaration whose language is told before it. -/
  | linked (keyword language : Token) (d : Declaration)

namespace OutsideDeclaration

/-- The tokens of a declaration. -/
def tokens : OutsideDeclaration → List Token
  | plain d => d.tokens
  | template keyword parameters d => keyword :: (parameters.tokens ++ d.tokens)
  | linked keyword language d => keyword :: language :: d.tokens

/-- The declaration without what stands before it. -/
def declaration : OutsideDeclaration → Declaration
  | plain d | template _ _ d | linked _ _ d => d

/-- Whether the first tokens are those of such a declaration. -/
def IsBegun : OutsideDeclaration → Prop
  | plain d => d.Begins BeginsSkipped
  | template keyword .. => keyword.isWord "template"
  | linked keyword language d =>
    keyword.isWord "extern" ∧ language.kind = .literal ∧ d.Begins BeginsSkipped ∧
      ¬d.tokens.head?.any (·.isSymbol '{')

/-- Whether the parts of a declaration are those that are told apart when it is read. -/
def Fits (D : OutsideDeclaration) : Prop := D.IsBegun ∧ D.declaration.FitsOutside

/-- Whether a declaration is skipped exactly. -/
def IsSkipped (D : OutsideDeclaration) : Prop := D.declaration.IsSkippedOutside

instance (D : OutsideDeclaration) : Decidable D.IsSkipped :=
  inferInstanceAs (Decidable D.declaration.IsSkippedOutside)

end OutsideDeclaration

/-! ### Deleting tokens -/

/-- Whether some tokens can be deleted where a header is read up to a place of some kind: if a
header with them is accepted, any header with the other tokens is accepted as well and declares the
same, but for the numbers of lines. A declaration whose language is told before it is not deleted
without that. -/
def IsDeletable (here : Place → Prop) (deleted : List Token) : Prop :=
  ∀ (last last' : Nat) (pre post ts : List Token) (p : Place) (found : List Class), here p →
    (p.IsOutside → ¬pre.getLast?.any (·.kind == .literal)) →
    Reads last (pre ++ (deleted ++ post)) p (deleted ++ post) →
    topLevel last (pre ++ (deleted ++ post)) = .ok found →
    ts.map (·.kind) = (pre ++ post).map (·.kind) →
    ∃ found', topLevel last' ts = .ok found' ∧ found'.map Class.unlined = found.map Class.unlined

/-- The line of the last token of a header. -/
def lastLine (ts : List Token) : Nat := (ts.getLast?.map (·.line)).getD 1

/-- Whether some tokens can be deleted from the text of a header where it is read up to a place of
some kind. -/
def IsTextDeletable (here : Place → Prop) (deleted : List Token) : Prop :=
  ∀ (source source' : List Char) (pre post ts : List Token) (p : Place) (found : List Class),
    here p → (p.IsOutside → ¬pre.getLast?.any (·.kind == .literal)) →
    tokens source = .ok (pre ++ (deleted ++ post)) →
    Reads (lastLine (pre ++ (deleted ++ post))) (pre ++ (deleted ++ post)) p (deleted ++ post) →
    classes source = .ok found →
    tokens source' = .ok ts → ts.map (·.kind) = (pre ++ post).map (·.kind) →
    ∃ found', classes source' = .ok found' ∧ found'.map Class.unlined = found.map Class.unlined

theorem classes_of_tokens {source : List Char} {ts : List Token} (h : tokens source = .ok ts) :
    classes source = topLevel (lastLine ts) ts := by
  rw [classes, h]
  rfl

/-- What can be deleted from the tokens of a header can be deleted from its text. -/
theorem IsDeletable.text {here : Place → Prop} {deleted : List Token}
    (h : IsDeletable here deleted) : IsTextDeletable here deleted := by
  intro source source' pre post ts p found hhere hliteral htokens hreads hfound htokens' hkinds
  rw [classes_of_tokens htokens] at hfound
  rw [classes_of_tokens htokens']
  exact h _ _ pre post ts p found hhere hliteral hreads hfound hkinds

/-- Whether reading stands in the body of a class with a name, where members are public or are
not. -/
def Place.IsInside (className : String) (isPublic : Bool) : Place → Prop
  | outside _ => False
  | inside _ c => c.name = className ∧ c.isPublic = isPublic

theorem finish_of_resumes {last : Nat} {p : Place} {ts left : List Token} (h : Resumes ts left) :
    p.finish last left = p.finish last ts := by
  obtain rfl | ⟨t, ht, rfl⟩ := h
  · rfl
  · cases p with
    | outside found => rw [Place.finish, Place.finish, topLevel_semicolon last ht]
    | inside found c => rw [Place.finish, Place.finish, classBody_semicolon _ _ _ _ ht]

/-- Tokens that change nothing about what is found after them can be deleted. -/
theorem isDeletable_of_finish {here : Place → Prop} {deleted : List Token}
    (hhead : deleted.head?.any (!·.isSymbol '}'))
    (hfinish : ∀ last p post, here p → p.finish last (deleted ++ post) = p.finish last post) :
    IsDeletable here deleted := by
  intro last last' pre post ts p found hhere hliteral hreads hfound hkinds
  -- Reading comes to the same place before what is left, but that it may take a semicolon there.
  obtain ⟨pre', heq, -, hother⟩ := exists_of_reads hreads
  cases List.append_cancel_right heq
  have hnext : (deleted ++ post).head?.any (!·.isSymbol '}') := by
    cases deleted with
    | nil => cases hhead
    | cons t deleted => exact hhead
  obtain ⟨left, hleft, hreads'⟩ := hother hnext hliteral post
  have hsame : topLevel last (pre ++ post) = .ok found := by
    rw [topLevel_of_reads hreads', finish_of_resumes hleft, ← hfinish last p post hhere,
      ← topLevel_of_reads hreads, hfound]
  have hunlined : unlinedWith (List.map Class.unlined) (topLevel last' ts) =
      .ok (found.map Class.unlined) := by
    rw [@topLevel_of_kinds last last' _ _ hkinds, hsame]
    rfl
  cases hresult : topLevel last' ts with
  | error e => rw [hresult] at hunlined; cases hunlined
  | ok found' =>
    rw [hresult] at hunlined
    exact ⟨found', rfl, Except.ok.inj hunlined⟩

/-! ### Deleting what stands in a class -/

namespace MemberDeclaration

variable {className : String} {isPublic : Bool} {D : MemberDeclaration}

/-- A declaration in a class begins with a token that does not end the class. -/
theorem head?_tokens (h : D.Fits className isPublic) :
    D.tokens.head?.any (!·.isSymbol '}') := by
  obtain ⟨hbegun, hfits⟩ := h
  cases D with
  | plain d =>
    by_cases hnested : d.tokens.head?.any (·.isOneOf nestedWords)
    · obtain ⟨t, ts, htokens⟩ := d.exists_tokens_eq_cons
      rw [htokens] at hnested
      rw [tokens, htokens, List.head?_cons, Option.any_some,
        Token.isSymbol_eq_false_of_isOneOf hnested, Bool.not_false]
    · have hentered : d.entered .member = .member := if_neg fun h => hnested h.2
      exact (hfits.starts.2 hentered).head?_tokens fun t ts ht => ht.1
  | template keyword parameters d =>
    rw [tokens, List.head?_cons, Option.any_some, Token.isSymbol_of_isWord hbegun, Bool.not_false]

/-- A declaration in a class is read in its way. -/
theorem exists_classBody_eq (last line : Nat) (h : D.IsBegun) (post : List Token) :
    ∃ start, classBody last line className isPublic (D.tokens ++ post) =
      readAs last line className isPublic start (D.declaration.tokens ++ post) D.reading := by
  cases D with
  | plain d => exact exists_readAs_entered last line className isPublic d .member 0 post
  | template keyword parameters d =>
    refine ⟨lineOf last (d.tokens ++ post), ?_⟩
    have hitem := bodyItem_of_template last className isPublic
      (parameters.tokens ++ (d.tokens ++ post)) h
    rw [parameters.skipTemplate_append] at hitem
    rw [tokens, List.cons_append, List.append_assoc]
    exact classBody_of_skipped _ _ _ _ hitem

theorem isDeletable_of_isSkipped (hfits : D.Fits className isPublic)
    (h : D.IsSkipped className isPublic) :
    IsDeletable (Place.IsInside className isPublic) D.tokens := by
  refine isDeletable_of_finish (head?_tokens hfits) fun last p post hhere => ?_
  cases p with
  | outside found => cases hhere
  | inside found c =>
    obtain ⟨rfl, rfl⟩ := hhere
    obtain ⟨start, hread⟩ := exists_classBody_eq last c.line hfits.1 post
    rw [Place.finish, Place.finish, hread, readAs_of_isSkipped _ _ _ _ hfits.2 h]

/-- The tokens up to the members of a class that are public or are not. -/
def classStart (className : String) (isPublic : Bool) : List Token :=
  [⟨.word "class", 0⟩, ⟨.word className, 0⟩, ⟨.symbol '{', 0⟩,
    ⟨.word (if isPublic then "public" else "private"), 0⟩, ⟨.symbol ':', 0⟩]

theorem reads_classStart (last : Nat) (ts : List Token) :
    Reads last (classStart className isPublic ++ ts) (.inside [] ⟨className, 0, isPublic, []⟩) ts := by
  have hopens : opensClass? ⟨.word "class", 0⟩ (⟨.word className, 0⟩ :: ⟨.symbol '{', 0⟩ ::
      ⟨.word (if isPublic then "public" else "private"), 0⟩ :: ⟨.symbol ':', 0⟩ :: ts) =
      some (className, ⟨.word (if isPublic then "public" else "private"), 0⟩ ::
        ⟨.symbol ':', 0⟩ :: ts) := rfl
  have hitem : bodyItem last className false
      ⟨.word (if isPublic then "public" else "private"), 0⟩ (⟨.symbol ':', 0⟩ :: ts) =
      .ok (.access isPublic, ts) := by
    cases isPublic <;> rfl
  have hclass : Token.isWord ⟨.word "class", 0⟩ "struct" = false := by decide
  have henter := @Step.enter last [] _ _ _ _ hopens
  have hmember := @Step.member last [] ⟨className, 0, false, []⟩ _ _ _ _ hitem (by simp)
  rw [hclass] at henter
  exact (Reads.start.step henter).step hmember

theorem topLevel_classStart {ts : List Token} {methods : List Method}
    (h : classBody 0 0 className isPublic ts = .ok (methods, [])) :
    topLevel 0 (classStart className isPublic ++ ts) = .ok [⟨className, 0, methods⟩] := by
  have hafter : afterClass [] = [] := rfl
  rw [topLevel_of_reads (reads_classStart 0 ts), Place.finish, h]
  simp only [bind, Except.bind, hafter, topLevel_nil]
  rfl

theorem isSkipped_of_isDeletable (hfits : D.Fits className isPublic)
    (h : IsDeletable (Place.IsInside className isPublic) D.tokens) :
    D.IsSkipped className isPublic := by
  refine Decidable.byContradiction fun hskipped => ?_
  have htold : ∃ post, IsTold 0 0 className isPublic D.reading D.declaration post :=
    exists_isTold hfits.2 hskipped
  obtain ⟨post, methods, methods', hne, hread, hpost⟩ := htold
  obtain ⟨start, heq⟩ := @exists_classBody_eq className isPublic D 0 0 hfits.1 post
  -- A class that ends with what tells of the declaration would have as many methods without it.
  have hwith := topLevel_classStart (heq.trans (hread start))
  obtain ⟨found', hfound, hsame⟩ := h 0 0 (classStart className isPublic) post _
    (.inside [] ⟨className, 0, isPublic, []⟩) _ ⟨rfl, rfl⟩ (fun houtside => houtside.elim)
    (reads_classStart 0 _) hwith rfl
  rw [topLevel_classStart hpost] at hfound
  cases hfound
  have hlength := congrArg (fun classes : List Class => classes.map (·.methods.length)) hsame
  simp only [List.map_cons, List.map_nil, Class.unlined, List.length_map, List.cons.injEq,
    and_true] at hlength
  exact hne hlength.symm

theorem method?_of_operator {head : List Token} (h : head.any (·.isWord "operator")) :
    method? className isPublic head = none := by
  rw [method?, if_pos h]
  rfl

/-- An operator that is only declared can be deleted. -/
theorem isDeletable_operator {head : List Token} {semicolon : Semicolon}
    (hhead : head.any (·.isWord "operator"))
    (hfits : (plain (.ended head semicolon)).Fits className isPublic) :
    IsDeletable (Place.IsInside className isPublic) (plain (.ended head semicolon)).tokens := by
  refine isDeletable_of_isSkipped hfits ?_
  have hread : (plain (.ended head semicolon)).reading = .member ∨
      (plain (.ended head semicolon)).reading = .onward := by
    rw [reading, Declaration.entered]
    split
    · exact .inr rfl
    · exact .inl rfl
  rcases hread with hread | hread
  · rw [IsSkipped, hread]
    exact ⟨method?_of_operator hhead, rfl⟩
  · rw [IsSkipped, hread]
    exact ⟨rfl, rfl⟩

/-- A member that has a body cannot be deleted, be it an operator or a method. -/
theorem not_isDeletable_defined {head : List Token} {body : Block}
    (hhead : ¬(head ++ body.tokens).head?.any (·.isOneOf nestedWords))
    (hfits : (plain (.defined head body)).Fits className isPublic) :
    ¬IsDeletable (Place.IsInside className isPublic) (plain (.defined head body)).tokens := by
  intro h
  have hread : (plain (.defined head body)).reading = .member := if_neg fun h => hhead h.2
  have hskipped := isSkipped_of_isDeletable hfits h
  rw [IsSkipped, hread] at hskipped
  obtain ⟨hnone, hafter⟩ := hskipped
  rw [Reading.found?] at hnone
  rw [Reading.afterBlock, hnone] at hafter
  cases hafter

end MemberDeclaration

/-! ### Deleting what stands outside classes -/

namespace OutsideDeclaration

variable {D : OutsideDeclaration}

theorem head?_tokens (h : D.Fits) : D.tokens.head?.any (!·.isSymbol '}') := by
  obtain ⟨hbegun, -⟩ := h
  cases D with
  | plain d => exact hbegun.head?_tokens fun t ts ht => ht.2.2.2.2.1
  | template keyword parameters d =>
    rw [tokens, List.head?_cons, Option.any_some, Token.isSymbol_of_isWord hbegun, Bool.not_false]
  | linked keyword language d =>
    rw [tokens, List.head?_cons, Option.any_some, Token.isSymbol_of_isWord hbegun.1, Bool.not_false]

/-- A declaration outside all classes is read by skipping it. -/
theorem exists_topLevel_eq (last : Nat) (h : D.IsBegun) (post : List Token) :
    ∃ start, topLevel last (D.tokens ++ post) =
      (skipFrom start 0 false (D.declaration.tokens ++ post) >>= topLevel last) := by
  cases D with
  | plain d => exact Header.exists_topLevel_eq last h post
  | template keyword parameters d =>
    refine ⟨lineOf last (d.tokens ++ post), ?_⟩
    have hitem := topItem_of_template last (parameters.tokens ++ (d.tokens ++ post)) h
    rw [parameters.skipTemplate_append] at hitem
    rw [tokens, List.cons_append, List.append_assoc]
    exact topLevel_of_skipped last hitem
  | linked keyword language d =>
    obtain ⟨hkeyword, hlanguage, hbegins, hbrace⟩ := h
    have hhead : ¬(d.tokens ++ post).head?.any (·.isSymbol '{') := by
      obtain ⟨t, ts, htokens⟩ := d.exists_tokens_eq_cons
      rw [htokens] at hbrace ⊢
      exact hbrace
    obtain ⟨start, hread⟩ := Header.exists_topLevel_eq last hbegins post
    have hitem := topItem_of_linkage last _ hkeyword (by simpa using hlanguage) hhead
    exact ⟨start, (@topLevel_of_skipped last _ _ (.ok _) hitem).trans hread⟩

theorem isDeletable_of_isSkipped (hfits : D.Fits) (h : D.IsSkipped) :
    IsDeletable Place.IsOutside D.tokens := by
  refine isDeletable_of_finish (head?_tokens hfits) fun last p post hhere => ?_
  cases p with
  | inside found c => cases hhere
  | outside found =>
    obtain ⟨start, hread⟩ := exists_topLevel_eq last hfits.1 post
    rw [Place.finish, Place.finish, hread, skipFrom_of_isSkippedOutside last hfits.2 h]

theorem isSkipped_of_isDeletable (hfits : D.Fits) (h : IsDeletable Place.IsOutside D.tokens) :
    D.IsSkipped := by
  refine Decidable.byContradiction fun hskipped => ?_
  obtain ⟨start, heq⟩ := exists_topLevel_eq 0 hfits.1 classEnd
  rw [skipFrom_of_not_isSkippedOutside 0 hfits.2 hskipped] at heq
  obtain ⟨found', hfound, hsame⟩ := h 0 0 [] classEnd classEnd (.outside []) [] trivial
    (fun _ => nofun) .start heq rfl
  rw [topLevel_classEnd] at hfound
  cases hfound
  cases hsame

end OutsideDeclaration

/-! ### What can be deleted -/

/-- A declaration and where it stands: in the body of a class, where members are public or are not,
or outside all classes. -/
inductive PlacedDeclaration where
  | member (className : String) (isPublic : Bool) (d : MemberDeclaration)
  | outside (d : OutsideDeclaration)

namespace PlacedDeclaration

/-- The tokens of a declaration. -/
def tokens : PlacedDeclaration → List Token
  | member _ _ d => d.tokens
  | outside d => d.tokens

/-- Whether a declaration stands at a place. -/
def StandsAt : PlacedDeclaration → Place → Prop
  | member className isPublic _ => Place.IsInside className isPublic
  | outside _ => Place.IsOutside

/-- Whether the parts of a declaration are those that are told apart when it is read. -/
def Fits : PlacedDeclaration → Prop
  | member className isPublic d => d.Fits className isPublic
  | outside d => d.Fits

/-- Whether a declaration is skipped exactly. -/
def IsSkipped : PlacedDeclaration → Prop
  | member className isPublic d => d.IsSkipped className isPublic
  | outside d => d.IsSkipped

end PlacedDeclaration

/-- A declaration can be deleted from every header that is accepted just if it is skipped exactly,
and then it can be deleted from the text of the header. -/
theorem isDeletable_iff_isSkipped {d : PlacedDeclaration} (hfits : d.Fits) :
    (IsDeletable d.StandsAt d.tokens ↔ d.IsSkipped) ∧
      (d.IsSkipped → IsTextDeletable d.StandsAt d.tokens) := by
  have hiff : IsDeletable d.StandsAt d.tokens ↔ d.IsSkipped := by
    cases d with
    | member className isPublic d =>
      constructor
      · intro h
        exact d.isSkipped_of_isDeletable hfits h
      · intro h
        exact d.isDeletable_of_isSkipped hfits h
    | outside d =>
      constructor
      · intro h
        exact d.isSkipped_of_isDeletable hfits h
      · intro h
        exact d.isDeletable_of_isSkipped hfits h
  exact ⟨hiff, fun h => (hiff.2 h).text⟩

/-- An operator with an inline body. -/
def inlineOperator : MemberDeclaration :=
  .plain (.defined
    [⟨.word "bool", 3⟩, ⟨.word "operator", 3⟩, ⟨.symbol '=', 3⟩, ⟨.symbol '=', 3⟩, ⟨.symbol '(', 3⟩,
      ⟨.word "const", 3⟩, ⟨.word "Pump", 3⟩, ⟨.symbol '&', 3⟩, ⟨.word "other", 3⟩,
      ⟨.symbol ')', 3⟩, ⟨.word "const", 3⟩]
    ⟨⟨.symbol '{', 3⟩, [⟨.word "return", 3⟩, ⟨.word "true", 3⟩, ⟨.symbol ';', 3⟩],
      ⟨.symbol '}', 3⟩, rfl, rfl⟩)

/-- A function with a body. -/
def emptyFunction : OutsideDeclaration := .plain (.defined methodHead emptyBlock)

theorem isDeletable_iff_isSkipped_operator :
    inlineOperator.Fits "Pump" true ∧ emptyFunction.Fits ∧
      ¬IsDeletable (Place.IsInside "Pump" true) inlineOperator.tokens ∧
      IsTextDeletable Place.IsOutside emptyFunction.tokens := by
  have hoperator : inlineOperator.Fits "Pump" true := by
    refine ⟨trivial, (by decide), fun _ t ts htokens _ => ?_⟩
    cases htokens
    exact ⟨rfl, rfl, fun haccess => (nomatch haccess.1), rfl, rfl⟩
  have hfunction : emptyFunction.Fits := by
    have hflat : IsFlat parenDepth 0 methodHead := by decide
    refine ⟨fun t ts htokens _ => ?_, hflat⟩
    cases htokens
    exact ⟨rfl, fun hlinkage => (nomatch hlinkage.1), rfl, rfl, rfl, rfl⟩
  have hskipped : ¬inlineOperator.IsSkipped "Pump" true := by decide
  have hskipped' : emptyFunction.IsSkipped := by decide
  refine ⟨hoperator, hfunction, fun h => hskipped ?_, ?_⟩
  · exact (@isDeletable_iff_isSkipped (.member "Pump" true inlineOperator) hoperator).1.1 h
  · exact (@isDeletable_iff_isSkipped (.outside emptyFunction) hfunction).2 hskipped'

/-- The beginning of a header. -/
def pumpStart : List Char := "class Pump \x7b\n  public:\n".toList

/-- A member of a header. -/
def pumpOperator : List Char :=
  "    bool operator==(const Pump& other) const \x7b return true; \x7d\n".toList

/-- The rest of a header. -/
def pumpEnd : List Char := "    void start();\n    void stop();\n\x7d;\n".toList

/-- The method after an operator with an inline body is taken for a part of the operator. -/
theorem classes_pump_operator :
    classes (pumpStart ++ pumpOperator ++ pumpEnd) =
      .ok [⟨"Pump", 1, [⟨"stop", 5, "void", [], true⟩]⟩] ∧
    classes (pumpStart ++ pumpEnd) =
      .ok [⟨"Pump", 1, [⟨"start", 3, "void", [], true⟩, ⟨"stop", 4, "void", [], true⟩]⟩] := by
  rw [← Success.toOption_eq_some_iff, ← Success.toOption_eq_some_iff]
  decide +kernel

end Instrument.Header
