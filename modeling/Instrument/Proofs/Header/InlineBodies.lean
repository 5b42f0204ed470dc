import Instrument.Proofs.Header.Brackets
import Instrument.Proofs.Header.Deletion

/-!
Methods that are defined where they are declared. Main statement: the semicolon of a method can give
way to a body, or to the initial values and the body of a constructor, and the header declares the
same, just if the body is not taken for an initial value, nor an initial value for the body.
-/

namespace Instrument.Header

/-! ### Members as they are declared and as they are written -/

namespace Declaration

variable (className : String) (isPublic : Bool)

/-- Whether reading a declaration as a member ends where the declaration ends: what stands behind
its first block is skipped exactly. -/
def EndsExactly : Declaration → Prop
  | ended .. => True
  | defined head _ => Reading.member.afterBlock className isPublic head = .member
  | onward head _ rest =>
    rest.IsSkipped className isPublic
      (rest.entered (Reading.member.afterBlock className isPublic head))

instance decidableEndsExactly : (d : Declaration) → Decidable (d.EndsExactly className isPublic)
  | ended .. => .isTrue trivial
  | defined .. => inferInstanceAs (Decidable (_ = _))
  | onward _ _ rest => inferInstanceAs (Decidable (rest.IsSkipped className isPublic _))

end Declaration

/-- Whether some tokens declare a constructor: nothing but specifiers and attributes stands before
the name of the class. -/
def isConstructor (className : String) (head : List Token) : Bool :=
  (splitSignature? head).any fun (before, _, _) =>
    before.getLast?.any (·.isWord className) && !before.dropLast.getLast?.any (·.isSymbol '~') &&
      (dropSpecifiers before.dropLast).isEmpty

/-- Whether some tokens and a semicolon are read as a member, in which a method is found. -/
structure DeclaresMethod (className : String) (isPublic : Bool) (head : List Token)
    (semicolon : Semicolon) : Prop where
  starts : (Declaration.ended head semicolon).Starts .member
  found : (method? className isPublic head).isSome

/-- What may stand for a method that is declared by some tokens and a semicolon: the same, the
tokens with a body, or those of a constructor with a colon, initial values and a body. -/
inductive IsWrittenFor (className : String) (head : List Token) : Declaration → Prop
  | semicolon (semicolon : Semicolon) : IsWrittenFor className head (.ended head semicolon)
  | body (body : Block) : IsWrittenFor className head (.defined head body)
  | initialized {d : Declaration} {colon : Token} {more : List Token}
    (hconstructor : isConstructor className head) (hcolon : colon.isSymbol ':')
    (hoperator : ¬more.any (·.isWord "operator")) (hd : d.head = head ++ colon :: more) :
    IsWrittenFor className head d

/-- A part of a class: what tells who has access to the members that follow, or a method, with what
stands for it. -/
inductive Member where
  | access (word colon : Token)
  | method (head : List Token) (semicolon : Semicolon) (written : Declaration)

namespace Member

/-- The tokens of a part, where a semicolon ends each method. -/
def declared : Member → List Token
  | access word colon => [word, colon]
  | method head semicolon _ => (Declaration.ended head semicolon).tokens

/-- The tokens of a part with what stands for the methods. -/
def written : Member → List Token
  | access word colon => [word, colon]
  | method _ _ d => d.tokens

/-- Whether members are public after a part. -/
def isPublicAfter (isPublic : Bool) : Member → Bool
  | access word _ => word.isWord "public"
  | method .. => isPublic

section

variable (className : String) (isPublic : Bool)

/-- The method that is found. -/
def found? : Member → Option Method
  | access .. => none
  | method head .. => method? className isPublic head

/-- Whether the tokens of a part are read as that, a method is found, and what stands for it is made
of parts that are told apart when it is read. -/
def IsReported : Member → Prop
  | access word colon => IsAccess word [colon]
  | method head semicolon d =>
    DeclaresMethod className isPublic head semicolon ∧ IsWrittenFor className head d ∧
      d.Fits className isPublic .member

/-- Whether reading what stands for a method ends where that ends. -/
def EndsExactly : Member → Prop
  | access .. => True
  | method _ _ d => d.EndsExactly className isPublic

end

end Member

/-- Whether each part of a class meets a condition on it and on the access to it. -/
def Along (condition : Bool → Member → Prop) : Bool → List Member → Prop
  | _, [] => True
  | isPublic, x :: members =>
    condition isPublic x ∧ Along condition (x.isPublicAfter isPublic) members

/-- Whether what stands for some methods can be written in every header where they are declared: if
the header is accepted, it is accepted with that as well and declares the same, but for the numbers
of lines. -/
def AreReplaceable (className : String) (isPublic : Bool) (members : List Member) : Prop :=
  ∀ (last last' : Nat) (pre post ts : List Token) (found : List Class) (c : OpenClass)
    (all : List Class), c.name = className → c.isPublic = isPublic →
    Reads last (pre ++ (members.flatMap Member.declared ++ post)) (.inside found c)
      (members.flatMap Member.declared ++ post) →
    topLevel last (pre ++ (members.flatMap Member.declared ++ post)) = .ok all →
    ts.map (·.kind) = (pre ++ (members.flatMap Member.written ++ post)).map (·.kind) →
    ∃ all', topLevel last' ts = .ok all' ∧ all'.map Class.unlined = all.map Class.unlined

/-- Whether what stands for some methods can be written in the text of a header. -/
def AreTextReplaceable (className : String) (isPublic : Bool) (members : List Member) : Prop :=
  ∀ (source source' : List Char) (pre post ts : List Token) (found : List Class) (c : OpenClass)
    (all : List Class), c.name = className → c.isPublic = isPublic →
    tokens source = .ok (pre ++ (members.flatMap Member.declared ++ post)) →
    Reads (lastLine (pre ++ (members.flatMap Member.declared ++ post)))
      (pre ++ (members.flatMap Member.declared ++ post)) (.inside found c)
      (members.flatMap Member.declared ++ post) →
    classes source = .ok all →
    tokens source' = .ok ts →
    ts.map (·.kind) = (pre ++ (members.flatMap Member.written ++ post)).map (·.kind) →
    ∃ all', classes source' = .ok all' ∧ all'.map Class.unlined = all.map Class.unlined

theorem AreReplaceable.text {className : String} {isPublic : Bool} {members : List Member}
    (h : AreReplaceable className isPublic members) :
    AreTextReplaceable className isPublic members := by
  intro source source' pre post ts found c all hname haccess htokens hreads hall htokens' hkinds
  rw [classes_of_tokens htokens] at hall
  rw [classes_of_tokens htokens']
  exact h _ _ pre post ts found c all hname haccess hreads hall hkinds

/-! ### Constructors -/

/-- Tokens behind a signature belong to what follows its parameters. -/
theorem splitSignature?_append_of_eq {head before inside after : List Token}
    (h : splitSignature? head = some (before, inside, after)) (more : List Token) :
    splitSignature? (head ++ more) = some (before, inside, after ++ more) := by
  rw [splitSignature?] at h ⊢
  cases hdrop : head.dropWhile (!·.isSymbol '(') with
  | nil => rw [hdrop] at h; cases h
  | cons t ts =>
    rw [hdrop] at h
    obtain ⟨⟨inside', after'⟩, henclosed, heq⟩ := Option.map_eq_some_iff.1 h
    cases heq
    obtain ⟨close, rfl, hrest⟩ := enclosed?_append henclosed
    obtain ⟨-, skipped, rfl, hskipped⟩ := dropWhile_append hdrop
    have htake (rest : List Token) :
        (skipped ++ t :: rest).takeWhile (!·.isSymbol '(') = skipped := by
      have hwhole := @List.takeWhile_append_dropWhile _ (!·.isSymbol '(') (skipped ++ t :: rest)
      rw [hskipped] at hwhole
      exact List.append_cancel_right hwhole
    rw [List.append_assoc, List.cons_append, hskipped, htake, htake]
    simp only [List.append_assoc, List.cons_append, hrest]
    rfl

section Constructor

variable {className : String} {head : List Token}

theorem exists_of_isConstructor (h : isConstructor className head) :
    ∃ before inside after, splitSignature? head = some (before, inside, after) ∧
      before.dropLast.getLast?.any (·.isSymbol '~') = false ∧
      dropSpecifiers before.dropLast = [] := by
  rw [isConstructor, Option.any_eq_true] at h
  obtain ⟨⟨before, inside, after⟩, hsplit, h⟩ := h
  simp only [Bool.and_eq_true, Bool.not_eq_true', List.isEmpty_iff] at h
  exact ⟨before, inside, after, hsplit, h.1.2, h.2⟩

theorem not_any_cons {colon : Token} (hcolon : colon.isSymbol ':') {more : List Token}
    (hmore : ¬more.any (·.isWord "operator")) : ¬(colon :: more).any (·.isWord "operator") := by
  obtain ⟨line, rfl⟩ := Token.exists_of_isSymbol hcolon
  exact hmore

/-- What follows the parameters of a constructor changes nothing about it. -/
theorem method?_append_of_isConstructor (h : isConstructor className head) (isPublic : Bool)
    {more : List Token} (hoperator : ¬more.any (·.isWord "operator")) :
    method? className isPublic (head ++ more) = method? className isPublic head := by
  obtain ⟨before, inside, after, hsplit, hdestructor, hdrop⟩ := exists_of_isConstructor h
  have hline : ((head ++ more).head?.map (·.line)).getD 0 = (head.head?.map (·.line)).getD 0 := by
    cases head with
    | nil => cases hsplit
    | cons t head => rfl
  have hresult (after : List Token) : resultText before.dropLast after = "" := by
    rw [resultText, hdrop]
    cases afterArrow? after <;> rfl
  have hany : (head ++ more).any (·.isWord "operator") = head.any (·.isWord "operator") := by
    rw [List.any_append, Bool.eq_false_iff.2 hoperator, Bool.or_false]
  rw [method?_eq, method?_eq, hany, hline, splitSignature?_append_of_eq hsplit, hsplit]
  simp only [Option.bind_some, methodOf?, hdestructor, Bool.false_eq_true, if_false, hresult]

theorem hasInitializers_append (h : isConstructor className head) {colon : Token}
    (hcolon : colon.isSymbol ':') (more : List Token) :
    hasInitializers (head ++ colon :: more) := by
  obtain ⟨before, inside, after, hsplit, -⟩ := exists_of_isConstructor h
  rw [hasInitializers, splitSignature?_append_of_eq hsplit, Option.any_some]
  simp [hcolon]

end Constructor

/-! ### Reading what stands for a method -/

section

variable {className : String} {isPublic : Bool}

theorem Member.method?_of_isWrittenFor {head : List Token} {d : Declaration}
    (h : IsWrittenFor className head d) :
    method? className isPublic d.head = method? className isPublic head := by
  cases h with
  | semicolon semicolon => rfl
  | body body => rfl
  | initialized hconstructor hcolon hoperator hd =>
    rw [hd]
    exact method?_append_of_isConstructor hconstructor isPublic (not_any_cons hcolon hoperator)

variable (last line : Nat)

/-- Reading a declaration that ends exactly yields what its first head declares and nothing else. -/
theorem classBody_of_endsExactly {d : Declaration} (hfits : d.Fits className isPublic .member)
    (h : d.EndsExactly className isPublic) (post : List Token) :
    classBody last line className isPublic (d.tokens ++ post) =
      (classBody last line className isPublic post).map
        (withMember (method? className isPublic d.head)) := by
  cases d with
  | ended head semicolon =>
    obtain ⟨start, hread⟩ := exists_readAs_ended last line className isPublic hfits 0 post
    exact hread
  | defined head body =>
    obtain ⟨start, hread⟩ := exists_readAs_defined last line className isPublic hfits 0 post
    rw [show Reading.member.afterBlock className isPublic head = .member from h] at hread
    exact hread
  | onward head block rest =>
    obtain ⟨hstarts, hrest⟩ := hfits
    obtain ⟨start, hread⟩ := exists_readAs_onward last line className isPublic hstarts 0 post
    rw [readAs_of_isSkipped last line className isPublic hrest h] at hread
    exact hread

/-- If a declaration that has a method does not end exactly, what may follow it tells. -/
theorem exists_of_not_endsExactly {d : Declaration} (hfits : d.Fits className isPublic .member)
    (hmethod : (method? className isPublic d.head).isSome)
    (h : ¬d.EndsExactly className isPublic) :
    ∃ post methods methods', methods.length ≠ methods'.length + 1 ∧
      classBody last line className isPublic (d.tokens ++ post) = .ok (methods, []) ∧
      classBody last line className isPublic post = .ok (methods', []) := by
  obtain ⟨m, hm⟩ := Option.isSome_iff_exists.1 hmethod
  cases d with
  | ended head semicolon => exact absurd trivial h
  | defined head body =>
    -- The method that ends the class is not read as a member.
    have hafter : Reading.member.afterBlock className isPublic head ≠ .member := h
    have hend := readAs_methodEnd last line className isPublic 0 .member
    obtain ⟨m', hm'⟩ := Option.isSome_iff_exists.1 (isSome_method?_methodHead className isPublic)
    obtain ⟨start, hread⟩ := exists_readAs_defined last line className isPublic hfits 0 methodEnd
    rw [Reading.found?, hm'] at hend
    rw [readAs_methodEnd] at hread
    refine ⟨methodEnd, [m], [m'], by simp, ?_, hend⟩
    refine hread.trans ?_
    rw [Reading.found?, show method? className isPublic head = some m from hm]
    cases hreading : Reading.member.afterBlock className isPublic head with
    | member => exact absurd hreading hafter
    | onward => rfl
    | initial => rfl
  | onward head block rest =>
    -- What is told of the rest is told of the whole, for the method is found in any case.
    obtain ⟨hstarts, hrest⟩ := hfits
    have htold : ∃ post, IsTold last line className isPublic _ rest post := exists_isTold hrest h
    obtain ⟨post, methods, methods', hne, htold, hpost⟩ := htold
    obtain ⟨start, hread⟩ := exists_readAs_onward last line className isPublic hstarts 0 post
    refine ⟨post, m :: methods, methods', by simpa using hne, ?_, hpost⟩
    refine hread.trans ?_
    rw [htold, Reading.found?, show method? className isPublic head = some m from hm]
    rfl

end

/-! ### Reading the members of a class -/

namespace Member

variable {className : String} {isPublic : Bool}

/-- The part with nothing but what is declared. -/
def plain : Member → Member
  | access word colon => access word colon
  | method head semicolon _ => method head semicolon (.ended head semicolon)

theorem written_plain (x : Member) : x.plain.written = x.declared := by
  cases x <;> rfl

theorem isReported_plain {x : Member} (h : x.IsReported className isPublic) :
    x.plain.IsReported className isPublic := by
  cases x with
  | access word colon => exact h
  | method head semicolon d => exact ⟨h.1, .semicolon semicolon, h.1.starts⟩

theorem endsExactly_plain (x : Member) : x.plain.EndsExactly className isPublic := by
  cases x <;> trivial

/-- What begins a part does not depend on what stands for a method. -/
theorem head?_written {x : Member} (h : x.IsReported className isPublic) (ts us : List Token) :
    (x.written ++ ts).head? = (x.declared ++ us).head? := by
  cases x with
  | access word colon => rfl
  | method head semicolon d =>
    obtain ⟨⟨-, hmethod⟩, hwritten, -⟩ := h
    obtain ⟨t, head', rfl⟩ : ∃ t head', head = t :: head' := by
      refine List.exists_cons_of_ne_nil ?_
      rintro rfl
      cases hmethod
    have hhead : ∀ d : Declaration, d.head.head? = some t → (d.tokens ++ ts).head? = some t := by
      rintro (⟨head, _⟩ | ⟨head, _⟩ | ⟨head, _, _⟩) hd
      all_goals
        obtain ⟨us, rfl⟩ : ∃ us, head = t :: us := exists_of_head_eq hd
        rfl
    refine hhead d ?_
    cases hwritten with
    | semicolon => rfl
    | body => rfl
    | initialized _ _ _ hd => rw [hd]; rfl

variable (last line : Nat)

/-- A part is read up to its end. -/
theorem classBody_written {x : Member} (hreported : x.IsReported className isPublic)
    (hends : x.EndsExactly className isPublic) (post : List Token) :
    classBody last line className isPublic (x.written ++ post) =
      (classBody last line className (x.isPublicAfter isPublic) post).map
        (withMember (x.found? className isPublic)) := by
  cases x with
  | access word colon =>
    have haccess : IsAccess word (colon :: post) := hreported
    have hsymbol (c : Char) : word.isSymbol c = false :=
      Token.isSymbol_eq_false_of_isOneOf haccess.1
    have hitem : bodyItem last className isPublic word (colon :: post) =
        .ok (.access (word.isWord "public"), post) := by
      rw [bodyItem, hsymbol, hsymbol, if_neg Bool.false_ne_true, if_neg Bool.false_ne_true,
        if_pos (by exact haccess)]
      rfl
    rw [found?, map_withMember_none, written, List.cons_append, List.singleton_append,
      classBody_cons, hitem]
    rfl
  | method head semicolon d =>
    obtain ⟨-, hwritten, hfits⟩ := hreported
    have hread := classBody_of_endsExactly last line hfits hends post
    rw [method?_of_isWrittenFor hwritten] at hread
    exact hread

end Member

section

variable {className : String} {isPublic : Bool}

/-- What stands for some methods is read like the methods, if each ends exactly. -/
theorem classBody_flatMap_written (last line : Nat) {members : List Member}
    (hreported : Along (Member.IsReported className) isPublic members)
    (hends : Along (Member.EndsExactly className) isPublic members) (post : List Token) :
    classBody last line className isPublic (members.flatMap Member.written ++ post) =
      classBody last line className isPublic (members.flatMap Member.declared ++ post) := by
  induction members generalizing isPublic with
  | nil => rfl
  | cons x members ih =>
    have hplain := Member.classBody_written last line (Member.isReported_plain hreported.1)
      x.endsExactly_plain (members.flatMap Member.declared ++ post)
    have hafter : x.plain.isPublicAfter isPublic = x.isPublicAfter isPublic := by cases x <;> rfl
    have hfound : x.plain.found? className isPublic = x.found? className isPublic := by
      cases x <;> rfl
    rw [x.written_plain, hafter, hfound] at hplain
    rw [List.flatMap_cons, List.flatMap_cons, List.append_assoc, List.append_assoc, hplain,
      Member.classBody_written last line hreported.1 hends.1, ih hreported.2 hends.2]

/-- What is accepted with some tokens is accepted with tokens of the same kinds, and declares the
same but for the numbers of lines. -/
theorem exists_topLevel_of_kinds {last last' : Nat} {ts ts' : List Token} {all : List Class}
    (h : topLevel last ts = .ok all) (hkinds : ts'.map (·.kind) = ts.map (·.kind)) :
    ∃ all', topLevel last' ts' = .ok all' ∧ all'.map Class.unlined = all.map Class.unlined := by
  have hunlined : unlinedWith (List.map Class.unlined) (topLevel last' ts') =
      .ok (all.map Class.unlined) := by
    rw [@topLevel_of_kinds last last' _ _ hkinds, h]
    rfl
  cases hresult : topLevel last' ts' with
  | error e => rw [hresult] at hunlined; cases hunlined
  | ok all' =>
    rw [hresult] at hunlined
    exact ⟨all', rfl, Except.ok.inj hunlined⟩

/-- What stands for some methods can be written if each ends exactly. -/
theorem areReplaceable_of_endsExactly {members : List Member}
    (hreported : Along (Member.IsReported className) isPublic members)
    (hends : Along (Member.EndsExactly className) isPublic members) :
    AreReplaceable className isPublic members := by
  rintro last last' pre post ts found c all rfl rfl hreads hall hkinds
  obtain ⟨pre', heq, hsame, -⟩ := exists_of_reads hreads
  cases List.append_cancel_right heq
  have hhead : (members.flatMap Member.written ++ post).head? =
      (members.flatMap Member.declared ++ post).head? := by
    cases members with
    | nil => rfl
    | cons x members =>
      rw [List.flatMap_cons, List.flatMap_cons, List.append_assoc, List.append_assoc]
      exact Member.head?_written hreported.1 _ _
  have hwritten : topLevel last (pre ++ (members.flatMap Member.written ++ post)) = .ok all := by
    rw [topLevel_of_reads (hsame _ hhead), Place.finish,
      classBody_flatMap_written last c.line hreported hends, ← Place.finish,
      ← topLevel_of_reads hreads, hall]
  exact exists_topLevel_of_kinds hwritten hkinds

/-- What stands for one method can be written only if it ends exactly. -/
theorem endsExactly_of_areReplaceable {x : Member} (hreported : x.IsReported className isPublic)
    (h : AreReplaceable className isPublic [x]) : x.EndsExactly className isPublic := by
  cases x with
  | access word colon => trivial
  | method head semicolon d =>
    have hplain := Member.isReported_plain hreported
    obtain ⟨hdeclares, hwritten, hfits⟩ := hreported
    obtain ⟨m, hm⟩ := Option.isSome_iff_exists.1 hdeclares.found
    have hfound : method? className isPublic d.head = some m :=
      (Member.method?_of_isWrittenFor hwritten).trans hm
    change d.EndsExactly className isPublic
    refine Decidable.byContradiction fun hends => ?_
    obtain ⟨post, methods, methods', hne, hread, hpost⟩ :=
      exists_of_not_endsExactly 0 0 hfits (Option.isSome_iff_exists.2 ⟨m, hfound⟩) hends
    -- A class that ends with what tells would have as many methods with the declaration.
    have hdeclared := Member.classBody_written 0 0 hplain (Member.endsExactly_plain _) post
    have hafter : (Member.plain (.method head semicolon d)).isPublicAfter isPublic = isPublic := rfl
    have hfound' : (Member.plain (.method head semicolon d)).found? className isPublic = some m :=
      hm
    rw [Member.written_plain, hafter, hpost, hfound'] at hdeclared
    have hwith := MemberDeclaration.topLevel_classStart hdeclared
    have hwithout := MemberDeclaration.topLevel_classStart hread
    obtain ⟨all', hall, hsame⟩ := h 0 0 (MemberDeclaration.classStart className isPublic) post
      (MemberDeclaration.classStart className isPublic ++ (d.tokens ++ post)) []
      ⟨className, 0, isPublic, []⟩ _ rfl rfl
      (by simpa using MemberDeclaration.reads_classStart 0 _) (by simpa using hwith)
      (by simp [Member.written])
    rw [hwithout] at hall
    cases hall
    have hlength := congrArg (fun classes : List Class => classes.map (·.methods.length)) hsame
    exact hne (by simpa [Class.unlined] using hlength)

end

/-! ### Bodies and initial values -/

/-- A member or a base, and its initial value: the tokens between two parentheses or braces. -/
structure Initializer where
  name : List TokenKind
  value : List TokenKind
  isBraced : Bool
  isUnbraced : IsUnbraced name
  isNamed : name.getLast?.any fun k => namesInitial ⟨k, 0⟩
  isBalanced : IsBalanced value

namespace Initializer

/-- The kinds of the tokens of an initial value. -/
def kinds (i : Initializer) : List TokenKind :=
  i.name ++ if i.isBraced then .symbol '{' :: (i.value ++ [.symbol '}'])
    else .symbol '(' :: (i.value ++ [.symbol ')'])

/-- The initial value after a comma. -/
def afterComma (i : Initializer) : Initializer where
  name := .symbol ',' :: i.name
  value := i.value
  isBraced := i.isBraced
  isUnbraced := .plain (by decide) (by decide) i.isUnbraced
  isNamed := by
    have hnamed := i.isNamed
    cases hname : i.name with
    | nil => rw [hname] at hnamed; cases hnamed
    | cons k ks => rw [hname] at hnamed; exact hnamed
  isBalanced := i.isBalanced

/-- The braces around an initial value, and what stands between them. -/
def block (i : Initializer) (line : Nat) : Block where
  brace := ⟨.symbol '{', line⟩
  inside := onLine line i.value
  close := ⟨.symbol '}', line⟩
  isBrace := rfl
  isClosed := by
    rw [i.isBalanced.enclosed?_append]
    simp [enclosed?, Token.isSymbol]

end Initializer

/-- The tokens of some initial values and a body, behind other tokens, as what reading takes apart:
each initial value between braces is a block. -/
def Declaration.initialized (line : Nat) (body : Block) :
    List Token → List Initializer → Declaration
  | front, [] => .defined front body
  | front, i :: more =>
    if i.isBraced then
      .onward (front ++ onLine line i.name) (i.block line) (initialized line body [] more)
    else initialized line body (front ++ onLine line i.kinds) more

section Initialized

variable {className : String} (isPublic : Bool) (line : Nat) (body : Block)

theorem tokens_initialized (front : List Token) (initializers : List Initializer) :
    (Declaration.initialized line body front initializers).tokens =
      front ++ (onLine line (initializers.flatMap Initializer.kinds) ++ body.tokens) := by
  induction initializers generalizing front with
  | nil => rfl
  | cons i more ih =>
    rw [Declaration.initialized, List.flatMap_cons, onLine_append]
    by_cases hbraced : i.isBraced
    · rw [if_pos hbraced, Declaration.tokens, ih, Initializer.kinds, if_pos hbraced]
      simp [Initializer.block, Block.tokens, onLine]
    · rw [if_neg hbraced, ih]
      simp

theorem isFlat_kinds {count : Nat → Token → Nat} (hcount : CountsPairs count) {i : Initializer}
    (hbraced : ¬i.isBraced) : IsFlat count 0 (onLine line i.kinds) := by
  rw [Initializer.kinds, if_neg hbraced, onLine_append, i.isUnbraced.isFlat_append_iff hcount,
    onLine_cons, isFlat_cons_mark (by decide), (hcount.parens line 0).1, onLine_append,
    i.isBalanced.isFlat_append_iff hcount, onLine_cons, isFlat_cons_succ, (hcount.parens line 0).2]
  rfl

theorem isFlat_name {count : Nat → Token → Nat} (hcount : CountsPairs count) (i : Initializer) :
    IsFlat count 0 (onLine line i.name) := by
  have hnil := i.isUnbraced.isFlat_append_iff hcount line []
  rw [List.append_nil] at hnil
  exact hnil.2 rfl

/-- A brace after a name holds an initial value. -/
theorem takesInitial_name (front : List Token) (i : Initializer) :
    takesInitial (front ++ onLine line i.name) := by
  obtain ⟨k, hlast, hk⟩ := (Option.any_eq_true _ _).1 i.isNamed
  have hlast' : (onLine line i.name).getLast? = some ⟨k, line⟩ := by
    rw [onLine, List.getLast?_map, hlast]
    rfl
  rw [takesInitial, List.getLast?_append, hlast']
  exact hk

/-- A brace after an initial value between parentheses does not hold one. -/
theorem takesInitial_kinds (front : List Token) {i : Initializer} (hbraced : ¬i.isBraced) :
    takesInitial (front ++ onLine line i.kinds) = false := by
  have hkinds : front ++ onLine line i.kinds =
      front ++ (onLine line i.name ++ ⟨.symbol '(', line⟩ :: onLine line i.value) ++
        [⟨.symbol ')', line⟩] := by
    rw [Initializer.kinds, if_neg hbraced]
    simp [onLine]
  rw [takesInitial, hkinds, List.getLast?_concat]
  rfl

variable (className)

/-- Behind the colon of a constructor its initial values are skipped up to its body, and the body
with them. -/
theorem isSkipped_initialized {front : List Token} (hfront : IsFlat parenDepth 0 front)
    {initializers : List Initializer} (hlast : initializers = [] → takesInitial front = false) :
    (Declaration.initialized line body front initializers).Fits className isPublic .initial ∧
      (Declaration.initialized line body front initializers).IsSkipped className isPublic
        .initial := by
  induction initializers generalizing front with
  | nil =>
    refine ⟨⟨hfront, fun hr => Reading.noConfusion hr⟩, rfl, ?_⟩
    rw [Reading.afterBlock, hlast rfl, if_neg Bool.false_ne_true]
  | cons i more ih =>
    rw [Declaration.initialized]
    -- the block of a braced value is followed by what is read like the whole
    by_cases hbraced : i.isBraced
    · have hafter : Reading.initial.afterBlock className isPublic (front ++ onLine line i.name) =
          .initial := by
        rw [Reading.afterBlock, if_pos (takesInitial_name line front i)]
      have hrest := @ih [] rfl fun _ => rfl
      have hentered (d : Declaration) : d.entered .initial = .initial :=
        if_neg fun h => Reading.noConfusion h.1
      have hflat : IsFlat parenDepth 0 (front ++ onLine line i.name) :=
        (hfront.append_iff _).2 (isFlat_name line countsPairs_parenDepth i)
      rw [if_pos hbraced]
      refine ⟨⟨⟨hflat, fun hr => Reading.noConfusion hr⟩, ?_⟩, rfl, ?_⟩
      · rw [hafter, hentered]
        exact hrest.1
      · rw [hafter, hentered]
        exact hrest.2
    · rw [if_neg hbraced]
      have hflat : IsFlat parenDepth 0 (front ++ onLine line i.kinds) :=
        (hfront.append_iff _).2 (isFlat_kinds line countsPairs_parenDepth hbraced)
      exact ih hflat fun _ => takesInitial_kinds line front hbraced

/-- The first head behind a colon, up to the first initial value between braces. -/
theorem exists_head_initialized (front : List Token) (initializers : List Initializer) :
    ∃ ks, (∀ k ∈ ks, k ∈ initializers.flatMap Initializer.kinds) ∧
      (Declaration.initialized line body front initializers).head = front ++ onLine line ks := by
  induction initializers generalizing front with
  | nil => exact ⟨[], fun k hk => hk, (List.append_nil front).symm⟩
  | cons i more ih =>
    rw [Declaration.initialized, List.flatMap_cons]
    by_cases hbraced : i.isBraced
    · rw [if_pos hbraced]
      refine ⟨i.name, fun k hk => ?_, rfl⟩
      exact List.mem_append_left _ (List.mem_append_left _ hk)
    · rw [if_neg hbraced]
      obtain ⟨ks, hks, hhead⟩ := ih (front ++ onLine line i.kinds)
      refine ⟨i.kinds ++ ks, fun k hk => ?_, ?_⟩
      · rw [List.mem_append] at hk ⊢
        exact hk.imp_right (hks k)
      · rw [hhead, onLine_append, List.append_assoc]

/-- A method has at least two tokens. -/
theorem exists_cons_cons_of_method? {head : List Token}
    (h : (method? className isPublic head).isSome) : ∃ t u ts, head = t :: u :: ts := by
  match head with
  | [] => cases h
  | [t] =>
    have hnone : splitSignature? [t] = none := by
      by_cases ht : t.isSymbol '(' <;> simp [splitSignature?, enclosed?, ht]
    rw [method?_eq, hnone] at h
    split at h <;> cases h
  | t :: u :: ts => exact ⟨t, u, ts, rfl⟩

/-- What begins like a method can be read as a member, if nothing ends before its own end. -/
theorem starts_of_append {head : List Token} {semicolon : Semicolon}
    (hdeclares : DeclaresMethod className isPublic head semicolon) {d : Declaration}
    {more : List Token} (hd : d.head = head ++ more) (hflat : IsFlat memberDepth 0 d.head) :
    d.Starts .member := by
  refine ⟨hflat, fun _ t ts htokens ht => ?_⟩
  obtain ⟨t', u, head', rfl⟩ := exists_cons_cons_of_method? className isPublic hdeclares.found
  obtain ⟨us, hus⟩ : ∃ us, d.tokens = d.head ++ us := by
    cases d <;> exact ⟨_, rfl⟩
  rw [hus, hd] at htokens
  cases htokens
  -- Its first two tokens tell what a member begins with.
  exact hdeclares.starts.2 rfl t (u :: (head' ++ [semicolon.1])) rfl ht

section Constructor

variable {className isPublic} {head : List Token} {semicolon : Semicolon}

/-- A head that goes on behind the colon still is that of the constructor. -/
theorem afterBlock_constructor (hmethod : (method? className isPublic head).isSome)
    (hconstructor : isConstructor className head) {colon : Token} (hcolon : colon.isSymbol ':')
    {more : List Token} (hmore : ¬more.any (·.isWord "operator")) :
    Reading.member.afterBlock className isPublic (head ++ colon :: more) =
      if takesInitial (head ++ colon :: more) then .initial else .member := by
  have hfound : (method? className isPublic (head ++ colon :: more)).isNone = false := by
    rw [method?_append_of_isConstructor hconstructor isPublic (not_any_cons hcolon hmore)]
    exact Option.isNone_eq_false_iff.2 hmethod
  rw [Reading.afterBlock, hfound, if_neg Bool.false_ne_true,
    hasInitializers_append hconstructor hcolon, Bool.true_and]

/-- A constructor with its initial values and its body is read as a member to its end. -/
theorem fits_initialized (hdeclares : DeclaresMethod className isPublic head semicolon)
    (hconstructor : isConstructor className head) {colon : Token} (hcolon : colon.isSymbol ':')
    {initializers : List Initializer}
    (hoperator : .word "operator" ∉ initializers.flatMap Initializer.kinds) {more : List Token}
    (hmore : ¬more.any (·.isWord "operator")) (hflat : IsFlat memberDepth 0 (head ++ colon :: more))
    (hlast : initializers = [] → takesInitial (head ++ colon :: more) = false) :
    (Declaration.initialized line body (head ++ colon :: more) initializers).Fits className isPublic
        .member ∧
      (Declaration.initialized line body (head ++ colon :: more) initializers).EndsExactly className
        isPublic := by
  induction initializers generalizing more with
  | nil =>
    refine ⟨starts_of_append className isPublic hdeclares rfl hflat, ?_⟩
    rw [Declaration.initialized, Declaration.EndsExactly,
      afterBlock_constructor hdeclares.found hconstructor hcolon hmore, hlast rfl,
      if_neg Bool.false_ne_true]
  | cons i initializers ih =>
    rw [List.flatMap_cons, List.mem_append, not_or] at hoperator
    rw [Declaration.initialized]
    have hassoc (ks : List TokenKind) : head ++ colon :: more ++ onLine line ks =
        head ++ colon :: (more ++ onLine line ks) := by
      rw [List.append_assoc, List.cons_append]
    have hmore' {ks : List TokenKind} (hks : .word "operator" ∉ ks) :
        ¬(more ++ onLine line ks).any (·.isWord "operator") := by
      rw [List.any_append, Bool.or_eq_true, not_or]
      exact ⟨hmore, not_any_onLine line ks hks⟩
    -- the block of a braced value leaves the reader among the initial values
    by_cases hbraced : i.isBraced
    · have hname : .word "operator" ∉ i.name := fun h => hoperator.1 (List.mem_append_left _ h)
      have hinitial := afterBlock_constructor hdeclares.found hconstructor hcolon (hmore' hname)
      rw [← hassoc, if_pos (takesInitial_name line _ i)] at hinitial
      have hrest := isSkipped_initialized className isPublic line body
        (show IsFlat parenDepth 0 [] from rfl) fun (_ : initializers = []) => rfl
      have hentered (d : Declaration) : d.entered .initial = .initial :=
        if_neg fun h => Reading.noConfusion h.1
      have hflat' : IsFlat memberDepth 0 (head ++ colon :: more ++ onLine line i.name) :=
        (hflat.append_iff _).2 (isFlat_name line countsPairs_memberDepth i)
      rw [if_pos hbraced]
      refine ⟨⟨starts_of_append className isPublic hdeclares (List.append_assoc ..) hflat',
        ?_⟩, ?_⟩
      · rw [hinitial, hentered]
        exact hrest.1
      · rw [Declaration.EndsExactly, hinitial, hentered]
        exact hrest.2
    · rw [if_neg hbraced, hassoc]
      refine ih hoperator.2 (hmore' hoperator.1) ?_ fun _ => ?_
      · rw [← hassoc]
        exact (hflat.append_iff _).2 (isFlat_kinds line countsPairs_memberDepth hbraced)
      · rw [← hassoc]
        exact takesInitial_kinds line _ hbraced

/-- Behind the colon of a constructor its initial values and its body can be written. -/
theorem exists_initialized (hdeclares : DeclaresMethod className isPublic head semicolon)
    (hconstructor : isConstructor className head) {initializers : List Initializer}
    (hoperator : .word "operator" ∉ initializers.flatMap Initializer.kinds) :
    ∃ d : Declaration, d.tokens = head ++ (onLine line
        (.symbol ':' :: initializers.flatMap Initializer.kinds) ++ body.tokens) ∧
      (Member.method head semicolon d).IsReported className isPublic ∧
      d.EndsExactly className isPublic := by
  have hcolon : Token.isSymbol ⟨.symbol ':', line⟩ ':' := rfl
  have hflat : IsFlat memberDepth 0 (head ++ [⟨.symbol ':', line⟩]) := by
    have hhead : IsFlat memberDepth 0 head := hdeclares.starts.1
    exact (hhead.append_iff _).2 ((isFlat_cons_mark (by decide)).2 rfl)
  have hlast : takesInitial (head ++ [⟨.symbol ':', line⟩]) = false := by
    rw [takesInitial, List.getLast?_concat]
    rfl
  obtain ⟨hfits, hends⟩ := fits_initialized line body hdeclares hconstructor hcolon hoperator
    (by simp) hflat fun _ => hlast
  obtain ⟨ks, hks, hhead⟩ :=
    exists_head_initialized line body (head ++ [⟨.symbol ':', line⟩]) initializers
  have hnone : ¬(onLine line ks).any (·.isWord "operator") :=
    not_any_onLine line ks fun h => hoperator (hks _ h)
  have hwritten := IsWrittenFor.initialized hconstructor hcolon hnone
    (hhead.trans (List.append_assoc ..))
  refine ⟨_, ?_, ⟨hdeclares, hwritten, hfits⟩, hends⟩
  rw [tokens_initialized]
  simp [onLine]

/-- A body can stand for the semicolon of every method. -/
theorem isReported_defined (hdeclares : DeclaresMethod className isPublic head semicolon) :
    (Member.method head semicolon (.defined head body)).IsReported className isPublic := by
  have hhead : (Declaration.defined head body).head = head ++ [] := (List.append_nil head).symm
  exact ⟨hdeclares, .body body, starts_of_append className isPublic hdeclares hhead
    hdeclares.starts.1⟩

/-- The body of a method is read as such unless it is taken for an initial value. -/
theorem endsExactly_defined_iff (hmethod : (method? className isPublic head).isSome) :
    (Declaration.defined head body).EndsExactly className isPublic ↔
      ¬(hasInitializers head ∧ takesInitial head) := by
  have hfound : (method? className isPublic head).isNone = false :=
    Option.isNone_eq_false_iff.2 hmethod
  rw [Declaration.EndsExactly, Reading.afterBlock, hfound, if_neg Bool.false_ne_true,
    ← Bool.and_eq_true]
  split
  · next h => exact ⟨fun hr => Reading.noConfusion hr, fun hne => absurd h hne⟩
  · next h => exact ⟨fun _ => h, fun _ => rfl⟩

end Constructor

end Initialized

/-! ### What can be written for methods -/

/-- What stands for the methods of a class can be written in every header, and in its text, if each
ends exactly, and for one method only then. A body ends exactly unless a colon stands behind the
parameters and a word or `>` before the body; and the initial values of a constructor, with its
body, always do if no name has braces outside parentheses. -/
theorem areReplaceable_iff (className : String) :
    (∀ (isPublic : Bool) (members : List Member),
      Along (Member.IsReported className) isPublic members →
      Along (Member.EndsExactly className) isPublic members →
      AreReplaceable className isPublic members ∧ AreTextReplaceable className isPublic members) ∧
    (∀ (isPublic : Bool) (x : Member), x.IsReported className isPublic →
      (AreReplaceable className isPublic [x] ↔ x.EndsExactly className isPublic)) ∧
    (∀ (isPublic : Bool) (head : List Token) (semicolon : Semicolon) (body : Block),
      DeclaresMethod className isPublic head semicolon →
      (Member.method head semicolon (.defined head body)).IsReported className isPublic ∧
        ((Declaration.defined head body).EndsExactly className isPublic ↔
          ¬(hasInitializers head ∧ takesInitial head))) ∧
    ∀ (isPublic : Bool) (head : List Token) (semicolon : Semicolon) (line : Nat) (body : Block)
      (first : Initializer) (more : List Initializer),
      DeclaresMethod className isPublic head semicolon → isConstructor className head →
      .word "operator" ∉ (first :: more.map Initializer.afterComma).flatMap Initializer.kinds →
      ∃ d : Declaration, d.tokens = head ++ (onLine line (.symbol ':' ::
          (first :: more.map Initializer.afterComma).flatMap Initializer.kinds) ++ body.tokens) ∧
        (Member.method head semicolon d).IsReported className isPublic ∧
        d.EndsExactly className isPublic := by
  refine ⟨fun isPublic members hreported hends => ?_, fun isPublic x hreported => ⟨fun h => ?_,
    fun hends => ?_⟩, fun isPublic head semicolon body hdeclares => ?_,
    fun isPublic head semicolon line body first more hdeclares hconstructor hoperator => ?_⟩
  · have h := areReplaceable_of_endsExactly hreported hends
    exact ⟨h, h.text⟩
  · exact endsExactly_of_areReplaceable hreported h
  · exact areReplaceable_of_endsExactly ⟨hreported, trivial⟩ ⟨hends, trivial⟩
  · exact ⟨isReported_defined body hdeclares, endsExactly_defined_iff body hdeclares.found⟩
  · exact exists_initialized line body hdeclares hconstructor hoperator

/-- The head of a constructor without parameters. -/
def constructorHead (className : String) : List Token :=
  [⟨.word className, 0⟩, ⟨.symbol '(', 0⟩, ⟨.symbol ')', 0⟩]

/-- The head of a method with a condition that has a colon, and a word behind it. -/
def guardedHead : List Token :=
  methodHead ++ [⟨.word "noexcept", 0⟩, ⟨.symbol '(', 0⟩, ⟨.word "a", 0⟩, ⟨.symbol '?', 0⟩,
    ⟨.word "b", 0⟩, ⟨.symbol ':', 0⟩, ⟨.word "c", 0⟩, ⟨.symbol ')', 0⟩, ⟨.word "final", 0⟩]

/-- The initial value of a member, between braces or parentheses. -/
def numberInitializer (member : String) (isBraced : Bool) : Initializer where
  name := [.word member]
  value := [.number "0"]
  isBraced := isBraced
  isUnbraced := .plain (fun pair _ => ⟨TokenKind.noConfusion, TokenKind.noConfusion⟩)
    TokenKind.noConfusion .nil
  isNamed := rfl
  isBalanced := .of_forall (by decide)

theorem areReplaceable_iff_pump :
    ∃ d : Declaration, AreTextReplaceable "Pump" true
        [.method (constructorHead "Pump") ⟨⟨.symbol ';', 0⟩, rfl⟩ d,
          .method methodHead ⟨⟨.symbol ';', 0⟩, rfl⟩ (.defined methodHead emptyBlock)] ∧
      ¬AreReplaceable "Pump" true
        [.method guardedHead ⟨⟨.symbol ';', 0⟩, rfl⟩ (.defined guardedHead emptyBlock)] := by
  have hconstructor : DeclaresMethod "Pump" true (constructorHead "Pump")
      ⟨⟨.symbol ';', 0⟩, rfl⟩ := by
    refine ⟨⟨by decide, fun _ t ts htokens _ => ?_⟩, by decide +kernel⟩
    cases htokens
    exact ⟨rfl, rfl, fun haccess => Bool.false_ne_true haccess.1, rfl, rfl⟩
  have hmethod : DeclaresMethod "Pump" true methodHead ⟨⟨.symbol ';', 0⟩, rfl⟩ := by
    refine ⟨⟨by decide, fun _ t ts htokens _ => ?_⟩, by decide +kernel⟩
    cases htokens
    exact ⟨rfl, rfl, fun haccess => Bool.false_ne_true haccess.1, rfl, rfl⟩
  have hguarded : DeclaresMethod "Pump" true guardedHead ⟨⟨.symbol ';', 0⟩, rfl⟩ := by
    refine ⟨⟨by decide, fun _ t ts htokens _ => ?_⟩, by decide +kernel⟩
    cases htokens
    exact ⟨rfl, rfl, fun haccess => Bool.false_ne_true haccess.1, rfl, rfl⟩
  obtain ⟨hall, hsingle, hbody, hinitialized⟩ := areReplaceable_iff "Pump"
  obtain ⟨d, -, hd, hends⟩ := hinitialized true _ ⟨⟨.symbol ';', 0⟩, rfl⟩ 0 emptyBlock
    (numberInitializer "level" true) [numberInitializer "rate" false] hconstructor
    (by decide +kernel) (by decide)
  obtain ⟨hstop, hstopEnds⟩ := hbody true _ _ emptyBlock hmethod
  obtain ⟨hrun, hrunEnds⟩ := hbody true _ _ emptyBlock hguarded
  refine ⟨d, ?_, fun h => hrunEnds.1 ((hsingle true _ hrun).1 h) (by decide)⟩
  have hstop' := hstopEnds.2 (by decide)
  exact (hall true [.method (constructorHead "Pump") _ d, .method methodHead _ _]
    ⟨hd, hstop, trivial⟩ ⟨hends, hstop', trivial⟩).2

/-- A method behind a body that is taken for an initial value is taken for what goes on with it. -/
theorem classes_pump_guarded :
    classes ("class Pump \x7b\n  public:\n" ++
        "    void run() noexcept(sizeof(int) == 4 ? true : false) final \x7b \x7d\n" ++
        "    void start();\n    void stop() \x7b \x7d\n    void halt();\n\x7d;\n").toList =
      .ok [⟨"Pump", 1, [⟨"run", 3, "void", [], true⟩, ⟨"halt", 6, "void", [], true⟩]⟩] ∧
    classes ("class Pump \x7b\n  public:\n" ++
        "    void run() noexcept(sizeof(int) == 4 ? true : false) final;\n" ++
        "    void start();\n    void stop();\n    void halt();\n\x7d;\n").toList =
      .ok [⟨"Pump", 1, [⟨"run", 3, "void", [], true⟩, ⟨"start", 4, "void", [], true⟩,
        ⟨"stop", 5, "void", [], true⟩, ⟨"halt", 6, "void", [], true⟩]⟩] := by
  rw [← Success.toOption_eq_some_iff, ← Success.toOption_eq_some_iff]
  decide +kernel

end Instrument.Header
