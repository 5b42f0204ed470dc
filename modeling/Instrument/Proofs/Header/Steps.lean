import Instrument.Header.Parser
import Instrument.Proofs.Success

/-!
Reading a header step by step. A step reads one declaration outside all classes, enters a class,
reads one member, or leaves a class. Main statement: what a header declares is what is found by some
steps, and what is read from there.
-/

namespace Instrument.Header

/-! ### One declaration after the other -/

theorem skipFrom_cons (line parens : Nat) (body : Bool) (t : Token) (ts : List Token) :
    skipFrom line parens body (t :: ts) =
      if t.isSymbol '(' then skipFrom line (parens + 1) false ts
      else if t.isSymbol ')' then skipFrom line (parens - 1) true ts
      else if parens = 0 ∧ t.isSymbol ';' then .ok ts
      else if parens = 0 ∧ t.isSymbol '}' then .ok (t :: ts)
      else if parens = 0 ∧ t.isSymbol '{' then
        match enclosed? '{' '}' 0 ts with
        | none => .error ⟨t.line, .unbalancedBraces⟩
        | some (_, after) =>
          if after.head?.any (·.isSymbol ';') then .ok after.tail
          else if body then .ok after
          else skipFrom line 0 false after
      else skipFrom line parens (precedesBody t) ts := by
  rw [skipFrom]
  cases enclosed? '{' '}' 0 ts <;> rfl

theorem skipInitializers_eq (last : Nat) (named : Bool) (line : Nat) (ts : List Token) :
    skipInitializers last named line ts =
      match enclosed? '{' '}' 0 ts with
      | none => .error ⟨line, .unbalancedBraces⟩
      | some (_, after) =>
        if named then
          match nextBrace? 0 false after with
          | none => .error ⟨lineOf last after, .unterminatedConstructor⟩
          | some (named, line, rest) => skipInitializers last named line rest
        else .ok after := by
  rw [skipInitializers]
  rcases enclosed? '{' '}' 0 ts with _ | ⟨inside, after⟩
  · rfl
  · cases named
    · rfl
    · simp only [if_true]
      cases nextBrace? 0 false after <;> rfl

theorem classBody_cons (last line : Nat) (className : String) (isPublic : Bool) (t : Token)
    (ts : List Token) :
    classBody last line className isPublic (t :: ts) =
      match bodyItem last className isPublic t ts with
      | .error e => .error e
      | .ok (.closed, rest) => .ok ([], rest)
      | .ok (.access isPublic, rest) => classBody last line className isPublic rest
      | .ok (.skipped, rest) => classBody last line className isPublic rest
      | .ok (.method found, rest) =>
        (classBody last line className isPublic rest).map fun (methods, rest) =>
          (found :: methods, rest) := by
  rw [classBody]
  rcases bodyItem last className isPublic t ts with e | ⟨_ | _ | _ | _, rest⟩ <;> rfl

theorem topLevel_cons (last : Nat) (t : Token) (ts : List Token) :
    topLevel last (t :: ts) =
      match topItem last t ts with
      | .error e => .error e
      | .ok (found, rest) => (topLevel last rest).map (found.toList ++ ·) := by
  rw [topLevel]
  rcases topItem last t ts with e | ⟨found, rest⟩ <;> rfl

/-! ### Places -/

/-- A class of which some members are read. -/
structure OpenClass where
  name : String
  line : Nat
  /-- Whether members are public from here on. -/
  isPublic : Bool
  methods : List Method

/-- The class with what one step in its body yields. -/
def OpenClass.add (c : OpenClass) : BodyItem → OpenClass
  | .closed | .skipped => c
  | .access isPublic => { c with isPublic := isPublic }
  | .method found => { c with methods := c.methods ++ [found] }

/-- Where reading stands, with the classes that are found before. -/
inductive Place where
  | outside (found : List Class)
  | inside (found : List Class) (c : OpenClass)

/-- Whether reading stands outside all classes. -/
def Place.IsOutside : Place → Prop
  | outside _ => True
  | inside .. => False

/-- The tokens after a class, given those after its closing brace. -/
def afterClass (ts : List Token) : List Token := (ts.dropWhile (!·.isSymbol ';')).drop 1

/-- The classes of a header that is read up to a place, after which some tokens are left. -/
def Place.finish (last : Nat) : Place → List Token → Except ParseError (List Class)
  | outside found, ts => (topLevel last ts).map (found ++ ·)
  | inside found c, ts => do
    let (methods, rest) ← classBody last c.line c.name c.isPublic ts
    (topLevel last (afterClass rest)).map (found ++ ⟨c.name, c.line, c.methods ++ methods⟩ :: ·)

/-- The name of the class that a token and the tokens after it begin, and the tokens of its body and
after it. -/
def opensClass? (keyword : Token) : List Token → Option (String × List Token)
  | [] => none
  | t :: ts =>
    match keyword.isOneOf ["class", "struct"], t.word?,
      ts.dropWhile fun t => !(t.isSymbol '{' || t.isSymbol ';') with
    | true, some name, brace :: body => if brace.isSymbol ';' then none else some (name, body)
    | _, _, _ => none

/-- Reading gets from one place to another, and from some tokens to what is left of them. -/
inductive Step (last : Nat) : Place → List Token → Place → List Token → Prop
  | item {found : List Class} {t : Token} {ts rest : List Token} {more : Option Class}
      (hitem : topItem last t ts = .ok (more, rest)) :
      Step last (.outside found) (t :: ts) (.outside (found ++ more.toList)) rest
  | enter {found : List Class} {t : Token} {ts body : List Token} {name : String}
      (hclass : opensClass? t ts = some (name, body)) :
      Step last (.outside found) (t :: ts) (.inside found ⟨name, t.line, t.isWord "struct", []⟩)
        body
  | member {found : List Class} {c : OpenClass} {t : Token} {ts rest : List Token}
      {item : BodyItem} (hitem : bodyItem last c.name c.isPublic t ts = .ok (item, rest))
      (hclosed : item ≠ .closed) :
      Step last (.inside found c) (t :: ts) (.inside found (c.add item)) rest
  | leave {found : List Class} {c : OpenClass} {t : Token} {ts rest : List Token}
      (hitem : bodyItem last c.name c.isPublic t ts = .ok (.closed, rest)) :
      Step last (.inside found c) (t :: ts) (.outside (found ++ [⟨c.name, c.line, c.methods⟩]))
        (afterClass rest)

/-- Reading a header of some tokens comes to a place, after which some tokens are left. -/
inductive Reads (last : Nat) (ts : List Token) : Place → List Token → Prop
  | start : Reads last ts (.outside []) ts
  | step {p p' : Place} {rest rest' : List Token} (h : Reads last ts p rest)
      (hstep : Step last p rest p' rest') : Reads last ts p' rest'

theorem Token.exists_of_isOneOf {t : Token} {words : List String} (h : t.isOneOf words) :
    ∃ word ∈ words, t.kind = .word word := by
  obtain ⟨kind, line⟩ := t
  cases kind <;> simp_all [Token.isOneOf, Token.word?]

/-- What begins a class: its keyword, its name, and the brace before its body. -/
theorem exists_of_opensClass? {keyword : Token} {ts body : List Token} {name : String}
    (h : opensClass? keyword ts = some (name, body)) :
    keyword.isOneOf ["class", "struct"] ∧
      ∃ t rest brace, ts = t :: rest ∧ t.word? = some name ∧
        (rest.dropWhile fun t => !(t.isSymbol '{' || t.isSymbol ';')) = brace :: body ∧
        brace.isSymbol ';' = false := by
  cases ts with
  | nil => cases h
  | cons t rest =>
    simp only [opensClass?] at h
    split at h
    · next hkeyword hname hbrace =>
      split at h
      · cases h
      · next hsemicolon =>
        cases h
        exact ⟨hkeyword, t, rest, _, rfl, hname, hbrace, by simpa using hsemicolon⟩
    · cases h

theorem topItem_of_isClass (last : Nat) {t : Token} (h : t.isOneOf ["class", "struct"])
    (ts : List Token) : topItem last t ts = classDeclaration last t ts := by
  obtain ⟨word, hmem, hkind⟩ := Token.exists_of_isOneOf h
  have hword (text : String) : t.isWord text = (word == text) := by
    rw [Token.isWord, hkind, Bool.eq_iff_iff]
    simp
  have hne : word ≠ "namespace" ∧ word ≠ "extern" ∧ word ≠ "template" := by
    simp only [List.mem_cons, List.not_mem_nil, or_false] at hmem
    rcases hmem with rfl | rfl <;> decide
  simp [topItem, hword, h, hne]

theorem topItem_of_opensClass? (last : Nat) {t : Token} {ts body : List Token} {name : String}
    (h : opensClass? t ts = some (name, body)) :
    topItem last t ts =
      (classBody last t.line name (t.isWord "struct") body).map fun (methods, rest) =>
        (some ⟨name, t.line, methods⟩, afterClass rest) := by
  obtain ⟨hkeyword, t', rest, brace, rfl, hname, hbrace, hsemicolon⟩ := exists_of_opensClass? h
  rw [topItem_of_isClass last hkeyword]
  simp only [classDeclaration, hname, hbrace, hsemicolon]
  rfl

section

variable {last : Nat} {t : Token} {ts after : List Token} {c : Class}

/-- What is skipped is no class. -/
theorem map_none_ne_ok (result : Except ParseError (List Token)) :
    (result.map fun rest => ((none : Option Class), rest)) ≠ .ok (some c, after) := by
  cases result <;> simp [Except.map]

/-- Only a keyword begins a class. -/
theorem isClass_of_topItem (h : topItem last t ts = .ok (some c, after)) :
    t.isOneOf ["class", "struct"] := by
  unfold topItem at h
  simp only at h
  split at h
  · split at h
    · exact absurd h (map_none_ne_ok _)
    · split at h
      · cases h
      · exact absurd h (map_none_ne_ok _)
  split at h
  · cases h
  split at h
  · exact absurd h (map_none_ne_ok _)
  split at h
  · next hclass => exact hclass
  split at h
  · cases h
  · exact absurd h (map_none_ne_ok _)

/-- What is read as a class is opened, and its methods are those of its body. -/
theorem exists_opensClass?_of_topItem (h : topItem last t ts = .ok (some c, after)) :
    ∃ body rest, opensClass? t ts = some (c.name, body) ∧ c.line = t.line ∧
      classBody last t.line c.name (t.isWord "struct") body = .ok (c.methods, rest) := by
  have hclass := isClass_of_topItem h
  rw [topItem_of_isClass last hclass] at h
  unfold classDeclaration at h
  split at h
  · exact absurd h (map_none_ne_ok _)
  next u us =>
  split at h
  · exact absurd h (map_none_ne_ok _)
  next name hname =>
  split at h
  · cases h
  next brace body hdrop =>
  split at h
  · cases h
  next hsemicolon =>
  obtain ⟨⟨methods, rest⟩, hbody, hresult⟩ := Success.map_eq_ok_iff.1 h
  cases hresult
  refine ⟨body, rest, ?_, rfl, hbody⟩
  simp only [opensClass?, hclass, hname, hdrop, if_neg hsemicolon]

end

/-- What is read after one member goes with that member. -/
theorem classBody_of_bodyItem {last line : Nat} {className : String} {isPublic : Bool} {t : Token}
    {ts rest : List Token} {item : BodyItem}
    (h : bodyItem last className isPublic t ts = .ok (item, rest)) (hclosed : item ≠ .closed)
    (methods : List Method) :
    ((classBody last line className isPublic (t :: ts)).map fun r => (methods ++ r.1, r.2)) =
      (classBody last line className
          (OpenClass.add ⟨className, line, isPublic, methods⟩ item).isPublic rest).map fun r =>
        ((OpenClass.add ⟨className, line, isPublic, methods⟩ item).methods ++ r.1, r.2) := by
  rw [classBody_cons, h]
  cases item with
  | closed => exact absurd rfl hclosed
  | access isPublic => rfl
  | skipped => rfl
  | method found =>
    simp only [OpenClass.add]
    rcases classBody last line className isPublic rest with e | ⟨more, rest⟩
    · rfl
    · simp [Except.map]

/-- What a class of which some members are read declares, and the classes after it. -/
theorem finish_inside (last : Nat) (found : List Class) (c : OpenClass) (ts : List Token) :
    (Place.inside found c).finish last ts =
      ((classBody last c.line c.name c.isPublic ts).map fun r => (c.methods ++ r.1, r.2)) >>=
        fun r => (topLevel last (afterClass r.2)).map (found ++ ⟨c.name, c.line, r.1⟩ :: ·) := by
  rw [Place.finish]
  rcases classBody last c.line c.name c.isPublic ts <;> rfl

/-- A step changes nothing about what is found in the end. -/
theorem finish_of_step {last : Nat} {p p' : Place} {ts ts' : List Token}
    (h : Step last p ts p' ts') : p.finish last ts = p'.finish last ts' := by
  cases h with
  | item hitem =>
    simp only [Place.finish, topLevel_cons, hitem]
    rcases topLevel last ts' with e | classes
    · rfl
    · simp [Except.map]
  | enter hclass =>
    simp only [Place.finish, topLevel_cons, topItem_of_opensClass? last hclass]
    rcases classBody last _ _ _ ts' with e | ⟨methods, rest⟩
    · rfl
    · rcases htop : topLevel last (afterClass rest) with e | classes
      · simp [Except.map, bind, Except.bind, htop]
      · simp [Except.map, bind, Except.bind, htop]
  | @member found c t ts rest item hitem hclosed =>
    have hline : (c.add item).line = c.line := by cases item <;> rfl
    have hname : (c.add item).name = c.name := by cases item <;> rfl
    rw [finish_inside, finish_inside, classBody_of_bodyItem hitem hclosed, hline, hname]
  | @leave found c t ts rest hitem =>
    rw [finish_inside, classBody_cons, hitem]
    simp only [Place.finish, Except.map, bind, Except.bind, List.append_nil]
    rcases topLevel last (afterClass rest) with e | classes
    · rfl
    · simp

/-- What a header declares is what is found up to a place and after it. -/
theorem topLevel_of_reads {last : Nat} {p : Place} {ts rest : List Token}
    (h : Reads last ts p rest) : topLevel last ts = p.finish last rest := by
  induction h with
  | start =>
    rw [Place.finish]
    rcases topLevel last ts <;> rfl
  | step _ hstep ih => rw [ih, finish_of_step hstep]

end Instrument.Header
