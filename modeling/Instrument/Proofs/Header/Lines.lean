import Instrument.Proofs.Header.Steps

/-!
Reading headers without line numbers. Main statement: what a header declares, or what is at fault
with it, depends on the kinds of its tokens alone, but for the numbers of lines.
-/

namespace Instrument.Header

/-! ### Leaving out the numbers of lines -/

/-- The token without the number of its line. -/
def Token.unlined (t : Token) : Token := { t with line := 0 }

/-- The error without the number of its line. -/
def ParseError.unlined (e : ParseError) : ParseError := { e with line := 0 }

/-- The method without the number of its line. -/
def Method.unlined (m : Method) : Method := { m with line := 0 }

/-- The class without the numbers of its lines. -/
def Class.unlined (c : Class) : Class :=
  { c with line := 0, methods := c.methods.map Method.unlined }

/-- Without the number of a line, what is read is `f` of it. -/
def unlinedWith {α β : Type} (f : α → β) : Except ParseError α → Except ParseError β
  | .error e => .error e.unlined
  | .ok a => .ok (f a)

/-- Some tokens without the numbers of their lines. -/
abbrev unlined (ts : List Token) : List Token := ts.map Token.unlined

theorem unlined_eq_iff {ts us : List Token} :
    unlined ts = unlined us ↔ ts.map (·.kind) = us.map (·.kind) := by
  induction ts generalizing us with
  | nil => cases us <;> simp
  | cons t ts ih =>
    cases us with
    | nil => simp
    | cons u us =>
      simp only [List.map_cons, List.cons.injEq, ih, Token.unlined, Token.mk.injEq, and_true]

section Tokens

variable (t : Token)

@[simp] theorem kind_unlined : t.unlined.kind = t.kind := rfl

@[simp] theorem line_unlined : t.unlined.line = 0 := rfl

@[simp] theorem isSymbol_unlined (c : Char) : t.unlined.isSymbol c = t.isSymbol c := by
  rw [Token.isSymbol, Token.isSymbol, kind_unlined]

@[simp] theorem isWord_unlined (text : String) : t.unlined.isWord text = t.isWord text := by
  rw [Token.isWord, Token.isWord, kind_unlined]

@[simp] theorem word?_unlined : t.unlined.word? = t.word? := rfl

@[simp] theorem isOneOf_unlined (words : List String) :
    t.unlined.isOneOf words = t.isOneOf words := by
  rw [Token.isOneOf, Token.isOneOf, word?_unlined]

@[simp] theorem precedesBody_unlined : precedesBody t.unlined = precedesBody t := rfl

@[simp] theorem depthAfter_unlined (opening closing : List Char) (depth : Int) :
    depthAfter opening closing depth t.unlined = depthAfter opening closing depth t := rfl

@[simp] theorem memberDepth_unlined (depth : Nat) :
    memberDepth depth t.unlined = memberDepth depth t := rfl

end Tokens

variable (ts : List Token)

/-- A test that does not look at lines. -/
theorem any_unlined (p : Token → Bool) (hp : ∀ t, p t.unlined = p t) :
    (unlined ts).any p = ts.any p := by
  rw [unlined, List.any_map]
  exact congrArg ts.any (funext hp)

theorem dropWhile_unlined (p : Token → Bool) (hp : ∀ t, p t.unlined = p t) :
    (unlined ts).dropWhile p = unlined (ts.dropWhile p) := by
  rw [unlined, List.dropWhile_map, show p ∘ Token.unlined = p from funext hp]

theorem takeWhile_unlined (p : Token → Bool) (hp : ∀ t, p t.unlined = p t) :
    (unlined ts).takeWhile p = unlined (ts.takeWhile p) := by
  rw [unlined, List.takeWhile_map, show p ∘ Token.unlined = p from funext hp]

theorem headAny_unlined (p : Token → Bool) (hp : ∀ t, p t.unlined = p t) :
    (unlined ts).head?.any p = ts.head?.any p := by
  rw [unlined, List.head?_map, Option.any_map]
  exact congrArg ts.head?.any (funext hp)

theorem lastAny_unlined (p : Token → Bool) (hp : ∀ t, p t.unlined = p t) :
    (unlined ts).getLast?.any p = ts.getLast?.any p := by
  rw [unlined, List.getLast?_map, Option.any_map]
  exact congrArg ts.getLast?.any (funext hp)

/-! ### Methods -/

theorem enclosed?_unlined (opening closing : Char) (depth : Nat) :
    enclosed? opening closing depth (unlined ts) =
      (enclosed? opening closing depth ts).map (Prod.map unlined unlined) := by
  induction ts generalizing depth with
  | nil => rfl
  | cons t ts ih =>
    have hcons (depth : Nat) :
        ((enclosed? opening closing depth (unlined ts)).map fun r => (t.unlined :: r.1, r.2)) =
          ((enclosed? opening closing depth ts).map fun r => (t :: r.1, r.2)).map
            (Prod.map unlined unlined) := by
      rw [ih, Option.map_map, Option.map_map]
      rfl
    by_cases hopen : t.isSymbol opening
    · simp only [List.map_cons, enclosed?, isSymbol_unlined, hopen, if_true]
      exact hcons _
    by_cases hclose : t.isSymbol closing
    · simp only [List.map_cons, enclosed?, isSymbol_unlined, hopen, hclose, if_true]
      cases depth with
      | zero => rfl
      | succ depth => exact hcons depth
    · simp only [List.map_cons, enclosed?, isSymbol_unlined, hopen, hclose]
      exact hcons _

theorem typeTextAfter_unlined (before : Option TokenKind) :
    typeTextAfter before (unlined ts) = typeTextAfter before ts := by
  induction ts generalizing before with
  | nil => rfl
  | cons t ts ih =>
    simp only [List.map_cons, typeTextAfter, kind_unlined]
    rw [ih]

theorem typeText_unlined : typeText (unlined ts) = typeText ts := typeTextAfter_unlined ts none

theorem splitAtCommas_unlined (depth : Int) :
    splitAtCommas depth (unlined ts) = (splitAtCommas depth ts).map unlined := by
  induction ts generalizing depth with
  | nil => rfl
  | cons t ts ih =>
    by_cases hcomma : t.isSymbol ',' ∧ depth = 0
    · simp only [List.map_cons, splitAtCommas, isSymbol_unlined, if_pos hcomma, ih]
      rfl
    · simp only [List.map_cons, splitAtCommas, isSymbol_unlined, depthAfter_unlined,
        if_neg hcomma, ih]
      rcases splitAtCommas _ ts with _ | ⟨piece, rest⟩ <;> rfl

theorem dropDefault_unlined (depth : Int) :
    dropDefault depth (unlined ts) = unlined (dropDefault depth ts) := by
  induction ts generalizing depth with
  | nil => rfl
  | cons t ts ih =>
    have ih' := ih (depthAfter ['<', '(', '{'] ['>', ')', '}'] depth t)
    by_cases hequals : t.isSymbol '=' ∧ depth = 0
    · simp [dropDefault, hequals]
    · simpa [dropDefault, hequals] using ih'

theorem isParameterName_unlined (last : Token) :
    isParameterName (unlined ts) last.unlined = isParameterName ts last := by
  simp only [isParameterName, word?_unlined]
  rw [lastAny_unlined ts (·.kind == .scope) fun _ => rfl, any_unlined ts namesType fun _ => rfl]

theorem parameter_unlined : parameter (unlined ts) = parameter ts := by
  simp only [parameter, dropDefault_unlined]
  generalize dropDefault 0 ts = us
  rw [unlined, List.getLast?_map, ← unlined]
  cases hlast : us.getLast? with
  | none => simp only [Option.map_none, typeText_unlined]
  | some last =>
    have hdrop : (unlined us).dropLast = unlined us.dropLast := List.map_dropLast.symm
    simp only [Option.map_some, hdrop, isParameterName_unlined, typeText_unlined, word?_unlined]

theorem parameters_unlined : parameters (unlined ts) = parameters ts := by
  have hmap : (splitAtCommas 0 (unlined ts)).map parameter =
      (splitAtCommas 0 ts).map parameter := by
    rw [splitAtCommas_unlined, List.map_map]
    exact List.map_congr_left fun us _ => parameter_unlined us
  have hempty : (unlined ts).isEmpty = ts.isEmpty := List.isEmpty_map
  simp only [parameters, hmap, hempty]

theorem afterAttribute_unlined : afterAttribute (unlined ts) = unlined (afterAttribute ts) := by
  fun_induction afterAttribute ts with
  | case1 a b ts h => simp [afterAttribute, h]
  | case2 a b ts h ih => simpa [afterAttribute, h] using ih
  | case3 ts h =>
    match ts with
    | [] => rfl
    | [t] => rfl
    | a :: b :: ts => exact absurd rfl (h a b ts)

theorem dropSpecifiers_unlined : dropSpecifiers (unlined ts) = unlined (dropSpecifiers ts) := by
  fun_induction dropSpecifiers ts with
  | case1 => simp [dropSpecifiers]
  | case2 t ts h ih =>
    have hhead : (unlined ts).head?.any (·.isSymbol '[') = true := by
      rw [headAny_unlined ts (·.isSymbol '[') fun _ => rfl, h.2]
    have hdrop : (unlined ts).drop 1 = unlined (ts.drop 1) := List.map_drop.symm
    rw [unlined, List.map_cons, dropSpecifiers, if_pos ⟨h.1, hhead⟩, hdrop, afterAttribute_unlined,
      ih]
  | case3 t ts h h' ih =>
    have hne : ¬(t.unlined.isSymbol '[' ∧ (unlined ts).head?.any (·.isSymbol '[') = true) := by
      rwa [headAny_unlined ts (·.isSymbol '[') fun _ => rfl]
    rw [unlined, List.map_cons, dropSpecifiers, if_neg hne, if_pos (by exact h'), ih]
  | case4 t ts h h' ih =>
    have hne : ¬(t.unlined.isSymbol '[' ∧ (unlined ts).head?.any (·.isSymbol '[') = true) := by
      rwa [headAny_unlined ts (·.isSymbol '[') fun _ => rfl]
    rw [unlined, List.map_cons, dropSpecifiers, if_neg hne, isOneOf_unlined, if_neg h', ih]
    rfl

theorem afterArrow?_unlined : afterArrow? (unlined ts) = (afterArrow? ts).map unlined := by
  fun_induction afterArrow? ts with
  | case1 a b ts h => simp [afterArrow?, h]
  | case2 a b ts h ih => simpa [afterArrow?, h] using ih
  | case3 ts h =>
    match ts with
    | [] => rfl
    | [t] => rfl
    | a :: b :: ts => exact absurd rfl (h a b ts)

theorem resultText_unlined (before after : List Token) :
    resultText (unlined before) (unlined after) = resultText before after := by
  simp only [resultText, dropSpecifiers_unlined, typeText_unlined, afterArrow?_unlined]
  rcases afterArrow? after with _ | tail
  · rfl
  · simp only [Option.map_some]
    rw [takeWhile_unlined tail _ fun _ => rfl, typeText_unlined]

theorem splitSignature?_unlined :
    splitSignature? (unlined ts) =
      (splitSignature? ts).map (Prod.map unlined (Prod.map unlined unlined)) := by
  have hdrop := dropWhile_unlined ts (!·.isSymbol '(') fun _ => rfl
  have htake := takeWhile_unlined ts (!·.isSymbol '(') fun _ => rfl
  simp only [splitSignature?, hdrop, htake]
  cases ts.dropWhile (!·.isSymbol '(') with
  | nil => rfl
  | cons t inside =>
    simp only [List.map_cons]
    rw [enclosed?_unlined, Option.map_map, Option.map_map]
    rfl

theorem hasInitializers_unlined : hasInitializers (unlined ts) = hasInitializers ts := by
  rw [hasInitializers, hasInitializers, splitSignature?_unlined, Option.any_map]
  congr 1
  funext ⟨before, inside, after⟩
  exact any_unlined after (·.isSymbol ':') fun _ => rfl

/-- The method that is declared by the tokens before, between and after its parentheses, given the
line of the first token. -/
def methodOf? (className : String) (isPublic : Bool) (line : Nat)
    (before inside after : List Token) :
    Option Method :=
  (before.getLast?.bind Token.word?).bind fun word =>
    let front := before.dropLast
    let destructor := front.getLast?.any (·.isSymbol '~')
    let name := if destructor then "~" ++ word else word
    let result := resultText (if destructor then front.dropLast else front) after
    if typeWords.contains word then none
    else if result.isEmpty && name != className && !destructor then none
    else some ⟨name, line, result, parameters inside, isPublic⟩

omit ts in
theorem method?_eq (className : String) (isPublic : Bool) (ts : List Token) :
    method? className isPublic ts =
      if ts.any (·.isWord "operator") then none
      else (splitSignature? ts).bind fun (before, inside, after) =>
        methodOf? className isPublic ((ts.head?.map (·.line)).getD 0) before inside after := by
  rw [method?]
  by_cases hoperator : ts.any (·.isWord "operator")
  · rw [if_pos hoperator, if_pos hoperator]
    rfl
  rw [if_neg hoperator, if_neg hoperator]
  rcases splitSignature? ts with _ | ⟨before, inside, after⟩
  · rfl
  simp only [methodOf?, Option.bind_some, bind]
  cases before.getLast? with
  | none => rfl
  | some last =>
    simp only [Option.bind_some]
    cases last.word? with
    | none => rfl
    | some word =>
      simp only [Option.bind_some]
      cases typeWords.contains word with
      | true => rfl
      | false =>
        cases before.dropLast.getLast?.any (·.isSymbol '~') <;>
          simp only [Bool.false_eq_true, if_true, if_false] <;> split <;> rfl

theorem methodOf?_unlined (className : String) (isPublic : Bool) (line : Nat)
    (before inside after : List Token) :
    methodOf? className isPublic 0 (unlined before) (unlined inside) (unlined after) =
      (methodOf? className isPublic line before inside after).map Method.unlined := by
  have hlast : (unlined before).getLast?.bind Token.word? = before.getLast?.bind Token.word? := by
    rw [unlined, List.getLast?_map, Option.bind_map]
    rfl
  have hfront : (unlined before).dropLast = unlined before.dropLast := List.map_dropLast.symm
  have hfront' : (unlined before.dropLast).dropLast = unlined before.dropLast.dropLast :=
    List.map_dropLast.symm
  have hdestructor := lastAny_unlined before.dropLast (·.isSymbol '~') fun _ => rfl
  simp only [methodOf?, hlast, hfront, hfront', hdestructor, parameters_unlined]
  rcases before.getLast?.bind Token.word? with _ | word
  · rfl
  simp only [Option.bind_some]
  have hresult : resultText (if before.dropLast.getLast?.any (·.isSymbol '~') then
      unlined before.dropLast.dropLast else unlined before.dropLast) (unlined after) =
      resultText (if before.dropLast.getLast?.any (·.isSymbol '~') then
        before.dropLast.dropLast else before.dropLast) after := by
    split <;> exact resultText_unlined _ _
  rw [hresult]
  cases typeWords.contains word with
  | true => rfl
  | false =>
    cases before.dropLast.getLast?.any (·.isSymbol '~') <;>
      simp only [Bool.false_eq_true, if_true, if_false] <;> split <;> rfl

theorem method?_unlined (className : String) (isPublic : Bool) :
    method? className isPublic (unlined ts) =
      (method? className isPublic ts).map Method.unlined := by
  have hoperator := any_unlined ts (·.isWord "operator") fun _ => rfl
  have hline : ((unlined ts).head?.map (·.line)).getD 0 = 0 := by
    cases ts <;> rfl
  rw [method?_eq, method?_eq, hoperator, hline, splitSignature?_unlined]
  split
  · rfl
  rcases splitSignature? ts with _ | ⟨before, inside, after⟩
  · rfl
  · exact methodOf?_unlined className isPublic _ before inside after

/-! ### Declarations that are skipped -/

theorem skipFrom_unlined (line parens : Nat) (body : Bool) :
    skipFrom 0 parens body (unlined ts) = unlinedWith unlined (skipFrom line parens body ts) := by
  fun_induction skipFrom line parens body ts with
  | case1 => rw [unlined, List.map_nil, skipFrom]; rfl
  | case2 parens body t ts h ih =>
    rw [unlined, List.map_cons, skipFrom_cons, isSymbol_unlined, if_pos h, ih]
  | case3 parens body t ts h h' ih =>
    simp only [unlined, List.map_cons, skipFrom_cons, isSymbol_unlined]
    rw [if_neg h, if_pos h', ih]
  | case4 parens body t ts h h' hsemicolon =>
    simp only [unlined, List.map_cons, skipFrom_cons, isSymbol_unlined]
    rw [if_neg h, if_neg h', if_pos hsemicolon]
    rfl
  | case5 parens body t ts h h' hsemicolon hclose =>
    simp only [unlined, List.map_cons, skipFrom_cons, isSymbol_unlined]
    rw [if_neg h, if_neg h', if_neg hsemicolon, if_pos hclose]
    rfl
  -- the blocks are the same without lines, and so is what follows them
  | case6 parens body t ts h h' hsemicolon hclose hopen heq =>
    simp only [unlined, List.map_cons, skipFrom_cons, isSymbol_unlined]
    rw [if_neg h, if_neg h', if_neg hsemicolon, if_neg hclose, if_pos hopen, enclosed?_unlined, heq]
    rfl
  | case7 parens body t ts h h' hsemicolon hclose hopen inside after heq hhead =>
    have hhead' := (headAny_unlined after (·.isSymbol ';') fun _ => rfl).trans hhead
    simp only [unlined, List.map_cons, skipFrom_cons, isSymbol_unlined]
    rw [if_neg h, if_neg h', if_neg hsemicolon, if_neg hclose, if_pos hopen, enclosed?_unlined, heq]
    simp only [Option.map_some, Prod.map_apply, hhead', if_true]
    cases after <;> rfl
  | case8 parens t ts h h' hsemicolon hclose hopen inside after heq hhead =>
    have hhead' := headAny_unlined after (·.isSymbol ';') fun _ => rfl
    simp only [unlined, List.map_cons, skipFrom_cons, isSymbol_unlined]
    rw [if_neg h, if_neg h', if_neg hsemicolon, if_neg hclose, if_pos hopen, enclosed?_unlined, heq]
    simp only [Option.map_some, Prod.map_apply, hhead', if_neg hhead, if_true]
    rfl
  | case9 parens body t ts h h' hsemicolon hclose hopen inside after heq hhead hbody ih =>
    have hhead' := headAny_unlined after (·.isSymbol ';') fun _ => rfl
    simp only [unlined, List.map_cons, skipFrom_cons, isSymbol_unlined]
    rw [if_neg h, if_neg h', if_neg hsemicolon, if_neg hclose, if_pos hopen, enclosed?_unlined, heq]
    simp only [Option.map_some, Prod.map_apply, hhead', if_neg hhead, if_neg hbody]
    exact ih
  | case10 parens body t ts h h' hsemicolon hclose hopen ih =>
    simp only [unlined, List.map_cons, skipFrom_cons, isSymbol_unlined]
    rw [if_neg h, if_neg h', if_neg hsemicolon, if_neg hclose, if_neg hopen, precedesBody_unlined]
    exact ih

theorem skipDeclaration_unlined (last : Nat) :
    skipDeclaration 0 (unlined ts) = unlinedWith unlined (skipDeclaration last ts) := by
  have hline : lineOf 0 (unlined ts) = 0 := by
    cases ts <;> rfl
  rw [skipDeclaration, skipDeclaration, hline, skipFrom_unlined]

theorem skipTemplate_unlined :
    skipTemplate (unlined ts) = unlinedWith unlined (skipTemplate ts) := by
  cases ts with
  | nil => rfl
  | cons t ts =>
    simp only [unlined, List.map_cons, skipTemplate, isSymbol_unlined]
    by_cases h : t.isSymbol '<'
    · rw [if_pos h, if_pos h, enclosed?_unlined]
      cases enclosed? '<' '>' 0 ts <;> rfl
    · rw [if_neg h, if_neg h]
      rfl

/-- What is done with a result without lines. -/
theorem bind_unlined {α β : Type} {f : α → α} {g : β → β} {result : Except ParseError α}
    {next next' : α → Except ParseError β} (h : ∀ a, next' (f a) = unlinedWith g (next a)) :
    (unlinedWith f result >>= next') = unlinedWith g (result >>= next) := by
  cases result with
  | error e => rfl
  | ok a => exact h a

theorem map_unlined {α β γ δ : Type} {f : α → γ} {g : β → δ} {result : Except ParseError α}
    {step : α → β} {step' : γ → δ} (h : ∀ a, step' (f a) = g (step a)) :
    (unlinedWith f result).map step' = unlinedWith g (result.map step) := by
  cases result with
  | error e => rfl
  | ok a => exact congrArg Except.ok (h a)

theorem skipTemplate_skipDeclaration_unlined (last : Nat) :
    (skipTemplate (unlined ts) >>= skipDeclaration 0) =
      unlinedWith unlined (skipTemplate ts >>= skipDeclaration last) := by
  rw [skipTemplate_unlined]
  exact bind_unlined fun us => skipDeclaration_unlined us last

/-! ### Members -/

theorem splitMember_unlined (depth : Nat) :
    splitMember depth (unlined ts) = Prod.map unlined unlined (splitMember depth ts) := by
  induction ts generalizing depth with
  | nil => rfl
  | cons t ts ih =>
    simp only [unlined, List.map_cons, splitMember, isSymbol_unlined, memberDepth_unlined]
    split
    · rfl
    · rw [show List.map Token.unlined ts = unlined ts from rfl, ih]
      rfl

theorem nextBrace?_unlined (parens : Nat) (named : Bool) :
    nextBrace? parens named (unlined ts) =
      (nextBrace? parens named ts).map (Prod.map id (Prod.map (fun _ => 0) unlined)) := by
  induction ts generalizing parens named with
  | nil => rfl
  | cons t ts ih =>
    simp only [unlined, List.map_cons, nextBrace?, isSymbol_unlined, word?_unlined]
    split
    · exact ih _ _
    split
    · exact ih _ _
    split
    · rfl
    · exact ih _ _

theorem lineOf_unlined : lineOf 0 (unlined ts) = 0 := by
  cases ts <;> rfl

theorem skipInitializers_unlined (last : Nat) (named : Bool) (line : Nat) :
    skipInitializers 0 named 0 (unlined ts) =
      unlinedWith unlined (skipInitializers last named line ts) := by
  fun_induction skipInitializers last named line ts with
  | case1 named line ts heq =>
    rw [skipInitializers_eq, enclosed?_unlined, heq]
    rfl
  | case2 line ts inside after heq hnext =>
    rw [skipInitializers_eq, enclosed?_unlined, heq]
    simp only [Option.map_some, Prod.map_apply, nextBrace?_unlined, hnext, lineOf_unlined]
    rfl
  | case3 line ts inside after heq named line' rest hnext ih =>
    rw [skipInitializers_eq, enclosed?_unlined, heq]
    simp only [Option.map_some, Prod.map_apply, nextBrace?_unlined, hnext, if_true]
    exact ih
  | case4 named line ts inside after heq hnamed =>
    rw [skipInitializers_eq, enclosed?_unlined, heq]
    simp only [Option.map_some, Prod.map_apply, if_neg hnamed]
    rfl

theorem skipMemberEnd_unlined (last : Nat) (className : String) (head : List Token)
    (isMethod : Bool) :
    skipMemberEnd 0 className (unlined head) isMethod (unlined ts) =
      unlinedWith unlined (skipMemberEnd last className head isMethod ts) := by
  cases ts with
  | nil =>
    simp only [unlined, List.map_nil, skipMemberEnd]
    rw [show List.map Token.unlined head = unlined head from rfl, lineOf_unlined]
    rfl
  | cons t ts =>
    have hnamed := lastAny_unlined head (fun t => t.word?.isSome || t.isSymbol '>') fun t => by simp
    simp only [unlined, List.map_cons, skipMemberEnd, isSymbol_unlined]
    simp only [show List.map Token.unlined ts = unlined ts from rfl,
      show List.map Token.unlined head = unlined head from rfl, hasInitializers_unlined, hnamed]
    split
    · rfl
    split
    · split
      · exact skipInitializers_unlined ts last _ _
      · rw [enclosed?_unlined]
        rcases enclosed? '{' '}' 0 ts with _ | ⟨inside, after⟩
        · rfl
        · simp only [Option.map_some, Prod.map_apply]
          split
          · exact skipDeclaration_unlined after last
          · rw [headAny_unlined after (·.isSymbol ';') fun _ => isSymbol_unlined _ _]
            split
            · cases after <;> rfl
            · rfl
    · rfl

theorem member_unlined (last : Nat) (className : String) (isPublic : Bool) :
    member 0 className isPublic (unlined ts) =
      unlinedWith (Prod.map (Option.map Method.unlined) unlined)
        (member last className isPublic ts) := by
  simp only [member, splitMember_unlined, Prod.map_fst, Prod.map_snd, method?_unlined,
    Option.isSome_map]
  rw [skipMemberEnd_unlined _ last]
  exact map_unlined fun _ => rfl

/-! ### Classes -/

/-- What a step yields without the number of its line. -/
def BodyItem.unlined : BodyItem → BodyItem
  | .method found => .method found.unlined
  | item => item

theorem bodyItem_unlined (last : Nat) (className : String) (isPublic : Bool) (t : Token) :
    bodyItem 0 className isPublic t.unlined (unlined ts) =
      unlinedWith (Prod.map BodyItem.unlined unlined) (bodyItem last className isPublic t ts) := by
  have hhead := headAny_unlined ts (·.isSymbol ':') fun _ => isSymbol_unlined _ _
  have hcons : t.unlined :: unlined ts = unlined (t :: ts) := rfl
  simp only [bodyItem, isSymbol_unlined, isOneOf_unlined, isWord_unlined, hhead, hcons]
  split
  · rfl
  split
  · rfl
  split
  · cases ts <;> rfl
  split
  · rw [skipTemplate_skipDeclaration_unlined ts last]
    exact map_unlined fun _ => rfl
  split
  · rw [skipDeclaration_unlined (t :: ts) last]
    exact map_unlined fun _ => rfl
  · rw [member_unlined (t :: ts) last]
    refine map_unlined fun ⟨found, rest⟩ => ?_
    cases found <;> rfl

theorem classBody_unlined (last line : Nat) (className : String) (isPublic : Bool) :
    classBody 0 0 className isPublic (unlined ts) =
      unlinedWith (Prod.map (List.map Method.unlined) unlined)
        (classBody last line className isPublic ts) := by
  fun_induction classBody last line className isPublic ts with
  | case1 => rw [unlined, List.map_nil, classBody]; rfl
  | case2 isPublic t ts e hitem =>
    rw [unlined, List.map_cons, classBody_cons, bodyItem_unlined ts last, hitem]
    rfl
  | case3 isPublic t ts rest hitem =>
    rw [unlined, List.map_cons, classBody_cons, bodyItem_unlined ts last, hitem]
    rfl
  | case4 isPublic t ts isPublic' rest hitem ih =>
    rw [unlined, List.map_cons, classBody_cons, bodyItem_unlined ts last, hitem]
    exact ih
  | case5 isPublic t ts rest hitem ih =>
    rw [unlined, List.map_cons, classBody_cons, bodyItem_unlined ts last, hitem]
    exact ih
  | case6 isPublic t ts found rest hitem ih =>
    rw [unlined, List.map_cons, classBody_cons, bodyItem_unlined ts last, hitem]
    simp only [unlinedWith, Prod.map_apply, BodyItem.unlined, ih]
    exact map_unlined fun _ => rfl

theorem afterClass_unlined : afterClass (unlined ts) = unlined (afterClass ts) := by
  rw [afterClass, dropWhile_unlined ts (!·.isSymbol ';') fun _ => by simp, afterClass, unlined,
    unlined, List.map_drop]

theorem classDeclaration_unlined (last : Nat) (keyword : Token) :
    classDeclaration 0 keyword.unlined (unlined ts) =
      unlinedWith (Prod.map (Option.map Class.unlined) unlined)
        (classDeclaration last keyword ts) := by
  have hskip (us : List Token) :
      ((skipDeclaration 0 (unlined us)).map fun rest => ((none : Option Class), rest)) =
        unlinedWith (Prod.map (Option.map Class.unlined) unlined)
          ((skipDeclaration last us).map fun rest => (none, rest)) := by
    rw [skipDeclaration_unlined us last]
    exact map_unlined fun _ => rfl
  cases ts with
  | nil => exact hskip []
  | cons t ts =>
    have hdrop := dropWhile_unlined ts (fun t => !(t.isSymbol '{' || t.isSymbol ';'))
      fun _ => by simp
    simp only [unlined, List.map_cons, classDeclaration, word?_unlined]
    simp only [show List.map Token.unlined ts = unlined ts from rfl, hdrop]
    cases t.word? with
    | none => exact hskip (t :: ts)
    | some name =>
      cases ts.dropWhile fun t => !(t.isSymbol '{' || t.isSymbol ';') with
      | nil => rfl
      | cons brace body =>
        simp only [unlined, List.map_cons, isSymbol_unlined]
        split
        · rfl
        · simp only [show List.map Token.unlined body = unlined body from rfl, isWord_unlined,
            line_unlined]
          rw [classBody_unlined body last keyword.line]
          refine map_unlined fun read => ?_
          exact congrArg (Prod.mk _) (afterClass_unlined read.2)

theorem topItem_unlined (last : Nat) (t : Token) :
    topItem 0 t.unlined (unlined ts) =
      unlinedWith (Prod.map (Option.map Class.unlined) unlined) (topItem last t ts) := by
  have hskip {result result' : Except ParseError (List Token)}
      (h : result' = unlinedWith unlined result) :
      (result'.map fun rest => ((none : Option Class), rest)) =
        unlinedWith (Prod.map (Option.map Class.unlined) unlined)
          (result.map fun rest => (none, rest)) := by
    rw [h]
    exact map_unlined fun _ => rfl
  -- no question that is asked of a token reads its line
  have hdrop := dropWhile_unlined ts
    (fun t => !(t.isSymbol '{' || t.isSymbol ';' || t.isSymbol '=')) fun _ => by simp
  have hliteral := headAny_unlined ts (·.kind == .literal) fun _ => rfl
  have hbrace := headAny_unlined ts.tail (·.isSymbol '{') fun _ => isSymbol_unlined _ _
  have htail (us : List Token) : (unlined us).tail = unlined us.tail := by
    cases us <;> rfl
  have hcons : t.unlined :: unlined ts = unlined (t :: ts) := rfl
  simp only [topItem, isSymbol_unlined, isOneOf_unlined, isWord_unlined, hdrop, hliteral, htail,
    hbrace, hcons]
  split
  · cases ts.dropWhile fun t => !(t.isSymbol '{' || t.isSymbol ';' || t.isSymbol '=') with
    | nil => exact hskip (skipDeclaration_unlined [] last)
    | cons u us =>
      simp only [unlined, List.map_cons, isSymbol_unlined]
      split
      · rfl
      · exact hskip (skipDeclaration_unlined (u :: us) last)
  split
  · split <;> rfl
  split
  · exact hskip (skipTemplate_skipDeclaration_unlined ts last)
  split
  · exact classDeclaration_unlined ts last t
  split
  · rfl
  · exact hskip (skipDeclaration_unlined (t :: ts) last)

/-- What a header declares depends on the lines of its tokens only for the numbers of lines. -/
theorem topLevel_unlined (last : Nat) :
    topLevel 0 (unlined ts) = unlinedWith (List.map Class.unlined) (topLevel last ts) := by
  fun_induction topLevel last ts with
  | case1 => rw [unlined, List.map_nil, topLevel]; rfl
  | case2 t ts e hitem =>
    rw [unlined, List.map_cons, topLevel_cons, topItem_unlined ts last, hitem]
    rfl
  | case3 t ts found rest hitem ih =>
    rw [unlined, List.map_cons, topLevel_cons, topItem_unlined ts last, hitem]
    simp only [unlinedWith, Prod.map_apply, ih]
    exact map_unlined fun classes => by cases found <;> simp

/-- Headers with tokens of the same kinds declare the same, but for the numbers of lines. -/
theorem topLevel_of_kinds {last last' : Nat} {ts ts' : List Token}
    (h : ts'.map (·.kind) = ts.map (·.kind)) :
    unlinedWith (List.map Class.unlined) (topLevel last' ts') =
      unlinedWith (List.map Class.unlined) (topLevel last ts) := by
  rw [← topLevel_unlined, ← topLevel_unlined, unlined_eq_iff.2 h]

end Instrument.Header
