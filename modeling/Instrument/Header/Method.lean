import Instrument.Header.Declaration

/-!
Reading the tokens of one member as a method: its name, its parameters and the type of its
result. Main statement of the small lemmas: leaving out specifiers and attributes only ever leaves
fewer tokens.
-/

namespace Instrument.Header

/-- Words in front of a declaration that are no part of a type. -/
def specifiers : List String :=
  ["virtual", "static", "inline", "explicit", "constexpr", "friend", "extern", "mutable"]

/-- Words of types, which cannot name anything. -/
def typeWords : List String :=
  ["void", "bool", "char", "short", "int", "long", "unsigned", "signed", "float", "double",
   "const", "volatile", "auto"]

/-- Words that qualify a type without naming one. -/
def qualifiers : List String := ["const", "volatile"]

/-! ### Parameters -/

/-- How a token changes the depth of brackets, of the kinds `opening` and `closing`. -/
def depthAfter (opening closing : List Char) (depth : Int) (t : Token) : Int :=
  match t.kind with
  | .symbol c =>
    if opening.contains c then depth + 1 else if closing.contains c then depth - 1 else depth
  | _ => depth

/-- The tokens between commas outside all brackets. -/
def splitAtCommas (depth : Int) : List Token → List (List Token)
  | [] => [[]]
  | t :: ts =>
    if t.isSymbol ',' ∧ depth = 0 then [] :: splitAtCommas depth ts
    else
      match splitAtCommas (depthAfter ['<', '(', '{', '['] ['>', ')', '}', ']'] depth t) ts with
      | [] => [[t]]
      | piece :: rest => (t :: piece) :: rest

/-- The tokens of a parameter without its default value. -/
def dropDefault (depth : Int) : List Token → List Token
  | [] => []
  | t :: ts =>
    if t.isSymbol '=' ∧ depth = 0 then []
    else t :: dropDefault (depthAfter ['<', '(', '{'] ['>', ')', '}'] depth t) ts

/-- Whether a token can be what a type consists of. -/
def namesType (t : Token) : Bool :=
  match t.word? with
  | some word => !qualifiers.contains word
  | none => t.kind == .scope || t.isSymbol '>'

/-- Whether `last` is the name of a parameter whose other tokens are `type`. -/
def isParameterName (type : List Token) (last : Token) : Bool :=
  match last.word? with
  | some word =>
    !typeWords.contains word && !type.getLast?.any (·.kind == .scope) && type.any namesType
  | none => false

/-- The parameter that some tokens declare. -/
def parameter (ts : List Token) : Parameter :=
  let ts := dropDefault 0 ts
  match ts.getLast? with
  | some last =>
    if isParameterName ts.dropLast last then ⟨last.word?, typeText ts.dropLast⟩
    else ⟨none, typeText ts⟩
  | none => ⟨none, typeText ts⟩

/-- The parameters that a list between parentheses declares; `void` alone declares none. -/
def parameters (ts : List Token) : List Parameter :=
  if ts.isEmpty then []
  else
    match (splitAtCommas 0 ts).map parameter with
    | [⟨none, "void"⟩] => []
    | all => all

/-! ### The result -/

/-- The tokens after the two brackets that close an attribute. -/
def afterAttribute : List Token → List Token
  | a :: b :: ts => if a.isSymbol ']' ∧ b.isSymbol ']' then ts else afterAttribute (b :: ts)
  | _ => []

theorem length_afterAttribute_le (ts : List Token) : (afterAttribute ts).length ≤ ts.length := by
  fun_induction afterAttribute ts <;> simp_all <;> omega

/-- The tokens without attributes and specifiers. -/
def dropSpecifiers : List Token → List Token
  | [] => []
  | t :: ts =>
    if t.isSymbol '[' ∧ ts.head?.any (·.isSymbol '[') then
      dropSpecifiers (afterAttribute (ts.drop 1))
    else if t.isOneOf specifiers then dropSpecifiers ts
    else t :: dropSpecifiers ts
termination_by ts => ts.length
decreasing_by
  · have := length_afterAttribute_le (ts.drop 1)
    simp only [List.length_drop, List.length_cons] at *
    omega
  · simp
  · simp

/-- The tokens after the first arrow. -/
def afterArrow? : List Token → Option (List Token)
  | a :: b :: ts => if a.isSymbol '-' ∧ b.isSymbol '>' then some ts else afterArrow? (b :: ts)
  | _ => none

/-- The text of the type of a result: `auto` gives way to the type after an arrow. -/
def resultText (before after : List Token) : String :=
  let text := typeText (dropSpecifiers before)
  match afterArrow? after with
  | some tail =>
    if text = "auto" then
      typeText (tail.takeWhile fun t => !(t.isOneOf ["override", "final"] || t.isSymbol '='))
    else text
  | none => text

/-! ### The method -/

/-- The tokens before the first parenthesis, those in the pair that it opens, and those after. -/
def splitSignature? (ts : List Token) : Option (List Token × List Token × List Token) :=
  match ts.dropWhile (!·.isSymbol '(') with
  | [] => none
  | _ :: inside =>
    (enclosed? '(' ')' 0 inside).map fun (inside, after) =>
      (ts.takeWhile (!·.isSymbol '('), inside, after)

/-- The method that the tokens of a member declare. Only constructors and destructors have no
result; operators are left out. -/
def method? (className : String) (isPublic : Bool) (ts : List Token) : Option Method := do
  if ts.any (·.isWord "operator") then none
  let (before, inside, after) ← splitSignature? ts
  let word ← (← before.getLast?).word?
  if typeWords.contains word then none
  let front := before.dropLast
  let destructor := front.getLast?.any (·.isSymbol '~')
  let name := if destructor then "~" ++ word else word
  let result := resultText (if destructor then front.dropLast else front) after
  if result.isEmpty && name != className && !destructor then none
  return {
    name := name
    line := (ts.head?.map (·.line)).getD 0
    returnType := result
    parameters := parameters inside
    isPublic := isPublic }

/-- Whether initial values of members stand between a constructor's parameters and its body. -/
def hasInitializers (ts : List Token) : Bool :=
  (splitSignature? ts).any fun (_, _, after) => after.any (·.isSymbol ':')

end Instrument.Header
