import Instrument.Text.Letter
import Instrument.Text.Blank

/-!
Tokens of device headers and the scanner that finds them. Blanks, comments and preprocessor lines
separate tokens; a token carries the physical line on which it begins. Main statement of the small
lemmas: whatever is skipped leaves a rest that is not longer than what was there.
-/

namespace Instrument.Header

/-- What a header can fail to say. -/
inductive ParseFault where
  | unterminatedComment
  | unterminatedLiteral
  | unterminatedClass (name : String)
  | unclosedClass (name : String)
  | unterminatedMember (className : String)
  | unterminatedDeclaration
  | unterminatedConstructor
  | unbalancedBraces
  | unbalancedTemplate
  | noClass
  | classCount (found : Nat)
deriving DecidableEq, Repr

/-- A fault and the line on which what is at fault begins. -/
structure ParseError where
  line : Nat
  fault : ParseFault
deriving DecidableEq, Repr

/-- The fault in words. -/
def ParseFault.message : ParseFault → String
  | unterminatedComment => "unterminated comment"
  | unterminatedLiteral => "unterminated literal"
  | unterminatedClass name => "unterminated declaration of " ++ name
  | unclosedClass name => "missing '\x7d' closing class " ++ name
  | unterminatedMember className => "unterminated member of " ++ className
  | unterminatedDeclaration => "unterminated declaration"
  | unterminatedConstructor => "unterminated constructor"
  | unbalancedBraces => "unbalanced braces"
  | unbalancedTemplate => "unbalanced template parameter list"
  | noClass => "no class declaration found"
  | classCount found => "expected one class declaration, found " ++ toString found

/-- What a token is. -/
inductive TokenKind where
  | word (text : String)
  | number (text : String)
  /-- A text or character literal; what it says does not matter. -/
  | literal
  /-- Two colons. -/
  | scope
  | symbol (c : Char)
deriving DecidableEq, Repr

/-- A token and the line on which it begins, counted from 1. -/
structure Token where
  kind : TokenKind
  line : Nat
deriving DecidableEq, Repr

namespace Token

/-- Whether the token is a given symbol. -/
def isSymbol (t : Token) (c : Char) : Bool := t.kind == .symbol c

/-- Whether the token is a given word. -/
def isWord (t : Token) (text : String) : Bool := t.kind == .word text

/-- The text of a word. -/
def word? (t : Token) : Option String :=
  match t.kind with
  | .word text => some text
  | _ => none

/-- Whether the token is one of some words. -/
def isOneOf (t : Token) (words : List String) : Bool := t.word?.any words.contains

end Token

/-! ### What separates tokens -/

/-- The rest of a preprocessor line from its end on, and the line that is reached; a backslash
before the end continues the preprocessor line. -/
def skipDirective (line : Nat) : List Char → List Char × Nat
  | [] => ([], line)
  | '\n' :: cs => ('\n' :: cs, line)
  | '\\' :: '\n' :: cs => skipDirective (line + 1) cs
  | _ :: cs => skipDirective line cs

/-- What follows a comment after its opening, and the line that is reached. -/
def skipComment? (line : Nat) : List Char → Option (List Char × Nat)
  | [] => none
  | '*' :: '/' :: cs => some (cs, line)
  | '\n' :: cs => skipComment? (line + 1) cs
  | _ :: cs => skipComment? line cs

/-- The line after a character. -/
def lineAfter (c : Char) (line : Nat) : Nat := if c = '\n' then line + 1 else line

/-- What follows a literal after its opening `mark`, and the line that is reached; a character
after a backslash does not close the literal. -/
def skipLiteral? (mark : Char) (line : Nat) : List Char → Option (List Char × Nat)
  | [] => none
  | [c] => if c = mark then some ([], line) else none
  | c :: d :: cs =>
    if c = mark then some (d :: cs, line)
    else if c = '\\' then skipLiteral? mark (lineAfter d line) cs
    else skipLiteral? mark (lineAfter c line) (d :: cs)

theorem length_skipDirective_le (line : Nat) (cs : List Char) :
    (skipDirective line cs).1.length ≤ cs.length := by
  fun_induction skipDirective line cs <;> simp_all <;> omega

theorem length_le_of_skipComment? {line line' : Nat} {cs rest : List Char}
    (h : skipComment? line cs = some (rest, line')) : rest.length ≤ cs.length := by
  fun_induction skipComment? line cs <;> simp_all <;> omega

theorem length_le_of_skipLiteral? {mark : Char} {line line' : Nat} {cs rest : List Char}
    (h : skipLiteral? mark line cs = some (rest, line')) : rest.length ≤ cs.length := by
  fun_induction skipLiteral? mark line cs <;> simp_all <;> omega

theorem length_dropWhile_le {α : Type} (p : α → Bool) (l : List α) :
    (l.dropWhile p).length ≤ l.length :=
  (List.dropWhile_suffix p).length_le

/-! ### The scanner -/

/-- A character that continues a number. -/
def isNumberChar (c : Char) : Bool := Text.isWordChar c || c == '.'

/-- The tokens of a text that begins on line `line`; `fresh` tells that no token precedes it on
its line, so that a number sign opens a preprocessor line. -/
def scan (line : Nat) (fresh : Bool) (cs : List Char) : Except ParseError (List Token) :=
  match cs with
  | [] => .ok []
  | c :: rest =>
    if c = '\n' then scan (line + 1) true rest
    else if Text.isBlank c then scan line fresh rest
    else if c = '#' ∧ fresh then
      scan (skipDirective line rest).2 fresh (skipDirective line rest).1
    else if c = '/' ∧ rest.head? = some '/' then scan line fresh (rest.dropWhile (· != '\n'))
    else if c = '/' ∧ rest.head? = some '*' then
      match _h : skipComment? line (rest.drop 1) with
      | none => .error ⟨line, .unterminatedComment⟩
      | some (rest, line') => scan line' fresh rest
    else if c = '"' ∨ c = '\'' then
      match _h : skipLiteral? c line rest with
      | none => .error ⟨line, .unterminatedLiteral⟩
      | some (rest, line') => (scan line' false rest).map (⟨.literal, line⟩ :: ·)
    else if Text.isAlphabetic c ∨ c = '_' then
      let text := String.ofList (c :: rest.takeWhile Text.isWordChar)
      (scan line false (rest.dropWhile Text.isWordChar)).map (⟨.word text, line⟩ :: ·)
    else if c.isDigit then
      let text := String.ofList (c :: rest.takeWhile isNumberChar)
      (scan line false (rest.dropWhile isNumberChar)).map (⟨.number text, line⟩ :: ·)
    else if c = ':' ∧ rest.head? = some ':' then
      (scan line false (rest.drop 1)).map (⟨.scope, line⟩ :: ·)
    else (scan line false rest).map (⟨.symbol c, line⟩ :: ·)
termination_by cs.length
decreasing_by
  · simp
  · simp
  · have := length_skipDirective_le line rest
    simp only [List.length_cons]
    omega
  · have := length_dropWhile_le (· != '\n') rest
    simp only [List.length_cons]
    omega
  · have := length_le_of_skipComment? _h
    simp only [List.length_drop] at this
    simp only [List.length_cons]
    omega
  · have := length_le_of_skipLiteral? _h
    simp only [List.length_cons]
    omega
  · have := length_dropWhile_le Text.isWordChar rest
    simp only [List.length_cons]
    omega
  · have := length_dropWhile_le isNumberChar rest
    simp only [List.length_cons]
    omega
  · simp only [List.length_cons, List.length_drop]
    omega
  · simp

theorem scan_newline {line : Nat} {fresh : Bool} {cs : List Char} :
    scan line fresh ('\n' :: cs) = scan (line + 1) true cs := by
  rw [scan]
  rfl

/-- The tokens of a header. -/
def tokens (source : List Char) : Except ParseError (List Token) := scan 1 true source

end Instrument.Header
