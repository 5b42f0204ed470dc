import Instrument.Header.Token

/-!
What a header declares: classes, their methods, and the parameters of those; and the canonical
text of a type.
-/

namespace Instrument.Header

/-- A declared parameter; it need not have a name. -/
structure Parameter where
  name? : Option String
  type : String
deriving DecidableEq, Repr

/-- A declared method, with the line of its first token. -/
structure Method where
  name : String
  line : Nat
  returnType : String
  parameters : List Parameter
  isPublic : Bool
deriving DecidableEq, Repr

/-- A declared class, with the line of its keyword. -/
structure Class where
  name : String
  line : Nat
  methods : List Method
deriving DecidableEq, Repr

/-! ### Brackets -/

/-- What stands before the bracket that closes `depth` inner pairs and one outer pair, and what
follows it. -/
def enclosed? (opening closing : Char) : Nat → List Token → Option (List Token × List Token)
  | _, [] => none
  | depth, t :: ts =>
    if t.isSymbol opening then
      (enclosed? opening closing (depth + 1) ts).map fun (inside, rest) => (t :: inside, rest)
    else if t.isSymbol closing then
      match depth with
      | 0 => some ([], ts)
      | depth + 1 =>
        (enclosed? opening closing depth ts).map fun (inside, rest) => (t :: inside, rest)
    else (enclosed? opening closing depth ts).map fun (inside, rest) => (t :: inside, rest)

theorem eq_append_of_enclosed? {opening closing : Char} {depth : Nat} {ts inside rest : List Token}
    (h : enclosed? opening closing depth ts = some (inside, rest)) :
    ∃ close : Token, close.isSymbol closing ∧ ts = inside ++ close :: rest := by
  fun_induction enclosed? opening closing depth ts generalizing inside rest with
  | case1 => simp at h
  | case2 depth t ts _ ih | case4 t ts _ _ depth ih | case5 depth t ts _ _ ih =>
    obtain ⟨⟨inside', rest'⟩, hsub, heq⟩ := Option.map_eq_some_iff.1 h
    cases heq
    obtain ⟨close, hclose, happ⟩ := ih hsub
    exact ⟨close, hclose, by simp [happ]⟩
  | case3 t ts _ hclose =>
    cases h
    exact ⟨t, hclose, rfl⟩

theorem length_lt_of_enclosed? {opening closing : Char} {depth : Nat} {ts inside rest : List Token}
    (h : enclosed? opening closing depth ts = some (inside, rest)) : rest.length < ts.length := by
  obtain ⟨_, _, rfl⟩ := eq_append_of_enclosed? h
  simp
  omega

/-! ### Types as text -/

/-- Whether a blank separates a token from a word that follows it. -/
def TokenKind.separatesWord : TokenKind → Bool
  | .word _ | .number _ => true
  | .symbol c => c == '*' || c == '&' || c == '>'
  | _ => false

/-- The text of a type whose tokens follow a token `before`. -/
def typeTextAfter (before : Option TokenKind) : List Token → String
  | [] => ""
  | t :: ts =>
    let text := match t.kind with
      | .word w | .number w => if before.any (·.separatesWord) then " " ++ w else w
      | .literal => ""
      | .scope => "::"
      | .symbol ',' => ", "
      | .symbol c =>
        if (c == '*' || c == '&') && before.any (fun k => k != .symbol '*' && k != .symbol '&') then
          " " ++ c.toString
        else c.toString
    text ++ typeTextAfter (some t.kind) ts

/-- The canonical text of a type: single blanks between words, a blank before the first of some
pointer and reference marks, and a blank after each comma. -/
def typeText (ts : List Token) : String := typeTextAfter none ts

end Instrument.Header
