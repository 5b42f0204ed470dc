import Instrument.Text.Hidden

/-!
Quoted text: the form in which messages show a text or a character so that every character of it
can be told.
-/

namespace Instrument.Text

/-- The digits of a number in base sixteen. -/
def hex (n : Nat) : List Char := Nat.toDigits 16 n

/-- How a character stands between two marks `mark`. -/
def escape (mark c : Char) : List Char :=
  match c with
  | '\x00' => ['\\', '0']
  | '\t' => ['\\', 't']
  | '\r' => ['\\', 'r']
  | '\n' => ['\\', 'n']
  | _ =>
    if c = mark ∨ c = '\\' then ['\\', c]
    else if isHidden c then ['\\', 'u', '{'] ++ hex c.toNat ++ ['}']
    else [c]

/-- A text between double quotes. -/
def quoted (s : String) : String :=
  String.ofList ('"' :: s.toList.flatMap (escape '"') ++ ['"'])

/-- A character between single quotes. -/
def quotedChar (c : Char) : String :=
  String.ofList ('\'' :: escape '\'' c ++ ['\''])

end Instrument.Text
