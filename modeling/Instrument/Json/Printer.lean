import Instrument.Json.Tree

/-!
Writing JSON texts, one item on each line, each level two blanks further in.
-/

namespace Instrument.Json

/-- A character in a string. -/
def escape (c : Char) : List Char :=
  match c with
  | '"' => ['\\', '"']
  | '\\' => ['\\', '\\']
  | '\x08' => ['\\', 'b']
  | '\x0c' => ['\\', 'f']
  | '\n' => ['\\', 'n']
  | '\r' => ['\\', 'r']
  | '\t' => ['\\', 't']
  | _ =>
    if c.toNat < 0x20 then
      ['\\', 'u', '0', '0', Nat.digitChar (c.toNat / 16), Nat.digitChar (c.toNat % 16)]
    else [c]

/-- A text as a string. -/
def quote (s : String) : List Char := '"' :: s.toList.flatMap escape ++ ['"']

/-- A number as it is written. -/
def Numeral.text (n : Numeral) : List Char :=
  (if n.negative then ['-'] else []) ++ n.whole ++
    (if n.fraction.isEmpty then [] else '.' :: n.fraction) ++
    (match n.exponent? with
      | none => []
      | some (negative, digits) => 'e' :: (if negative then ['-'] else []) ++ digits)

/-- The beginning of a line at a given level. -/
def newline (level : Nat) : List Char := '\n' :: List.replicate (2 * level) ' '

mutual

/-- The text of a tree at a given level. -/
def Tree.render (level : Nat) : Tree → List Char
  | .null => "null".toList
  | .bool true => "true".toList
  | .bool false => "false".toList
  | .number n => n.text
  | .string text? => quote (text?.getD "")
  | .array [] => ['[', ']']
  | .array (first :: more) =>
    '[' :: newline (level + 1) ++ first.render (level + 1) ++ renderItems (level + 1) more ++
      newline level ++ [']']
  | .object [] => ['{', '}']
  | .object ((key, first) :: more) =>
    '{' :: newline (level + 1) ++ quote (key.getD "") ++ [':', ' '] ++ first.render (level + 1) ++
      renderMembers (level + 1) more ++ newline level ++ ['}']

/-- Items after the first, each with the comma in front of it. -/
def renderItems (level : Nat) : List Tree → List Char
  | [] => []
  | item :: more => ',' :: newline level ++ item.render level ++ renderItems level more

/-- Members after the first, each with the comma in front of it. -/
def renderMembers (level : Nat) : List (Option String × Tree) → List Char
  | [] => []
  | (key, item) :: more =>
    ',' :: newline level ++ quote (key.getD "") ++ [':', ' '] ++ item.render level ++
      renderMembers level more

end

/-- The text of a tree. -/
def Tree.toText (tree : Tree) : List Char := tree.render 0

end Instrument.Json
