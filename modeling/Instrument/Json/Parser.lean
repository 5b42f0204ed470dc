import Instrument.Json.Tree
import Instrument.Text.Blank

/-!
Reading JSON texts. The reader accepts the whole grammar and nothing else; how much of it a reader
of values accepts is decided later, on the tree.
-/

namespace Instrument.Json

/-- The four blank characters of JSON. -/
def isSpace (c : Char) : Bool := c == ' ' || c == '\n' || c == '\t' || c == '\r'

/-- The text from its first character that is not blank. -/
def skipSpace (cs : List Char) : List Char := cs.dropWhile isSpace

/-! ### Strings -/

/-- The value of a hexadecimal digit. -/
def hexDigit? (c : Char) : Option Nat :=
  if c.isDigit then some (c.toNat - '0'.toNat)
  else if 'a' ≤ c ∧ c ≤ 'f' then some (c.toNat - 'a'.toNat + 10)
  else if 'A' ≤ c ∧ c ≤ 'F' then some (c.toNat - 'A'.toNat + 10)
  else none

/-- The value of four hexadecimal digits. -/
def hexUnit? (a b c d : Char) : Option Nat := do
  return 4096 * (← hexDigit? a) + 256 * (← hexDigit? b) + 16 * (← hexDigit? c) + (← hexDigit? d)

/-- The character that a letter after a backslash stands for. -/
def escaped? : Char → Option Char
  | '"' => some '"'
  | '\\' => some '\\'
  | '/' => some '/'
  | 'b' => some '\x08'
  | 'f' => some '\x0c'
  | 'n' => some '\n'
  | 'r' => some '\r'
  | 't' => some '\t'
  | _ => none

/-- A part of a string: a character, or the number after `\u`. -/
inductive Piece where
  | char (c : Char)
  | unit (n : Nat)
deriving DecidableEq, Repr

/-- The parts of a string after its opening quote, and what follows its closing quote. -/
def pieces : List Char → Option (List Piece × List Char)
  | [] => none
  | '"' :: rest => some ([], rest)
  | '\\' :: 'u' :: a :: b :: c :: d :: rest => do
    let n ← hexUnit? a b c d
    let (more, rest) ← pieces rest
    return (.unit n :: more, rest)
  | '\\' :: c :: rest => do
    let c ← escaped? c
    let (more, rest) ← pieces rest
    return (.char c :: more, rest)
  | c :: rest => do
    if c.toNat < 0x20 then none
    let (more, rest) ← pieces rest
    return (.char c :: more, rest)

/-- Whether a number is the first half of a surrogate pair. -/
def isHighSurrogate (n : Nat) : Bool := 0xd800 ≤ n && n < 0xdc00

/-- Whether a number is the second half of a surrogate pair. -/
def isLowSurrogate (n : Nat) : Bool := 0xdc00 ≤ n && n < 0xe000

/-- The text of the parts of a string; `none` if half of a surrogate pair stands alone. -/
def assemble? : List Piece → Option (List Char)
  | [] => some []
  | .char c :: rest => (assemble? rest).map (c :: ·)
  | .unit n :: .unit m :: rest =>
    if isHighSurrogate n && isLowSurrogate m then
      (assemble? rest).map (Char.ofNat (0x10000 + 1024 * (n - 0xd800) + (m - 0xdc00)) :: ·)
    else if isHighSurrogate n || isLowSurrogate n then none
    else (assemble? (.unit m :: rest)).map (Char.ofNat n :: ·)
  | .unit n :: rest =>
    if isHighSurrogate n || isLowSurrogate n then none
    else (assemble? rest).map (Char.ofNat n :: ·)

/-- A string after its opening quote, and what follows its closing quote. -/
def stringBody (cs : List Char) : Option (Option String × List Char) :=
  (pieces cs).map fun (parts, rest) => ((assemble? parts).map String.ofList, rest)

/-! ### Numbers -/

/-- At least one digit, and the rest. -/
def digits? (cs : List Char) : Option (List Char × List Char) :=
  let digits := cs.takeWhile Char.isDigit
  if digits.isEmpty then none else some (digits, cs.dropWhile Char.isDigit)

/-- The part of a number before its point. A number begins with zero only if that is its only
digit there. -/
def wholePart? : List Char → Option (List Char × List Char)
  | '0' :: rest => some (['0'], rest)
  | cs => digits? cs

/-- The digits after a point, if there is one. -/
def fractionPart? : List Char → Option (List Char × List Char)
  | '.' :: rest => digits? rest
  | cs => some ([], cs)

/-- The exponent of a number, if there is one. -/
def exponentPart? (cs : List Char) : Option (Option (Bool × List Char) × List Char) :=
  let signed (rest : List Char) : Option (Option (Bool × List Char) × List Char) :=
    let (negative, rest) := match rest with
      | '-' :: rest => (true, rest)
      | '+' :: rest => (false, rest)
      | rest => (false, rest)
    (digits? rest).map fun (digits, rest) => (some (negative, digits), rest)
  match cs with
  | 'e' :: rest | 'E' :: rest => signed rest
  | cs => some (none, cs)

/-- A number and the rest. -/
def numeral? (cs : List Char) : Option (Numeral × List Char) := do
  let (negative, cs) := match cs with
    | '-' :: rest => (true, rest)
    | cs => (false, cs)
  let (whole, cs) ← wholePart? cs
  let (fraction, cs) ← fractionPart? cs
  let (exponent?, cs) ← exponentPart? cs
  return (⟨negative, whole, fraction, exponent?⟩, cs)

/-- The words that are values. -/
def literals : List (List Char × Tree) :=
  [("null".toList, .null), ("true".toList, .bool true), ("false".toList, .bool false)]

/-- A word or a number, and the rest. -/
def atom? (cs : List Char) : Option (Tree × List Char) :=
  (literals.findSome? fun (word, tree) => (Text.after? word cs).map fun rest => (tree, rest)).or
    ((numeral? cs).map fun (n, rest) => (.number n, rest))

/-! ### Values -/

mutual

/-- A value and the rest. Each step takes one of `fuel`, and no more than two steps lie between
two characters. -/
def value? : Nat → List Char → Option (Tree × List Char)
  | 0, _ => none
  | fuel + 1, cs =>
    match skipSpace cs with
    | '"' :: cs => (stringBody cs).map fun (text?, rest) => (.string text?, rest)
    | '[' :: cs =>
      match skipSpace cs with
      | ']' :: rest => some (.array [], rest)
      | cs => (items? fuel cs).map fun (items, rest) => (.array items, rest)
    | '{' :: cs =>
      match skipSpace cs with
      | '}' :: rest => some (.object [], rest)
      | cs => (members? fuel cs).map fun (members, rest) => (.object members, rest)
    | cs => atom? cs

/-- The items of an array up to its closing bracket, and the rest. -/
def items? : Nat → List Char → Option (List Tree × List Char)
  | 0, _ => none
  | fuel + 1, cs => do
    let (first, rest) ← value? fuel cs
    match skipSpace rest with
    | ']' :: rest => some ([first], rest)
    | ',' :: rest => do
      let (more, rest) ← items? fuel rest
      return (first :: more, rest)
    | _ => none

/-- The members of an object up to its closing brace, and the rest. -/
def members? : Nat → List Char → Option (List (Option String × Tree) × List Char)
  | 0, _ => none
  | fuel + 1, cs =>
    match skipSpace cs with
    | '"' :: cs => do
      let (key, rest) ← stringBody cs
      match skipSpace rest with
      | ':' :: rest => do
        let (first, rest) ← value? fuel rest
        match skipSpace rest with
        | '}' :: rest => some ([(key, first)], rest)
        | ',' :: rest => do
          let (more, rest) ← members? fuel rest
          return ((key, first) :: more, rest)
        | _ => none
      | _ => none
    | _ => none

end

/-- The tree of a text that holds one value and nothing else. -/
def Tree.ofText? (cs : List Char) : Option Tree := do
  let (tree, rest) ← value? (2 * cs.length + 2) cs
  if (skipSpace rest).isEmpty then some tree else none

end Instrument.Json
