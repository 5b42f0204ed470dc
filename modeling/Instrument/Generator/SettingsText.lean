import Instrument.Text.Quoted

/-!
The text of settings: lines with a name, an equality sign and a value, which is a string or a list
of strings. Strings stand between double quotes, with escapes, or between single quotes, without;
three quotes instead of one let a string go over several lines. Comments start with a hash.
-/

namespace Instrument.Generator

/-- The value of a setting. -/
inductive SettingValue where
  | text (s : String)
  | texts (items : List String)
deriving DecidableEq, Repr

/-! ### Blanks and comments -/

/-- A blank inside a line. -/
def isInlineBlank (c : Char) : Bool := c == ' ' || c == '\t'

/-- A character that may stand in a comment or a string. -/
def isPrintable (c : Char) : Bool := c == '\t' || (' ' ≤ c && c ≠ '\x7f')

/-- The text after the blanks in a line. -/
def skipInline (cs : List Char) : List Char := cs.dropWhile isInlineBlank

/-- The text after a comment, if there is one. -/
def skipComment : List Char → List Char
  | '#' :: rest => rest.dropWhile isPrintable
  | cs => cs

/-- The text after the end of a line. -/
def newline? : List Char → Option (List Char)
  | '\n' :: rest => some rest
  | '\r' :: '\n' :: rest => some rest
  | _ => none

/-- The text after a line that holds nothing more. -/
def endLine? (cs : List Char) : Option (List Char) :=
  match skipComment (skipInline cs) with
  | [] => some []
  | cs => newline? cs

/-- The text after all blanks, comments and ends of lines; `lines` bounds the lines. -/
def skipLines : Nat → List Char → List Char
  | 0, cs => cs
  | lines + 1, cs =>
    let cs := skipInline cs
    match newline? (skipComment cs) with
    | some rest => skipLines lines rest
    | none => cs

/-! ### Strings -/

/-- A form of strings. -/
structure StringForm where
  quote : Char
  escapes : Bool
  multiline : Bool
deriving DecidableEq, Repr

/-- The character of a code point in base sixteen. -/
def escapedChar? (digits : List Char) : Option Char :=
  let value (c : Char) : Option Nat :=
    if c.isDigit then some (c.toNat - '0'.toNat)
    else if 'a' ≤ c ∧ c ≤ 'f' then some (c.toNat - 'a'.toNat + 10)
    else if 'A' ≤ c ∧ c ≤ 'F' then some (c.toNat - 'A'.toNat + 10)
    else none
  (digits.mapM value).bind fun values =>
    let n := values.foldl (fun n d => 16 * n + d) 0
    if n.isValidChar then some (Char.ofNat n) else none

/-- What a backslash and the text after it stand for, and how much of the text that takes. -/
def escape? (form : StringForm) (cs : List Char) : Option (List Char × Nat) :=
  match cs with
  | 'b' :: _ => some (['\x08'], 1)
  | 't' :: _ => some (['\t'], 1)
  | 'n' :: _ => some (['\n'], 1)
  | 'f' :: _ => some (['\x0c'], 1)
  | 'r' :: _ => some (['\r'], 1)
  | '"' :: _ => some (['"'], 1)
  | '\\' :: _ => some (['\\'], 1)
  | 'u' :: rest => numbered 4 rest
  | 'U' :: rest => numbered 8 rest
  | _ =>
    if form.multiline then
      (newline? (skipInline cs)).map fun rest =>
        ([], cs.length - (skipBlankLines rest.length rest).length)
    else none
where
  /-- The character whose number has a given count of digits. -/
  numbered (count : Nat) (rest : List Char) : Option (List Char × Nat) :=
    if rest.length < count then none
    else (escapedChar? (rest.take count)).map fun c => ([c], count + 1)
  /-- The text after blanks and ends of lines. -/
  skipBlankLines : Nat → List Char → List Char
    | 0, cs => cs
    | lines + 1, cs =>
      let cs := skipInline cs
      match newline? cs with
      | some rest => skipBlankLines lines rest
      | none => cs

/-- The string after its opening quotes, and the text after it. Up to two quotes may stand right
before the closing three. -/
def stringBody? (form : StringForm) : List Char → Option (List Char × List Char)
  | [] => none
  | c :: rest =>
    if c == form.quote then
      if form.multiline then
        let more := (rest.takeWhile (· == c)).length
        if more < 2 then
          (stringBody? form (rest.drop more)).map fun (s, rest) =>
            (List.replicate (more + 1) c ++ s, rest)
        else
          let inside := min (more - 2) 2
          some (List.replicate inside c, rest.drop (inside + 2))
      else some ([], rest)
    else if c == '\\' && form.escapes then
      (escape? form rest).bind fun (found, taken) =>
        (stringBody? form (rest.drop taken)).map fun (s, rest) => (found ++ s, rest)
    else if isPrintable c then (stringBody? form rest).map fun (s, rest) => (c :: s, rest)
    else if form.multiline then
      if c == '\n' then (stringBody? form rest).map fun (s, rest) => (c :: s, rest)
      else if c == '\r' && rest.head? == some '\n' then stringBody? form rest
      else none
    else none
termination_by cs => cs.length
decreasing_by all_goals (simp only [List.length_drop, List.length_cons]; omega)

/-- A string in one line. -/
def lineString? : List Char → Option (List Char × List Char)
  | '"' :: rest => stringBody? ⟨'"', true, false⟩ rest
  | '\'' :: rest => stringBody? ⟨'\'', false, false⟩ rest
  | _ => none

/-- A string. The end of a line right after three opening quotes is not part of it. -/
def string? (cs : List Char) : Option (List Char × List Char) :=
  match cs with
  | '"' :: '"' :: '"' :: rest => stringBody? ⟨'"', true, true⟩ ((newline? rest).getD rest)
  | '\'' :: '\'' :: '\'' :: rest => stringBody? ⟨'\'', false, true⟩ ((newline? rest).getD rest)
  | cs => lineString? cs

/-! ### Settings -/

/-- The items of a list after its opening bracket; `items` bounds them. A comma may follow the last
one. -/
def listItems? : Nat → List Char → Option (List String × List Char)
  | 0, _ => none
  | items + 1, cs =>
    match skipLines cs.length cs with
    | ']' :: rest => some ([], rest)
    | cs => do
      let (first, cs) ← string? cs
      match skipLines cs.length cs with
      | ',' :: rest =>
        let (more, rest) ← listItems? items rest
        return (String.ofList first :: more, rest)
      | ']' :: rest => return ([String.ofList first], rest)
      | _ => none

/-- The value of a setting. -/
def settingValue? : List Char → Option (SettingValue × List Char)
  | '[' :: rest =>
    (listItems? (rest.length + 1) rest).map fun (items, rest) => (.texts items, rest)
  | cs => (string? cs).map fun (s, rest) => (.text (String.ofList s), rest)

/-- A character in a name without quotes. -/
def isNameChar (c : Char) : Bool := c.isAlphanum || c == '_' || c == '-'

/-- The name of a setting. -/
def settingName? (cs : List Char) : Option (String × List Char) :=
  match lineString? cs with
  | some (name, rest) => some (String.ofList name, rest)
  | none =>
    let name := cs.takeWhile isNameChar
    if name.isEmpty then none else some (String.ofList name, cs.dropWhile isNameChar)

/-- A setting and the text after its line. -/
def setting? (cs : List Char) : Option ((String × SettingValue) × List Char) := do
  let (name, cs) ← settingName? cs
  match skipInline cs with
  | '=' :: cs =>
    let (value, cs) ← settingValue? (skipInline cs)
    return ((name, value), ← endLine? cs)
  | _ => none

/-- All settings in a text, `lines` of them at most. -/
def settingLines? : Nat → List Char → Option (List (String × SettingValue))
  | 0, _ => none
  | lines + 1, cs =>
    match skipLines cs.length cs with
    | [] => some []
    | cs =>
      match endLine? cs with
      | some [] => some []
      | _ => do
        let (first, rest) ← setting? cs
        return first :: (← settingLines? lines rest)

/-- The settings in a text, in their order; no name stands twice. A mark of the byte order may
begin the text. -/
def settings? (text : String) : Option (List (String × SettingValue)) :=
  let cs := match text.toList with
    | '\ufeff' :: rest => rest
    | cs => cs
  (settingLines? (cs.length + 1) cs).filter fun found => decide (found.map (·.1)).Nodup

end Instrument.Generator
