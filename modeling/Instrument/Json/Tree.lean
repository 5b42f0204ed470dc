import Instrument.Text.Number
import Instrument.Text.Quoted

/-!
JSON texts as trees. A tree keeps what a text says and not yet what it means: numbers are their
digits, and a string may hold halves of surrogate pairs, which are no text.
-/

namespace Instrument.Json

/-- A number as it is written. -/
structure Numeral where
  negative : Bool
  whole : List Char
  fraction : List Char
  /-- The digits of the exponent, and whether a minus sign is in front of them. -/
  exponent? : Option (Bool × List Char)
deriving DecidableEq, Repr

/-- A JSON text. -/
inductive Tree where
  | null
  | bool (value : Bool)
  | number (numeral : Numeral)
  /-- A string, or `none` if it is no text. -/
  | string (text? : Option String)
  | array (items : List Tree)
  | object (members : List (Option String × Tree))
deriving Repr

/-- The numeral of a natural number. -/
def Numeral.ofNat (n : Nat) : Numeral := ⟨false, Nat.toDigits 10 n, [], none⟩

/-- A string that is text. -/
def Tree.text (s : String) : Tree := .string (some s)

/-- A natural number. -/
def Tree.nat (n : Nat) : Tree := .number (.ofNat n)

/-- An object whose keys are text. -/
def Tree.record (members : List (String × Tree)) : Tree :=
  .object (members.map fun (key, value) => (some key, value))

end Instrument.Json
