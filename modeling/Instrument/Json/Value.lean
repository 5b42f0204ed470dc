import Instrument.Json.Tree

/-!
JSON values. A tree is a value if its strings are text, its numbers are in range, and it is not
nested too deeply.
-/

namespace Instrument.Json

/-- A JSON value. A key of an object stands once. -/
inductive Value where
  | null
  | bool (value : Bool)
  | integer (n : Int)
  /-- A number in double precision, by its bits. -/
  | float (bits : UInt64)
  | string (text : String)
  | array (items : List Value)
  | object (members : List (String × Value))
deriving Repr

/-- Digits are taken into a number as long as it stays below `2 ^ 64`; the second result is how
many digits are left then. -/
def takeDigits (n : Nat) : List Char → Nat × Nat
  | [] => (n, 0)
  | c :: cs =>
    let next := 10 * n + (c.toNat - '0'.toNat)
    if next < Text.limit64 then takeDigits next cs else (n, cs.length + 1)

/-- The number `f * 10 ^ e`, with one rounding for each power of ten in the table of powers that
double precision has; `none` if it is too large. `steps` bounds the divisions before nothing is
left of the number. -/
def scale? (f : Float) (e : Int) : Nat → Option Float
  | 0 => some f
  | steps + 1 =>
    if e.natAbs ≤ 308 then
      let power := Float.ofScientific 1 false e.natAbs
      if 0 ≤ e then
        let scaled := f * power
        if scaled.isInf then none else some scaled
      else some (f / power)
    else if f == 0.0 then some f
    else if 0 ≤ e then none
    else scale? (f / 1e308) (e + 308) steps

/-- The value of a numeral: an integer if it is one of 64 bits, else a number in double
precision. -/
def Numeral.value? (n : Numeral) : Option Value :=
  let (whole, dropped) := takeDigits 0 n.whole
  let (significand, unused) := takeDigits whole n.fraction
  let exponent : Int := match n.exponent? with
    | none => 0
    | some (negative, digits) =>
      if negative then -(Text.digitsValue digits : Int) else Text.digitsValue digits
  let isInteger := n.fraction.isEmpty && n.exponent?.isNone && dropped == 0
  if isInteger && !n.negative then some (.integer whole)
  else if isInteger && 0 < whole && whole ≤ Text.limit64 / 2 then some (.integer (-whole))
  else
    let scaled? := scale? (UInt64.ofNat significand).toFloat
      (exponent + dropped - (n.fraction.length - unused : Nat)) 4
    scaled?.map fun f => .float (if n.negative then -f else f).toBits

/-- The members with one more, which takes the place of one with the same key. -/
def putMember (members : List (String × Value)) (key : String) (value : Value) :
    List (String × Value) :=
  if members.any (·.1 == key) then
    members.map fun m => if m.1 == key then (key, value) else m
  else members ++ [(key, value)]

mutual

/-- The value of a tree with at most `depth` levels of arrays and objects. -/
def Tree.value? (depth : Nat) : Tree → Option Value
  | .null => some .null
  | .bool b => some (.bool b)
  | .number n => n.value?
  | .string text? => text?.map .string
  | .array items =>
    match depth with
    | 0 => none
    | depth + 1 => (itemValues? depth items).map .array
  | .object members =>
    match depth with
    | 0 => none
    | depth + 1 => (memberValues? depth [] members).map .object

/-- The values of the items of an array. -/
def itemValues? (depth : Nat) : List Tree → Option (List Value)
  | [] => some []
  | item :: more => do
    let first ← item.value? depth
    return first :: (← itemValues? depth more)

/-- The values of the members of an object, after the members `found`. -/
def memberValues? (depth : Nat) (found : List (String × Value)) :
    List (Option String × Tree) → Option (List (String × Value))
  | [] => some found
  | (key, item) :: more => do
    let value ← item.value? depth
    memberValues? depth (putMember found (← key) value) more

end

/-- Values have at most this many levels of arrays and objects. -/
def maxDepth : Nat := 127

end Instrument.Json
