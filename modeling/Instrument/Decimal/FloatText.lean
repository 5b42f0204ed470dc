import Instrument.Decimal.Shortest

/-!
Floating-point values as text. Plain text is always positional; exact text also tells a whole
number from an integer and writes very large and very small values with an exponent.
-/

namespace Instrument.Decimal

/-- The choices of a form of floating-point text. -/
structure FloatStyle where
  /-- Written after the digits of a whole number. -/
  wholeEnd : String
  /-- Values of `10 ^ large` and above have an exponent, if values may have one. -/
  large : Option Int
  /-- Values below `10 ^ small` have an exponent, if values may have one. -/
  small : Option Int
deriving DecidableEq, Repr

/-- Digits and a point where one is needed, whatever the size. -/
def FloatStyle.plain : FloatStyle := ⟨"", none, none⟩

/-- At least one digit after the point, and an exponent from `10 ^ 16` up and below `10 ^ -4`. -/
def FloatStyle.exact : FloatStyle := ⟨".0", some 16, some (-4)⟩

/-- `0.d₁d₂… * 10 ^ point` without an exponent. -/
def positional (style : FloatStyle) (d : Digits) : String :=
  let text := toString d.digits
  let size : Int := text.length
  if d.point ≤ 0 then
    "0." ++ String.ofList (List.replicate (-d.point).toNat '0') ++ text
  else if size ≤ d.point then
    text ++ String.ofList (List.replicate (d.point - size).toNat '0') ++ style.wholeEnd
  else
    let cs := text.toList
    String.ofList (cs.take d.point.toNat) ++ "." ++ String.ofList (cs.drop d.point.toNat)

/-- `0.d₁d₂… * 10 ^ point` with one digit before the point and an exponent. -/
def scientific (d : Digits) : String :=
  match (toString d.digits).toList with
  | [] => "0e0"
  | first :: rest =>
    String.ofList (first :: (if rest.isEmpty then [] else '.' :: rest)) ++ "e" ++
      toString (d.point - 1)

/-- The text of a positive decimal. -/
def FloatStyle.write (style : FloatStyle) (d : Digits) : String :=
  if style.large.any (· < d.point) || style.small.any (d.point ≤ ·) then scientific d
  else positional style d

/-- The text of a bit pattern. -/
def FloatFormat.text (format : FloatFormat) (style : FloatStyle) (bits : Nat) : String :=
  let sign (negative : Bool) := if negative then "-" else ""
  match format.value bits with
  | .nan => "NaN"
  | .infinite negative => sign negative ++ "inf"
  | .finite negative 0 _ _ => sign negative ++ "0" ++ style.wholeEnd
  | .finite negative mantissa exponent tight =>
    sign negative ++ style.write (shortest mantissa exponent tight)

end Instrument.Decimal
