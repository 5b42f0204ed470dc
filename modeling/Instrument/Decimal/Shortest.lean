/-!
Shortest decimals: the fewest digits that read back as a given binary floating-point value, and of
those the nearest to it. All comparisons are exact, over natural numbers.
-/

namespace Instrument.Decimal

/-- A binary floating-point format by the widths of its two fields. -/
structure FloatFormat where
  fractionBits : Nat
  exponentBits : Nat
deriving DecidableEq, Repr

/-- Single precision. -/
def single : FloatFormat := ⟨23, 8⟩

/-- Double precision. -/
def double : FloatFormat := ⟨52, 11⟩

/-- What a bit pattern stands for. A finite value is `mantissa * 2 ^ exponent`; `tight` tells that
the value below it is only half as far away as the value above it. -/
inductive FloatValue where
  | nan
  | infinite (negative : Bool)
  | finite (negative : Bool) (mantissa : Nat) (exponent : Int) (tight : Bool)
deriving DecidableEq, Repr

/-- The value of a bit pattern. -/
def FloatFormat.value (format : FloatFormat) (bits : Nat) : FloatValue :=
  let fractions := Nat.pow 2 format.fractionBits
  let exponents := Nat.pow 2 format.exponentBits
  let fraction := bits % fractions
  let biased := bits / fractions % exponents
  let negative := bits / (fractions * exponents) % 2 == 1
  let lowest : Int := 2 - (exponents / 2 : Nat) - format.fractionBits
  if biased = exponents - 1 then
    if fraction = 0 then .infinite negative else .nan
  else if biased = 0 then .finite negative fraction lowest false
  else
    .finite negative (fractions + fraction) (lowest + biased - 1)
      (fraction = 0 && 1 < biased)

/-- A positive decimal `0.d₁d₂… * 10 ^ point`, where `digits` is `d₁d₂…` as a number. -/
structure Digits where
  digits : Nat
  point : Int
deriving DecidableEq, Repr

/-- The number of decimal digits of `n`. -/
def width (n : Nat) : Nat := (Nat.toDigits 10 n).length

/-- The factor of `base ^ e` above the fraction bar, and the one below it. -/
def power (base : Nat) (e : Int) : Nat × Nat := (base.pow e.toNat, base.pow (-e).toNat)

/-- The least `p` with `value < 10 ^ p`, for the positive value `num / den`; `fuel` bounds the
search from `p`. -/
def pointOf (num den : Nat) : Nat → Int → Int
  | 0, p => p
  | fuel + 1, p =>
    let (up, down) := power 10 p
    if num * down < up * den then
      let (up', down') := power 10 (p - 1)
      if num * down' < up' * den then pointOf num den fuel (p - 1) else p
    else pointOf num den fuel (p + 1)

/-- The better of two neighbours `a` and `a + 1` of the value on the grid `10 ^ unit`, if one of
them reads back as the value. All of `low`, `num`, `high` are over `den`; a value halfway goes
up. -/
def neighbour? (low num high den : Nat) (closed : Bool) (unit : Int) : Option Nat :=
  let (up, down) := power 10 unit
  let step := up * den
  let a := num * down / step
  let inside (c : Nat) : Bool :=
    if closed then low * down ≤ c * step && c * step ≤ high * down
    else low * down < c * step && c * step < high * down
  match inside a, inside (a + 1) with
  | true, true => if 2 * (num * down) < (2 * a + 1) * step then some a else some (a + 1)
  | true, false => some a
  | false, true => some (a + 1)
  | false, false => none

/-- The shortest of the grids of `n`, `n + 1`, … digits that has a point near enough. -/
def search (low num high den : Nat) (closed : Bool) (point : Int) : Nat → Nat → Nat × Int
  | 0, _ => (num / den, 0)
  | fuel + 1, n =>
    let unit := point - n
    match neighbour? low num high den closed unit with
    | some c => (c, unit)
    | none => search low num high den closed point fuel (n + 1)

/-- The number without the zeros at its end, and how many they were; `fuel` bounds them. -/
def dropZeros : Nat → Nat → Nat × Nat
  | 0, n => (n, 0)
  | fuel + 1, n =>
    if n % 10 = 0 ∧ n ≠ 0 then
      let (m, k) := dropZeros fuel (n / 10)
      (m, k + 1)
    else (n, 0)

/-- The shortest decimal that reads back as `mantissa * 2 ^ exponent`. -/
def shortest (mantissa : Nat) (exponent : Int) (tight : Bool) : Digits :=
  let (up, den) := power 2 (exponent - 2)
  let num := 4 * mantissa * up
  let high := (4 * mantissa + 2) * up
  let low := (4 * mantissa - if tight then 1 else 2) * up
  let guess := (width num : Int) - width den
  let point := pointOf num den 3 guess
  let (c, unit) := search low num high den (mantissa % 2 == 0) point 17 1
  let (digits, zeros) := dropZeros (width c) c
  ⟨digits, unit + zeros + width digits⟩

end Instrument.Decimal
