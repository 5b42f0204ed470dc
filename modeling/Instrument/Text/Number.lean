/-!
Numbers in text: unsigned numbers in decimal digits, and words and lengths of time as they are
written.
-/

namespace Instrument.Text

/-- The value of a row of decimal digits. -/
def digitsValue (digits : List Char) : Nat :=
  digits.foldl (fun n c => 10 * n + (c.toNat - '0'.toNat)) 0

/-- An unsigned number below `limit`, with or without a plus sign. -/
def number? (limit : Nat) (cs : List Char) : Option Nat :=
  let digits := match cs with
    | '+' :: rest => rest
    | _ => cs
  if digits.isEmpty || !digits.all Char.isDigit then none
  else
    let n := digitsValue digits
    if n < limit then some n else none

/-- Numbers of 16 bits are below this. -/
def limit16 : Nat := UInt16.size

/-- Numbers of 64 bits are below this. -/
def limit64 : Nat := UInt64.size

theorem lt_of_number? {limit n : Nat} {cs : List Char} (h : number? limit cs = some n) :
    n < limit := by
  simp only [number?] at h
  generalize (match cs with | '+' :: rest => rest | _ => cs) = digits at h
  split at h
  · simp at h
  · split at h
    · next hlt => simp at h; omega
    · simp at h

/-- The digits after a point: `places` digits of `n`, without the zeros at their end. -/
def fraction (places n : Nat) : List Char :=
  let digits := Nat.toDigits 10 n
  let padded := List.replicate (places - digits.length) '0' ++ digits
  (padded.reverse.dropWhile (· == '0')).reverse

/-- A length of time in milliseconds, in the largest unit of which it holds at least one. -/
def duration (milliseconds : Nat) : String :=
  if milliseconds = 0 then "0ns"
  else if milliseconds < 1000 then toString milliseconds ++ "ms"
  else
    let rest := fraction 3 (milliseconds % 1000)
    toString (milliseconds / 1000) ++
      (if rest.isEmpty then "" else "." ++ String.ofList rest) ++ "s"

end Instrument.Text
