/-!
Text as UTF-8 bytes: writing, reading, and reading with a replacement character in the place of
what is no text.
-/

namespace Instrument.Text

/-- The UTF-8 bytes of a text. -/
def utf8 (s : String) : List UInt8 := s.toList.flatMap String.utf8EncodeChar

/-- The text whose UTF-8 bytes these are. -/
def ofUtf8? (bytes : List UInt8) : Option String := String.fromUTF8? bytes.toByteArray

/-- The range of a second byte and the number of bytes after it, by the first byte of a character
of several bytes. -/
def multibyte? (first : UInt8) : Option (UInt8 × UInt8 × Nat) :=
  if 0xc2 ≤ first ∧ first ≤ 0xdf then some (0x80, 0xbf, 0)
  else if first = 0xe0 then some (0xa0, 0xbf, 1)
  else if first = 0xed then some (0x80, 0x9f, 1)
  else if 0xe1 ≤ first ∧ first ≤ 0xef then some (0x80, 0xbf, 1)
  else if first = 0xf0 then some (0x90, 0xbf, 2)
  else if 0xf1 ≤ first ∧ first ≤ 0xf3 then some (0x80, 0xbf, 2)
  else if first = 0xf4 then some (0x80, 0x8f, 2)
  else none

/-- The character that stands for bytes that are no text. -/
def replacement : Char := Char.ofNat 0xfffd

/-- Whether a byte continues a character. -/
def isContinuation (b : UInt8) : Bool := 0x80 ≤ b && b ≤ 0xbf

/-- The character with these payload bits in its bytes. -/
def assemble (first : Nat) (rest : List UInt8) : Char :=
  Char.ofNat (rest.foldl (fun n b => 64 * n + b.toNat % 64) first)

/-- The character that begins with the byte `a`, read from the bytes after it, and how many of
those it takes. What is not completed is read as one replacement character for its longest
beginning. -/
def nextChar (a : UInt8) (rest : List UInt8) : Char × Nat :=
  if a < 0x80 then (Char.ofNat a.toNat, 0)
  else
    match multibyte? a with
    | none => (replacement, 0)
    | some (low, high, more) =>
      match rest with
      | [] => (replacement, 0)
      | b :: rest =>
        if b < low ∨ high < b then (replacement, 0)
        else if more = 0 then (assemble (a.toNat % 32) [b], 1)
        else
          match rest with
          | [] => (replacement, 1)
          | c :: rest =>
            if !isContinuation c then (replacement, 1)
            else if more = 1 then (assemble (a.toNat % 16) [b, c], 2)
            else
              match rest with
              | [] => (replacement, 2)
              | d :: _ =>
                if !isContinuation d then (replacement, 2)
                else (assemble (a.toNat % 8) [b, c, d], 3)

/-- Reads UTF-8 with replacement characters in the place of what is no text. -/
def ofUtf8Lossy : List UInt8 → List Char
  | [] => []
  | a :: rest => (nextChar a rest).1 :: ofUtf8Lossy (rest.drop (nextChar a rest).2)
termination_by bytes => bytes.length
decreasing_by simp only [List.length_drop, List.length_cons]; omega

end Instrument.Text
