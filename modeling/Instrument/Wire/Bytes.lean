/-!
Numbers as bytes. The bytes of a number are its digits to the base 256, the lowest first or the
highest first. Main statements: a number that `k` bytes can hold is read back from its `k` bytes,
and bytes are the bytes of the number that they stand for.
-/

namespace Instrument

/-- Bytes in the order in which they travel. -/
abbrev Bytes := List UInt8

namespace Wire

/-- How many numbers some bytes can hold: `k` of them hold the numbers below `patterns k`. -/
def patterns : Nat → Nat
  | 0 => 1
  | k + 1 => 256 * patterns k

/-- The `k` lowest digits of `n` to the base 256, the lowest first. -/
def bytesLE : Nat → Nat → Bytes
  | 0, _ => []
  | k + 1, n => UInt8.ofNat n :: bytesLE k (n / 256)

/-- The number with these digits, the lowest first. -/
def valueLE : Bytes → Nat
  | [] => 0
  | b :: bs => b.toNat + 256 * valueLE bs

/-- The `k` lowest digits of `n` to the base 256, the highest first. -/
def bytesBE (k n : Nat) : Bytes := (bytesLE k n).reverse

/-- The number with these digits, the highest first. -/
def valueBE (bs : Bytes) : Nat := valueLE bs.reverse

@[simp] theorem length_bytesLE (k n : Nat) : (bytesLE k n).length = k := by
  induction k generalizing n with
  | zero => rfl
  | succ k ih => simp [bytesLE, ih]

@[simp] theorem length_bytesBE (k n : Nat) : (bytesBE k n).length = k := by simp [bytesBE]

theorem valueLE_lt (bs : Bytes) : valueLE bs < patterns bs.length := by
  induction bs with
  | nil => simp [valueLE, patterns]
  | cons b bs ih =>
    have hb : b.toNat < 256 := b.toNat_lt
    simp only [valueLE, List.length_cons, patterns]
    omega

theorem toNat_ofNat_byte (n : Nat) : (UInt8.ofNat n).toNat = n % 256 := rfl

theorem valueLE_bytesLE (k n : Nat) : valueLE (bytesLE k n) = n % patterns k := by
  induction k generalizing n with
  | zero => simp [bytesLE, valueLE, patterns, Nat.mod_one]
  | succ k ih => rw [bytesLE, valueLE, ih, toNat_ofNat_byte, patterns, Nat.mod_mul]

theorem valueLE_bytesLE_of_lt {k n : Nat} (h : n < patterns k) : valueLE (bytesLE k n) = n := by
  rw [valueLE_bytesLE, Nat.mod_eq_of_lt h]

theorem bytesLE_valueLE (bs : Bytes) : bytesLE bs.length (valueLE bs) = bs := by
  induction bs with
  | nil => rfl
  | cons b bs ih =>
    have hb : b.toNat < 256 := b.toNat_lt
    have hdiv : (b.toNat + 256 * valueLE bs) / 256 = valueLE bs := by omega
    have hmod : UInt8.ofNat (b.toNat + 256 * valueLE bs) = b := by
      apply UInt8.toNat_inj.1
      rw [toNat_ofNat_byte]
      omega
    simp only [List.length_cons, valueLE, bytesLE, hdiv, hmod, ih]

theorem valueBE_lt (bs : Bytes) : valueBE bs < patterns bs.length := by
  simpa [valueBE] using valueLE_lt bs.reverse

theorem valueBE_bytesBE_of_lt {k n : Nat} (h : n < patterns k) : valueBE (bytesBE k n) = n := by
  simp [valueBE, bytesBE, valueLE_bytesLE_of_lt h]

theorem bytesBE_valueBE (bs : Bytes) : bytesBE bs.length (valueBE bs) = bs := by
  have h := bytesLE_valueLE bs.reverse
  simp only [List.length_reverse] at h
  simp [bytesBE, valueBE, h]

theorem bytesBE_valueBE_of_length {bs : Bytes} {k : Nat} (h : bs.length = k) :
    bytesBE k (valueBE bs) = bs := by
  rw [← h, bytesBE_valueBE]

/-- The first `n` bytes and what follows them, if there are that many. -/
def split? (n : Nat) (bs : Bytes) : Option (Bytes × Bytes) :=
  let taken := bs.take n
  if taken.length = n then some (taken, bs.drop n) else none

theorem split?_eq_some_iff {n : Nat} {bs taken rest : Bytes} :
    split? n bs = some (taken, rest) ↔ taken.length = n ∧ bs = taken ++ rest := by
  simp only [split?]
  constructor
  · intro h
    split at h
    · next hlen =>
      cases h
      exact ⟨hlen, (List.take_append_drop n bs).symm⟩
    · simp at h
  · rintro ⟨hlen, rfl⟩
    subst hlen
    simp

theorem split?_eq_none_iff {n : Nat} {bs : Bytes} : split? n bs = none ↔ bs.length < n := by
  simp only [split?, List.length_take]
  split <;> simp <;> omega

end Wire

end Instrument
