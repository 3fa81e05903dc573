import Mathlib.Algebra.Order.Ring.Nat
import Mathlib.Data.Nat.Bitwise
import Mathlib.Data.Nat.Notation
import Mathlib.Tactic.Ring

/-!
# Big-Endian Numbers

The bytes of a natural number, most significant first, and the number some bytes stand for.

## Main definitions

* `bigEndian count n`: the `count` low bytes of `n`.
* `readBigEndian bytes`: the number with those bytes.

## Main results

* `readBigEndian_bigEndian`, `bigEndian_readBigEndian`: the two are inverse to each other on the
  numbers that fit.
-/

namespace Jpv2g

/-- The big-endian bytes of a number that fits in `count` bytes (`jpv2g_write_u16_be`,
`jpv2g_write_u32_be`). -/
def bigEndian : ℕ → ℕ → List UInt8
  | 0, _ => []
  | count + 1, n => UInt8.ofNat (n >>> (8 * count)) :: bigEndian count n

/-- Shift one more byte into a number. -/
def shiftInByte (n : ℕ) (byte : UInt8) : ℕ := n <<< 8 ||| byte.toNat

/-- The number with the given big-endian bytes (`jpv2g_read_u16_be`, `jpv2g_read_u32_be`). -/
def readBigEndian (bytes : List UInt8) : ℕ := bytes.foldl shiftInByte 0

@[simp]
theorem bigEndian_length (count n : ℕ) : (bigEndian count n).length = count := by
  induction count with
  | zero => rfl
  | succ count ih => rw [bigEndian, List.length_cons, ih]

theorem shiftInByte_eq (n : ℕ) (byte : UInt8) : shiftInByte n byte = 256 * n + byte.toNat := by
  have hbyte : byte.toNat < 2 ^ 8 := byte.toNat_lt
  rw [shiftInByte, ← Nat.shiftLeft_add_eq_or_of_lt hbyte, Nat.shiftLeft_eq]
  omega

/-- A shift by whole bytes divides by the power of 256. -/
theorem shiftRight_bytes (n count : ℕ) : n >>> (8 * count) = n / 256 ^ count := by
  rw [Nat.shiftRight_eq_div_pow, pow_mul]
  rfl

/-- What was shifted in before stands above all the bytes that follow. -/
theorem foldl_shiftInByte (n : ℕ) (bytes : List UInt8) :
    bytes.foldl shiftInByte n = 256 ^ bytes.length * n + readBigEndian bytes := by
  -- along the bytes, for whatever number has been shifted in
  induction bytes generalizing n with
  | nil => simp [readBigEndian]
  | cons byte bytes ih =>
    have hread : readBigEndian (byte :: bytes) = bytes.foldl shiftInByte (shiftInByte 0 byte) :=
      rfl
    rw [hread, List.foldl_cons, ih, ih (shiftInByte 0 byte), shiftInByte_eq, shiftInByte_eq,
      List.length_cons, pow_succ]
    ring

theorem readBigEndian_cons (byte : UInt8) (bytes : List UInt8) :
    readBigEndian (byte :: bytes) = 256 ^ bytes.length * byte.toNat + readBigEndian bytes := by
  have hread : readBigEndian (byte :: bytes) = bytes.foldl shiftInByte (shiftInByte 0 byte) := rfl
  rw [hread, foldl_shiftInByte, shiftInByte_eq, Nat.mul_zero, Nat.zero_add]

theorem readBigEndian_lt (bytes : List UInt8) : readBigEndian bytes < 256 ^ bytes.length := by
  induction bytes with
  | nil => simp [readBigEndian]
  | cons byte bytes ih =>
    have hbyte : byte.toNat ≤ 255 := Nat.le_of_lt_succ byte.toNat_lt
    have htop := Nat.mul_le_mul_left (256 ^ bytes.length) hbyte
    rw [readBigEndian_cons, List.length_cons, pow_succ]
    omega

/-- Reading back the bytes of a number gives the part of it that fits. -/
theorem readBigEndian_bigEndian_mod (count n : ℕ) :
    readBigEndian (bigEndian count n) = n % 256 ^ count := by
  induction count with
  | zero => simp [bigEndian, readBigEndian, Nat.mod_one]
  | succ count ih =>
    have hbyte : (UInt8.ofNat (n >>> (8 * count))).toNat = n / 256 ^ count % 256 := by
      rw [UInt8.toNat_ofNat', shiftRight_bytes]
    rw [bigEndian, readBigEndian_cons, bigEndian_length, ih, hbyte, Nat.mod_pow_succ,
      Nat.add_comm]

/-- A number that fits is read back from its bytes. -/
theorem readBigEndian_bigEndian {count n : ℕ} (hn : n < 256 ^ count) :
    readBigEndian (bigEndian count n) = n := by
  rw [readBigEndian_bigEndian_mod, Nat.mod_eq_of_lt hn]

/-- Only the part of a number that fits is written. -/
theorem bigEndian_add_mul (count n k : ℕ) :
    bigEndian count (256 ^ count * k + n) = bigEndian count n := by
  -- what does not fit the longer number does not fit the shorter one either
  induction count generalizing k with
  | zero => rfl
  | succ count ih =>
    have hhigh : 256 ^ (count + 1) * k + n = 256 ^ count * (256 * k) + n := by
      rw [pow_succ, Nat.mul_assoc]
    have hpos : 0 < 256 ^ count := Nat.pow_pos (by omega)
    rw [bigEndian, bigEndian, hhigh, ih, shiftRight_bytes, shiftRight_bytes,
      Nat.mul_add_div hpos]
    congr 1
    apply UInt8.toNat_inj.mp
    rw [UInt8.toNat_ofNat', UInt8.toNat_ofNat']
    omega

/-- Bytes are written back from the number they stand for. -/
theorem bigEndian_readBigEndian (bytes : List UInt8) :
    bigEndian bytes.length (readBigEndian bytes) = bytes := by
  induction bytes with
  | nil => rfl
  | cons byte bytes ih =>
    have hpos : 0 < 256 ^ bytes.length := Nat.pow_pos (by omega)
    have hrest : readBigEndian bytes / 256 ^ bytes.length = 0 :=
      Nat.div_eq_of_lt (readBigEndian_lt bytes)
    rw [List.length_cons, bigEndian, readBigEndian_cons, bigEndian_add_mul, ih,
      shiftRight_bytes, Nat.mul_add_div hpos, hrest, Nat.add_zero, UInt8.ofNat_toNat]

end Jpv2g
