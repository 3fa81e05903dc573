import Mathlib.Data.Nat.Bitwise
import Mathlib.Data.Nat.Notation
import Mathlib.Tactic.Ring

/-!
# Bit Sequences

The bits of a number and of a block of bytes, most significant first, and the bits a memory holds
from its first byte on.

## Main definitions

* `bitsOf count n`: the `count` low bits of `n`.
* `bitsValue bits`: the number with those bits.
* `bytesBits bytes`: the bits of the bytes, one byte after the other.
* `packBits bits`: the bytes that the bits fill, with zeros at the end.
* `bitAt data i`: bit `i` of a memory.

## Main results

* `bitsValue_bitsOf`, `bitsOf_bitsValue`: the two are inverse to each other on the numbers that
  fit.
* `bytesBits_packBits`: unpacking gives the bits back, and the padding.
* `bytesBits_range`: the bits of the first bytes of a memory are its first bits.
-/

namespace Jpv2g

/-! ## Numbers -/

/-- The `count` low bits of a number, most significant first. -/
def bitsOf : ℕ → ℕ → List Bool
  | 0, _ => []
  | count + 1, n => n.testBit count :: bitsOf count n

/-- Shift one more bit into a number. -/
def shiftInBit (n : ℕ) (bit : Bool) : ℕ := n <<< 1 ||| bit.toNat

/-- The number with the given bits, most significant first. -/
def bitsValue (bits : List Bool) : ℕ := bits.foldl shiftInBit 0

/-- As many bits as asked for. -/
@[simp]
theorem bitsOf_length (count n : ℕ) : (bitsOf count n).length = count := by
  induction count with
  | zero => rfl
  | succ count ih => rw [bitsOf, List.length_cons, ih]

/-- The bits from the highest on. -/
theorem bitsOf_eq_map (count n : ℕ) :
    bitsOf count n = (List.range count).map fun i => n.testBit (count - 1 - i) := by
  induction count with
  | zero => rfl
  | succ count ih =>
    rw [bitsOf, ih, List.range_succ_eq_map, List.map_cons, List.map_map]
    congr 1
    refine List.map_congr_left fun i hi => ?_
    have hlt := List.mem_range.mp hi
    rw [Function.comp_apply]
    congr 1
    omega

/-- Only the low bits of a number count. -/
theorem bitsOf_congr {count m n : ℕ} (h : ∀ i < count, m.testBit i = n.testBit i) :
    bitsOf count m = bitsOf count n := by
  rw [bitsOf_eq_map, bitsOf_eq_map]
  refine List.map_congr_left fun i hi => h _ ?_
  have hlt := List.mem_range.mp hi
  omega

/-- The bits are those of the part that fits. -/
theorem bitsOf_mod (count n : ℕ) : bitsOf count (n % 2 ^ count) = bitsOf count n := by
  refine bitsOf_congr fun i hi => ?_
  rw [Nat.testBit_mod_two_pow, decide_eq_true hi, Bool.true_and]

@[simp]
theorem bitsValue_nil : bitsValue [] = 0 := rfl

/-- A bit shifted in doubles the number. -/
theorem shiftInBit_eq (n : ℕ) (bit : Bool) : shiftInBit n bit = 2 * n + bit.toNat := by
  have hbit : bit.toNat < 2 ^ 1 := Bool.toNat_lt bit
  rw [shiftInBit, ← Nat.shiftLeft_add_eq_or_of_lt hbit, Nat.shiftLeft_eq]
  omega

/-- What was shifted in before stands above all the bits that follow. -/
theorem foldl_shiftInBit (n : ℕ) (bits : List Bool) :
    bits.foldl shiftInBit n = 2 ^ bits.length * n + bitsValue bits := by
  -- along the bits, for whatever number has been shifted in
  induction bits generalizing n with
  | nil => simp
  | cons bit bits ih =>
    have hvalue : bitsValue (bit :: bits) = bits.foldl shiftInBit (shiftInBit 0 bit) := rfl
    rw [hvalue, List.foldl_cons, ih, ih (shiftInBit 0 bit), shiftInBit_eq, shiftInBit_eq,
      List.length_cons, pow_succ]
    ring

/-- The first bit is the highest one. -/
theorem bitsValue_cons (bit : Bool) (bits : List Bool) :
    bitsValue (bit :: bits) = 2 ^ bits.length * bit.toNat + bitsValue bits := by
  have hvalue : bitsValue (bit :: bits) = bits.foldl shiftInBit (shiftInBit 0 bit) := rfl
  rw [hvalue, foldl_shiftInBit, shiftInBit_eq, Nat.mul_zero, Nat.zero_add]

/-- The number fits into its bits. -/
theorem bitsValue_lt (bits : List Bool) : bitsValue bits < 2 ^ bits.length := by
  induction bits with
  | nil => simp
  | cons bit bits ih =>
    have hbit : bit.toNat ≤ 1 := Bool.toNat_le bit
    have htop := Nat.mul_le_mul_left (2 ^ bits.length) hbit
    rw [bitsValue_cons, List.length_cons, pow_succ]
    omega

/-- Reading back the bits of a number gives the part of it that fits. -/
theorem bitsValue_bitsOf_mod (count n : ℕ) : bitsValue (bitsOf count n) = n % 2 ^ count := by
  induction count with
  | zero => rw [bitsOf, bitsValue_nil, pow_zero, Nat.mod_one]
  | succ count ih =>
    rw [bitsOf, bitsValue_cons, bitsOf_length, ih, Nat.toNat_testBit, Nat.mod_pow_succ,
      Nat.add_comm]

/-- A number that fits is read back from its bits. -/
theorem bitsValue_bitsOf {count n : ℕ} (hn : n < 2 ^ count) : bitsValue (bitsOf count n) = n := by
  rw [bitsValue_bitsOf_mod, Nat.mod_eq_of_lt hn]

/-- Bits are written back from the number they stand for. -/
theorem bitsOf_bitsValue (bits : List Bool) : bitsOf bits.length (bitsValue bits) = bits := by
  induction bits with
  | nil => rfl
  | cons bit bits ih =>
    have hlt := bitsValue_lt bits
    have hhead : (bitsValue (bit :: bits)).testBit bits.length = bit := by
      rw [bitsValue_cons, Nat.testBit_two_pow_mul_add _ hlt, if_neg (Nat.lt_irrefl _),
        Nat.sub_self]
      cases bit <;> rfl
    have htail : bitsOf bits.length (bitsValue (bit :: bits)) = bits := by
      rw [← bitsOf_mod, bitsValue_cons, Nat.mul_add_mod, Nat.mod_eq_of_lt hlt, ih]
    rw [List.length_cons, bitsOf, hhead, htail]

/-! ## Bytes -/

/-- The bits of a byte. -/
def byteBits (byte : UInt8) : List Bool := bitsOf 8 byte.toNat

/-- The bits of some bytes, one byte after the other. -/
def bytesBits (bytes : List UInt8) : List Bool := bytes.flatMap byteBits

@[simp]
theorem byteBits_length (byte : UInt8) : (byteBits byte).length = 8 := bitsOf_length 8 _

@[simp]
theorem bytesBits_nil : bytesBits [] = [] := rfl

@[simp]
theorem bytesBits_cons (byte : UInt8) (bytes : List UInt8) :
    bytesBits (byte :: bytes) = byteBits byte ++ bytesBits bytes := rfl

/-- The bits of two blocks of bytes. -/
@[simp]
theorem bytesBits_append (bytes bytes' : List UInt8) :
    bytesBits (bytes ++ bytes') = bytesBits bytes ++ bytesBits bytes' :=
  List.flatMap_append

/-- Every byte has eight bits. -/
@[simp]
theorem bytesBits_length (bytes : List UInt8) : (bytesBits bytes).length = 8 * bytes.length := by
  induction bytes with
  | nil => rfl
  | cons byte bytes ih =>
    rw [bytesBits_cons, List.length_append, byteBits_length, ih, List.length_cons]
    omega

/-- A byte is read back from its bits. -/
@[simp]
theorem bitsValue_byteBits (byte : UInt8) : bitsValue (byteBits byte) = byte.toNat :=
  bitsValue_bitsOf byte.toNat_lt

theorem byteBits_ofNat (n : ℕ) : byteBits (UInt8.ofNat n) = bitsOf 8 n := by
  rw [byteBits, UInt8.toNat_ofNat', bitsOf_mod]

/-- A byte is known by its bits. -/
theorem byteBits_injective : Function.Injective byteBits := by
  intro byte byte' h
  apply UInt8.toNat_inj.mp
  rw [← bitsValue_byteBits byte, ← bitsValue_byteBits byte', h]

/-- Bytes with the same bits are the same. -/
theorem bytesBits_injective : Function.Injective bytesBits := by
  intro bytes bytes' h
  induction bytes generalizing bytes' with
  | nil =>
    have hlength := congrArg List.length h
    rw [bytesBits_length, bytesBits_length, List.length_nil] at hlength
    exact (List.length_eq_zero_iff.mp (by omega)).symm
  | cons byte bytes ih =>
    cases bytes' with
    | nil =>
      have hlength := congrArg List.length h
      rw [bytesBits_length, bytesBits_length, List.length_nil, List.length_cons] at hlength
      omega
    | cons byte' bytes' =>
      obtain ⟨hhead, htail⟩ := List.append_inj h (by rw [byteBits_length, byteBits_length])
      rw [byteBits_injective hhead, ih htail]

/-- The bytes that some bits fill, the last one padded with zeros. -/
def packBits (bits : List Bool) : List UInt8 :=
  (List.range ((bits.length + 7) / 8)).map fun i =>
    UInt8.ofNat (bitsValue (((bits ++ List.replicate 7 false).drop (8 * i)).take 8))

/-- Eight bits fill a byte, and what is left another. -/
@[simp]
theorem packBits_length (bits : List Bool) : (packBits bits).length = (bits.length + 7) / 8 := by
  rw [packBits, List.length_map, List.length_range]

/-- Blocks of eight bits taken one after the other are the bits up to the last block. -/
theorem bytesBits_blocks {bits : List Bool} {count : ℕ} (h : 8 * count ≤ bits.length) :
    bytesBits ((List.range count).map fun i =>
      UInt8.ofNat (bitsValue ((bits.drop (8 * i)).take 8))) = bits.take (8 * count) := by
  induction count with
  | zero => rfl
  | succ count ih =>
    have hblock : ((bits.drop (8 * count)).take 8).length = 8 := by
      rw [List.length_take, List.length_drop]
      omega
    have hbits := bitsOf_bitsValue ((bits.drop (8 * count)).take 8)
    rw [hblock] at hbits
    rw [List.range_succ, List.map_append, bytesBits_append, ih (by omega), List.map_singleton,
      bytesBits_cons, bytesBits_nil, List.append_nil, byteBits_ofNat, hbits, Nat.mul_succ,
      List.take_add]

/-- The bits of the bytes that some bits fill are those bits and the padding. -/
theorem bytesBits_packBits (bits : List Bool) :
    bytesBits (packBits bits) =
      bits ++ List.replicate (8 * ((bits.length + 7) / 8) - bits.length) false := by
  have hlength : (bits ++ List.replicate 7 false).length = bits.length + 7 := by
    rw [List.length_append, List.length_replicate]
  rw [packBits, bytesBits_blocks (by omega), List.take_append, List.take_of_length_le (by omega),
    List.take_replicate, Nat.min_eq_left (by omega)]

/-- The bits of bytes are packed back into the bytes. -/
theorem packBits_bytesBits (bytes : List UInt8) : packBits (bytesBits bytes) = bytes := by
  have hlength : 8 * (((bytesBits bytes).length + 7) / 8) - (bytesBits bytes).length = 0 := by
    rw [bytesBits_length]
    omega
  apply bytesBits_injective
  rw [bytesBits_packBits, hlength, List.replicate_zero, List.append_nil]

/-! ## Memory -/

/-- Bit `i` of a memory, the most significant bit of its first byte being bit `0`. -/
def bitAt (data : ℕ → UInt8) (i : ℕ) : Bool := (data (i / 8)).toNat.testBit (7 - i % 8)

/-- The bits of a memory from bit `start` up to bit `stop`. -/
def bitsBetween (data : ℕ → UInt8) (start stop : ℕ) : List Bool :=
  (List.range' start (stop - start)).map (bitAt data)

@[simp]
theorem bitsBetween_length (data : ℕ → UInt8) (start stop : ℕ) :
    (bitsBetween data start stop).length = stop - start := by
  rw [bitsBetween, List.length_map, List.length_range']

theorem bitsBetween_of_le {data : ℕ → UInt8} {start stop : ℕ} (h : stop ≤ start) :
    bitsBetween data start stop = [] := by
  rw [bitsBetween, Nat.sub_eq_zero_of_le h]
  rfl

/-- The first bit, and those behind it. -/
theorem bitsBetween_of_lt {data : ℕ → UInt8} {start stop : ℕ} (h : start < stop) :
    bitsBetween data start stop = bitAt data start :: bitsBetween data (start + 1) stop := by
  obtain ⟨k, hk⟩ : ∃ k, stop - start = k + 1 := ⟨stop - start - 1, by omega⟩
  have hk' : stop - (start + 1) = k := by omega
  rw [bitsBetween, bitsBetween, hk, hk', List.range'_succ, List.map_cons]

/-- Memories with the same bits there agree. -/
theorem bitsBetween_congr {data data' : ℕ → UInt8} {start stop : ℕ}
    (h : ∀ i, start ≤ i → i < stop → bitAt data i = bitAt data' i) :
    bitsBetween data start stop = bitsBetween data' start stop := by
  refine List.map_congr_left fun i hi => ?_
  obtain ⟨hlow, hhigh⟩ := List.mem_range'_1.mp hi
  exact h i hlow (by omega)

/-- A range is cut in two. -/
theorem bitsBetween_append {data : ℕ → UInt8} {start middle stop : ℕ} (hlow : start ≤ middle)
    (hhigh : middle ≤ stop) :
    bitsBetween data start middle ++ bitsBetween data middle stop =
      bitsBetween data start stop := by
  have hlen : stop - start = (middle - start) + (stop - middle) := by omega
  have hmid : start + 1 * (middle - start) = middle := by omega
  rw [bitsBetween, bitsBetween, bitsBetween, ← List.map_append, hlen, ← List.range'_append, hmid]

/-- The bits of a byte are those of the memory where it stands. -/
theorem byteBits_eq_bitsBetween (data : ℕ → UInt8) (i : ℕ) :
    byteBits (data i) = bitsBetween data (8 * i) (8 * i + 8) := by
  have hlen : 8 * i + 8 - 8 * i = 8 := by omega
  rw [byteBits, bitsOf_eq_map, bitsBetween, hlen, List.range'_eq_map_range, List.map_map]
  refine List.map_congr_left fun j hj => ?_
  have hlt := List.mem_range.mp hj
  have hdiv : (8 * i + j) / 8 = i := by omega
  have hmod : (8 * i + j) % 8 = j := by omega
  rw [Function.comp_apply, bitAt, hdiv, hmod]

/-- The bits of the first bytes of a memory are its first bits. -/
theorem bytesBits_range (data : ℕ → UInt8) (count : ℕ) :
    bytesBits ((List.range count).map data) = bitsBetween data 0 (8 * count) := by
  induction count with
  | zero => rfl
  | succ count ih =>
    rw [List.range_succ, List.map_append, bytesBits_append, ih, List.map_singleton,
      bytesBits_cons, bytesBits_nil, List.append_nil, byteBits_eq_bitsBetween,
      bitsBetween_append (by omega) (by omega)]
    rfl

end Jpv2g
