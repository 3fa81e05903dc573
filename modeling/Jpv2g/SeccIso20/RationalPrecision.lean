import Jpv2g.SeccIso20.Rational
import Mathlib.Data.Int.ConditionallyCompleteOrder
import Mathlib.Data.Sign.Basic
import Mathlib.Tactic.FieldSimp
import Mathlib.Tactic.Linarith
import Mathlib.Tactic.Positivity
import Mathlib.Tactic.Ring

/-!
# Precision of the ISO 15118-20 Rational Numbers

What the conversion of `secc_iso20.c` loses: nothing on a number the wire format can carry, and
elsewhere at most half a unit at milli-resolution and a five-thousandth of the quantity.

## Main definitions

* `ratScale`: the scaled quantity and its exponent, before it is rounded to the mantissa.

## Main results

* `ratToFloat_ratFromFloat_of_int`: a quantity whose scaled form is an integer is kept.
* `ratFromFloat_faithful`: exact on the wire format, and the error bound elsewhere.
-/

namespace Jpv2g

/-! ## Rounding -/

/-- An integer is its own rounding. -/
theorem s20Lround_intCast (n : ℤ) : s20Lround n = n := by
  have hfloor : ⌊(n : ℚ) + 1 / 2⌋ = n := by
    rw [Int.floor_eq_iff]
    constructor <;> linarith
  have hceil : ⌈(n : ℚ) - 1 / 2⌉ = n := by
    rw [Int.ceil_eq_iff]
    constructor <;> linarith
  unfold s20Lround
  rw [hfloor, hceil, ite_self]

/-- Rounding moves a quantity by at most one half. -/
theorem abs_sub_s20Lround_le (v : ℚ) : |v - s20Lround v| ≤ 1 / 2 := by
  unfold s20Lround
  rw [abs_le]
  split_ifs
  · have hle := Int.floor_le (v + 1 / 2)
    have hlt := Int.lt_floor_add_one (v + 1 / 2)
    constructor <;> linarith
  · have hle := Int.le_ceil (v - 1 / 2)
    have hlt := Int.ceil_lt_add_one (v - 1 / 2)
    constructor <;> linarith

/-- Rounding keeps a value from becoming negative. -/
theorem s20Lround_nonneg {v : ℚ} (hv : 0 ≤ v) : 0 ≤ s20Lround v := by
  unfold s20Lround
  rw [if_pos hv, Int.floor_nonneg]
  linarith

/-- Rounding keeps a value from becoming positive. -/
theorem s20Lround_nonpos {v : ℚ} (hv : v ≤ 0) : s20Lround v ≤ 0 := by
  have habs := (abs_le.mp (abs_sub_s20Lround_le v)).1
  -- the rounded value is an integer below one
  have hlt : (s20Lround v : ℚ) < 1 := by linarith
  have : s20Lround v < 1 := by exact_mod_cast hlt
  omega

/-- Rounding does not leave a symmetric integer interval. -/
theorem abs_s20Lround_le {v : ℚ} {n : ℤ} (hv : |v| ≤ n) : |s20Lround v| ≤ n := by
  have hround := abs_le.mp (abs_sub_s20Lround_le v)
  have hrange := abs_le.mp hv
  have hupper : (s20Lround v : ℚ) < n + 1 := by linarith
  have hlower : (-n - 1 : ℚ) < s20Lround v := by linarith
  have hupper' : s20Lround v < n + 1 := by exact_mod_cast hupper
  have hlower' : -n - 1 < s20Lround v := by exact_mod_cast hlower
  rw [abs_le]
  omega

/-- A rounded value that is not zero is on the side of zero it was on before. -/
theorem sign_s20Lround {v : ℚ} (hne : s20Lround v ≠ 0) :
    SignType.sign (s20Lround v) = SignType.sign v := by
  rcases lt_trichotomy v 0 with hneg | rfl | hpos
  · rw [sign_neg hneg, sign_neg (lt_of_le_of_ne (s20Lround_nonpos hneg.le) hne)]
  · exact absurd (by exact_mod_cast s20Lround_intCast 0) hne
  · rw [sign_pos hpos, sign_pos (lt_of_le_of_ne (s20Lround_nonneg hpos.le) hne.symm)]

/-- A mantissa in range is not clamped. -/
theorem clampMantissa_of_abs_le {m : ℤ} (hm : |m| ≤ 32767) : clampMantissa m = m := by
  rw [abs_le] at hm
  unfold clampMantissa
  rw [if_neg (by omega), if_neg (by omega)]

/-- The value of a rational number is its mantissa at its exponent. -/
theorem ratToFloat_eq (r : RationalNumber) : ratToFloat r = r.value * 10 ^ r.exponent := by
  unfold ratToFloat
  split_ifs with hexp
  · rw [← zpow_natCast, Int.toNat_of_nonneg hexp]
  · have hneg : ((-r.exponent).toNat : ℤ) = -r.exponent := Int.toNat_of_nonneg (by omega)
    rw [← zpow_natCast, hneg, zpow_neg, div_inv_eq_mul]

/-! ## Scaling down -/

/-- Scaling down moves decimal places into the exponent and keeps the quantity. -/
theorem scaleDown_mul_zpow (fuel : ℕ) (v : ℚ) (e : ℤ) :
    (scaleDown fuel v e).1 * 10 ^ (scaleDown fuel v e).2 = v * 10 ^ e := by
  induction fuel generalizing v e with
  | zero => rfl
  | succ fuel ih =>
    unfold scaleDown
    split_ifs
    · rw [ih, zpow_add_one₀ (by norm_num)]
      ring
    · rfl

/-- Scaling down reaches the range of the mantissa with enough fuel. -/
theorem abs_scaleDown_le {fuel : ℕ} {v : ℚ} (hv : |v| ≤ 32767 * 10 ^ fuel) (e : ℤ) :
    |(scaleDown fuel v e).1| ≤ 32767 := by
  induction fuel generalizing v e with
  | zero => simpa [scaleDown] using hv
  | succ fuel ih =>
    unfold scaleDown
    split_ifs with hlarge
    · apply ih
      rw [abs_div, abs_of_pos (by norm_num : (0 : ℚ) < 10), div_le_iff₀ (by norm_num)]
      rw [pow_succ] at hv
      linarith
    · exact not_lt.mp hlarge

/-- A value in range is not scaled down. -/
theorem scaleDown_of_abs_le (fuel : ℕ) {v : ℚ} (hv : |v| ≤ 32767) (e : ℤ) :
    scaleDown fuel v e = (v, e) := by
  cases fuel with
  | zero => rfl
  | succ fuel => rw [scaleDown, if_neg (not_lt.mpr hv)]

/-- Where scaling down has divided at all, the mantissa still has all its places. -/
theorem scaleDown_eq_or_lt_abs (fuel : ℕ) (v : ℚ) (e : ℤ) :
    scaleDown fuel v e = (v, e) ∨ 32767 < |(scaleDown fuel v e).1| * 10 := by
  induction fuel generalizing v e with
  | zero => exact Or.inl rfl
  | succ fuel ih =>
    unfold scaleDown
    split_ifs with hlarge
    · right
      rcases ih (v / 10) (e + 1) with hstop | hlt
      · rw [hstop, abs_div, abs_of_pos (by norm_num : (0 : ℚ) < 10)]
        linarith
      · exact hlt
    · exact Or.inl rfl

/-- An integer with trailing zeros is scaled down to an integer: its digits fit before they run
out. -/
theorem scaleDown_int {fuel k : ℕ} (hk : k ≤ fuel) {m : ℤ} (hm : |m| ≤ 32767) (e : ℤ) :
    ∃ n : ℤ, (scaleDown fuel (m * 10 ^ k) e).1 = n := by
  induction fuel generalizing k e with
  | zero => exact ⟨m * 10 ^ k, by push_cast; rfl⟩
  | succ fuel ih =>
    unfold scaleDown
    split_ifs with hlarge
    · cases k with
      | zero =>
        -- without zeros left the mantissa fits
        have hfits : |(m : ℚ)| ≤ 32767 := by exact_mod_cast hm
        rw [pow_zero, mul_one] at hlarge
        exact absurd hlarge (not_lt.mpr hfits)
      | succ k =>
        have hdiv : (m : ℚ) * 10 ^ (k + 1) / 10 = m * 10 ^ k := by
          rw [pow_succ]
          ring
        rw [hdiv]
        exact ih (by omega) (e + 1)
    · exact ⟨m * 10 ^ k, by push_cast; rfl⟩

/-! ## Scaling up -/

/-- Scaling up moves decimal places out of the exponent and keeps the quantity. -/
theorem scaleUp_mul_zpow (fuel : ℕ) (v : ℚ) (e : ℤ) :
    (scaleUp fuel v e).1 * 10 ^ (scaleUp fuel v e).2 = v * 10 ^ e := by
  induction fuel generalizing v e with
  | zero => rfl
  | succ fuel ih =>
    unfold scaleUp
    split_ifs
    · rfl
    · rfl
    · rw [ih, zpow_sub_one₀ (by norm_num)]
      field_simp

theorem abs_mul_ten (v : ℚ) : |v * 10| = |v| * 10 := by
  rw [abs_mul, abs_of_pos (by norm_num : (0 : ℚ) < 10)]

/-- Scaling up stays in the range of the mantissa. -/
theorem abs_scaleUp_le (fuel : ℕ) {v : ℚ} (hv : |v| ≤ 32767) (e : ℤ) :
    |(scaleUp fuel v e).1| ≤ 32767 := by
  induction fuel generalizing v e with
  | zero => exact hv
  | succ fuel ih =>
    unfold scaleUp
    split_ifs with _ hlarge
    · exact hv
    · exact hv
    · exact ih (by rw [abs_mul_ten]; exact not_lt.mp hlarge) (e - 1)

/-- Scaling up never makes a value smaller. -/
theorem abs_le_abs_scaleUp (fuel : ℕ) (v : ℚ) (e : ℤ) : |v| ≤ |(scaleUp fuel v e).1| := by
  induction fuel generalizing v e with
  | zero => exact le_refl _
  | succ fuel ih =>
    unfold scaleUp
    split_ifs
    · exact le_refl _
    · exact le_refl _
    · have hgrow := ih (v * 10) (e - 1)
      rw [abs_mul_ten] at hgrow
      have := abs_nonneg v
      linarith

/-- The three ways out of the loop: near an integer, no room for another digit, or all places
used. -/
theorem scaleUp_exit (fuel : ℕ) (v : ℚ) (e : ℤ) :
    |(scaleUp fuel v e).1 - s20Lround (scaleUp fuel v e).1|
        ≤ 1 / 10 ^ 6 * (|(scaleUp fuel v e).1| + 1) ∨
      32767 < |(scaleUp fuel v e).1| * 10 ∨ (scaleUp fuel v e).2 = e - fuel := by
  induction fuel generalizing v e with
  | zero => exact Or.inr (Or.inr (by simp [scaleUp]))
  | succ fuel ih =>
    unfold scaleUp
    split_ifs with hnear hlarge
    · exact Or.inl hnear
    · exact Or.inr (Or.inl hlarge)
    · rcases ih (v * 10) (e - 1) with hnear' | hlarge' | hfloor
      · exact Or.inl hnear'
      · exact Or.inr (Or.inl hlarge')
      · refine Or.inr (Or.inr ?_)
        rw [hfloor]
        push_cast
        ring

/-- An integer is as near to its rounding as the loop asks for. -/
theorem intCast_near (n : ℤ) : |(n : ℚ) - s20Lround n| ≤ 1 / 10 ^ 6 * (|(n : ℚ)| + 1) := by
  rw [s20Lround_intCast, sub_self, abs_zero]
  positivity

/-- An integer is not scaled up. -/
theorem scaleUp_intCast (fuel : ℕ) (n : ℤ) (e : ℤ) : scaleUp fuel (n : ℚ) e = ((n : ℚ), e) := by
  cases fuel with
  | zero => rfl
  | succ fuel => rw [scaleUp, if_pos (intCast_near n)]

/-- The near-integer test does not stop early: a quantity with at most three decimal places whose
digits fit the mantissa passes it only when it is an integer. -/
theorem eq_s20Lround_of_near {v : ℚ} {k : ℕ} (hk : k ≤ 3) {m : ℤ} (hm : |m| ≤ 32767)
    (hv : v * 10 ^ k = m) (hnear : |v - s20Lround v| ≤ 1 / 10 ^ 6 * (|v| + 1)) :
    v = s20Lround v := by
  have hpos : (0 : ℚ) < 10 ^ k := by positivity
  have hpow : (10 : ℚ) ^ k ≤ 1000 := by
    calc (10 : ℚ) ^ k ≤ 10 ^ 3 := pow_le_pow_right₀ (by norm_num) hk
      _ = 1000 := by norm_num
  have hmq : |(m : ℚ)| ≤ 32767 := by exact_mod_cast hm
  -- the distance to the integer, counted in units of the last place, is an integer below one
  have hdist : |((m - s20Lround v * 10 ^ k : ℤ) : ℚ)| < 1 := by
    calc |((m - s20Lround v * 10 ^ k : ℤ) : ℚ)|
        = |v - s20Lround v| * 10 ^ k := by
          rw [← abs_of_pos hpos, ← abs_mul, sub_mul, hv]
          push_cast
          rfl
      _ ≤ 1 / 10 ^ 6 * (|v| + 1) * 10 ^ k := mul_le_mul_of_nonneg_right hnear hpos.le
      _ = 1 / 10 ^ 6 * (|(m : ℚ)| + 10 ^ k) := by
          rw [← hv, abs_mul, abs_of_pos hpos]
          ring
      _ < 1 := by linarith
  have hzero : m - s20Lround v * 10 ^ k = 0 := by
    rw [← Int.abs_lt_one_iff]
    exact_mod_cast hdist
  have hm_eq : (m : ℚ) = s20Lround v * 10 ^ k := by exact_mod_cast sub_eq_zero.mp hzero
  exact mul_right_cancel₀ hpos.ne' (hv.trans hm_eq)

/-- A quantity with decimal places left is scaled up until they are used. -/
theorem scaleUp_int {fuel k : ℕ} (hkf : k ≤ fuel) (hk : k ≤ 3) {m : ℤ} (hm : |m| ≤ 32767) {v : ℚ}
    (hv : v * 10 ^ k = m) (e : ℤ) : ∃ n : ℤ, (scaleUp fuel v e).1 = n := by
  induction fuel generalizing k v e with
  | zero =>
    obtain rfl : k = 0 := by omega
    rw [pow_zero, mul_one] at hv
    exact ⟨m, hv⟩
  | succ fuel ih =>
    rw [scaleUp]
    by_cases hnear : |v - s20Lround v| ≤ 1 / 10 ^ 6 * (|v| + 1)
    · rw [if_pos hnear]
      exact ⟨s20Lround v, eq_s20Lround_of_near hk hm hv hnear⟩
    · -- an integer would have stopped the loop, so there is a place left
      obtain ⟨j, rfl⟩ : ∃ j, k = j + 1 := by
        refine Nat.exists_eq_succ_of_ne_zero ?_
        rintro rfl
        rw [pow_zero, mul_one] at hv
        rw [hv] at hnear
        exact hnear (intCast_near m)
      have hstep : v * 10 * 10 ^ j = m := by
        rw [← hv, pow_succ]
        ring
      -- and the next digit fits, because all the digits of `m` do
      have hfits : |v| * 10 ≤ 32767 := by
        have hone : (1 : ℚ) ≤ 10 ^ j := one_le_pow₀ (by norm_num)
        calc |v| * 10 ≤ |v| * 10 * 10 ^ j := le_mul_of_one_le_right (by positivity) hone
          _ = |(m : ℚ)| := by
            rw [← hstep, abs_mul, abs_mul_ten, abs_of_pos (by positivity : (0 : ℚ) < 10 ^ j)]
          _ ≤ 32767 := by exact_mod_cast hm
      rw [if_neg hnear, if_neg (not_lt.mpr hfits)]
      exact ih (by omega) (by omega) hstep (e - 1)

/-! ## The conversion -/

/-- The scaled quantity and its exponent, which `ratFromFloat` rounds to the mantissa. -/
def ratScale (v : ℚ) : ℚ × ℤ :=
  scaleUp ((scaleDown 127 v 0).2 + 3).toNat (scaleDown 127 v 0).1 (scaleDown 127 v 0).2

/-- Zero is not scaled. -/
theorem ratFromFloat_zero : ratFromFloat 0 = { exponent := 0, value := 0 } := by
  unfold ratFromFloat
  rw [if_pos rfl]

/-- Any other value is scaled, rounded and clamped. -/
theorem ratFromFloat_of_ne_zero {v : ℚ} (hv : v ≠ 0) :
    ratFromFloat v
      = { exponent := (ratScale v).2, value := clampMantissa (s20Lround (ratScale v).1) } := by
  unfold ratFromFloat
  rw [if_neg hv]
  rfl

/-- Scaling keeps the value. -/
theorem ratScale_mul_zpow (v : ℚ) : (ratScale v).1 * 10 ^ (ratScale v).2 = v := by
  unfold ratScale
  rw [scaleUp_mul_zpow, scaleDown_mul_zpow, zpow_zero, mul_one]

/-- Scaling keeps the absolute value. -/
theorem abs_ratScale_mul_zpow (v : ℚ) : |(ratScale v).1| * 10 ^ (ratScale v).2 = |v| := by
  have hpos : (0 : ℚ) < 10 ^ (ratScale v).2 := zpow_pos (by norm_num) _
  rw [← abs_of_pos hpos, ← abs_mul, ratScale_mul_zpow]

/-- Scaling reaches the range of the mantissa. -/
theorem abs_ratScale_le {v : ℚ} (hv : |v| ≤ 32767 * 10 ^ 127) : |(ratScale v).1| ≤ 32767 :=
  abs_scaleUp_le _ (abs_scaleDown_le hv 0) _

/-- In range the clamp on the mantissa does not act. -/
theorem ratFromFloat_value {v : ℚ} (hv : |v| ≤ 32767 * 10 ^ 127) :
    (ratFromFloat v).value = if v = 0 then 0 else s20Lround (ratScale v).1 := by
  split_ifs with hzero
  · rw [hzero, ratFromFloat_zero]
  · rw [ratFromFloat_of_ne_zero hzero]
    exact clampMantissa_of_abs_le (abs_s20Lround_le (by exact_mod_cast abs_ratScale_le hv))

/-- A quantity whose scaled form is an integer is kept. -/
theorem ratToFloat_ratFromFloat_of_int {v : ℚ} (hv : |v| ≤ 32767 * 10 ^ 127) {n : ℤ}
    (hn : (ratScale v).1 = n) : ratToFloat (ratFromFloat v) = v := by
  rw [ratToFloat_eq, ratFromFloat_value hv]
  split_ifs with hzero
  · rw [hzero, Int.cast_zero, zero_mul]
  · rw [ratFromFloat_of_ne_zero hzero, hn, s20Lround_intCast, ← hn]
    exact ratScale_mul_zpow v

/-- A mantissa in range at an exponent in range is in range. -/
theorem abs_int_mul_zpow_le {m e : ℤ} (hm : |m| ≤ 32767) (he : e ≤ 127) :
    |(m : ℚ) * 10 ^ e| ≤ 32767 * 10 ^ 127 := by
  have hpos : (0 : ℚ) < 10 ^ e := zpow_pos (by norm_num) e
  have hpow : (10 : ℚ) ^ e ≤ 10 ^ (127 : ℤ) := zpow_le_zpow_right₀ (by norm_num) he
  have hmq : |(m : ℚ)| ≤ 32767 := by exact_mod_cast hm
  rw [abs_mul, abs_of_pos hpos]
  exact mul_le_mul hmq (by exact_mod_cast hpow) hpos.le (by norm_num)

/-- A number of the wire format is scaled to an integer. -/
theorem ratScale_int {m e : ℤ} (hm : |m| ≤ 32767) (hlow : -3 ≤ e) (hhigh : e ≤ 127) :
    ∃ n : ℤ, (ratScale (m * 10 ^ e)).1 = n := by
  unfold ratScale
  by_cases he : 0 ≤ e
  · -- trailing zeros: only scaling down has work to do
    obtain ⟨k, rfl⟩ := Int.eq_ofNat_of_zero_le he
    have hk : k ≤ 127 := by omega
    obtain ⟨n, hn⟩ := scaleDown_int hk hm 0
    rw [zpow_natCast, hn, scaleUp_intCast]
    exact ⟨n, rfl⟩
  · -- decimal places: only scaling up has
    obtain ⟨k, hk⟩ := Int.eq_ofNat_of_zero_le (by omega : 0 ≤ -e)
    have hv : (m : ℚ) * 10 ^ e * 10 ^ k = m := by
      rw [← zpow_natCast, ← hk, mul_assoc, ← zpow_add₀ (by norm_num), add_neg_cancel, zpow_zero,
        mul_one]
    have hsmall : |(m : ℚ) * 10 ^ e| ≤ 32767 := by
      have hone : (1 : ℚ) ≤ 10 ^ k := one_le_pow₀ (by norm_num)
      calc |(m : ℚ) * 10 ^ e| ≤ |(m : ℚ) * 10 ^ e| * 10 ^ k :=
            le_mul_of_one_le_right (abs_nonneg _) hone
        _ = |(m : ℚ) * 10 ^ e * 10 ^ k| := by
          rw [abs_mul _ ((10 : ℚ) ^ k), abs_of_pos (by positivity : (0 : ℚ) < 10 ^ k)]
        _ = |(m : ℚ)| := by rw [hv]
        _ ≤ 32767 := by exact_mod_cast hm
    rw [scaleDown_of_abs_le 127 hsmall]
    exact scaleUp_int (by omega) (by omega) hm hv 0

/-- The rounding error in units of the last place, by the way the loop was left. -/
theorem ratScale_exit {v : ℚ} :
    |(ratScale v).1 - s20Lround (ratScale v).1| ≤ 1 / 10 ^ 6 * (|(ratScale v).1| + 1) ∨
      32767 < |(ratScale v).1| * 10 ∨ (ratScale v).2 = -3 := by
  have hdown := (scaleDown_snd_mem 127 v 0).1
  rcases scaleUp_exit ((scaleDown 127 v 0).2 + 3).toNat (scaleDown 127 v 0).1
    (scaleDown 127 v 0).2 with hnear | hlarge | hfloor
  · exact Or.inl hnear
  · exact Or.inr (Or.inl hlarge)
  · refine Or.inr (Or.inr ?_)
    unfold ratScale
    omega

/-- A positive exponent is used only for a mantissa with all its places. -/
theorem one_le_ratScale {v : ℚ} (he : 0 < (ratScale v).2) : 1 ≤ |(ratScale v).1| := by
  have hup := (scaleUp_snd_mem ((scaleDown 127 v 0).2 + 3).toNat (scaleDown 127 v 0).1
    (scaleDown 127 v 0).2).2
  have hgrow := abs_le_abs_scaleUp ((scaleDown 127 v 0).2 + 3).toNat (scaleDown 127 v 0).1
    (scaleDown 127 v 0).2
  rcases scaleDown_eq_or_lt_abs 127 v 0 with hstop | hlt
  · -- nothing was divided, so the exponent is not positive
    exfalso
    unfold ratScale at he
    rw [hstop] at he hup
    simp only at he hup
    omega
  · unfold ratScale
    linarith

/-- The rounding error is at most half a unit at milli-resolution and a five-thousandth of the
quantity. -/
theorem ratScale_round_error (v : ℚ) :
    |(s20Lround (ratScale v).1 : ℚ) * 10 ^ (ratScale v).2 - v| ≤ 5 / 10000 + |v| / 5000 := by
  have hpos : (0 : ℚ) < 10 ^ (ratScale v).2 := zpow_pos (by norm_num) _
  have habs := abs_ratScale_mul_zpow v
  have hv := abs_nonneg v
  -- an error in units of the last place is an error of the quantity in units of `10 ^ exponent`
  have herr : |(s20Lround (ratScale v).1 : ℚ) * 10 ^ (ratScale v).2 - v|
      = |(ratScale v).1 - s20Lround (ratScale v).1| * 10 ^ (ratScale v).2 := by
    calc |(s20Lround (ratScale v).1 : ℚ) * 10 ^ (ratScale v).2 - v|
        = |(s20Lround (ratScale v).1 : ℚ) * 10 ^ (ratScale v).2
            - (ratScale v).1 * 10 ^ (ratScale v).2| := by rw [ratScale_mul_zpow]
      _ = |(ratScale v).1 - s20Lround (ratScale v).1| * 10 ^ (ratScale v).2 := by
        rw [← sub_mul, abs_mul, abs_of_pos hpos, abs_sub_comm]
  have hhalf := mul_le_mul_of_nonneg_right (abs_sub_s20Lround_le (ratScale v).1) hpos.le
  rw [herr]
  rcases ratScale_exit (v := v) with hnear | hlarge | hfloor
  · have hnear' := mul_le_mul_of_nonneg_right hnear hpos.le
    -- the unit added in the tolerance is small by the exponent or by the mantissa
    have hunit : (10 : ℚ) ^ (ratScale v).2 ≤ 1 + |v| := by
      by_cases he : 0 < (ratScale v).2
      · have hone := mul_le_mul_of_nonneg_right (one_le_ratScale he) hpos.le
        linarith
      · have hle : (10 : ℚ) ^ (ratScale v).2 ≤ 1 := zpow_le_one_of_nonpos₀ (by norm_num) (by omega)
        linarith
    calc _ ≤ _ := hnear'
      _ = 1 / 10 ^ 6 * (|v| + 10 ^ (ratScale v).2) := by rw [← habs]; ring
      _ ≤ 5 / 10000 + |v| / 5000 := by linarith
  · have hlarge' := mul_le_mul_of_nonneg_right hlarge.le hpos.le
    linarith
  · have hmilli : (10 : ℚ) ^ (ratScale v).2 = 1 / 1000 := by
      rw [hfloor]
      norm_num
    rw [hmilli] at hhalf ⊢
    linarith

/-- Scaling keeps the sign. -/
theorem sign_ratScale (v : ℚ) : SignType.sign (ratScale v).1 = SignType.sign v := by
  have hpos : (0 : ℚ) < 10 ^ (ratScale v).2 := zpow_pos (by norm_num) _
  conv_rhs => rw [← ratScale_mul_zpow v, sign_mul, sign_pos hpos, mul_one]

/-- The conversion keeps every number of the wire format, and elsewhere in the range of the wire
format is off by at most half a milli-unit and a five-thousandth of the quantity, on the right side
of zero. -/
theorem ratFromFloat_faithful :
    (∀ m e : ℤ, |m| ≤ 32767 → -3 ≤ e → e ≤ 127 →
      ratToFloat (ratFromFloat (m * 10 ^ e)) = m * 10 ^ e) ∧
    ∀ v : ℚ, |v| ≤ 32767 * 10 ^ 127 →
      |(ratFromFloat v).value| ≤ 32767 ∧
      -3 ≤ (ratFromFloat v).exponent ∧ (ratFromFloat v).exponent ≤ 127 ∧
      |((ratFromFloat v).value : ℚ) * 10 ^ (ratFromFloat v).exponent - v|
        ≤ 5 / 10000 + |v| / 5000 ∧
      (v = 0 → (ratFromFloat v).value = 0) ∧
      ((ratFromFloat v).value = 0 ∨
        SignType.sign (ratFromFloat v).value = SignType.sign v) := by
  constructor
  · intro m e hm hlow hhigh
    -- the scaling loops stop at a decimal that is exact
    obtain ⟨n, hn⟩ := ratScale_int hm hlow hhigh
    exact ratToFloat_ratFromFloat_of_int (abs_int_mul_zpow_le hm hhigh) hn
  · intro v hv
    refine ⟨abs_le.mpr (ratFromFloat_value_mem v), (ratFromFloat_exponent_mem v).1,
      (ratFromFloat_exponent_mem v).2, ?_, ?_, ?_⟩
    · rw [ratFromFloat_value hv]
      split_ifs with hzero
      · rw [hzero]
        norm_num
      · rw [ratFromFloat_of_ne_zero hzero]
        -- the loops leave three digits, so rounding costs little
        exact ratScale_round_error v
    · rintro rfl
      rw [ratFromFloat_zero]
    · rw [ratFromFloat_value hv]
      split_ifs
      · exact Or.inl rfl
      · rw [← sign_ratScale v]
        by_cases hround : s20Lround (ratScale v).1 = 0
        · exact Or.inl hround
        · exact Or.inr (sign_s20Lround hround)

theorem ratFromFloat_faithful_tenth :
    ratToFloat (ratFromFloat ((10005 : ℤ) * 10 ^ (-1 : ℤ))) = (10005 : ℤ) * 10 ^ (-1 : ℤ) ∧
      |(ratFromFloat 3276800).value| ≤ 32767 :=
  ⟨ratFromFloat_faithful.1 10005 (-1) (by decide) (by decide) (by decide),
    (ratFromFloat_faithful.2 3276800 (by norm_num)).1⟩

end Jpv2g
