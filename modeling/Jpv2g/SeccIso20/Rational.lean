import Mathlib.Data.Rat.Floor

/-!
# ISO 15118-20 Rational Numbers

The conversions between the controller's floating-point quantities and the wire format of a
mantissa and a power of ten (`secc_iso20.c`), with the floating-point arithmetic read as exact.

## Main results

* `ratFromFloat_exponent_mem`: the exponent stays in the range of the wire format.
-/

namespace Jpv2g

/-- A number of the wire format (`RationalNumberType`): `value * 10 ^ exponent`. -/
structure RationalNumber where
  exponent : ℤ
  value : ℤ
deriving DecidableEq, Repr

/-- Round to the nearest integer, halves away from zero (`s20_lround`). -/
def s20Lround (v : ℚ) : ℤ :=
  if 0 ≤ v then ⌊v + 1 / 2⌋ else ⌈v - 1 / 2⌉

/-- Scale down until the mantissa fits, for at most `fuel` decimal places. -/
def scaleDown : ℕ → ℚ → ℤ → ℚ × ℤ
  | 0, v, e => (v, e)
  | fuel + 1, v, e => if 32767 < |v| then scaleDown fuel (v / 10) (e + 1) else (v, e)

/-- Scale up while it buys exactness, for at most `fuel` decimal places. -/
def scaleUp : ℕ → ℚ → ℤ → ℚ × ℤ
  | 0, v, e => (v, e)
  | fuel + 1, v, e =>
    -- stop at an integer, or where another digit would not fit
    if |v - s20Lround v| ≤ 1 / 10 ^ 6 * (|v| + 1) then (v, e)
    else if 32767 < |v| * 10 then (v, e)
    else scaleUp fuel (v * 10) (e - 1)

/-- Limit the mantissa to the wire format. -/
def clampMantissa (m : ℤ) : ℤ :=
  if 32767 < m then 32767 else if m < -32767 then -32767 else m

/-- The wire format of a quantity (`jpv2g_secc20_rat_from_float`). The exponent starts at zero and
stays between `-3` and `127`, which bounds both loops. -/
def ratFromFloat (v : ℚ) : RationalNumber :=
  if v = 0 then { exponent := 0, value := 0 }
  else
    let down := scaleDown 127 v 0
    let up := scaleUp (down.2 + 3).toNat down.1 down.2
    { exponent := up.2, value := clampMantissa (s20Lround up.1) }

/-- The quantity of a wire format number (`jpv2g_secc20_rat_to_float`). -/
def ratToFloat (r : RationalNumber) : ℚ :=
  if 0 ≤ r.exponent then r.value * 10 ^ r.exponent.toNat
  else r.value / 10 ^ (-r.exponent).toNat

theorem scaleDown_snd_mem (fuel : ℕ) (v : ℚ) (e : ℤ) :
    e ≤ (scaleDown fuel v e).2 ∧ (scaleDown fuel v e).2 ≤ e + fuel := by
  induction fuel generalizing v e with
  | zero => simp [scaleDown]
  | succ fuel ih =>
    unfold scaleDown
    split_ifs
    · have := ih (v / 10) (e + 1)
      push_cast
      omega
    · push_cast
      omega

theorem scaleUp_snd_mem (fuel : ℕ) (v : ℚ) (e : ℤ) :
    e - fuel ≤ (scaleUp fuel v e).2 ∧ (scaleUp fuel v e).2 ≤ e := by
  induction fuel generalizing v e with
  | zero => simp [scaleUp]
  | succ fuel ih =>
    unfold scaleUp
    split_ifs
    · push_cast
      omega
    · push_cast
      omega
    · have := ih (v * 10) (e - 1)
      push_cast
      omega

/-- The exponent is one the wire format carries, and never below milli-resolution. -/
theorem ratFromFloat_exponent_mem (v : ℚ) :
    -3 ≤ (ratFromFloat v).exponent ∧ (ratFromFloat v).exponent ≤ 127 := by
  unfold ratFromFloat
  split_ifs
  · simp
  · have hdown := scaleDown_snd_mem 127 v 0
    have hup := scaleUp_snd_mem ((scaleDown 127 v 0).2 + 3).toNat (scaleDown 127 v 0).1
      (scaleDown 127 v 0).2
    dsimp only
    omega

/-- The mantissa is one the wire format carries. -/
theorem ratFromFloat_value_mem (v : ℚ) :
    -32767 ≤ (ratFromFloat v).value ∧ (ratFromFloat v).value ≤ 32767 := by
  unfold ratFromFloat clampMantissa
  split_ifs
  · simp
  · dsimp only
    split_ifs <;> omega

example : ratFromFloat 500 = { exponent := 0, value := 500 } := by decide +kernel

example : ratFromFloat (2001 / 2) = { exponent := -1, value := 10005 } := by decide +kernel

end Jpv2g
