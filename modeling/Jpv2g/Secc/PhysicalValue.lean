import Jpv2g.Messages
import Mathlib.Data.Rat.Defs

/-!
# Echoed Physical Values

The bounds the default handler puts on the target values it echoes as present values
(`secc_iso_clamp_echo_pv` and `secc_din_clamp_echo_pv` of `secc.c`), with the floating-point
arithmetic read as exact.
-/

namespace Jpv2g

/-- The power of ten of an eight-bit exponent (`secc_pow10_i8`). The loop for a negative exponent
counts to its eight-bit negation, which is negative for `-128`. -/
def pow10I8 (m : Int8) : ℚ :=
  -- `-(-128)` overflows back to `-128`, so that the loop makes no turn
  if 0 < m then 10 ^ m.toInt.toNat
  else if m < 0 then 1 / 10 ^ (-m).toInt.toNat
  else 1

/-- The value in its unit (`secc_iso_pv_to_double`, `secc_din_pv_to_double`). -/
def PhysicalValue.toRat (pv : PhysicalValue) : ℚ :=
  (pv.value.toInt : ℚ) * pow10I8 pv.multiplier

/-- Limit an echoed value to `maxValue` (`secc_iso_clamp_echo_pv`, `secc_din_clamp_echo_pv`). -/
def PhysicalValue.clampEcho (pv : PhysicalValue) (unit : UnitSymbol) (maxValue : Int16) :
    PhysicalValue :=
  if pv.toRat ≤ maxValue.toInt then pv
  else { multiplier := 0, unit := some unit, value := maxValue }

/-- `SECC_ECHO_MAX_VOLTAGE_V`. -/
def echoMaxVoltageV : Int16 := 1000

/-- `SECC_ECHO_MAX_CURRENT_A`. -/
def echoMaxCurrentA : Int16 := 200

end Jpv2g
