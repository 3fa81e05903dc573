import Jpv2g.Secc.HandlerFacts
import Mathlib.Algebra.Order.Field.Power
import Mathlib.Data.Rat.Lemmas
import Mathlib.Tactic.Linarith

/-!
# What the Default Handler Echoes

The present values of a PreChargeRes and of a CurrentDemandRes are the targets of the request,
limited to what the station advertises. The limit compares the right quantity except at the
smallest multiplier, whose eight-bit negation overflows.

## Main definitions

* `PhysicalValue.quantity`: the quantity a value with its multiplier denotes.
* `EchoesTo`: an echoed value is its target limited to a maximum.
* `Request.echoTargets`, `Res.presentValues`: the targets, and the values reported for them.

## Main results

* `clampEcho_echoesTo_iff`: when a limited value is the limit of its quantity.
* `defaultHandle_presentValues`: the handler reports the limited targets of the request.
* `defaultHandle_echoesTo_iff`: when the reported values are the limits of the quantities.
-/

namespace Jpv2g

/-! ## A single value -/

/-- The quantity of a value, in its unit. -/
def PhysicalValue.quantity (pv : PhysicalValue) : ℚ :=
  (pv.value.toInt : ℚ) * 10 ^ pv.multiplier.toInt

/-- The echoed value is the target limited to the maximum, and the target itself below it. -/
def EchoesTo (maxValue : Int16) (target echoed : PhysicalValue) : Prop :=
  echoed.quantity = min target.quantity maxValue.toInt ∧
    (target.quantity ≤ maxValue.toInt → echoed = target)

/-- The negation of an eight-bit integer is exact, but for the smallest. -/
theorem toInt_neg_of_ne {m : Int8} (hm : m ≠ -128) : (-m).toInt = -m.toInt := by
  have hge : -128 ≤ m.toInt := m.le_toInt
  have hlt : m.toInt < 128 := m.toInt_lt
  have hne : m.toInt ≠ -128 := fun h => hm (Int8.toInt_inj.mp h)
  rw [Int8.toInt_neg]
  exact Int.bmod_eq_of_le (by omega) (by omega)

/-- The scale factor is the power of ten, but for the multiplier whose negation overflows. -/
theorem pow10I8_eq {m : Int8} (hm : m ≠ -128) : pow10I8 m = 10 ^ m.toInt := by
  unfold pow10I8
  split_ifs with hpos hneg
  · have hpos' : (0 : ℤ) < m.toInt := Int8.lt_iff_toInt_lt.mp hpos
    rw [← zpow_natCast, Int.toNat_of_nonneg hpos'.le]
  · have hneg' : m.toInt < (0 : ℤ) := Int8.lt_iff_toInt_lt.mp hneg
    rw [toInt_neg_of_ne hm, ← zpow_natCast, Int.toNat_of_nonneg (by omega), zpow_neg,
      one_div, inv_inv]
  · have hzero : m.toInt = 0 := by
      have hle : m.toInt ≤ (0 : ℤ) := Int8.le_iff_toInt_le.mp (Int8.not_lt.mp hpos)
      have hge : (0 : ℤ) ≤ m.toInt := Int8.le_iff_toInt_le.mp (Int8.not_lt.mp hneg)
      omega
    rw [hzero, zpow_zero]

/-- Away from the smallest multiplier the comparison is one of the quantity. -/
theorem toRat_eq_quantity {pv : PhysicalValue} (hm : pv.multiplier ≠ -128) :
    pv.toRat = pv.quantity := by
  rw [PhysicalValue.toRat, PhysicalValue.quantity, pow10I8_eq hm]

/-- At the smallest multiplier the comparison is one of the bare value. -/
theorem toRat_of_overflow {pv : PhysicalValue} (hm : pv.multiplier = -128) :
    pv.toRat = pv.value.toInt := by
  have hscale : pow10I8 (-128) = 1 := by
    have hturns : (- -128 : Int8).toInt.toNat = 0 := by decide
    rw [pow10I8, if_neg (by decide), if_pos (by decide), hturns, pow_zero, div_one]
  rw [PhysicalValue.toRat, hm, hscale, mul_one]

/-- At the smallest multiplier every value denotes less than one. -/
theorem quantity_lt_one {pv : PhysicalValue} (hm : pv.multiplier = -128) : pv.quantity < 1 := by
  have hvalue : (pv.value.toInt : ℚ) ≤ 32767 := by exact_mod_cast pv.value.toInt_le
  have hscale : (10 : ℚ) ^ (-128 : ℤ) ≤ 1 / 10 ^ 5 := by norm_num
  have hpos : (0 : ℚ) < 10 ^ (-128 : ℤ) := zpow_pos (by norm_num) _
  have hmul : (pv.value.toInt : ℚ) * 10 ^ (-128 : ℤ) ≤ 32767 * 10 ^ (-128 : ℤ) :=
    mul_le_mul_of_nonneg_right hvalue hpos.le
  rw [PhysicalValue.quantity, hm]
  change (pv.value.toInt : ℚ) * 10 ^ (-128 : ℤ) < 1
  generalize (10 : ℚ) ^ (-128 : ℤ) = scale at *
  linarith

/-- A limited value is the limit of its quantity, unless the negation of its multiplier overflows
and hides that it is small. -/
theorem clampEcho_echoesTo_iff {pv : PhysicalValue} {unit : UnitSymbol} {maxValue : Int16}
    (hmax : 1 ≤ maxValue.toInt) :
    EchoesTo maxValue pv (pv.clampEcho unit maxValue) ↔
      (pv.multiplier = -128 → pv.value ≤ maxValue) := by
  have hlimit : (⟨0, some unit, maxValue⟩ : PhysicalValue).quantity = maxValue.toInt := by
    simp [PhysicalValue.quantity]
  unfold PhysicalValue.clampEcho
  -- the multiplier -128 has no negation, so the scaling loop makes no turn
  by_cases hm : pv.multiplier = -128
  · have hsmall : pv.quantity < maxValue.toInt :=
      lt_of_lt_of_le (quantity_lt_one hm) (by exact_mod_cast hmax)
    rw [toRat_of_overflow hm, Int16.le_iff_toInt_le]
    split_ifs with hle
    · have hle' : pv.value.toInt ≤ maxValue.toInt := by exact_mod_cast hle
      exact ⟨fun _ _ => hle', fun _ => ⟨(min_eq_left hsmall.le).symm, fun _ => rfl⟩⟩
    · -- the bare value is over the limit, and the maximum is reported for a small quantity
      constructor
      · rintro ⟨hmin, -⟩
        rw [hlimit, min_eq_left hsmall.le] at hmin
        exact absurd hmin.symm hsmall.ne
      · intro hcond
        exact absurd (by exact_mod_cast hcond hm) hle
  · refine iff_of_true ?_ (fun h => absurd h hm)
    -- otherwise what is compared is the quantity itself
    rw [toRat_eq_quantity hm]
    split_ifs with hle
    · exact ⟨(min_eq_left hle).symm, fun _ => rfl⟩
    · exact ⟨hlimit.trans (min_eq_right (not_le.mp hle).le).symm, fun h => absurd h hle⟩

/-! ## The handler -/

/-- The targets of a request, or the present values of a response. A PreChargeReq has its voltage
echoed alone. -/
structure EchoValues where
  voltage : PhysicalValue
  current : Option PhysicalValue
deriving DecidableEq, Repr

/-- The targets that the handler echoes: those of a PreChargeReq or a CurrentDemandReq whose body
is of the schema of its protocol. -/
def Request.echoTargets (request : Request) : Option EchoValues :=
  match request.type, request.isDin, request.body with
  | .preChargeReq, true, some (.din (.preChargeReq voltage)) => some ⟨voltage, none⟩
  | .preChargeReq, false, some (.iso2 (.preChargeReq voltage)) => some ⟨voltage, none⟩
  | .currentDemandReq, true, some (.din (.currentDemandReq voltage current)) =>
    some ⟨voltage, some current⟩
  | .currentDemandReq, false, some (.iso2 (.currentDemandReq voltage current)) =>
    some ⟨voltage, some current⟩
  | _, _, _ => none

/-- The present values that a response reports. -/
def Res.presentValues : Res → Option EchoValues
  | .iso2 _ (.preCharge _ _ voltage) | .din _ (.preCharge _ _ voltage) => some ⟨voltage, none⟩
  | .iso2 _ (.currentDemand _ _ voltage current _ _ _ _)
  | .din _ (.currentDemand _ _ voltage current _ _ _) => some ⟨voltage, some current⟩
  | _ => none

/-- The targets with the limits of the station put on them. -/
def EchoValues.clamp (targets : EchoValues) : EchoValues :=
  { voltage := targets.voltage.clampEcho .volt echoMaxVoltageV
    current := targets.current.map fun current => current.clampEcho .ampere echoMaxCurrentA }

/-- The present values are the targets limited to what the station advertises. -/
@[mk_iff]
structure EchoValues.EchoesTo (targets present : EchoValues) : Prop where
  voltage : Jpv2g.EchoesTo echoMaxVoltageV targets.voltage present.voltage
  current : ∀ target ∈ targets.current,
    ∃ echoed ∈ present.current, Jpv2g.EchoesTo echoMaxCurrentA target echoed

section Handler

variable {codec : Codec} {env : HandlerEnv} {secc : Secc} {statics : HandlerStatics}
  {request : Request} {build : Build} {registered : Bool}

/-- The handler reports the targets of the request, limited. -/
theorem defaultHandle_presentValues {targets : EchoValues}
    (htargets : request.echoTargets = some targets) :
    ∃ res, (defaultHandle codec env secc statics request build registered).res = some res ∧
      res.presentValues = some targets.clamp := by
  have hsetup : request.type ≠ .sessionSetupReq := by
    intro htype
    simp [Request.echoTargets, htype] at htargets
  have hresolved : ∃ sid, (secc.sessionId ≠ .zero → sid = secc.sessionId) ∧
      defaultHandle codec env secc statics request build registered =
        handleResolved codec env { secc with sessionId := sid } statics request build registered
          false := defaultHandle_resolved hsetup
  obtain ⟨sid, -, heq⟩ := hresolved
  rw [heq, handleResolved]
  unfold Request.echoTargets at htargets
  -- the requests with a target, under either protocol
  split at htargets
  case h_1 voltage htype hdin hbody =>
    obtain rfl := Option.some.inj htargets
    simp [htype, handlePreCharge, hdin, Request.dinBody, hbody, reply, Res.presentValues,
      EchoValues.clamp]
  case h_2 voltage htype hdin hbody =>
    obtain rfl := Option.some.inj htargets
    simp [htype, handlePreCharge, hdin, Request.iso2Body, hbody, reply, Res.presentValues,
      EchoValues.clamp]
  case h_3 voltage current htype hdin hbody =>
    obtain rfl := Option.some.inj htargets
    simp [htype, handleCurrentDemand, hdin, Request.dinBody, hbody, reply, Res.presentValues,
      EchoValues.clamp]
  case h_4 voltage current htype hdin hbody =>
    obtain rfl := Option.some.inj htargets
    simp [htype, handleCurrentDemand, hdin, Request.iso2Body, hbody, reply, Res.presentValues,
      EchoValues.clamp]
  case h_5 => cases htargets

/-- The limited targets are the limits of the quantities when no multiplier hides that a large
value is small. -/
theorem clamp_echoesTo_iff (targets : EchoValues) :
    targets.EchoesTo targets.clamp ↔
      (targets.voltage.multiplier = -128 → targets.voltage.value ≤ echoMaxVoltageV) ∧
        ∀ current ∈ targets.current,
          current.multiplier = -128 → current.value ≤ echoMaxCurrentA := by
  have hvoltage : EchoesTo echoMaxVoltageV targets.voltage
      (targets.voltage.clampEcho .volt echoMaxVoltageV) ↔ _ :=
    clampEcho_echoesTo_iff (by decide)
  have hcurrent : ∀ current : PhysicalValue, EchoesTo echoMaxCurrentA current
      (current.clampEcho .ampere echoMaxCurrentA) ↔ _ :=
    fun _ => clampEcho_echoesTo_iff (by decide)
  rw [EchoValues.echoesTo_iff]
  refine and_congr hvoltage (forall₂_congr fun current hmem => ?_)
  rw [← hcurrent]
  simp [EchoValues.clamp, Option.mem_def.mp hmem]

/-- What the handler reports is determined, so that the claim on it is one on the limits. -/
theorem exists_echoesTo_iff {targets : EchoValues} (htargets : request.echoTargets = some targets) :
    (∃ res present, (defaultHandle codec env secc statics request build registered).res = some res ∧
        res.presentValues = some present ∧ targets.EchoesTo present) ↔
      targets.EchoesTo targets.clamp := by
  have hpresents : ∃ res,
      (defaultHandle codec env secc statics request build registered).res = some res ∧
        res.presentValues = some targets.clamp := defaultHandle_presentValues htargets
  obtain ⟨res, hres, hpresent⟩ := hpresents
  constructor
  · rintro ⟨res', present, hres', hpresent', hechoes⟩
    obtain rfl := Option.some.inj (hres.symm.trans hres')
    obtain rfl := Option.some.inj (hpresent.symm.trans hpresent')
    exact hechoes
  · intro hechoes
    exact ⟨res, targets.clamp, hres, hpresent, hechoes⟩

/-- The built-in handler reports every target limited to what the station advertises, unless a
value above the limit comes with the smallest multiplier. -/
theorem defaultHandle_echoesTo_iff {targets : EchoValues}
    (htargets : request.echoTargets = some targets) :
    (∃ res present, (defaultHandle codec env secc statics request build registered).res = some res ∧
        res.presentValues = some present ∧ targets.EchoesTo present) ↔
      (targets.voltage.multiplier = -128 → targets.voltage.value ≤ echoMaxVoltageV) ∧
        ∀ current ∈ targets.current,
          current.multiplier = -128 → current.value ≤ echoMaxCurrentA := by
  rw [exists_echoesTo_iff htargets]
  exact clamp_echoesTo_iff targets

end Handler

/-- A PreChargeReq for the voltage. -/
def samplePreChargeReq (voltage : PhysicalValue) : Request where
  type := .preChargeReq
  protocol := .iso15118_2
  header := some sampleSid.1
  dinHeader := none
  body := some (.iso2 (.preChargeReq voltage))

theorem defaultHandle_echoes_default :
    ∃ res present,
      (defaultHandle sampleCodec (sampleEnv true) sampleFreshSecc .init
        (samplePreChargeReq defaultVoltage) sampleBuild false).res = some res ∧
      res.presentValues = some present ∧
      (⟨defaultVoltage, none⟩ : EchoValues).EchoesTo present :=
  (defaultHandle_echoesTo_iff rfl).mpr ⟨by decide, by simp⟩

/-- A voltage of 1001 with the smallest multiplier is next to nothing, and 1000 V are reported. -/
theorem defaultHandle_echoes_overflow :
    ¬∃ res present,
      (defaultHandle sampleCodec (sampleEnv true) sampleFreshSecc .init
        (samplePreChargeReq ⟨-128, some .volt, 1001⟩) sampleBuild false).res = some res ∧
      res.presentValues = some present ∧
      (⟨⟨-128, some .volt, 1001⟩, none⟩ : EchoValues).EchoesTo present := by
  rw [exists_echoesTo_iff rfl, clamp_echoesTo_iff]
  intro hlimits
  exact absurd (hlimits.1 rfl) (by decide)

end Jpv2g
