import Jpv2g.Cbv2g.Common
import Jpv2g.Secc.EnergyMode

/-!
# The ISO 15118-2 Response Encoders

The generated response structures of ISO 15118-2 and the encoders of `cbv2g_codec.c` up to the call
of the EXI encoder: each takes the workspace as the last message left it and returns the document
it hands over. A payload is a structure that the caller has filled.

## Main definitions

* `Iso2.ExiDocument`: the document, which is also the workspace.
* `Iso2.encodeCurrentDemandRes` and its siblings: the encoders.

## Main results

* One lemma for each encoder: the document does not depend on the workspace.
-/

namespace Jpv2g

open CStruct

namespace Iso2

/-- `iso2_unitSymbolType`. -/
def unitCode : UnitSymbol → ℤ
  | .h => 0
  | .m => 1
  | .s => 2
  | .ampere => 3
  | .volt => 4
  | .watt => 5
  | .wattHour => 6
  | .other value => value

/-! ## Members -/

/-- `iso2_PhysicalValueType`, whose `init` does nothing. -/
structure PhysicalValueType where
  multiplier : ℤ
  unit : ℤ
  value : ℤ
deriving Inhabited

instance : Encoded PhysicalValueType := .through fun p => (p.multiplier, p.unit, p.value)

/-- `set_physical_value`: all three members are assigned. -/
def setPhysicalValue (unit : UnitSymbol) (value multiplier : ℤ) : PhysicalValueType :=
  { multiplier, unit := unitCode unit, value }

/-- A decoded physical value, which always has a unit. -/
def physicalValue (pv : PhysicalValue) : PhysicalValueType :=
  { multiplier := pv.multiplier.toInt, unit := (pv.unit.map unitCode).getD 0,
    value := pv.value.toInt }

/-- `iso2_AC_EVSEStatusType`. -/
structure AcEvseStatusType where
  notificationMaxDelay : ℤ
  evseNotification : ℤ
  rcd : ℤ
deriving Inhabited

instance : Encoded AcEvseStatusType :=
  .through fun s => (s.notificationMaxDelay, s.evseNotification, s.rcd)

/-- `set_default_ac_status`: all three members are assigned. -/
def defaultAcStatus : AcEvseStatusType :=
  { notificationMaxDelay := 1, evseNotification := EvseNotification.none.code, rcd := 0 }

/-- `iso2_MeterInfoType`. -/
structure MeterInfoType where
  meterId : Counted Char
  meterReading : Member ℤ
  sigMeterReading : Member (Counted UInt8)
  meterStatus : Member ℤ
  tMeter : Member ℤ
deriving Inhabited

instance : Encoded MeterInfoType :=
  .through fun m => (m.meterId, m.meterReading, m.sigMeterReading, m.meterStatus, m.tMeter)

/-- `init_iso2_MeterInfoType`. -/
@[simp]
def MeterInfoType.init (m : MeterInfoType) : MeterInfoType :=
  { m with
    meterReading := m.meterReading.clear
    sigMeterReading := m.sigMeterReading.clear
    meterStatus := m.meterStatus.clear
    tMeter := m.tMeter.clear }

/-- Initialise the meter reading and fill it (`secc_fill_iso_meter_info`). -/
def MeterInfoType.fill (m : MeterInfoType) (info : MeterInfo) : MeterInfoType :=
  let m := m.init
  { m with
    meterId := m.meterId.copy info.meterId
    meterReading := .store info.meterReading
    meterStatus := .store info.meterStatus }

@[simp]
theorem agree_fillMeterInfo (m m' : MeterInfoType) (info : MeterInfo) :
    Agree (m.fill info) (m'.fill info) := by
  simp [MeterInfoType.fill]

/-- `iso2_ChargeServiceType`. -/
structure ChargeServiceType where
  serviceId : ℤ
  serviceName : Member (Counted Char)
  serviceCategory : ℤ
  serviceScope : Member (Counted Char)
  freeService : ℤ
  supportedEnergyTransferMode : Counted ℤ
deriving Inhabited

instance : Encoded ChargeServiceType :=
  .through fun s =>
    (s.serviceId, s.serviceName, s.serviceCategory, s.serviceScope, s.freeService,
      s.supportedEnergyTransferMode)

/-- `init_iso2_ChargeServiceType`. -/
@[simp]
def ChargeServiceType.init (s : ChargeServiceType) : ChargeServiceType :=
  { s with serviceName := s.serviceName.clear, serviceScope := s.serviceScope.clear }

/-- `iso2_PMaxScheduleEntryType`. -/
structure PMaxScheduleEntryType where
  relativeTimeInterval : Member RelativeTimeIntervalType
  timeInterval : Member Raw
  pMax : PhysicalValueType
deriving Inhabited

instance : Encoded PMaxScheduleEntryType :=
  .through fun e => (e.relativeTimeInterval, e.timeInterval, e.pMax)

/-- `iso2_SAScheduleTupleType`. -/
structure SaScheduleTupleType where
  saScheduleTupleId : ℤ
  pMaxSchedule : Counted PMaxScheduleEntryType
  salesTariff : Member Raw
deriving Inhabited

instance : Encoded SaScheduleTupleType :=
  .through fun t => (t.saScheduleTupleId, t.pMaxSchedule, t.salesTariff)

/-- `iso2_AC_EVSEChargeParameterType`. -/
structure AcEvseChargeParameterType where
  acEvseStatus : AcEvseStatusType
  evseNominalVoltage : PhysicalValueType
  evseMaxCurrent : PhysicalValueType
deriving Inhabited

instance : Encoded AcEvseChargeParameterType :=
  .through fun p => (p.acEvseStatus, p.evseNominalVoltage, p.evseMaxCurrent)

/-- `iso2_DC_EVSEChargeParameterType`. -/
structure DcEvseChargeParameterType where
  dcEvseStatus : DcEvseStatusType
  evseMaximumCurrentLimit : PhysicalValueType
  evseMaximumPowerLimit : PhysicalValueType
  evseMaximumVoltageLimit : PhysicalValueType
  evseMinimumCurrentLimit : PhysicalValueType
  evseMinimumVoltageLimit : PhysicalValueType
  evseCurrentRegulationTolerance : Member PhysicalValueType
  evsePeakCurrentRipple : PhysicalValueType
  evseEnergyToBeDelivered : Member PhysicalValueType
deriving Inhabited

instance : Encoded DcEvseChargeParameterType :=
  .through fun p =>
    (p.dcEvseStatus, p.evseMaximumCurrentLimit, p.evseMaximumPowerLimit,
      p.evseMaximumVoltageLimit, p.evseMinimumCurrentLimit, p.evseMinimumVoltageLimit,
      p.evseCurrentRegulationTolerance, p.evsePeakCurrentRipple, p.evseEnergyToBeDelivered)

/-- `set_default_iso_dc_charge_params`. -/
def setDefaultDcChargeParams (p : DcEvseChargeParameterType) : DcEvseChargeParameterType :=
  { dcEvseStatus := setDefaultDcEvseStatus p.dcEvseStatus
    evseMaximumCurrentLimit := setPhysicalValue .ampere 200 0
    evseMaximumPowerLimit := setPhysicalValue .watt 240 3
    evseMaximumVoltageLimit := setPhysicalValue .volt 1000 0
    evseMinimumCurrentLimit := setPhysicalValue .ampere 0 0
    evseMinimumVoltageLimit := setPhysicalValue .volt 200 0
    evsePeakCurrentRipple := setPhysicalValue .ampere 1 0
    evseCurrentRegulationTolerance := p.evseCurrentRegulationTolerance.clear
    evseEnergyToBeDelivered := p.evseEnergyToBeDelivered.clear }

@[simp]
theorem agree_setDefaultDcChargeParams (p p' : DcEvseChargeParameterType) :
    Agree (setDefaultDcChargeParams p) (setDefaultDcChargeParams p') := by
  simp [setDefaultDcChargeParams]

/-! ## Responses -/

/-- `iso2_SessionSetupResType`. -/
structure SessionSetupResType where
  responseCode : ℤ
  evseId : Counted Char
  evseTimeStamp : Member ℤ
deriving Inhabited

instance : Encoded SessionSetupResType :=
  .through fun r => (r.responseCode, r.evseId, r.evseTimeStamp)

/-- `iso2_ServiceDiscoveryResType`. -/
structure ServiceDiscoveryResType where
  responseCode : ℤ
  paymentOptionList : Counted ℤ
  chargeService : ChargeServiceType
  serviceList : Member Raw
deriving Inhabited

instance : Encoded ServiceDiscoveryResType :=
  .through fun r => (r.responseCode, r.paymentOptionList, r.chargeService, r.serviceList)

/-- `iso2_PaymentDetailsResType`. -/
structure PaymentDetailsResType where
  responseCode : ℤ
  genChallenge : Counted UInt8
  evseTimeStamp : ℤ
deriving Inhabited

instance : Encoded PaymentDetailsResType :=
  .through fun r => (r.responseCode, r.genChallenge, r.evseTimeStamp)

/-- `iso2_ChargeParameterDiscoveryResType`. -/
structure ChargeParameterDiscoveryResType where
  responseCode : ℤ
  evseProcessing : ℤ
  saScheduleList : Member (Counted SaScheduleTupleType)
  saSchedules : Member Raw
  acEvseChargeParameter : Member AcEvseChargeParameterType
  dcEvseChargeParameter : Member DcEvseChargeParameterType
  evseChargeParameter : Member Raw
deriving Inhabited

instance : Encoded ChargeParameterDiscoveryResType :=
  .through fun r =>
    (r.responseCode, r.evseProcessing, r.saScheduleList, r.saSchedules, r.acEvseChargeParameter,
      r.dcEvseChargeParameter, r.evseChargeParameter)

/-- `iso2_PreChargeResType`, `iso2_WeldingDetectionResType`. -/
structure PresentVoltageResType where
  responseCode : ℤ
  dcEvseStatus : DcEvseStatusType
  evsePresentVoltage : PhysicalValueType
deriving Inhabited

instance : Encoded PresentVoltageResType :=
  .through fun r => (r.responseCode, r.dcEvseStatus, r.evsePresentVoltage)

/-- `iso2_PowerDeliveryResType`, `iso2_MeteringReceiptResType`. -/
structure EvseStatusResType where
  responseCode : ℤ
  acEvseStatus : Member AcEvseStatusType
  dcEvseStatus : Member DcEvseStatusType
  evseStatus : Member Raw
deriving Inhabited

instance : Encoded EvseStatusResType :=
  .through fun r => (r.responseCode, r.acEvseStatus, r.dcEvseStatus, r.evseStatus)

/-- `iso2_ChargingStatusResType`. -/
structure ChargingStatusResType where
  responseCode : ℤ
  evseId : Counted Char
  saScheduleTupleId : ℤ
  evseMaxCurrent : Member PhysicalValueType
  meterInfo : Member MeterInfoType
  receiptRequired : Member ℤ
  acEvseStatus : AcEvseStatusType
deriving Inhabited

instance : Encoded ChargingStatusResType :=
  .through fun r =>
    (r.responseCode, r.evseId, r.saScheduleTupleId, r.evseMaxCurrent, r.meterInfo,
      r.receiptRequired, r.acEvseStatus)

/-- `iso2_CurrentDemandResType`. -/
structure CurrentDemandResType where
  responseCode : ℤ
  dcEvseStatus : DcEvseStatusType
  evsePresentVoltage : PhysicalValueType
  evsePresentCurrent : PhysicalValueType
  evseCurrentLimitAchieved : ℤ
  evseVoltageLimitAchieved : ℤ
  evsePowerLimitAchieved : ℤ
  evseMaximumVoltageLimit : Member PhysicalValueType
  evseMaximumCurrentLimit : Member PhysicalValueType
  evseMaximumPowerLimit : Member PhysicalValueType
  evseId : Counted Char
  saScheduleTupleId : ℤ
  meterInfo : Member MeterInfoType
  receiptRequired : Member ℤ
deriving Inhabited

instance : Encoded CurrentDemandResType :=
  .through fun r =>
    (r.responseCode, r.dcEvseStatus, r.evsePresentVoltage, r.evsePresentCurrent,
      r.evseCurrentLimitAchieved, r.evseVoltageLimitAchieved, r.evsePowerLimitAchieved,
      r.evseMaximumVoltageLimit, r.evseMaximumCurrentLimit, r.evseMaximumPowerLimit, r.evseId,
      r.saScheduleTupleId, r.meterInfo, r.receiptRequired)

/-- `init_iso2_CurrentDemandResType`. -/
@[simp]
def CurrentDemandResType.init (r : CurrentDemandResType) : CurrentDemandResType :=
  { r with
    evseMaximumVoltageLimit := r.evseMaximumVoltageLimit.clear
    evseMaximumCurrentLimit := r.evseMaximumCurrentLimit.clear
    evseMaximumPowerLimit := r.evseMaximumPowerLimit.clear
    meterInfo := r.meterInfo.clear
    receiptRequired := r.receiptRequired.clear }

/-! ## The document -/

/-- The response elements of `iso2_BodyType`, a union with a flag for each element. Any two
elements may hold the same bytes, and an encoder writes one of them only. -/
structure BodyType where
  authorizationRes : Member AuthorizationResType
  cableCheckRes : Member CableCheckResType
  chargeParameterDiscoveryRes : Member ChargeParameterDiscoveryResType
  chargingStatusRes : Member ChargingStatusResType
  currentDemandRes : Member CurrentDemandResType
  meteringReceiptRes : Member EvseStatusResType
  paymentDetailsRes : Member PaymentDetailsResType
  paymentServiceSelectionRes : Member CodeResType
  powerDeliveryRes : Member EvseStatusResType
  preChargeRes : Member PresentVoltageResType
  serviceDetailRes : Member ServiceDetailResType
  serviceDiscoveryRes : Member ServiceDiscoveryResType
  sessionSetupRes : Member SessionSetupResType
  sessionStopRes : Member CodeResType
  weldingDetectionRes : Member PresentVoltageResType
deriving Inhabited

instance : Encoded BodyType :=
  .through fun b =>
    (b.authorizationRes, b.cableCheckRes, b.chargeParameterDiscoveryRes, b.chargingStatusRes,
      b.currentDemandRes, b.meteringReceiptRes, b.paymentDetailsRes, b.paymentServiceSelectionRes,
      b.powerDeliveryRes, b.preChargeRes, b.serviceDetailRes, b.serviceDiscoveryRes,
      b.sessionSetupRes, b.sessionStopRes, b.weldingDetectionRes)

/-- `init_iso2_BodyType`. -/
@[simp]
def BodyType.init (b : BodyType) : BodyType where
  authorizationRes := b.authorizationRes.clear
  cableCheckRes := b.cableCheckRes.clear
  chargeParameterDiscoveryRes := b.chargeParameterDiscoveryRes.clear
  chargingStatusRes := b.chargingStatusRes.clear
  currentDemandRes := b.currentDemandRes.clear
  meteringReceiptRes := b.meteringReceiptRes.clear
  paymentDetailsRes := b.paymentDetailsRes.clear
  paymentServiceSelectionRes := b.paymentServiceSelectionRes.clear
  powerDeliveryRes := b.powerDeliveryRes.clear
  preChargeRes := b.preChargeRes.clear
  serviceDetailRes := b.serviceDetailRes.clear
  serviceDiscoveryRes := b.serviceDiscoveryRes.clear
  sessionSetupRes := b.sessionSetupRes.clear
  sessionStopRes := b.sessionStopRes.clear
  weldingDetectionRes := b.weldingDetectionRes.clear

/-- `iso2_exiDocument`: the header and the body of its one message. -/
structure ExiDocument where
  header : MessageHeaderType
  body : BodyType
deriving Inhabited

instance : Encoded ExiDocument := .through fun d => (d.header, d.body)

/-- The steps all encoders begin with: write the header and reset the flags of the body. -/
@[simp]
def ExiDocument.begin (doc : ExiDocument) (sid : Sid) : ExiDocument :=
  { header := setHeaderSession doc.header sid, body := doc.body.init }

/-! ## Encoders -/

section Encoders

variable (doc : ExiDocument) (sid : Sid) (code : ResponseCode)

/-- `jpv2g_cbv2g_encode_session_setup_res`. -/
def encodeSessionSetupRes (evseId : List Char) : ExiDocument :=
  let doc := doc.begin sid
  let res := doc.body.sessionSetupRes.value
  let res := { res with
    evseTimeStamp := res.evseTimeStamp.clear
    responseCode := code.code
    evseId := res.evseId.copy (evseId.take 37) }
  { doc with body := { doc.body with sessionSetupRes := .store res } }

/-- `jpv2g_cbv2g_encode_service_discovery_res_multi`; without an option or a mode there is no
document. -/
def encodeServiceDiscoveryRes (payments : List PaymentOption)
    (energyModes : List EnergyTransferMode) (serviceId : UInt16) (serviceName : List Char)
    (freeService : ℕ) : Option ExiDocument :=
  if payments = [] ∨ energyModes = [] then none
  else
    let doc := doc.begin sid
    let res := doc.body.serviceDiscoveryRes.value
    let service := res.chargeService.init
    let service := { service with
      serviceId := serviceId.toNat
      serviceCategory := evChargingCategory
      freeService := if freeService ≠ 0 then 1 else 0
      supportedEnergyTransferMode :=
        service.supportedEnergyTransferMode.copy
          ((energyModes.take 6).map fun etm => (etm.code : ℤ))
      serviceName := .store (service.serviceName.value.copy (serviceName.take 32)) }
    let res := { res with
      responseCode := code.code
      paymentOptionList := res.paymentOptionList.copy ((payments.take 2).map PaymentOption.code)
      chargeService := service
      serviceList := res.serviceList.clear }
    some { doc with body := { doc.body with serviceDiscoveryRes := .store res } }

/-- `jpv2g_cbv2g_encode_service_detail_res`, without a parameter list. -/
def encodeServiceDetailRes (serviceId : UInt16) : ExiDocument :=
  let doc := doc.begin sid
  let res := doc.body.serviceDetailRes.value.init
  let res := { res with responseCode := code.code, serviceId := serviceId.toNat }
  { doc with body := { doc.body with serviceDetailRes := .store res } }

/-- `jpv2g_cbv2g_encode_payment_service_selection_res`. -/
def encodePaymentServiceSelectionRes : ExiDocument :=
  let doc := doc.begin sid
  { doc with
    body := { doc.body with paymentServiceSelectionRes := .store { responseCode := code.code } } }

/-- `jpv2g_cbv2g_encode_payment_details_res` without a challenge of the caller: the challenge is
drawn from the random provider, and is empty when that fails. -/
def encodePaymentDetailsRes (randomBytes : Option (List UInt8)) (evseTimeStamp : ℤ) :
    ExiDocument :=
  let doc := doc.begin sid
  let res := doc.body.paymentDetailsRes.value
  let res := { res with
    responseCode := code.code
    genChallenge :=
      match randomBytes with
      | some tmp => res.genChallenge.copy (tmp.take 16)
      | none => res.genChallenge.clear
    evseTimeStamp }
  { doc with body := { doc.body with paymentDetailsRes := .store res } }

/-- `jpv2g_cbv2g_encode_authorization_res`. -/
def encodeAuthorizationRes (processing : EvseProcessing) : ExiDocument :=
  let doc := doc.begin sid
  { doc with
    body := { doc.body with
      authorizationRes :=
        .store { responseCode := code.code, evseProcessing := processing.code } } }

/-- The schedule of a ChargeParameterDiscoveryRes (`set_default_iso_sa_schedule`). -/
def setDefaultSaSchedule (list : Counted SaScheduleTupleType) : Counted SaScheduleTupleType :=
  let tuple := list.cells 0
  let entry := tuple.pMaxSchedule.cells 0
  let entry := { entry with
    relativeTimeInterval := .store { start := 0, duration := .store (24 * 3600) }
    timeInterval := entry.timeInterval.clear
    pMax := setPhysicalValue .watt 60 3 }
  list.single
    { saScheduleTupleId := 1
      pMaxSchedule := tuple.pMaxSchedule.single entry
      salesTariff := tuple.salesTariff.clear }

/-- `jpv2g_cbv2g_encode_charge_parameter_discovery_res`. -/
def encodeChargeParameterDiscoveryRes (etm : EnergyTransferMode) : ExiDocument :=
  let doc := doc.begin sid
  let res := doc.body.chargeParameterDiscoveryRes.value
  let res := { res with
    responseCode := code.code
    evseProcessing := EvseProcessing.finished.code
    saScheduleList :=
      if code = .ok then .store (setDefaultSaSchedule res.saScheduleList.value)
      else res.saScheduleList.clear
    saSchedules := res.saSchedules.clear
    evseChargeParameter := res.evseChargeParameter.clear
    acEvseChargeParameter :=
      if etm.isDc then res.acEvseChargeParameter.clear
      else
        .store
          { acEvseStatus := defaultAcStatus
            evseNominalVoltage := setPhysicalValue .volt 400 0
            evseMaxCurrent := setPhysicalValue .ampere 32 0 }
    dcEvseChargeParameter :=
      if etm.isDc then .store (setDefaultDcChargeParams res.dcEvseChargeParameter.value)
      else res.dcEvseChargeParameter.clear }
  { doc with body := { doc.body with chargeParameterDiscoveryRes := .store res } }

/-- `jpv2g_cbv2g_encode_cable_check_res` with a payload. -/
def encodeCableCheckRes (payload : CableCheckResType) : ExiDocument :=
  let doc := doc.begin sid
  { doc with
    body := { doc.body with cableCheckRes := .store { payload with responseCode := code.code } } }

/-- `jpv2g_cbv2g_encode_pre_charge_res` with a payload. -/
def encodePreChargeRes (payload : PresentVoltageResType) : ExiDocument :=
  let doc := doc.begin sid
  { doc with
    body := { doc.body with preChargeRes := .store { payload with responseCode := code.code } } }

/-- The DC status of a response that may have an AC status instead. -/
def EvseStatusResType.setDefault (res : EvseStatusResType) (code : ResponseCode) :
    EvseStatusResType :=
  { responseCode := code.code
    dcEvseStatus := .store (setDefaultDcEvseStatus res.dcEvseStatus.value)
    acEvseStatus := res.acEvseStatus.clear
    evseStatus := res.evseStatus.clear }

/-- `jpv2g_cbv2g_encode_power_delivery_res` without a payload. -/
def encodePowerDeliveryRes : ExiDocument :=
  let doc := doc.begin sid
  let res := doc.body.powerDeliveryRes.value
  { doc with body := { doc.body with powerDeliveryRes := .store (res.setDefault code) } }

/-- `jpv2g_cbv2g_encode_charging_status_res` without a payload. -/
def encodeChargingStatusRes (evseId : List Char) (saId : ℕ) : ExiDocument :=
  let doc := doc.begin sid
  let res := doc.body.chargingStatusRes.value
  let res := { res with
    acEvseStatus := defaultAcStatus
    evseMaxCurrent := res.evseMaxCurrent.clear
    meterInfo := res.meterInfo.clear
    receiptRequired := res.receiptRequired.clear
    responseCode := code.code
    saScheduleTupleId := saId
    evseId := res.evseId.copy (evseId.take 37) }
  { doc with body := { doc.body with chargingStatusRes := .store res } }

/-- `jpv2g_cbv2g_encode_current_demand_res` with a payload: only the code is assigned. -/
def encodeCurrentDemandRes (payload : CurrentDemandResType) : ExiDocument :=
  let doc := doc.begin sid
  { doc with
    body := { doc.body with
      currentDemandRes := .store { payload with responseCode := code.code } } }

/-- `jpv2g_cbv2g_encode_metering_receipt_res` without a payload. -/
def encodeMeteringReceiptRes : ExiDocument :=
  let doc := doc.begin sid
  let res := doc.body.meteringReceiptRes.value
  { doc with body := { doc.body with meteringReceiptRes := .store (res.setDefault code) } }

/-- `jpv2g_cbv2g_encode_welding_detection_res` without a payload. -/
def encodeWeldingDetectionRes : ExiDocument :=
  let doc := doc.begin sid
  let res := doc.body.weldingDetectionRes.value
  { doc with
    body := { doc.body with
      weldingDetectionRes :=
        .store
          { responseCode := code.code
            dcEvseStatus := setDefaultDcEvseStatus res.dcEvseStatus
            evsePresentVoltage := setPhysicalValue .volt 400 0 } } }

/-- `jpv2g_cbv2g_encode_session_stop_res`. -/
def encodeSessionStopRes : ExiDocument :=
  let doc := doc.begin sid
  { doc with body := { doc.body with sessionStopRes := .store { responseCode := code.code } } }

end Encoders

/-! ## What the documents depend on -/

section Agree

variable (doc doc' : ExiDocument) (sid : Sid) (code : ResponseCode)

theorem agree_encodeSessionSetupRes (evseId : List Char) :
    Agree (encodeSessionSetupRes doc sid code evseId)
      (encodeSessionSetupRes doc' sid code evseId) := by
  simp [encodeSessionSetupRes]

theorem agree_encodeServiceDiscoveryRes (payments : List PaymentOption)
    (energyModes : List EnergyTransferMode) (serviceId : UInt16) (serviceName : List Char)
    (freeService : ℕ) :
    Agree
      (encodeServiceDiscoveryRes doc sid code payments energyModes serviceId serviceName
        freeService)
      (encodeServiceDiscoveryRes doc' sid code payments energyModes serviceId serviceName
        freeService) := by
  by_cases hempty : payments = [] ∨ energyModes = []
  · simp [encodeServiceDiscoveryRes, hempty]
  · simp [encodeServiceDiscoveryRes, hempty]

theorem agree_encodeServiceDetailRes (serviceId : UInt16) :
    Agree (encodeServiceDetailRes doc sid code serviceId)
      (encodeServiceDetailRes doc' sid code serviceId) := by
  simp [encodeServiceDetailRes]

theorem agree_encodePaymentServiceSelectionRes :
    Agree (encodePaymentServiceSelectionRes doc sid code)
      (encodePaymentServiceSelectionRes doc' sid code) := by
  simp [encodePaymentServiceSelectionRes]

theorem agree_encodePaymentDetailsRes (randomBytes : Option (List UInt8)) (evseTimeStamp : ℤ) :
    Agree (encodePaymentDetailsRes doc sid code randomBytes evseTimeStamp)
      (encodePaymentDetailsRes doc' sid code randomBytes evseTimeStamp) := by
  cases randomBytes with
  | none => simp [encodePaymentDetailsRes]
  | some tmp => simp [encodePaymentDetailsRes]

theorem agree_encodeAuthorizationRes (processing : EvseProcessing) :
    Agree (encodeAuthorizationRes doc sid code processing)
      (encodeAuthorizationRes doc' sid code processing) := by
  simp [encodeAuthorizationRes]

@[simp]
theorem agree_setDefaultSaSchedule (list list' : Counted SaScheduleTupleType) :
    Agree (setDefaultSaSchedule list) (setDefaultSaSchedule list') := by
  simp [setDefaultSaSchedule]

theorem agree_encodeChargeParameterDiscoveryRes (etm : EnergyTransferMode) :
    Agree (encodeChargeParameterDiscoveryRes doc sid code etm)
      (encodeChargeParameterDiscoveryRes doc' sid code etm) := by
  -- the schedule depends on the code, and the charge parameters on the mode
  by_cases hcode : code = .ok
  · cases hdc : etm.isDc <;> simp [encodeChargeParameterDiscoveryRes, hcode, hdc]
  · cases hdc : etm.isDc <;> simp [encodeChargeParameterDiscoveryRes, hcode, hdc]

theorem agree_encodeCableCheckRes {payload payload' : CableCheckResType} :
    Agree (encodeCableCheckRes doc sid code payload) (encodeCableCheckRes doc' sid code payload') ↔
      Agree { payload with responseCode := 0 } { payload' with responseCode := 0 } := by
  simp [encodeCableCheckRes]

theorem agree_encodePreChargeRes {payload payload' : PresentVoltageResType} :
    Agree (encodePreChargeRes doc sid code payload) (encodePreChargeRes doc' sid code payload') ↔
      Agree { payload with responseCode := 0 } { payload' with responseCode := 0 } := by
  simp [encodePreChargeRes]

@[simp]
theorem agree_setDefaultEvseStatusRes (res res' : EvseStatusResType) :
    Agree (res.setDefault code) (res'.setDefault code) := by
  simp [EvseStatusResType.setDefault]

theorem agree_encodePowerDeliveryRes :
    Agree (encodePowerDeliveryRes doc sid code) (encodePowerDeliveryRes doc' sid code) := by
  simp [encodePowerDeliveryRes]

theorem agree_encodeChargingStatusRes (evseId : List Char) (saId : ℕ) :
    Agree (encodeChargingStatusRes doc sid code evseId saId)
      (encodeChargingStatusRes doc' sid code evseId saId) := by
  simp [encodeChargingStatusRes]

theorem agree_encodeCurrentDemandRes {payload payload' : CurrentDemandResType} :
    Agree (encodeCurrentDemandRes doc sid code payload)
        (encodeCurrentDemandRes doc' sid code payload') ↔
      Agree { payload with responseCode := 0 } { payload' with responseCode := 0 } := by
  simp [encodeCurrentDemandRes]

theorem agree_encodeMeteringReceiptRes :
    Agree (encodeMeteringReceiptRes doc sid code) (encodeMeteringReceiptRes doc' sid code) := by
  simp [encodeMeteringReceiptRes]

theorem agree_encodeWeldingDetectionRes :
    Agree (encodeWeldingDetectionRes doc sid code) (encodeWeldingDetectionRes doc' sid code) := by
  simp [encodeWeldingDetectionRes]

theorem agree_encodeSessionStopRes :
    Agree (encodeSessionStopRes doc sid code) (encodeSessionStopRes doc' sid code) := by
  simp [encodeSessionStopRes]

end Agree

end Iso2

end Jpv2g
