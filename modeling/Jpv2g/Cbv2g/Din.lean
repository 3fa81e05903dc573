import Jpv2g.Cbv2g.Common
import Jpv2g.Secc.EnergyMode

/-!
# The DIN 70121 Response Encoders

The generated response structures of DIN 70121, as far as they differ from those of ISO 15118-2,
and the encoders of `cbv2g_codec.c` up to the call of the EXI encoder.

## Main definitions

* `Din.ExiDocument`: the document, which is also the workspace.
* `Din.encodeMeteringReceiptRes` and its siblings: the encoders.
-/

namespace Jpv2g

open CStruct

namespace Din

/-- `din_unitSymbolType`. -/
def unitCode : UnitSymbol → ℤ
  | .h => 0
  | .m => 1
  | .s => 2
  | .ampere => 3
  | .volt => 5
  | .watt => 7
  | .wattHour => 9
  | .other value => value

/-! ## Members -/

/-- `din_PhysicalValueType`: the unit is optional. -/
structure PhysicalValueType where
  multiplier : ℤ
  unit : Member ℤ
  value : ℤ
deriving Inhabited

instance : Encoded PhysicalValueType := .through fun p => (p.multiplier, p.unit, p.value)

/-- `set_din_physical_value`: the members and the flag are assigned. -/
def setPhysicalValue (unit : UnitSymbol) (value multiplier : ℤ) : PhysicalValueType :=
  { multiplier, unit := .store (unitCode unit), value }

/-- `din_AC_EVSEStatusType`, whose `init` does nothing. -/
structure AcEvseStatusType where
  powerSwitchClosed : ℤ
  rcd : ℤ
  notificationMaxDelay : ℤ
  evseNotification : ℤ
deriving Inhabited

instance : Encoded AcEvseStatusType :=
  .through fun s => (s.powerSwitchClosed, s.rcd, s.notificationMaxDelay, s.evseNotification)

/-- `din_ServiceTagType`. -/
structure ServiceTagType where
  serviceId : ℤ
  serviceName : Member (Counted Char)
  serviceCategory : ℤ
  serviceScope : Member (Counted Char)
deriving Inhabited

instance : Encoded ServiceTagType :=
  .through fun t => (t.serviceId, t.serviceName, t.serviceCategory, t.serviceScope)

/-- `set_din_service_tag` with a name. -/
def setServiceTag (tag : ServiceTagType) (serviceId : UInt16) (name : List Char)
    (category : ℤ) : ServiceTagType :=
  { serviceId := serviceId.toNat
    serviceCategory := category
    serviceName := .store (tag.serviceName.value.copy (name.take 32))
    serviceScope := tag.serviceScope.clear }

/-- `din_ServiceChargeType`. -/
structure ServiceChargeType where
  serviceTag : ServiceTagType
  freeService : ℤ
  energyTransferType : ℤ
deriving Inhabited

instance : Encoded ServiceChargeType :=
  .through fun s => (s.serviceTag, s.freeService, s.energyTransferType)

/-- `din_PMaxScheduleEntryType`. -/
structure PMaxScheduleEntryType where
  relativeTimeInterval : Member RelativeTimeIntervalType
  timeInterval : Member Raw
  pMax : ℤ
deriving Inhabited

instance : Encoded PMaxScheduleEntryType :=
  .through fun e => (e.relativeTimeInterval, e.timeInterval, e.pMax)

/-- `din_PMaxScheduleType`. -/
structure PMaxScheduleType where
  pMaxScheduleId : ℤ
  pMaxScheduleEntry : Counted PMaxScheduleEntryType
deriving Inhabited

instance : Encoded PMaxScheduleType := .through fun s => (s.pMaxScheduleId, s.pMaxScheduleEntry)

/-- `din_SAScheduleTupleType`. -/
structure SaScheduleTupleType where
  saScheduleTupleId : ℤ
  pMaxSchedule : PMaxScheduleType
  salesTariff : Member Raw
deriving Inhabited

instance : Encoded SaScheduleTupleType :=
  .through fun t => (t.saScheduleTupleId, t.pMaxSchedule, t.salesTariff)

/-- `din_DC_EVSEChargeParameterType`. -/
structure DcEvseChargeParameterType where
  dcEvseStatus : DcEvseStatusType
  evseMaximumCurrentLimit : PhysicalValueType
  evseMaximumPowerLimit : Member PhysicalValueType
  evseMaximumVoltageLimit : PhysicalValueType
  evseMinimumCurrentLimit : PhysicalValueType
  evseMinimumVoltageLimit : PhysicalValueType
  evseCurrentRegulationTolerance : Member PhysicalValueType
  evsePeakCurrentRipple : PhysicalValueType
  evseEnergyToBeDelivered : Member PhysicalValueType
deriving Inhabited

instance : Encoded DcEvseChargeParameterType :=
  .through fun p =>
    (p.dcEvseStatus, p.evseMaximumCurrentLimit, p.evseMaximumPowerLimit,
      p.evseMaximumVoltageLimit, p.evseMinimumCurrentLimit, p.evseMinimumVoltageLimit,
      p.evseCurrentRegulationTolerance, p.evsePeakCurrentRipple, p.evseEnergyToBeDelivered)

/-- `set_din_default_dc_charge_params`. -/
def setDefaultDcChargeParams (p : DcEvseChargeParameterType) : DcEvseChargeParameterType :=
  { dcEvseStatus := setDefaultDcEvseStatus p.dcEvseStatus
    evseMaximumCurrentLimit := setPhysicalValue .ampere 200 0
    evseMaximumVoltageLimit := setPhysicalValue .volt 1000 0
    evseMaximumPowerLimit := .store (setPhysicalValue .watt 240 3)
    evseMinimumCurrentLimit := setPhysicalValue .ampere 0 0
    evseMinimumVoltageLimit := setPhysicalValue .volt 200 0
    evsePeakCurrentRipple := setPhysicalValue .ampere 1 0
    evseCurrentRegulationTolerance := p.evseCurrentRegulationTolerance.clear
    evseEnergyToBeDelivered := p.evseEnergyToBeDelivered.clear }

@[simp]
theorem agree_setDefaultDcChargeParams (p p' : DcEvseChargeParameterType) :
    Agree (setDefaultDcChargeParams p) (setDefaultDcChargeParams p') := by
  simp [setDefaultDcChargeParams]

/-! ## Responses -/

/-- `din_SessionSetupResType`. -/
structure SessionSetupResType where
  responseCode : ℤ
  evseId : Counted Char
  dateTimeNow : Member ℤ
deriving Inhabited

instance : Encoded SessionSetupResType :=
  .through fun r => (r.responseCode, r.evseId, r.dateTimeNow)

/-- `din_ServiceDiscoveryResType`. -/
structure ServiceDiscoveryResType where
  responseCode : ℤ
  paymentOptions : Counted ℤ
  chargeService : ServiceChargeType
  serviceList : Member Raw
deriving Inhabited

instance : Encoded ServiceDiscoveryResType :=
  .through fun r => (r.responseCode, r.paymentOptions, r.chargeService, r.serviceList)

/-- `din_PaymentDetailsResType`. -/
structure PaymentDetailsResType where
  responseCode : ℤ
  genChallenge : Counted Char
  dateTimeNow : ℤ
deriving Inhabited

instance : Encoded PaymentDetailsResType :=
  .through fun r => (r.responseCode, r.genChallenge, r.dateTimeNow)

/-- `din_ChargeParameterDiscoveryResType`. -/
structure ChargeParameterDiscoveryResType where
  responseCode : ℤ
  evseProcessing : ℤ
  saScheduleList : Member (Counted SaScheduleTupleType)
  saSchedules : Member Raw
  acEvseChargeParameter : Member Raw
  dcEvseChargeParameter : Member DcEvseChargeParameterType
  evseChargeParameter : Member Raw
deriving Inhabited

instance : Encoded ChargeParameterDiscoveryResType :=
  .through fun r =>
    (r.responseCode, r.evseProcessing, r.saScheduleList, r.saSchedules, r.acEvseChargeParameter,
      r.dcEvseChargeParameter, r.evseChargeParameter)

/-- `init_din_ChargeParameterDiscoveryResType`. -/
@[simp]
def ChargeParameterDiscoveryResType.init (r : ChargeParameterDiscoveryResType) :
    ChargeParameterDiscoveryResType :=
  { r with
    saScheduleList := r.saScheduleList.clear
    saSchedules := r.saSchedules.clear
    acEvseChargeParameter := r.acEvseChargeParameter.clear
    dcEvseChargeParameter := r.dcEvseChargeParameter.clear
    evseChargeParameter := r.evseChargeParameter.clear }

/-- `din_PreChargeResType`, `din_WeldingDetectionResType`. -/
structure PresentVoltageResType where
  responseCode : ℤ
  dcEvseStatus : DcEvseStatusType
  evsePresentVoltage : PhysicalValueType
deriving Inhabited

instance : Encoded PresentVoltageResType :=
  .through fun r => (r.responseCode, r.dcEvseStatus, r.evsePresentVoltage)

/-- `din_PowerDeliveryResType`. -/
structure PowerDeliveryResType where
  responseCode : ℤ
  acEvseStatus : Member AcEvseStatusType
  dcEvseStatus : Member DcEvseStatusType
  evseStatus : Member Raw
deriving Inhabited

instance : Encoded PowerDeliveryResType :=
  .through fun r => (r.responseCode, r.acEvseStatus, r.dcEvseStatus, r.evseStatus)

/-- `din_CurrentDemandResType`. -/
structure CurrentDemandResType where
  responseCode : ℤ
  dcEvseStatus : DcEvseStatusType
  evsePresentVoltage : PhysicalValueType
  evsePresentCurrent : PhysicalValueType
  evseCurrentLimitAchieved : ℤ
  evseVoltageLimitAchieved : ℤ
  evsePowerLimitAchieved : ℤ
  evseMaximumVoltageLimit : Member PhysicalValueType
  evseMaximumCurrentLimit : Member PhysicalValueType
  evseMaximumPowerLimit : Member PhysicalValueType
deriving Inhabited

instance : Encoded CurrentDemandResType :=
  .through fun r =>
    (r.responseCode, r.dcEvseStatus, r.evsePresentVoltage, r.evsePresentCurrent,
      r.evseCurrentLimitAchieved, r.evseVoltageLimitAchieved, r.evsePowerLimitAchieved,
      r.evseMaximumVoltageLimit, r.evseMaximumCurrentLimit, r.evseMaximumPowerLimit)

/-- `init_din_CurrentDemandResType`. -/
@[simp]
def CurrentDemandResType.init (r : CurrentDemandResType) : CurrentDemandResType :=
  { r with
    evseMaximumVoltageLimit := r.evseMaximumVoltageLimit.clear
    evseMaximumCurrentLimit := r.evseMaximumCurrentLimit.clear
    evseMaximumPowerLimit := r.evseMaximumPowerLimit.clear }

/-- `din_MeteringReceiptResType`, whose `init` does nothing: the AC status is mandatory. -/
structure MeteringReceiptResType where
  responseCode : ℤ
  acEvseStatus : AcEvseStatusType
deriving Inhabited

instance : Encoded MeteringReceiptResType := .through fun r => (r.responseCode, r.acEvseStatus)

/-! ## The document -/

/-- The response elements of `din_BodyType` that the station sends, a union with a flag for each
element. -/
structure BodyType where
  cableCheckRes : Member CableCheckResType
  chargeParameterDiscoveryRes : Member ChargeParameterDiscoveryResType
  contractAuthenticationRes : Member AuthorizationResType
  currentDemandRes : Member CurrentDemandResType
  meteringReceiptRes : Member MeteringReceiptResType
  paymentDetailsRes : Member PaymentDetailsResType
  powerDeliveryRes : Member PowerDeliveryResType
  preChargeRes : Member PresentVoltageResType
  serviceDetailRes : Member ServiceDetailResType
  serviceDiscoveryRes : Member ServiceDiscoveryResType
  servicePaymentSelectionRes : Member CodeResType
  sessionSetupRes : Member SessionSetupResType
  sessionStopRes : Member CodeResType
  weldingDetectionRes : Member PresentVoltageResType
deriving Inhabited

instance : Encoded BodyType :=
  .through fun b =>
    (b.cableCheckRes, b.chargeParameterDiscoveryRes, b.contractAuthenticationRes,
      b.currentDemandRes, b.meteringReceiptRes, b.paymentDetailsRes, b.powerDeliveryRes,
      b.preChargeRes, b.serviceDetailRes, b.serviceDiscoveryRes, b.servicePaymentSelectionRes,
      b.sessionSetupRes, b.sessionStopRes, b.weldingDetectionRes)

/-- `init_din_BodyType`. -/
@[simp]
def BodyType.init (b : BodyType) : BodyType where
  cableCheckRes := b.cableCheckRes.clear
  chargeParameterDiscoveryRes := b.chargeParameterDiscoveryRes.clear
  contractAuthenticationRes := b.contractAuthenticationRes.clear
  currentDemandRes := b.currentDemandRes.clear
  meteringReceiptRes := b.meteringReceiptRes.clear
  paymentDetailsRes := b.paymentDetailsRes.clear
  powerDeliveryRes := b.powerDeliveryRes.clear
  preChargeRes := b.preChargeRes.clear
  serviceDetailRes := b.serviceDetailRes.clear
  serviceDiscoveryRes := b.serviceDiscoveryRes.clear
  servicePaymentSelectionRes := b.servicePaymentSelectionRes.clear
  sessionSetupRes := b.sessionSetupRes.clear
  sessionStopRes := b.sessionStopRes.clear
  weldingDetectionRes := b.weldingDetectionRes.clear

/-- `din_exiDocument`: the header and the body of its one message. -/
structure ExiDocument where
  header : MessageHeaderType
  body : BodyType
deriving Inhabited

instance : Encoded ExiDocument := .through fun d => (d.header, d.body)

/-- The steps all encoders begin with: write the header and reset the flags of the body. -/
@[simp]
def ExiDocument.begin (doc : ExiDocument) (sid : Sid) : ExiDocument :=
  { header := setHeaderSession doc.header sid, body := doc.body.init }

/-! ## Encoders -/

section Encoders

variable (doc : ExiDocument) (sid : Sid) (code : ResponseCode)

/-- `jpv2g_cbv2g_encode_din_session_setup_res`; an identifier of a wrong length has no document,
and a negative time is left out. -/
def encodeSessionSetupRes (evseId : List Char) (timestamp : ℤ) : Option ExiDocument :=
  if evseId.length = 0 ∨ 32 < evseId.length then none
  else
    let doc := doc.begin sid
    let res := doc.body.sessionSetupRes.value
    let res := { res with
      responseCode := code.code
      evseId := res.evseId.copy evseId
      dateTimeNow := if 0 ≤ timestamp then .store timestamp else res.dateTimeNow.clear }
    some { doc with body := { doc.body with sessionSetupRes := .store res } }

/-- `jpv2g_cbv2g_encode_din_service_discovery_res` without a service name. -/
def encodeServiceDiscoveryRes (payment : PaymentOption) (etm : EnergyTransferMode)
    (serviceId : UInt16) (freeService : ℕ) : ExiDocument :=
  let doc := doc.begin sid
  let res := doc.body.serviceDiscoveryRes.value
  let res := { res with
    responseCode := code.code
    paymentOptions := res.paymentOptions.single payment.code
    chargeService :=
      { serviceTag :=
          setServiceTag res.chargeService.serviceTag serviceId "DC Charging".toList
            evChargingCategory
        freeService := if freeService ≠ 0 then 1 else 0
        energyTransferType := etm.code }
    serviceList := res.serviceList.clear }
  { doc with body := { doc.body with serviceDiscoveryRes := .store res } }

/-- `jpv2g_cbv2g_encode_din_service_detail_res`. -/
def encodeServiceDetailRes (serviceId : UInt16) : ExiDocument :=
  let doc := doc.begin sid
  let res := doc.body.serviceDetailRes.value.init
  let res := { res with responseCode := code.code, serviceId := serviceId.toNat }
  { doc with body := { doc.body with serviceDetailRes := .store res } }

/-- `jpv2g_cbv2g_encode_din_service_payment_selection_res`. -/
def encodeServicePaymentSelectionRes : ExiDocument :=
  let doc := doc.begin sid
  { doc with
    body := { doc.body with servicePaymentSelectionRes := .store { responseCode := code.code } } }

/-- `jpv2g_cbv2g_encode_din_payment_details_res` without a challenge. -/
def encodePaymentDetailsRes (timestamp : ℤ) : ExiDocument :=
  let doc := doc.begin sid
  let res := doc.body.paymentDetailsRes.value
  let res := { res with
    responseCode := code.code
    genChallenge := res.genChallenge.clear
    dateTimeNow := if 0 ≤ timestamp then timestamp else 0 }
  { doc with body := { doc.body with paymentDetailsRes := .store res } }

/-- `jpv2g_cbv2g_encode_din_contract_authentication_res`. -/
def encodeContractAuthenticationRes (processing : EvseProcessing) : ExiDocument :=
  let doc := doc.begin sid
  { doc with
    body := { doc.body with
      contractAuthenticationRes :=
        .store { responseCode := code.code, evseProcessing := processing.code } } }

/-- The schedule of a ChargeParameterDiscoveryRes (`set_default_din_sa_schedule`). -/
def setDefaultSaSchedule (list : Counted SaScheduleTupleType) : Counted SaScheduleTupleType :=
  let tuple := list.cells 0
  let entry := tuple.pMaxSchedule.pMaxScheduleEntry.cells 0
  let entry := { entry with
    relativeTimeInterval := .store { start := 0, duration := .store (24 * 3600) }
    timeInterval := entry.timeInterval.clear
    pMax := 32767 }
  list.single
    { saScheduleTupleId := 1
      pMaxSchedule :=
        { pMaxScheduleId := 1
          pMaxScheduleEntry := tuple.pMaxSchedule.pMaxScheduleEntry.single entry }
      salesTariff := tuple.salesTariff.clear }

/-- `jpv2g_cbv2g_encode_din_charge_parameter_discovery_res` without charge parameters of the
caller. -/
def encodeChargeParameterDiscoveryRes (processing : EvseProcessing) : ExiDocument :=
  let doc := doc.begin sid
  let res := doc.body.chargeParameterDiscoveryRes.value.init
  let res := { res with
    responseCode := code.code
    evseProcessing := processing.code
    dcEvseChargeParameter := .store (setDefaultDcChargeParams res.dcEvseChargeParameter.value) }
  let res :=
    if processing = .finished then
      { res with
        saSchedules := res.saSchedules.clear
        saScheduleList := .store (setDefaultSaSchedule res.saScheduleList.value) }
    else res
  { doc with body := { doc.body with chargeParameterDiscoveryRes := .store res } }

/-- `jpv2g_cbv2g_encode_din_cable_check_res` with a payload. -/
def encodeCableCheckRes (payload : CableCheckResType) : ExiDocument :=
  let doc := doc.begin sid
  { doc with
    body := { doc.body with cableCheckRes := .store { payload with responseCode := code.code } } }

/-- `jpv2g_cbv2g_encode_din_pre_charge_res` with a payload. -/
def encodePreChargeRes (payload : PresentVoltageResType) : ExiDocument :=
  let doc := doc.begin sid
  { doc with
    body := { doc.body with preChargeRes := .store { payload with responseCode := code.code } } }

/-- `jpv2g_cbv2g_encode_din_power_delivery_res` without a payload. -/
def encodePowerDeliveryRes : ExiDocument :=
  let doc := doc.begin sid
  let res := doc.body.powerDeliveryRes.value
  { doc with
    body := { doc.body with
      powerDeliveryRes :=
        .store
          { responseCode := code.code
            dcEvseStatus := .store (setDefaultDcEvseStatus res.dcEvseStatus.value)
            acEvseStatus := res.acEvseStatus.clear
            evseStatus := res.evseStatus.clear } } }

/-- `jpv2g_cbv2g_encode_din_current_demand_res` with a payload. -/
def encodeCurrentDemandRes (payload : CurrentDemandResType) : ExiDocument :=
  let doc := doc.begin sid
  { doc with
    body := { doc.body with
      currentDemandRes := .store { payload with responseCode := code.code } } }

/-- `jpv2g_cbv2g_encode_din_metering_receipt_res` with a payload: only the code is assigned. -/
def encodeMeteringReceiptRes (payload : MeteringReceiptResType) : ExiDocument :=
  let doc := doc.begin sid
  { doc with
    body := { doc.body with
      meteringReceiptRes := .store { payload with responseCode := code.code } } }

/-- `jpv2g_cbv2g_encode_din_welding_detection_res` without a payload. -/
def encodeWeldingDetectionRes : ExiDocument :=
  let doc := doc.begin sid
  let res := doc.body.weldingDetectionRes.value
  { doc with
    body := { doc.body with
      weldingDetectionRes :=
        .store
          { responseCode := code.code
            dcEvseStatus := setDefaultDcEvseStatus res.dcEvseStatus
            evsePresentVoltage := setPhysicalValue .volt 400 0 } } }

/-- `jpv2g_cbv2g_encode_din_session_stop_res`. -/
def encodeSessionStopRes : ExiDocument :=
  let doc := doc.begin sid
  { doc with body := { doc.body with sessionStopRes := .store { responseCode := code.code } } }

end Encoders

/-! ## What the documents depend on -/

section Agree

variable (doc doc' : ExiDocument) (sid : Sid) (code : ResponseCode)

theorem agree_encodeSessionSetupRes (evseId : List Char) (timestamp : ℤ) :
    Agree (encodeSessionSetupRes doc sid code evseId timestamp)
      (encodeSessionSetupRes doc' sid code evseId timestamp) := by
  by_cases hlength : evseId.length = 0 ∨ 32 < evseId.length
  · simp only [encodeSessionSetupRes, if_pos hlength, Agree.refl]
  · rw [encodeSessionSetupRes, encodeSessionSetupRes, if_neg hlength, if_neg hlength]
    by_cases htime : 0 ≤ timestamp
    · simp [htime]
    · simp [htime]

@[simp]
theorem agree_setServiceTag (tag tag' : ServiceTagType) (serviceId : UInt16) (name : List Char)
    (category : ℤ) :
    Agree (setServiceTag tag serviceId name category)
      (setServiceTag tag' serviceId name category) := by
  simp [setServiceTag]

theorem agree_encodeServiceDiscoveryRes (payment : PaymentOption) (etm : EnergyTransferMode)
    (serviceId : UInt16) (freeService : ℕ) :
    Agree (encodeServiceDiscoveryRes doc sid code payment etm serviceId freeService)
      (encodeServiceDiscoveryRes doc' sid code payment etm serviceId freeService) := by
  simp [encodeServiceDiscoveryRes]

theorem agree_encodeServiceDetailRes (serviceId : UInt16) :
    Agree (encodeServiceDetailRes doc sid code serviceId)
      (encodeServiceDetailRes doc' sid code serviceId) := by
  simp [encodeServiceDetailRes]

theorem agree_encodeServicePaymentSelectionRes :
    Agree (encodeServicePaymentSelectionRes doc sid code)
      (encodeServicePaymentSelectionRes doc' sid code) := by
  simp [encodeServicePaymentSelectionRes]

theorem agree_encodePaymentDetailsRes (timestamp : ℤ) :
    Agree (encodePaymentDetailsRes doc sid code timestamp)
      (encodePaymentDetailsRes doc' sid code timestamp) := by
  simp [encodePaymentDetailsRes]

theorem agree_encodeContractAuthenticationRes (processing : EvseProcessing) :
    Agree (encodeContractAuthenticationRes doc sid code processing)
      (encodeContractAuthenticationRes doc' sid code processing) := by
  simp [encodeContractAuthenticationRes]

@[simp]
theorem agree_setDefaultSaSchedule (list list' : Counted SaScheduleTupleType) :
    Agree (setDefaultSaSchedule list) (setDefaultSaSchedule list') := by
  simp [setDefaultSaSchedule]

theorem agree_encodeChargeParameterDiscoveryRes (processing : EvseProcessing) :
    Agree (encodeChargeParameterDiscoveryRes doc sid code processing)
      (encodeChargeParameterDiscoveryRes doc' sid code processing) := by
  by_cases hfinished : processing = .finished
  · simp [encodeChargeParameterDiscoveryRes, hfinished]
  · simp [encodeChargeParameterDiscoveryRes, hfinished]

theorem agree_encodeCableCheckRes {payload payload' : CableCheckResType} :
    Agree (encodeCableCheckRes doc sid code payload) (encodeCableCheckRes doc' sid code payload') ↔
      Agree { payload with responseCode := 0 } { payload' with responseCode := 0 } := by
  simp [encodeCableCheckRes]

theorem agree_encodePreChargeRes {payload payload' : PresentVoltageResType} :
    Agree (encodePreChargeRes doc sid code payload) (encodePreChargeRes doc' sid code payload') ↔
      Agree { payload with responseCode := 0 } { payload' with responseCode := 0 } := by
  simp [encodePreChargeRes]

theorem agree_encodePowerDeliveryRes :
    Agree (encodePowerDeliveryRes doc sid code) (encodePowerDeliveryRes doc' sid code) := by
  simp [encodePowerDeliveryRes]

theorem agree_encodeCurrentDemandRes {payload payload' : CurrentDemandResType} :
    Agree (encodeCurrentDemandRes doc sid code payload)
        (encodeCurrentDemandRes doc' sid code payload') ↔
      Agree { payload with responseCode := 0 } { payload' with responseCode := 0 } := by
  simp [encodeCurrentDemandRes]

/-- The AC status of a MeteringReceiptRes is the one of the payload. -/
theorem agree_encodeMeteringReceiptRes {payload payload' : MeteringReceiptResType} :
    Agree (encodeMeteringReceiptRes doc sid code payload)
        (encodeMeteringReceiptRes doc' sid code payload') ↔
      Agree payload.acEvseStatus payload'.acEvseStatus := by
  simp [encodeMeteringReceiptRes]

theorem agree_encodeWeldingDetectionRes :
    Agree (encodeWeldingDetectionRes doc sid code) (encodeWeldingDetectionRes doc' sid code) := by
  simp [encodeWeldingDetectionRes]

theorem agree_encodeSessionStopRes :
    Agree (encodeSessionStopRes doc sid code) (encodeSessionStopRes doc' sid code) := by
  simp [encodeSessionStopRes]

end Agree

end Din

end Jpv2g
