import Jpv2g.Cbv2g.Din
import Jpv2g.Cbv2g.Iso2
import Jpv2g.Secc.HandlerFacts

/-!
# What Responses Depend On

A handler fills a response structure on its stack or lets the encoder fill the workspace, and
neither is zeroed before. Two runs that differ only in what the memory held hand over documents that
agree on every encoded field, unless the response has a mandatory member that nobody assigns. Two
responses have one: the SAScheduleTupleID of an ISO 15118-2 CurrentDemandRes, and the AC_EVSEStatus
of a DIN 70121 MeteringReceiptRes.

## Main definitions

* `Memory`: what the structures of the handler and the workspaces hold when it is called.
* `Res.document`, `handedDocument`: the document handed to the EXI encoder.

## Main results

* `Res.agree_document_iff`: which encoder calls leave a member unassigned.
* `handedDocument_agree_iff`: for which requests the document depends on the memory.
* `response_memoryless_iff`: the same for a request with a decoded body.
-/

namespace Jpv2g

open CStruct

/-- The uninitialised structures on the stack of the handler, and the workspaces of the encoders
as the last message left them. -/
structure Memory where
  appDoc : AppHand.ExiDocument
  isoDoc : Iso2.ExiDocument
  dinDoc : Din.ExiDocument
  isoCableCheckRes : CableCheckResType
  dinCableCheckRes : CableCheckResType
  isoPreChargeRes : Iso2.PresentVoltageResType
  dinPreChargeRes : Din.PresentVoltageResType
  isoCurrentDemandRes : Iso2.CurrentDemandResType
  dinCurrentDemandRes : Din.CurrentDemandResType
  dinMeteringReceiptRes : Din.MeteringReceiptResType
deriving Inhabited

/-- A document of one of the three grammars. -/
abbrev Document := AppHand.ExiDocument ⊕ Iso2.ExiDocument ⊕ Din.ExiDocument

/-! ## The structures of the handler -/

/-- The payload of a CableCheckRes. -/
def CableCheckResType.fill (res : CableCheckResType) (processing : EvseProcessing)
    (status : DcEvseStatus) : CableCheckResType :=
  { res with
    evseProcessing := processing.code
    dcEvseStatus := res.dcEvseStatus.assign status }

/-- The payload of an ISO 15118-2 PreChargeRes. -/
def Iso2.PresentVoltageResType.fill (res : PresentVoltageResType) (status : DcEvseStatus)
    (voltage : PhysicalValue) : PresentVoltageResType :=
  { res with
    dcEvseStatus := res.dcEvseStatus.assign status
    evsePresentVoltage := physicalValue voltage }

/-- The payload of an ISO 15118-2 CurrentDemandRes. The SAScheduleTupleID is not assigned. -/
def Iso2.CurrentDemandResType.fill (res : CurrentDemandResType) (status : DcEvseStatus)
    (voltage current : PhysicalValue) (currentLimit voltageLimit powerLimit : Bool)
    (meter : MeterInfo) : CurrentDemandResType :=
  let res := res.init
  { res with
    dcEvseStatus := res.dcEvseStatus.assign status
    evsePresentVoltage := physicalValue voltage
    evsePresentCurrent := physicalValue current
    evseCurrentLimitAchieved := currentLimit.toInt
    evseVoltageLimitAchieved := voltageLimit.toInt
    evsePowerLimitAchieved := powerLimit.toInt
    meterInfo := .store (res.meterInfo.value.fill meter)
    evseId := res.evseId.clear }

/-- The echo of a physical value. The value of a request is copied with its flag; without a
request `secc_set_din_physical` assigns the unit and leaves the flag. -/
def Din.PhysicalValueType.echo (res : PhysicalValueType) (hasBody : Bool) (pv : PhysicalValue) :
    PhysicalValueType :=
  if hasBody then
    { multiplier := pv.multiplier.toInt
      unit := res.unit.ofOption (pv.unit.map unitCode)
      value := pv.value.toInt }
  else
    { multiplier := pv.multiplier.toInt
      unit := { res.unit with value := (pv.unit.map unitCode).getD 0 }
      value := pv.value.toInt }

@[simp]
theorem Din.agree_echo (res res' : PhysicalValueType) (pv : PhysicalValue) :
    Agree (res.echo true pv) (res'.echo true pv) := by
  simp [PhysicalValueType.echo]

/-- The payload of a DIN 70121 PreChargeRes. -/
def Din.PresentVoltageResType.fill (res : PresentVoltageResType) (hasBody : Bool)
    (status : DcEvseStatus) (voltage : PhysicalValue) : PresentVoltageResType :=
  { res with
    dcEvseStatus := res.dcEvseStatus.assign status
    evsePresentVoltage := res.evsePresentVoltage.echo hasBody voltage }

/-- The payload of a DIN 70121 CurrentDemandRes. -/
def Din.CurrentDemandResType.fill (res : CurrentDemandResType) (hasBody : Bool)
    (status : DcEvseStatus) (voltage current : PhysicalValue)
    (currentLimit voltageLimit powerLimit : Bool) : CurrentDemandResType :=
  let res := res.init
  { res with
    dcEvseStatus := res.dcEvseStatus.assign status
    evsePresentVoltage := res.evsePresentVoltage.echo hasBody voltage
    evsePresentCurrent := res.evsePresentCurrent.echo hasBody current
    evseCurrentLimitAchieved := currentLimit.toInt
    evseVoltageLimitAchieved := voltageLimit.toInt
    evsePowerLimitAchieved := powerLimit.toInt }

/-! ## Documents -/

section Document

variable (m : Memory) (randomBytes : Option (List UInt8)) (hasBody : Bool) (sid : Sid)

/-- The document of an ISO 15118-2 response. -/
def Iso2Res.document : Iso2Res → Option Iso2.ExiDocument
  | .sessionSetup evseId code => some (Iso2.encodeSessionSetupRes m.isoDoc sid code evseId)
  | .serviceDiscovery code payments modes serviceId serviceName freeService =>
    Iso2.encodeServiceDiscoveryRes m.isoDoc sid code payments modes serviceId serviceName
      freeService
  | .serviceDetail code serviceId => some (Iso2.encodeServiceDetailRes m.isoDoc sid code serviceId)
  | .paymentServiceSelection code => some (Iso2.encodePaymentServiceSelectionRes m.isoDoc sid code)
  | .paymentDetails code timeStamp =>
    some (Iso2.encodePaymentDetailsRes m.isoDoc sid code randomBytes timeStamp)
  | .authorization code processing =>
    some (Iso2.encodeAuthorizationRes m.isoDoc sid code processing)
  | .chargeParameterDiscovery code etm =>
    some (Iso2.encodeChargeParameterDiscoveryRes m.isoDoc sid code etm)
  | .cableCheck code processing status =>
    some (Iso2.encodeCableCheckRes m.isoDoc sid code (m.isoCableCheckRes.fill processing status))
  | .preCharge code status voltage =>
    some (Iso2.encodePreChargeRes m.isoDoc sid code (m.isoPreChargeRes.fill status voltage))
  | .powerDelivery code => some (Iso2.encodePowerDeliveryRes m.isoDoc sid code)
  | .chargingStatus code evseId saId =>
    some (Iso2.encodeChargingStatusRes m.isoDoc sid code evseId saId)
  | .currentDemand code status voltage current currentLimit voltageLimit powerLimit meter =>
    some
      (Iso2.encodeCurrentDemandRes m.isoDoc sid code
        (m.isoCurrentDemandRes.fill status voltage current currentLimit voltageLimit powerLimit
          meter))
  | .meteringReceipt code => some (Iso2.encodeMeteringReceiptRes m.isoDoc sid code)
  | .weldingDetection code => some (Iso2.encodeWeldingDetectionRes m.isoDoc sid code)
  | .sessionStop code => some (Iso2.encodeSessionStopRes m.isoDoc sid code)

/-- The document of a DIN 70121 response. The payload of a MeteringReceiptRes is handed over as it
was found on the stack. -/
def DinRes.document : DinRes → Option Din.ExiDocument
  | .sessionSetup evseId code dateTimeNow =>
    Din.encodeSessionSetupRes m.dinDoc sid code evseId dateTimeNow
  | .serviceDiscovery code payment etm serviceId freeService =>
    some (Din.encodeServiceDiscoveryRes m.dinDoc sid code payment etm serviceId freeService)
  | .serviceDetail code serviceId => some (Din.encodeServiceDetailRes m.dinDoc sid code serviceId)
  | .servicePaymentSelection code => some (Din.encodeServicePaymentSelectionRes m.dinDoc sid code)
  | .paymentDetails code dateTimeNow =>
    some (Din.encodePaymentDetailsRes m.dinDoc sid code dateTimeNow)
  | .contractAuthentication code processing =>
    some (Din.encodeContractAuthenticationRes m.dinDoc sid code processing)
  | .chargeParameterDiscovery code processing =>
    some (Din.encodeChargeParameterDiscoveryRes m.dinDoc sid code processing)
  | .cableCheck code processing status =>
    some (Din.encodeCableCheckRes m.dinDoc sid code (m.dinCableCheckRes.fill processing status))
  | .preCharge code status voltage =>
    some (Din.encodePreChargeRes m.dinDoc sid code (m.dinPreChargeRes.fill hasBody status voltage))
  | .powerDelivery code => some (Din.encodePowerDeliveryRes m.dinDoc sid code)
  | .currentDemand code status voltage current currentLimit voltageLimit powerLimit =>
    some
      (Din.encodeCurrentDemandRes m.dinDoc sid code
        (m.dinCurrentDemandRes.fill hasBody status voltage current currentLimit voltageLimit
          powerLimit))
  | .meteringReceipt code =>
    some (Din.encodeMeteringReceiptRes m.dinDoc sid code m.dinMeteringReceiptRes)
  | .weldingDetection code => some (Din.encodeWeldingDetectionRes m.dinDoc sid code)
  | .sessionStop code => some (Din.encodeSessionStopRes m.dinDoc sid code)

/-- The document of a response of the default handler; the minimal FAILED responses are not its. -/
def Res.document : Res → Option Document
  | .sapp schemaId code => some (.inl (AppHand.encodeSappRes m.appDoc schemaId code))
  | .iso2 sid body => (body.document m randomBytes sid).map (.inr ∘ .inl)
  | .din sid body => (body.document m hasBody sid).map (.inr ∘ .inr)
  | .minFailed _ _ _ _ => none

end Document

/-! ## What a response leaves unassigned -/

/-- The response has a mandatory member that is handed over as it was found. -/
def Iso2Res.leavesMember : Iso2Res → Bool
  | .currentDemand _ _ _ _ _ _ _ _ => true
  | _ => false

/-- The response has a mandatory member or a flag that is handed over as it was found. -/
def DinRes.leavesMember (hasBody : Bool) : DinRes → Bool
  | .meteringReceipt _ => true
  | .preCharge _ _ _ | .currentDemand _ _ _ _ _ _ _ => !hasBody
  | _ => false

/-- The response hands over a member as it was found. -/
def Res.leavesMember (hasBody : Bool) : Res → Bool
  | .iso2 _ body => body.leavesMember
  | .din _ body => body.leavesMember hasBody
  | .sapp _ _ | .minFailed _ _ _ _ => false

section Responses

variable (randomBytes : Option (List UInt8)) {hasBody : Bool} (sid : Sid)

/-- An ISO 15118-2 response that assigns every member does not depend on the memory. -/
theorem Iso2Res.agree_document {res : Iso2Res} (hres : res.leavesMember = false) (m m' : Memory) :
    Agree (res.document m randomBytes sid) (res.document m' randomBytes sid) := by
  cases res with
  | sessionSetup evseId code => exact agree_some.mpr (Iso2.agree_encodeSessionSetupRes ..)
  | serviceDiscovery => exact Iso2.agree_encodeServiceDiscoveryRes ..
  | serviceDetail => exact agree_some.mpr (Iso2.agree_encodeServiceDetailRes ..)
  | paymentServiceSelection =>
    exact agree_some.mpr (Iso2.agree_encodePaymentServiceSelectionRes ..)
  | paymentDetails => exact agree_some.mpr (Iso2.agree_encodePaymentDetailsRes ..)
  | authorization => exact agree_some.mpr (Iso2.agree_encodeAuthorizationRes ..)
  | chargeParameterDiscovery =>
    exact agree_some.mpr (Iso2.agree_encodeChargeParameterDiscoveryRes ..)
  | cableCheck code processing status =>
    rw [document, document, agree_some, Iso2.agree_encodeCableCheckRes]
    simp [CableCheckResType.fill]
  | preCharge code status voltage =>
    rw [document, document, agree_some, Iso2.agree_encodePreChargeRes]
    simp [Iso2.PresentVoltageResType.fill]
  | powerDelivery => exact agree_some.mpr (Iso2.agree_encodePowerDeliveryRes ..)
  | chargingStatus => exact agree_some.mpr (Iso2.agree_encodeChargingStatusRes ..)
  | currentDemand => exact absurd hres Bool.noConfusion
  | meteringReceipt => exact agree_some.mpr (Iso2.agree_encodeMeteringReceiptRes ..)
  | weldingDetection => exact agree_some.mpr (Iso2.agree_encodeWeldingDetectionRes ..)
  | sessionStop => exact agree_some.mpr (Iso2.agree_encodeSessionStopRes ..)

/-- A DIN 70121 response that assigns every member does not depend on the memory. -/
theorem DinRes.agree_document {res : DinRes} (hres : res.leavesMember hasBody = false)
    (m m' : Memory) :
    Agree (res.document m hasBody sid) (res.document m' hasBody sid) := by
  cases res with
  | sessionSetup => exact Din.agree_encodeSessionSetupRes ..
  | serviceDiscovery => exact agree_some.mpr (Din.agree_encodeServiceDiscoveryRes ..)
  | serviceDetail => exact agree_some.mpr (Din.agree_encodeServiceDetailRes ..)
  | servicePaymentSelection =>
    exact agree_some.mpr (Din.agree_encodeServicePaymentSelectionRes ..)
  | paymentDetails => exact agree_some.mpr (Din.agree_encodePaymentDetailsRes ..)
  | contractAuthentication =>
    exact agree_some.mpr (Din.agree_encodeContractAuthenticationRes ..)
  | chargeParameterDiscovery =>
    exact agree_some.mpr (Din.agree_encodeChargeParameterDiscoveryRes ..)
  | cableCheck code processing status =>
    rw [document, document, agree_some, Din.agree_encodeCableCheckRes]
    simp [CableCheckResType.fill]
  -- an echo assigns the flag of its unit only from a request
  | preCharge code status voltage =>
    obtain rfl : hasBody = true := by simpa [leavesMember] using hres
    rw [document, document, agree_some, Din.agree_encodePreChargeRes]
    simp [Din.PresentVoltageResType.fill]
  | powerDelivery => exact agree_some.mpr (Din.agree_encodePowerDeliveryRes ..)
  | currentDemand code status voltage current currentLimit voltageLimit powerLimit =>
    obtain rfl : hasBody = true := by simpa [leavesMember] using hres
    rw [document, document, agree_some, Din.agree_encodeCurrentDemandRes]
    simp [Din.CurrentDemandResType.fill]
  | meteringReceipt => exact absurd hres Bool.noConfusion
  | weldingDetection => exact agree_some.mpr (Din.agree_encodeWeldingDetectionRes ..)
  | sessionStop => exact agree_some.mpr (Din.agree_encodeSessionStopRes ..)

/-- An ISO 15118-2 document is read as such. -/
theorem agree_inr_inl (doc doc' : Iso2.ExiDocument) :
    Agree ((Sum.inr ∘ Sum.inl) doc : Document) ((Sum.inr ∘ Sum.inl) doc') ↔ Agree doc doc' := by
  simp

/-- A DIN 70121 document is read as such. -/
theorem agree_inr_inr (doc doc' : Din.ExiDocument) :
    Agree ((Sum.inr ∘ Sum.inr) doc : Document) ((Sum.inr ∘ Sum.inr) doc') ↔ Agree doc doc' := by
  simp

/-- A response that assigns every member does not depend on the memory. -/
theorem Res.agree_document {res : Res} (hres : res.leavesMember hasBody = false) (m m' : Memory) :
    Agree (res.document m randomBytes hasBody) (res.document m' randomBytes hasBody) := by
  cases res with
  | sapp => exact agree_some.mpr (agree_inl.mpr (AppHand.agree_encodeSappRes ..))
  | iso2 sid body =>
    exact (agree_map agree_inr_inl _ _).mpr (Iso2Res.agree_document randomBytes sid hres m m')
  | din sid body =>
    exact (agree_map agree_inr_inr _ _).mpr (DinRes.agree_document sid hres m m')
  | minFailed => exact .refl none

variable {randomBytes} {sid}

/-- The SAScheduleTupleID of a CurrentDemandRes is the one found on the stack. -/
theorem saScheduleTupleId_eq_of_agree {m m' : Memory} {code : ResponseCode} {status : DcEvseStatus}
    {voltage current : PhysicalValue} {currentLimit voltageLimit powerLimit : Bool}
    {meter : MeterInfo}
    (h : Agree
      ((Iso2Res.currentDemand code status voltage current currentLimit voltageLimit powerLimit
        meter).document m randomBytes sid)
      ((Iso2Res.currentDemand code status voltage current currentLimit voltageLimit powerLimit
        meter).document m' randomBytes sid)) :
    m.isoCurrentDemandRes.saScheduleTupleId = m'.isoCurrentDemandRes.saScheduleTupleId := by
  rw [Iso2Res.document, Iso2Res.document, agree_some, Iso2.agree_encodeCurrentDemandRes] at h
  simpa [Iso2.CurrentDemandResType.fill] using h

/-- The AC_EVSEStatus of a MeteringReceiptRes is the one found on the stack. -/
theorem acEvseStatus_agree_of_agree {m m' : Memory} {code : ResponseCode}
    (h : Agree ((DinRes.meteringReceipt code).document m hasBody sid)
      ((DinRes.meteringReceipt code).document m' hasBody sid)) :
    Agree m.dinMeteringReceiptRes.acEvseStatus m'.dinMeteringReceiptRes.acEvseStatus := by
  rwa [DinRes.document, DinRes.document, agree_some, Din.agree_encodeMeteringReceiptRes] at h

/-- Without a request, the flag of the unit of a PreChargeRes is the one found on the stack. -/
theorem preCharge_unit_eq_of_agree {m m' : Memory} {code : ResponseCode} {status : DcEvseStatus}
    {voltage : PhysicalValue}
    (h : Agree ((DinRes.preCharge code status voltage).document m false sid)
      ((DinRes.preCharge code status voltage).document m' false sid)) :
    m.dinPreChargeRes.evsePresentVoltage.unit.isUsed =
      m'.dinPreChargeRes.evsePresentVoltage.unit.isUsed := by
  rw [DinRes.document, DinRes.document, agree_some, Din.agree_encodePreChargeRes] at h
  simp only [Din.PresentVoltageResType.fill, Din.PhysicalValueType.echo, agree_through,
    agree_prod] at h
  exact h.2.2.2.1.1

/-- Without a request, the flag of the unit of a CurrentDemandRes is the one found on the stack. -/
theorem currentDemand_unit_eq_of_agree {m m' : Memory} {code : ResponseCode}
    {status : DcEvseStatus} {voltage current : PhysicalValue}
    {currentLimit voltageLimit powerLimit : Bool}
    (h : Agree
      ((DinRes.currentDemand code status voltage current currentLimit voltageLimit
        powerLimit).document m false sid)
      ((DinRes.currentDemand code status voltage current currentLimit voltageLimit
        powerLimit).document m' false sid)) :
    m.dinCurrentDemandRes.evsePresentVoltage.unit.isUsed =
      m'.dinCurrentDemandRes.evsePresentVoltage.unit.isUsed := by
  rw [DinRes.document, DinRes.document, agree_some, Din.agree_encodeCurrentDemandRes] at h
  simp only [Din.CurrentDemandResType.fill, Din.PhysicalValueType.echo, agree_through,
    agree_prod] at h
  exact h.2.2.1.2.1.1

/-- Zeroed memory. -/
def Memory.zero : Memory := default

/-- Zeroed memory but for one byte: a tuple identifier, a power switch, or the flag of a unit. -/
def Memory.stale : Memory :=
  { Memory.zero with
    isoCurrentDemandRes := { Memory.zero.isoCurrentDemandRes with saScheduleTupleId := 1 }
    dinMeteringReceiptRes :=
      { Memory.zero.dinMeteringReceiptRes with
        acEvseStatus :=
          { Memory.zero.dinMeteringReceiptRes.acEvseStatus with powerSwitchClosed := 1 } }
    dinPreChargeRes :=
      { Memory.zero.dinPreChargeRes with
        evsePresentVoltage :=
          { Memory.zero.dinPreChargeRes.evsePresentVoltage with unit := .store 0 } }
    dinCurrentDemandRes :=
      { Memory.zero.dinCurrentDemandRes with
        evsePresentVoltage :=
          { Memory.zero.dinCurrentDemandRes.evsePresentVoltage with unit := .store 0 } } }

/-- A response that leaves a member as it was found differs between the two memories. -/
theorem Res.not_agree_document {res : Res} (hres : res.leavesMember hasBody = true) :
    ¬ Agree (res.document .zero randomBytes hasBody) (res.document .stale randomBytes hasBody) := by
  intro h
  -- each response that leaves a member has its byte in which the two memories differ
  cases res with
  | sapp | minFailed => exact Bool.noConfusion hres
  | iso2 sid body =>
    rw [document, document, agree_map agree_inr_inl] at h
    cases body with
    | currentDemand =>
      have hid := saScheduleTupleId_eq_of_agree h
      exact absurd hid (by decide)
    | _ => exact Bool.noConfusion hres
  | din sid body =>
    rw [document, document, agree_map agree_inr_inr] at h
    cases body with
    | meteringReceipt =>
      have hswitch : (0 : ℤ) = 1 := (acEvseStatus_agree_of_agree h).1
      exact absurd hswitch (by decide)
    | preCharge =>
      obtain rfl : hasBody = false := by simpa [leavesMember, DinRes.leavesMember] using hres
      exact absurd (preCharge_unit_eq_of_agree h) (by decide)
    | currentDemand =>
      obtain rfl : hasBody = false := by simpa [leavesMember, DinRes.leavesMember] using hres
      exact absurd (currentDemand_unit_eq_of_agree h) (by decide)
    | _ => exact Bool.noConfusion hres

/-- The document of a response does not depend on the memory exactly when every member is
assigned. -/
theorem Res.agree_document_iff (res : Res) :
    (∀ m m', Agree (res.document m randomBytes hasBody) (res.document m' randomBytes hasBody)) ↔
      res.leavesMember hasBody = false := by
  constructor
  · intro h
    by_contra hres
    exact Res.not_agree_document (by simpa using hres) (h .zero .stale)
  · intro hres m m'
    exact Res.agree_document randomBytes hres m m'

end Responses

/-! ## What a request leaves unassigned -/

/-- The response to the request hands over a member as it was found. -/
def Request.leavesMember (request : Request) : Bool :=
  match request.type with
  | .currentDemandReq => !request.isDin || request.dinBody.isNone
  | .meteringReceiptReq => request.isDin
  | .preChargeReq => request.isDin && request.dinBody.isNone
  | _ => false

section Handler

variable (codec : Codec) (env : HandlerEnv) (secc : Secc) (statics : HandlerStatics)
  (request : Request) (build : Build) (registered : Bool) (randomBytes : Option (List UInt8))

/-- The document the default handler hands to the EXI encoder. -/
def handedDocument (m : Memory) : Option Document :=
  (defaultHandle codec env secc statics request build registered).res.bind
    fun res => res.document m randomBytes request.dinBody.isSome

variable {codec env secc statics request build registered} {oldSessionJoined : Bool}

/-- Three handlers aside, every member of a response is assigned. -/
theorem handleResolved_assigns (hcharge : request.type ≠ .preChargeReq)
    (hdemand : request.type ≠ .currentDemandReq) (hreceipt : request.type ≠ .meteringReceiptReq) :
    (handleResolved codec env secc statics request build registered oldSessionJoined).res.any
      (·.leavesMember request.dinBody.isSome) = false := by
  -- in the order of the handlers; each of them fills the members its response has
  unfold handleResolved
  split
  · rfl
  · unfold handleSessionSetup
    split_ifs <;> rfl
  · unfold handleServiceDiscovery
    split_ifs
    · unfold handleDinServiceDiscovery
      dsimp only
      split <;> rfl
    · rfl
  · unfold handleServiceDetail
    split_ifs <;> rfl
  · unfold handlePaymentServiceSelection
    split_ifs <;> rfl
  · unfold handlePaymentDetails
    split_ifs <;> rfl
  · unfold handleAuthorization
    dsimp only
    split_ifs <;> rfl
  · unfold handleChargeParameterDiscovery
    split_ifs <;> rfl
  · unfold handleCableCheck
    split_ifs <;> rfl
  · contradiction
  · unfold handlePowerDelivery
    split_ifs <;> rfl
  · unfold handleChargingStatus
    split_ifs <;> rfl
  · contradiction
  · contradiction
  · unfold handleWeldingDetection
    split_ifs <;> rfl
  · unfold handleSessionStop
    dsimp only
    split_ifs <;> rfl
  · rfl

/-- The same with the session resolved: the three handlers that echo or leave a member. -/
theorem handleResolved_leavesMember :
    (handleResolved codec env secc statics request build registered oldSessionJoined).res.any
      (·.leavesMember request.dinBody.isSome) = request.leavesMember := by
  by_cases hcharge : request.type = .preChargeReq
  · simp only [handleResolved, Request.leavesMember, hcharge]
    unfold handlePreCharge
    split_ifs with hdin
    · simp [hdin, reply, Res.leavesMember, DinRes.leavesMember]
    · simp [hdin, reply, Res.leavesMember, Iso2Res.leavesMember]
  by_cases hdemand : request.type = .currentDemandReq
  · simp only [handleResolved, Request.leavesMember, hdemand]
    unfold handleCurrentDemand
    dsimp only
    split_ifs with hdin
    · simp [hdin, reply, Res.leavesMember, DinRes.leavesMember]
    · simp [hdin, reply, Res.leavesMember, Iso2Res.leavesMember]
  by_cases hreceipt : request.type = .meteringReceiptReq
  · simp only [handleResolved, Request.leavesMember, hreceipt]
    unfold handleMeteringReceipt
    split_ifs with hdin
    · simp [hdin, reply, Res.leavesMember, DinRes.leavesMember]
    · simp [hdin, reply, Res.leavesMember, Iso2Res.leavesMember]
  rw [handleResolved_assigns hcharge hdemand hreceipt]
  unfold Request.leavesMember
  split <;> first | contradiction | rfl

/-- The request decides whether a member of the response is handed over as it was found. -/
theorem defaultHandle_leavesMember :
    (defaultHandle codec env secc statics request build registered).res.any
      (·.leavesMember request.dinBody.isSome) = request.leavesMember :=
  handleResolved_leavesMember

variable (codec env secc statics request build registered)

/-- A member that is left unassigned tells the two sample memories apart. -/
theorem not_handedDocument_agree (hleaves : request.leavesMember = true) :
    ¬ Agree (handedDocument codec env secc statics request build registered randomBytes .zero)
      (handedDocument codec env secc statics request build registered randomBytes .stale) := by
  rw [← defaultHandle_leavesMember] at hleaves
  unfold handedDocument
  cases hres : (defaultHandle codec env secc statics request build registered).res with
  | none =>
    rw [hres] at hleaves
    exact absurd hleaves Bool.noConfusion
  | some res =>
    rw [hres] at hleaves
    exact Res.not_agree_document hleaves

/-- Two calls hand over documents that agree, whatever the memory held, exactly when the request
leaves no member of the response unassigned. -/
theorem handedDocument_agree_iff :
    (∀ m m' : Memory,
      Agree (handedDocument codec env secc statics request build registered randomBytes m)
        (handedDocument codec env secc statics request build registered randomBytes m')) ↔
      request.leavesMember = false := by
  rw [← defaultHandle_leavesMember]
  unfold handedDocument
  cases hres : (defaultHandle codec env secc statics request build registered).res with
  | none => exact iff_of_true (fun _ _ => Agree.refl none) rfl
  | some res => exact Res.agree_document_iff res

/-- The body of the request has been decoded under the grammar of its session. -/
def Request.BodyDecoded (request : Request) : Prop :=
  match request.body with
  | some (.app _) => request.type = .suppAppProtocolReq
  | some (.iso2 body) => request.isDin = false ∧ request.type = body.messageType
  | some (.din body) => request.isDin = true ∧ request.type = body.messageType
  | none => False

/-- A request of a DIN 70121 session has a body the handler reads. -/
theorem Request.BodyDecoded.dinBody_isSome {request : Request} (h : request.BodyDecoded)
    (hdin : request.isDin = true) (happ : request.type ≠ .suppAppProtocolReq) :
    request.dinBody.isSome = true := by
  unfold Request.BodyDecoded at h
  unfold Request.dinBody
  split at h
  · exact absurd h happ
  · rw [hdin] at h
    exact absurd h.1 Bool.noConfusion
  · next heq => rw [heq]; rfl
  · exact h.elim

/-- With a decoded body, two responses leave a member unassigned. -/
theorem Request.BodyDecoded.leavesMember_eq_false {request : Request} (h : request.BodyDecoded) :
    request.leavesMember = false ↔
      ¬ (request.isDin = false ∧ request.type = .currentDemandReq) ∧
        ¬ (request.isDin = true ∧ request.type = .meteringReceiptReq) := by
  -- a decoded DIN body is there to be echoed, so only the MeteringReceiptRes is left
  cases hdin : request.isDin with
  | false => unfold Request.leavesMember; split <;> simp_all
  | true =>
    have hbody := h.dinBody_isSome hdin
    unfold Request.leavesMember
    split <;> simp_all

/-- For a request with a decoded body the document does not depend on the memory, unless it is an
ISO 15118-2 CurrentDemandReq or a DIN 70121 MeteringReceiptReq. -/
theorem response_memoryless_iff (hbody : request.BodyDecoded) :
    (∀ m m' : Memory,
      Agree (handedDocument codec env secc statics request build registered randomBytes m)
        (handedDocument codec env secc statics request build registered randomBytes m')) ↔
      ¬ (request.isDin = false ∧ request.type = .currentDemandReq) ∧
        ¬ (request.isDin = true ∧ request.type = .meteringReceiptReq) := by
  rw [handedDocument_agree_iff]
  exact hbody.leavesMember_eq_false

end Handler

/-- A request of an ISO 15118-2 session with its body. -/
def Iso2Body.sampleRequest (body : Iso2Body) : Request :=
  { type := body.messageType
    protocol := .iso15118_2
    header := some sampleSid.val
    dinHeader := none
    body := some (.iso2 body) }

/-- A request of a DIN 70121 session with its body. -/
def DinBody.sampleRequest (body : DinBody) : Request :=
  { type := body.messageType
    protocol := .din70121
    header := none
    dinHeader := some sampleSid.val
    body := some (.din body) }

/-- A PreChargeReq of DIN 70121. -/
def samplePreCharge : Request := (DinBody.preChargeReq defaultVoltage).sampleRequest

/-- A CurrentDemandReq of ISO 15118-2. -/
def sampleDemand : Request :=
  (Iso2Body.currentDemandReq defaultVoltage defaultCurrent).sampleRequest

/-- A MeteringReceiptReq of DIN 70121. -/
def sampleReceipt : Request := DinBody.meteringReceiptReq.sampleRequest

/-- The document of the sample station, when the random provider fails for the challenge. -/
def sampleHandedDocument (request : Request) (m : Memory) : Option Document :=
  handedDocument sampleCodec (sampleEnv true)
    (.init { freeCharging := false, supportedEnergyModes := "DC_core".toList } true false)
    .init request sampleBuild false none m

/-- The echo of a PreChargeReq of DIN 70121. -/
theorem response_memoryless_iff_sample :
    (∀ m m' : Memory,
      Agree (sampleHandedDocument samplePreCharge m) (sampleHandedDocument samplePreCharge m')) ↔
      ¬ (samplePreCharge.isDin = false ∧ samplePreCharge.type = .currentDemandReq) ∧
        ¬ (samplePreCharge.isDin = true ∧ samplePreCharge.type = .meteringReceiptReq) :=
  response_memoryless_iff _ _ _ _ _ _ _ _ ⟨rfl, rfl⟩

/-- Two stations that differ in what the memory held send different responses to the same
CurrentDemandReq of ISO 15118-2, and to the same MeteringReceiptReq of DIN 70121. -/
theorem stale_member_sent :
    sampleDemand.BodyDecoded ∧
      ¬ Agree (sampleHandedDocument sampleDemand .zero) (sampleHandedDocument sampleDemand .stale) ∧
      sampleReceipt.BodyDecoded ∧
      ¬ Agree (sampleHandedDocument sampleReceipt .zero)
        (sampleHandedDocument sampleReceipt .stale) :=
  ⟨⟨rfl, rfl⟩, not_handedDocument_agree _ _ _ _ _ _ _ _ rfl, ⟨rfl, rfl⟩,
    not_handedDocument_agree _ _ _ _ _ _ _ _ rfl⟩

end Jpv2g
