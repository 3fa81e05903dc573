import Jpv2g.Messages
import Jpv2g.ToMathlib.CStruct

/-!
# The Generated Structures of Both Grammars

The structures of the EXI library that ISO 15118-2 and DIN 70121 share, with what their generated
`init_*` functions do: reset the flags of the optional members and the lengths of the arrays, and
leave everything else as it was found. Scalars are integers, so that a structure can hold any
bytes; an optional member that the station never fills is kept as raw bytes.

## Main definitions

* `MessageHeaderType`, `DcEvseStatusType` and the response types the grammars share.
* `AppHand.encodeSappRes`: the document of a supportedAppProtocolRes.
-/

namespace Jpv2g

open CStruct

/-! ## Enumerators -/

/-- `appHand_responseCodeType`. -/
def AppResponseCode.code : AppResponseCode → ℤ
  | .okSuccessfulNegotiation => 0
  | .okSuccessfulNegotiationWithMinorDeviation => 1
  | .failedNoNegotiation => 2

/-- `iso2_responseCodeType` and `din_responseCodeType`, which agree on these codes. -/
def ResponseCode.code : ResponseCode → ℤ
  | .ok => 0
  | .okNewSessionEstablished => 1
  | .okOldSessionJoined => 2
  | .failed => 4
  | .failedPaymentSelectionInvalid => 9
  | .failedWrongEnergyTransferMode | .failedWrongEnergyTransferType => 22

/-- `EVSEProcessingType`. -/
def EvseProcessing.code : EvseProcessing → ℤ
  | .finished => 0
  | .ongoing => 1

/-- `EVSENotificationType`. -/
def EvseNotification.code : EvseNotification → ℤ
  | .none => 0
  | .stopCharging => 1
  | .reNegotiation => 2

/-- `DC_EVSEStatusCodeType`. -/
def EvseStatusCode.code : EvseStatusCode → ℤ
  | .ready => 1
  | .malfunction => 6

/-- `isolationLevelType`. -/
def IsolationLevel.code : IsolationLevel → ℤ
  | .invalid => 0
  | .valid => 1
  | .warning => 2
  | .fault => 3
  | .noImd => 4

/-- `paymentOptionType`. -/
def PaymentOption.code : PaymentOption → ℤ
  | .contract => 0
  | .externalPayment => 1

/-- `EVCharging` of `serviceCategoryType`. -/
def evChargingCategory : ℤ := 0

/-! ## Structures -/

/-- The contents of an optional member that the station never fills. -/
abbrev Raw := Counted UInt8

/-- `MessageHeaderType`. -/
structure MessageHeaderType where
  sessionId : Counted UInt8
  notification : Member Raw
  signature : Member Raw
deriving Inhabited

instance : Encoded MessageHeaderType :=
  .through fun h => (h.sessionId, h.notification, h.signature)

/-- `init_iso2_MessageHeaderType`, `init_din_MessageHeaderType`. -/
@[simp]
def MessageHeaderType.init (h : MessageHeaderType) : MessageHeaderType :=
  { h with notification := h.notification.clear, signature := h.signature.clear }

/-- Write the header of a response (`set_header_session`, `set_din_header_session`). -/
def setHeaderSession (h : MessageHeaderType) (sid : Sid) : MessageHeaderType :=
  let h := h.init
  { h with sessionId := h.sessionId.copy sid.val }

@[simp]
theorem agree_setHeaderSession (h h' : MessageHeaderType) (sid : Sid) :
    Agree (setHeaderSession h sid) (setHeaderSession h' sid) := by
  simp [setHeaderSession]

/-- `DC_EVSEStatusType`. -/
structure DcEvseStatusType where
  notificationMaxDelay : ℤ
  evseNotification : ℤ
  evseIsolationStatus : Member ℤ
  evseStatusCode : ℤ
deriving Inhabited

instance : Encoded DcEvseStatusType :=
  .through fun s =>
    (s.notificationMaxDelay, s.evseNotification, s.evseIsolationStatus, s.evseStatusCode)

/-- `init_iso2_DC_EVSEStatusType`, `init_din_DC_EVSEStatusType`. -/
@[simp]
def DcEvseStatusType.init (s : DcEvseStatusType) : DcEvseStatusType :=
  { s with evseIsolationStatus := s.evseIsolationStatus.clear }

/-- Initialise the structure and assign its members. -/
def DcEvseStatusType.assign (s : DcEvseStatusType) (status : DcEvseStatus) : DcEvseStatusType :=
  let s := s.init
  { notificationMaxDelay := status.notificationMaxDelay
    evseNotification := status.evseNotification.code
    evseStatusCode := status.evseStatusCode.code
    evseIsolationStatus :=
      s.evseIsolationStatus.ofOption (status.evseIsolationStatus.map IsolationLevel.code) }

@[simp]
theorem agree_assignDcEvseStatus (s s' : DcEvseStatusType) (status : DcEvseStatus) :
    Agree (s.assign status) (s'.assign status) := by
  simp [DcEvseStatusType.assign]

/-- `set_default_dc_evse_status`, `set_din_default_dc_evse_status`. -/
def setDefaultDcEvseStatus (s : DcEvseStatusType) : DcEvseStatusType :=
  s.assign
    { notificationMaxDelay := 1, evseNotification := .none, evseStatusCode := .ready,
      evseIsolationStatus := some .valid }

@[simp]
theorem agree_setDefaultDcEvseStatus (s s' : DcEvseStatusType) :
    Agree (setDefaultDcEvseStatus s) (setDefaultDcEvseStatus s') :=
  agree_assignDcEvseStatus s s' _

/-- `RelativeTimeIntervalType`. -/
structure RelativeTimeIntervalType where
  start : ℤ
  duration : Member ℤ
deriving Inhabited

instance : Encoded RelativeTimeIntervalType := .through fun i => (i.start, i.duration)

/-- A response that has a response code only: `PaymentServiceSelectionResType`,
`ServicePaymentSelectionResType`, `SessionStopResType`. -/
structure CodeResType where
  responseCode : ℤ
deriving Inhabited

instance : Encoded CodeResType := .through CodeResType.responseCode

/-- `AuthorizationResType`, `ContractAuthenticationResType`. -/
structure AuthorizationResType where
  responseCode : ℤ
  evseProcessing : ℤ
deriving Inhabited

instance : Encoded AuthorizationResType := .through fun r => (r.responseCode, r.evseProcessing)

/-- `ServiceDetailResType`. -/
structure ServiceDetailResType where
  responseCode : ℤ
  serviceId : ℤ
  serviceParameterList : Member Raw
deriving Inhabited

instance : Encoded ServiceDetailResType :=
  .through fun r => (r.responseCode, r.serviceId, r.serviceParameterList)

/-- `init_iso2_ServiceDetailResType`, `init_din_ServiceDetailResType`. -/
@[simp]
def ServiceDetailResType.init (r : ServiceDetailResType) : ServiceDetailResType :=
  { r with serviceParameterList := r.serviceParameterList.clear }

/-- `CableCheckResType`. -/
structure CableCheckResType where
  responseCode : ℤ
  dcEvseStatus : DcEvseStatusType
  evseProcessing : ℤ
deriving Inhabited

instance : Encoded CableCheckResType :=
  .through fun r => (r.responseCode, r.dcEvseStatus, r.evseProcessing)

/-! ## The handshake document -/

namespace AppHand

/-- `appHand_supportedAppProtocolRes`. -/
structure SupportedAppProtocolRes where
  responseCode : ℤ
  schemaId : Member ℤ
deriving Inhabited

instance : Encoded SupportedAppProtocolRes := .through fun r => (r.responseCode, r.schemaId)

/-- `init_appHand_supportedAppProtocolRes`. -/
@[simp]
def SupportedAppProtocolRes.init (r : SupportedAppProtocolRes) : SupportedAppProtocolRes :=
  { r with schemaId := r.schemaId.clear }

/-- `appHand_exiDocument`. -/
structure ExiDocument where
  supportedAppProtocolReq : Member Raw
  supportedAppProtocolRes : Member SupportedAppProtocolRes
deriving Inhabited

instance : Encoded ExiDocument :=
  .through fun d => (d.supportedAppProtocolReq, d.supportedAppProtocolRes)

/-- `init_appHand_exiDocument`. -/
@[simp]
def ExiDocument.init (d : ExiDocument) : ExiDocument :=
  { supportedAppProtocolReq := d.supportedAppProtocolReq.clear
    supportedAppProtocolRes := d.supportedAppProtocolRes.clear }

/-- `jpv2g_cbv2g_encode_sapp_res`, up to the call of the encoder. -/
def encodeSappRes (doc : ExiDocument) (schemaId : UInt8) (code : AppResponseCode) :
    ExiDocument :=
  let doc := doc.init
  let res := doc.supportedAppProtocolRes.value.init
  let res := { res with responseCode := code.code }
  -- a refusal names no schema
  let res :=
    if code ≠ .failedNoNegotiation then { res with schemaId := .store schemaId.toNat } else res
  { doc with supportedAppProtocolRes := .store res }

theorem agree_encodeSappRes (doc doc' : ExiDocument) (schemaId : UInt8) (code : AppResponseCode) :
    Agree (encodeSappRes doc schemaId code) (encodeSappRes doc' schemaId code) := by
  by_cases hcode : code = .failedNoNegotiation
  · simp [encodeSappRes, hcode]
  · simp [encodeSappRes, hcode]

end AppHand

end Jpv2g
