import Jpv2g.Exi.Elements

/-!
# The Messages of ISO 15118-2

The EXI grammar of the messages of ISO 15118-2 (`iso2_msgDefEncoder.c`, `iso2_msgDefDecoder.c`): the
document, the header, the body, and of the bodies those that begin and end a session and those
that prepare the direct current. What else the grammar has is a parameter.

## Main definitions

* `V2gMessage`: a message, with its header and its body.
* `Grammar`: what is left to the rest of the grammar.
* `encodeExiDocument`, `decodeExiDocument`: the entry points of the codec.
-/

namespace Jpv2g

namespace Iso2MsgDef

open ExiBasetypes

/-- `iso2_sessionIDType_BYTES_SIZE`. -/
def sessionIdTypeBytesSize : ℕ := 8

/-- `iso2_evccIDType_BYTES_SIZE`. -/
def evccIdTypeBytesSize : ℕ := 6

/-- `iso2_EVSEID_CHARACTER_SIZE`. -/
def evseIdCharacterSize : ℕ := 38

/-- `iso2_FaultMsg_CHARACTER_SIZE`. -/
def faultMsgCharacterSize : ℕ := 65

/-! ## Messages -/

/-- A physical value (`iso2_PhysicalValueType`). -/
structure PhysicalValueType where
  multiplier : Int8
  /-- The numeric value of the unit. -/
  unit : ℕ
  value : Int16
deriving DecidableEq, Repr

/-- The status of a vehicle (`iso2_DC_EVStatusType`). -/
structure DcEvStatusType where
  evReady : Bool
  evErrorCode : ℕ
  evRessSoc : Int8
deriving DecidableEq, Repr

/-- The status of a station (`iso2_DC_EVSEStatusType`). -/
structure DcEvseStatusType where
  notificationMaxDelay : UInt16
  evseNotification : ℕ
  /-- The isolation status, when it is used. -/
  evseIsolationStatus : Option ℕ
  evseStatusCode : ℕ
deriving DecidableEq, Repr

/-- A notification (`iso2_NotificationType`). -/
structure NotificationType where
  faultCode : ℕ
  faultMsg : Option (List Char)
deriving DecidableEq, Repr

/-- `iso2_SessionSetupResType`. -/
structure SessionSetupResType where
  responseCode : ℕ
  evseId : List Char
  evseTimeStamp : Option Int64
deriving DecidableEq, Repr

/-- `iso2_CableCheckResType`. -/
structure CableCheckResType where
  responseCode : ℕ
  dcEvseStatus : DcEvseStatusType
  evseProcessing : ℕ
deriving DecidableEq, Repr

/-- `iso2_PreChargeReqType`. -/
structure PreChargeReqType where
  dcEvStatus : DcEvStatusType
  evTargetVoltage : PhysicalValueType
  evTargetCurrent : PhysicalValueType
deriving DecidableEq, Repr

/-- `iso2_PreChargeResType` and `iso2_WeldingDetectionResType`, whose members are the same. -/
structure PresentVoltageResType where
  responseCode : ℕ
  dcEvseStatus : DcEvseStatusType
  evsePresentVoltage : PhysicalValueType
deriving DecidableEq, Repr

/-- The body of a message (`iso2_BodyType`). -/
inductive BodyType (β : Type) where
  | cableCheckReq (dcEvStatus : DcEvStatusType)
  | cableCheckRes (res : CableCheckResType)
  | preChargeReq (req : PreChargeReqType)
  | preChargeRes (res : PresentVoltageResType)
  | sessionSetupReq (evccId : List UInt8)
  | sessionSetupRes (res : SessionSetupResType)
  | sessionStopReq (chargingSession : ℕ)
  | sessionStopRes (responseCode : ℕ)
  | weldingDetectionReq (dcEvStatus : DcEvStatusType)
  | weldingDetectionRes (res : PresentVoltageResType)
  /-- A body whose grammar is not given here. -/
  | other (body : β)
deriving DecidableEq, Repr

/-- The header of a message (`iso2_MessageHeaderType`). -/
structure MessageHeaderType (σ : Type) where
  sessionId : List UInt8
  notification : Option NotificationType
  signature : Option σ
deriving DecidableEq, Repr

/-- A message (`iso2_V2G_Message`). -/
structure V2gMessage (σ β : Type) where
  header : MessageHeaderType σ
  body : BodyType β
deriving DecidableEq, Repr

/-- What is left to the rest of the grammar: the signatures of a header, and the bodies that are
not given here, by their event codes. -/
structure Grammar (σ β : Type) where
  encodeSignatureType : σ → Encoder Unit
  decodeSignatureType : Decoder σ
  eventCode : β → ℕ
  encodeBodyElement : β → Encoder Unit
  decodeBodyElement : ℕ → Decoder β

/-! ## Encoding -/

/-- An element of a type that ends its own grammar. -/
def encodeTyped (type : Encoder Unit) : Encoder Unit := do
  encoderNbitUint 1 0
  type

/-- `encode_iso2_PhysicalValueType`. -/
def encodePhysicalValueType (pv : PhysicalValueType) : Encoder Unit := do
  -- the type begins at minus three
  encodeElement (encoderNbitUint 3 (pv.multiplier.toInt32.toUInt32 + 3).toNat)
  encodeElement (encoderNbitUint 3 pv.unit)
  encodeElement (encoderInteger16 pv.value)
  encoderNbitUint 1 0

/-- `encode_iso2_DC_EVStatusType`. -/
def encodeDcEvStatusType (status : DcEvStatusType) : Encoder Unit := do
  encodeElement (encoderBool status.evReady)
  encodeElement (encoderNbitUint 4 status.evErrorCode)
  encodeElement (encoderNbitUint 7 status.evRessSoc.toInt32.toUInt32.toNat)
  encoderNbitUint 1 0

/-- `encode_iso2_DC_EVSEStatusType`. -/
def encodeDcEvseStatusType (status : DcEvseStatusType) : Encoder Unit := do
  encodeElement (encoderUint16 status.notificationMaxDelay)
  encodeElement (encoderNbitUint 2 status.evseNotification)
  match status.evseIsolationStatus with
  | some isolation => do
    encoderNbitUint 2 0
    encodeExiType (encoderNbitUint 3 isolation)
    encodeElement (encoderNbitUint 4 status.evseStatusCode)
    encoderNbitUint 1 0
  | none => do
    encoderNbitUint 2 1
    encodeExiType (encoderNbitUint 4 status.evseStatusCode)
    encoderNbitUint 1 0

/-- `encode_iso2_NotificationType`. -/
def encodeNotificationType (notification : NotificationType) : Encoder Unit := do
  encodeElement (encoderNbitUint 2 notification.faultCode)
  match notification.faultMsg with
  | some faultMsg => do
    encoderNbitUint 2 0
    encodeExiType (encodeString faultMsg faultMsgCharacterSize)
    encoderNbitUint 1 0
  | none => encoderNbitUint 2 1

/-- `encode_iso2_SessionSetupReqType`. -/
def encodeSessionSetupReqType (evccId : List UInt8) : Encoder Unit := do
  encodeElement (encodeHexBinary evccId evccIdTypeBytesSize)
  encoderNbitUint 1 0

/-- `encode_iso2_SessionSetupResType`. -/
def encodeSessionSetupResType (res : SessionSetupResType) : Encoder Unit := do
  encodeElement (encoderNbitUint 5 res.responseCode)
  encodeElement (encodeString res.evseId evseIdCharacterSize)
  match res.evseTimeStamp with
  | some evseTimeStamp => do
    encoderNbitUint 2 0
    encodeExiType (encoderInteger64 evseTimeStamp)
    encoderNbitUint 1 0
  | none => encoderNbitUint 2 1

/-- `encode_iso2_SessionStopReqType`. -/
def encodeSessionStopReqType (chargingSession : ℕ) : Encoder Unit := do
  encodeElement (encoderNbitUint 1 chargingSession)
  encoderNbitUint 1 0

/-- `encode_iso2_SessionStopResType`. -/
def encodeSessionStopResType (responseCode : ℕ) : Encoder Unit := do
  encodeElement (encoderNbitUint 5 responseCode)
  encoderNbitUint 1 0

/-- `encode_iso2_CableCheckReqType` and `encode_iso2_WeldingDetectionReqType`. -/
def encodeDcEvStatusReqType (dcEvStatus : DcEvStatusType) : Encoder Unit := do
  encodeTyped (encodeDcEvStatusType dcEvStatus)
  encoderNbitUint 1 0

/-- `encode_iso2_CableCheckResType`. -/
def encodeCableCheckResType (res : CableCheckResType) : Encoder Unit := do
  encodeElement (encoderNbitUint 5 res.responseCode)
  encodeTyped (encodeDcEvseStatusType res.dcEvseStatus)
  encodeElement (encoderNbitUint 2 res.evseProcessing)
  encoderNbitUint 1 0

/-- `encode_iso2_PreChargeReqType`. -/
def encodePreChargeReqType (req : PreChargeReqType) : Encoder Unit := do
  encodeTyped (encodeDcEvStatusType req.dcEvStatus)
  encodeTyped (encodePhysicalValueType req.evTargetVoltage)
  encodeTyped (encodePhysicalValueType req.evTargetCurrent)
  encoderNbitUint 1 0

/-- `encode_iso2_PreChargeResType` and `encode_iso2_WeldingDetectionResType`. -/
def encodePresentVoltageResType (res : PresentVoltageResType) : Encoder Unit := do
  encodeElement (encoderNbitUint 5 res.responseCode)
  encodeTyped (encodeDcEvseStatusType res.dcEvseStatus)
  encodeTyped (encodePhysicalValueType res.evsePresentVoltage)
  encoderNbitUint 1 0

section Parameter

variable {σ β : Type} (grammar : Grammar σ β)

/-- `encode_iso2_MessageHeaderType`. -/
def encodeMessageHeaderType (header : MessageHeaderType σ) : Encoder Unit := do
  encodeElement (encodeHexBinary header.sessionId sessionIdTypeBytesSize)
  match header.notification, header.signature with
  | some notification, some signature => do
    encoderNbitUint 2 0
    encodeNotificationType notification
    encoderNbitUint 2 0
    grammar.encodeSignatureType signature
    encoderNbitUint 1 0
  | some notification, none => do
    encoderNbitUint 2 0
    encodeNotificationType notification
    encoderNbitUint 2 1
  | none, some signature => do
    encoderNbitUint 2 1
    grammar.encodeSignatureType signature
    encoderNbitUint 1 0
  | none, none => encoderNbitUint 2 2

/-- The event code of a body element. -/
def BodyType.eventCode : BodyType β → ℕ
  | .cableCheckReq _ => 3
  | .cableCheckRes _ => 4
  | .preChargeReq _ => 23
  | .preChargeRes _ => 24
  | .sessionSetupReq _ => 29
  | .sessionSetupRes _ => 30
  | .sessionStopReq _ => 31
  | .sessionStopRes _ => 32
  | .weldingDetectionReq _ => 33
  | .weldingDetectionRes _ => 34
  | .other body => grammar.eventCode body

/-- The element of a body. -/
def encodeBodyElement : BodyType β → Encoder Unit
  | .cableCheckReq dcEvStatus => encodeDcEvStatusReqType dcEvStatus
  | .cableCheckRes res => encodeCableCheckResType res
  | .preChargeReq req => encodePreChargeReqType req
  | .preChargeRes res => encodePresentVoltageResType res
  | .sessionSetupReq evccId => encodeSessionSetupReqType evccId
  | .sessionSetupRes res => encodeSessionSetupResType res
  | .sessionStopReq chargingSession => encodeSessionStopReqType chargingSession
  | .sessionStopRes responseCode => encodeSessionStopResType responseCode
  | .weldingDetectionReq dcEvStatus => encodeDcEvStatusReqType dcEvStatus
  | .weldingDetectionRes res => encodePresentVoltageResType res
  | .other body => grammar.encodeBodyElement body

/-- `encode_iso2_BodyType`. -/
def encodeBodyType (body : BodyType β) : Encoder Unit := do
  encoderNbitUint 6 (body.eventCode grammar)
  encodeBodyElement grammar body
  encoderNbitUint 1 0

/-- `encode_iso2_V2G_Message`. -/
def encodeV2gMessage (msg : V2gMessage σ β) : Encoder Unit := do
  encodeTyped (encodeMessageHeaderType grammar msg.header)
  encodeTyped (encodeBodyType grammar msg.body)
  encoderNbitUint 1 0

/-- `encode_iso2_exiDocument`. -/
def encodeExiDocument (msg : V2gMessage σ β) : Encoder Unit := do
  exiHeaderWrite
  encoderNbitUint 7 76
  encodeV2gMessage grammar msg

end Parameter

/-! ## Decoding -/

/-- An element of a type that ends its own grammar. -/
def decodeTyped {α : Type} (type : Decoder α) : Decoder α := do
  decoderEvent 1 .unknownEventCode
  type

/-- `decode_iso2_PhysicalValueType`. -/
def decodePhysicalValueType : Decoder PhysicalValueType := do
  let multiplier ← decodeElement do
    let value ← decoderNbitUint 3
    -- the type begins at minus three
    return (UInt32.ofNat value - 3).toInt32.toInt8
  let unit ← decodeElement (decoderNbitUint 3)
  let value ← decodeElement decoderInteger16
  decoderEvent 1 .unknownEventCode
  return { multiplier, unit, value }

/-- `decode_iso2_DC_EVStatusType`. -/
def decodeDcEvStatusType : Decoder DcEvStatusType := do
  let evReady ← decodeElement decoderBool
  let evErrorCode ← decodeElement (decoderNbitUint 4)
  let evRessSoc ← decodeElement do
    let value ← decoderNbitUint 7
    return Int8.ofNat value
  decoderEvent 1 .unknownEventCode
  return { evReady, evErrorCode, evRessSoc }

/-- `decode_iso2_DC_EVSEStatusType`. -/
def decodeDcEvseStatusType : Decoder DcEvseStatusType := do
  let notificationMaxDelay ← decodeElement decoderUint16
  let evseNotification ← decodeElement (decoderNbitUint 2)
  let eventCode ← decoderNbitUint 2
  match eventCode with
  | 0 => do
    let isolation ← decodeExiType (decoderNbitUint 3)
    let evseStatusCode ← decodeElement (decoderNbitUint 4)
    decoderEvent 1 .unknownEventCode
    return {
      notificationMaxDelay, evseNotification, evseIsolationStatus := some isolation,
      evseStatusCode }
  | 1 => do
    let evseStatusCode ← decodeExiType (decoderNbitUint 4)
    decoderEvent 1 .unknownEventCode
    return { notificationMaxDelay, evseNotification, evseIsolationStatus := none, evseStatusCode }
  | _ => .fail .unknownEventCode

/-- `decode_iso2_NotificationType`. -/
def decodeNotificationType : Decoder NotificationType := do
  let faultCode ← decodeElement (decoderNbitUint 2)
  let eventCode ← decoderNbitUint 2
  match eventCode with
  | 0 => do
    let faultMsg ← decodeExiType (decodeString faultMsgCharacterSize)
    decoderEvent 1 .unknownEventCode
    return { faultCode, faultMsg := some faultMsg }
  | 1 => return { faultCode, faultMsg := none }
  | _ => .fail .unknownEventCode

/-- `decode_iso2_SessionSetupReqType`. -/
def decodeSessionSetupReqType : Decoder (List UInt8) := do
  let evccId ← decodeTyped (decodeExiTypeHexBinary evccIdTypeBytesSize)
  decoderEvent 1 .unknownEventCode
  return evccId

/-- `decode_iso2_SessionSetupResType`. -/
def decodeSessionSetupResType : Decoder SessionSetupResType := do
  let responseCode ← decodeElement (decoderNbitUint 5)
  let evseId ← decodeElement (decodeString evseIdCharacterSize)
  let eventCode ← decoderNbitUint 2
  match eventCode with
  | 0 => do
    let evseTimeStamp ← decodeExiType decoderInteger64
    decoderEvent 1 .unknownEventCode
    return { responseCode, evseId, evseTimeStamp := some evseTimeStamp }
  | 1 => return { responseCode, evseId, evseTimeStamp := none }
  | _ => .fail .unknownEventCode

/-- `decode_iso2_SessionStopReqType`. -/
def decodeSessionStopReqType : Decoder ℕ := do
  let chargingSession ← decodeElement (decoderNbitUint 1)
  decoderEvent 1 .unknownEventCode
  return chargingSession

/-- `decode_iso2_SessionStopResType`. -/
def decodeSessionStopResType : Decoder ℕ := do
  let responseCode ← decodeElement (decoderNbitUint 5)
  decoderEvent 1 .unknownEventCode
  return responseCode

/-- `decode_iso2_CableCheckReqType` and `decode_iso2_WeldingDetectionReqType`. -/
def decodeDcEvStatusReqType : Decoder DcEvStatusType := do
  let dcEvStatus ← decodeTyped decodeDcEvStatusType
  decoderEvent 1 .unknownEventCode
  return dcEvStatus

/-- `decode_iso2_CableCheckResType`. -/
def decodeCableCheckResType : Decoder CableCheckResType := do
  let responseCode ← decodeElement (decoderNbitUint 5)
  let dcEvseStatus ← decodeTyped decodeDcEvseStatusType
  let evseProcessing ← decodeElement (decoderNbitUint 2)
  decoderEvent 1 .unknownEventCode
  return { responseCode, dcEvseStatus, evseProcessing }

/-- `decode_iso2_PreChargeReqType`. -/
def decodePreChargeReqType : Decoder PreChargeReqType := do
  let dcEvStatus ← decodeTyped decodeDcEvStatusType
  let evTargetVoltage ← decodeTyped decodePhysicalValueType
  let evTargetCurrent ← decodeTyped decodePhysicalValueType
  decoderEvent 1 .unknownEventCode
  return { dcEvStatus, evTargetVoltage, evTargetCurrent }

/-- `decode_iso2_PreChargeResType` and `decode_iso2_WeldingDetectionResType`. -/
def decodePresentVoltageResType : Decoder PresentVoltageResType := do
  let responseCode ← decodeElement (decoderNbitUint 5)
  let dcEvseStatus ← decodeTyped decodeDcEvseStatusType
  let evsePresentVoltage ← decodeTyped decodePhysicalValueType
  decoderEvent 1 .unknownEventCode
  return { responseCode, dcEvseStatus, evsePresentVoltage }

section Parameter

variable {σ β : Type} (grammar : Grammar σ β)

/-- `decode_iso2_MessageHeaderType`. -/
def decodeMessageHeaderType : Decoder (MessageHeaderType σ) := do
  let sessionId ← decodeTyped (decodeExiTypeHexBinary sessionIdTypeBytesSize)
  let eventCode ← decoderNbitUint 2
  match eventCode with
  | 0 => do
    let notification ← decodeNotificationType
    let eventCode ← decoderNbitUint 2
    match eventCode with
    | 0 => do
      let signature ← grammar.decodeSignatureType
      decoderEvent 1 .unknownEventCode
      return { sessionId, notification := some notification, signature := some signature }
    | 1 => return { sessionId, notification := some notification, signature := none }
    | _ => .fail .unknownEventCode
  | 1 => do
    let signature ← grammar.decodeSignatureType
    decoderEvent 1 .unknownEventCode
    return { sessionId, notification := none, signature := some signature }
  | 2 => return { sessionId, notification := none, signature := none }
  | _ => .fail .unknownEventCode

/-- The element of a body with an event code. -/
def decodeBodyElement (eventCode : ℕ) : Decoder (BodyType β) :=
  match eventCode with
  | 3 => .cableCheckReq <$> decodeDcEvStatusReqType
  | 4 => .cableCheckRes <$> decodeCableCheckResType
  | 23 => .preChargeReq <$> decodePreChargeReqType
  | 24 => .preChargeRes <$> decodePresentVoltageResType
  | 29 => .sessionSetupReq <$> decodeSessionSetupReqType
  | 30 => .sessionSetupRes <$> decodeSessionSetupResType
  | 31 => .sessionStopReq <$> decodeSessionStopReqType
  | 32 => .sessionStopRes <$> decodeSessionStopResType
  | 33 => .weldingDetectionReq <$> decodeDcEvStatusReqType
  | 34 => .weldingDetectionRes <$> decodePresentVoltageResType
  | eventCode =>
    if eventCode < 35 then .other <$> grammar.decodeBodyElement eventCode
    else .fail .unknownEventCode

/-- `decode_iso2_BodyType`. -/
def decodeBodyType : Decoder (BodyType β) := do
  let eventCode ← decoderNbitUint 6
  let body ← decodeBodyElement grammar eventCode
  decoderEvent 1 .unknownEventCode
  return body

/-- `decode_iso2_V2G_Message`. -/
def decodeV2gMessage : Decoder (V2gMessage σ β) := do
  let header ← decodeTyped (decodeMessageHeaderType grammar)
  let body ← decodeTyped (decodeBodyType grammar)
  decoderEvent 1 .unknownEventCode
  return { header, body }

/-- `decode_iso2_exiDocument`. -/
def decodeExiDocument : Decoder (V2gMessage σ β) := do
  exiHeaderReadAndCheck
  let eventCode ← decoderNbitUint 7
  if eventCode = 0 ∨ eventCode = 76 then decodeV2gMessage grammar
  else .fail .unsupportedSubEvent

end Parameter

end Iso2MsgDef

end Jpv2g
