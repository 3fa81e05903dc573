import Jpv2g.Exi.Elements
import Jpv2g.Messages

/-!
# The Documents of the Protocol Handshake

The EXI grammar of the supportedAppProtocol handshake (`appHand_Encoder.c`, `appHand_Decoder.c`).
The grammars of a document are straight lines but for the array of offers and the
optional SchemaID.

## Main definitions

* `AppHandExiDocument`: a document (`appHand_exiDocument`).
* `encodeAppHandExiDocument`, `decodeAppHandExiDocument`: the entry points of the codec.
-/

namespace Jpv2g

open ExiBasetypes

/-- `appHand_ProtocolNamespace_CHARACTER_SIZE`. -/
def protocolNamespaceCharacterSize : ℕ := 100

/-- `appHand_AppProtocolType_20_ARRAY_SIZE`. -/
def appProtocolArraySize : ℕ := 20

/-- A supportedAppProtocolRes (`appHand_supportedAppProtocolRes`). -/
structure SupportedAppProtocolRes where
  /-- The numeric value of the response code. -/
  responseCode : ℕ
  /-- The schema identifier, when it is used. -/
  schemaId : Option UInt8
deriving DecidableEq, Repr

/-- A document of the handshake (`appHand_exiDocument`). -/
inductive AppHandExiDocument where
  | supportedAppProtocolReq (offers : List AppProtocol)
  | supportedAppProtocolRes (res : SupportedAppProtocolRes)
deriving DecidableEq, Repr

/-! ## Encoding -/

/-- `encode_appHand_AppProtocolType`. -/
def encodeAppProtocolType (ap : AppProtocol) : Encoder Unit := do
  encodeElement (encodeString ap.protocolNamespace protocolNamespaceCharacterSize)
  encodeElement (encoderUint32 ap.versionNumberMajor)
  encodeElement (encoderUint32 ap.versionNumberMinor)
  encodeElement (encoderNbitUint 8 ap.schemaId.toNat)
  encodeElement (encoderNbitUint 5 (ap.priority.toUInt32 - 1).toNat)
  encoderNbitUint 1 0

/-- The offers from the second one on, and the end of the array. -/
def encodeOffers : List AppProtocol → Encoder Unit
  | [] => encoderNbitUint 2 1
  | ap :: offers => do
    encoderNbitUint 2 0
    encodeAppProtocolType ap
    encodeOffers offers

/-- `encode_appHand_supportedAppProtocolReq`. -/
def encodeSupportedAppProtocolReq (offers : List AppProtocol) : Encoder Unit :=
  if offers.length = 0 ∨ appProtocolArraySize < offers.length then .fail .arrayOutOfBounds
  else
    match offers with
    | [] => .fail .unknownEventCode
    | ap :: offers => do
      encoderNbitUint 1 0
      encodeAppProtocolType ap
      encodeOffers offers

/-- `encode_appHand_supportedAppProtocolRes`. -/
def encodeSupportedAppProtocolRes (res : SupportedAppProtocolRes) : Encoder Unit := do
  encodeElement (encoderNbitUint 2 res.responseCode)
  match res.schemaId with
  | some schemaId => do
    encoderNbitUint 2 0
    encodeExiType (encoderNbitUint 8 schemaId.toNat)
    encoderNbitUint 1 0
  | none => encoderNbitUint 2 1

/-- `encode_appHand_exiDocument`. -/
def encodeAppHandExiDocument (doc : AppHandExiDocument) : Encoder Unit := do
  exiHeaderWrite
  match doc with
  | .supportedAppProtocolReq offers => do
    encoderNbitUint 2 0
    encodeSupportedAppProtocolReq offers
  | .supportedAppProtocolRes res => do
    encoderNbitUint 2 1
    encodeSupportedAppProtocolRes res

/-! ## Decoding -/

/-- `decode_appHand_AppProtocolType`. -/
def decodeAppProtocolType : Decoder AppProtocol := do
  let protocolNamespace ← decodeElement (decodeString protocolNamespaceCharacterSize)
  let versionNumberMajor ← decodeElement decoderUint32
  let versionNumberMinor ← decodeElement decoderUint32
  let schemaId ← decodeElement (decoderNbitUint 8)
  let priority ← decodeElement (decoderNbitUint 5)
  decoderEvent 1 .unknownEventCode
  return {
    protocolNamespace
    versionNumberMajor
    versionNumberMinor
    schemaId := UInt8.ofNat schemaId
    -- the type begins at one
    priority := UInt8.ofNat (priority + 1) }

/-- The offers from the second one on, with room for `room` more, and the end of the array. -/
def decodeOffers : ℕ → Decoder (List AppProtocol)
  -- a full array leaves its loop for a grammar of one bit
  | 0 => do
    decoderEvent 1 .unknownEventCode
    return []
  | room + 1 => do
    let eventCode ← decoderNbitUint 2
    match eventCode with
    | 0 => do
      let ap ← decodeAppProtocolType
      let offers ← decodeOffers room
      return ap :: offers
    | 1 => return []
    | _ => .fail .unknownEventCode

/-- `decode_appHand_supportedAppProtocolReq`. -/
def decodeSupportedAppProtocolReq : Decoder (List AppProtocol) := do
  decoderEvent 1 .unknownEventCode
  let ap ← decodeAppProtocolType
  let offers ← decodeOffers (appProtocolArraySize - 1)
  return ap :: offers

/-- `decode_appHand_supportedAppProtocolRes`. -/
def decodeSupportedAppProtocolRes : Decoder SupportedAppProtocolRes := do
  let responseCode ← decodeElement (decoderNbitUint 2)
  let eventCode ← decoderNbitUint 2
  match eventCode with
  | 0 => do
    let schemaId ← decodeExiType (decoderNbitUint 8)
    decoderEvent 1 .unknownEventCode
    return { responseCode, schemaId := some (UInt8.ofNat schemaId) }
  | 1 => return { responseCode, schemaId := none }
  | _ => .fail .unknownEventCode

/-- `decode_appHand_exiDocument`. -/
def decodeAppHandExiDocument : Decoder AppHandExiDocument := do
  exiHeaderReadAndCheck
  let eventCode ← decoderNbitUint 2
  match eventCode with
  | 0 => do
    let offers ← decodeSupportedAppProtocolReq
    return .supportedAppProtocolReq offers
  | 1 => do
    let res ← decodeSupportedAppProtocolRes
    return .supportedAppProtocolRes res
  | _ => .fail .unsupportedSubEvent

end Jpv2g
