import Jpv2g.Cbv2g.AppHand
import Jpv2g.Cbv2g.Iso2
import Jpv2g.Iso2MsgDef.RoundTrip

/-!
# The Session Setup Calls of the Codec

What `cbv2g_codec.c` makes of the messages that set up an ISO 15118-2 session: the request of a
vehicle, the response of a station, and how either side reads what it has received.

## Main definitions

* `encodeSessionSetupReq`, `decodeIso2Req`: the request.
* `encodeSessionSetupRes`, `decodeSessionSetupRes`: the response.

## Main results

* `Iso2.ExiDocument.contents_encodeSessionSetupRes`: the message encoded is the one that the members
  of the workspace describe.
* `decodeIso2Req_packBits`, `decodeSessionSetupRes_packBits`: what was sent is read.
* `decodeSappReq_packBits_iso2`: no message is taken for offers.
* `codecCalls_read`: all four calls.
-/

namespace Jpv2g

open Iso2MsgDef

/-- What an array for a SessionID holds when the bytes have been written to its front. -/
def Sid.overwrite (left : Sid) (bytes : List UInt8) : Sid :=
  ⟨(bytes ++ left.1.drop bytes.length).take 8, by
    have hleft := left.2
    simp only [List.length_take, List.length_append, List.length_drop]
    omega⟩

/-- Eight bytes leave nothing of what was there. -/
@[simp]
theorem Sid.overwrite_val (left sid : Sid) : left.overwrite sid.1 = sid := by
  have hdrop : left.1.drop sid.1.length = [] := List.drop_eq_nil_of_le (by rw [left.2, sid.2])
  have htake : (sid.1 ++ left.1.drop sid.1.length).take 8 = sid.1 := by
    rw [hdrop, List.append_nil]
    exact List.take_of_length_le sid.2.le
  exact Subtype.ext htake

/-! ## Requests -/

/-- A unit by its numeric value. -/
def unitSymbol : ℕ → UnitSymbol
  | 0 => .h
  | 1 => .m
  | 2 => .s
  | 3 => .ampere
  | 4 => .volt
  | 5 => .watt
  | 6 => .wattHour
  | value => .other value

/-- The physical value that the members describe. -/
def Iso2MsgDef.PhysicalValueType.contents (pv : Iso2MsgDef.PhysicalValueType) : PhysicalValue :=
  { multiplier := pv.multiplier, unit := some (unitSymbol pv.unit), value := pv.value }

/-- The request that the station finds in a body (`jpv2g_secc_handle_stream_obs`); `read` is what it
finds in a body whose grammar is not given. -/
def Iso2MsgDef.BodyType.request {β : Type} (read : β → Iso2Body) : Iso2MsgDef.BodyType β → Iso2Body
  | .cableCheckReq _ => .cableCheckReq
  | .preChargeReq req => .preChargeReq req.evTargetVoltage.contents
  | .sessionSetupReq _ => .sessionSetupReq
  | .sessionStopReq chargingSession =>
    .sessionStopReq (if chargingSession = 1 then .pause else .terminate)
  | .weldingDetectionReq _ => .weldingDetectionReq
  | .cableCheckRes _ | .preChargeRes _ | .sessionSetupRes _ | .sessionStopRes _
  | .weldingDetectionRes _ => .other
  | .other body => read body

section Messages

variable {σ β : Type}

/-- The message of a vehicle that asks for a new session. -/
def sessionSetupReqMessage (evccId : List UInt8) : V2gMessage σ β :=
  { header := { sessionId := [], notification := none, signature := none }
    body := .sessionSetupReq evccId }

/-- The message of a response, the identifier of the station cut to the characters that the decoder
has room for. -/
def sessionSetupResMessage (sid : Sid) (evseId : List Char) (code : ResponseCode) :
    V2gMessage σ β :=
  { header := { sessionId := sid.1, notification := none, signature := none }
    body := .sessionSetupRes
      { responseCode := code.code.toNat
        evseId := evseId.take (evseIdCharacterSize - 1)
        evseTimeStamp := none } }

variable (grammar : Grammar σ β)

/-- `jpv2g_cbv2g_encode_session_setup_req`, for the six bytes of the EVCCID. -/
def encodeSessionSetupReq (evccId : { bytes : List UInt8 // bytes.length = evccIdTypeBytesSize })
    (memory : ℕ → UInt8) (outLen : ℕ) : Except Errno (List UInt8) :=
  exiEncode (encodeExiDocument grammar (sessionSetupReqMessage evccId.1)) memory outLen

/-- A received message, when the payload decodes to one (the second decoder of
`jpv2g_secc_handle_stream_obs`). -/
def decodeIso2Req (read : β → Iso2Body) (stale : UInt8) (payload : List UInt8) :
    Option (V2gDoc Iso2Body) :=
  match exiDecode (decodeExiDocument grammar) payload stale with
  | .ok msg => some { sessionId := msg.header.sessionId, body := msg.body.request read }
  | .error _ => none

/-- `jpv2g_cbv2g_encode_session_setup_res`. -/
def encodeSessionSetupRes (sid : Sid) (evseId : List Char) (code : ResponseCode)
    (memory : ℕ → UInt8) (outLen : ℕ) : Except Errno (List UInt8) :=
  exiEncode (encodeExiDocument grammar (sessionSetupResMessage sid evseId code)) memory outLen

/-- `jpv2g_cbv2g_decode_session_setup_res`, with all eight bytes of the array that holds the
SessionID; `left` is what the workspace had there. There is no payload behind the null pointer. -/
def decodeSessionSetupRes (left : Sid) (stale : UInt8) (payload : Option (List UInt8)) :
    Except Errno (SessionSetupResType × Sid) :=
  match payload with
  | none => .error .einval
  | some bytes =>
    match exiDecode (decodeExiDocument grammar) bytes stale with
    | .error _ => .error .eio
    | .ok msg =>
      match msg.body with
      | .sessionSetupRes res => .ok (res, left.overwrite msg.header.sessionId)
      | _ => .error .ebadmsg

/-- The message that the members of the structure describe, when the first element in use is a
SessionSetupRes. -/
def Iso2.ExiDocument.contents (doc : Iso2.ExiDocument) : Option (V2gMessage σ β) :=
  let body := doc.body
  if body.authorizationRes.isUsed || body.cableCheckRes.isUsed ||
      body.chargeParameterDiscoveryRes.isUsed || body.chargingStatusRes.isUsed ||
      body.currentDemandRes.isUsed || body.meteringReceiptRes.isUsed ||
      body.paymentDetailsRes.isUsed || body.paymentServiceSelectionRes.isUsed ||
      body.powerDeliveryRes.isUsed || body.preChargeRes.isUsed ||
      body.serviceDetailRes.isUsed || body.serviceDiscoveryRes.isUsed then none
  else if doc.header.notification.isUsed || doc.header.signature.isUsed then none
  else if body.sessionSetupRes.isUsed then
    let res := body.sessionSetupRes.value
    some
      { header :=
          { sessionId := doc.header.sessionId.toList, notification := none, signature := none }
        body := .sessionSetupRes
          { responseCode := res.responseCode.toNat
            evseId := res.evseId.toList
            evseTimeStamp :=
              if res.evseTimeStamp.isUsed then some (Int64.ofInt res.evseTimeStamp.value)
              else none } }
  else none

/-- Whatever the workspace held before, its members describe the message of the response. -/
theorem Iso2.ExiDocument.contents_encodeSessionSetupRes (doc : Iso2.ExiDocument) (sid : Sid)
    (code : ResponseCode) (evseId : List Char) :
    (Iso2.encodeSessionSetupRes doc sid code evseId).contents =
      some (sessionSetupResMessage sid evseId code : V2gMessage σ β) := by
  simp [Iso2.encodeSessionSetupRes, contents, sessionSetupResMessage, setHeaderSession,
    evseIdCharacterSize, CStruct.Member.store, CStruct.Member.clear]

/-! ## What was sent is read -/

/-- A header with a SessionID and nothing else. -/
theorem header_fits {bytes : List UInt8} (h : bytes.length ≤ sessionIdTypeBytesSize) :
    (⟨bytes, none, none⟩ : Iso2MsgDef.MessageHeaderType σ).Fits :=
  ⟨h, fun notification hmem => absurd hmem (Option.not_mem_none notification), rfl⟩

theorem sessionSetupReqMessage_fits {evccId : List UInt8}
    (h : evccId.length ≤ evccIdTypeBytesSize) :
    (sessionSetupReqMessage evccId : V2gMessage σ β).Fits :=
  ⟨header_fits (Nat.zero_le _), h⟩

/-- Five bits hold every response code. -/
theorem responseCode_toNat_lt (code : ResponseCode) : code.code.toNat < 32 := by
  cases code <;> decide

theorem sessionSetupResMessage_fits (sid : Sid) {evseId : List Char}
    (hascii : ExiBasetypes.Ascii evseId) (code : ResponseCode) :
    (sessionSetupResMessage sid evseId code : V2gMessage σ β).Fits := by
  refine ⟨header_fits sid.2.le, responseCode_toNat_lt code, ?_,
    fun c hc => hascii c (List.mem_of_mem_take hc)⟩
  rw [List.length_take, evseIdCharacterSize]
  omega

/-- A message that fits is encoded into every buffer the stack uses. -/
theorem exiEncode_message_of_room {msg : V2gMessage σ β} (h : msg.Fits) (memory : ℕ → UInt8)
    {outLen : ℕ} (hroom : 135 ≤ outLen) :
    exiEncode (encodeExiDocument grammar msg) memory outLen =
      .ok (packBits (msg.form grammar)) := by
  have hlength := h.form_length_le grammar
  rw [exiEncode_message grammar h, if_pos (by omega)]

/-- A message that fits takes 1 to 136 bytes. -/
theorem packBits_message_length {msg : V2gMessage σ β} (h : msg.Fits) :
    packBits (msg.form grammar) ≠ [] ∧ (packBits (msg.form grammar)).length ≤ 136 := by
  have hlength := h.form_length_le grammar
  have hpos : 0 < (msg.form grammar).length := by simp [V2gMessage.form]
  rw [← List.length_pos_iff, packBits_length]
  omega

/-- The request of a vehicle that asks for a new session fits into every buffer the stack uses. -/
theorem encodeSessionSetupReq_eq
    (evccId : { bytes : List UInt8 // bytes.length = evccIdTypeBytesSize }) (memory : ℕ → UInt8)
    {outLen : ℕ} (hroom : 135 ≤ outLen) :
    encodeSessionSetupReq grammar evccId memory outLen =
      .ok (packBits ((sessionSetupReqMessage evccId.1).form grammar)) :=
  exiEncode_message_of_room grammar (sessionSetupReqMessage_fits evccId.2.le) memory hroom

/-- The response of a station fits into every buffer the stack uses. -/
theorem encodeSessionSetupRes_eq (sid : Sid) {evseId : List Char}
    (hascii : ExiBasetypes.Ascii evseId) (code : ResponseCode) (memory : ℕ → UInt8) {outLen : ℕ}
    (hroom : 135 ≤ outLen) :
    encodeSessionSetupRes grammar sid evseId code memory outLen =
      .ok (packBits ((sessionSetupResMessage sid evseId code).form grammar)) :=
  exiEncode_message_of_room grammar (sessionSetupResMessage_fits sid hascii code) memory hroom

/-- The message that a vehicle has sent is read by the station. -/
theorem decodeIso2Req_packBits (read : β → Iso2Body) {msg : V2gMessage σ β} (h : msg.Fits)
    (stale : UInt8) :
    decodeIso2Req grammar read stale (packBits (msg.form grammar)) =
      some { sessionId := msg.header.sessionId, body := msg.body.request read } := by
  have hread := exiDecode_message grammar h [] stale
  rw [List.append_nil] at hread
  rw [decodeIso2Req, hread]

/-- The response that a station has sent is read by the vehicle, with its SessionID. -/
theorem decodeSessionSetupRes_packBits (left sid : Sid) {evseId : List Char}
    (hascii : ExiBasetypes.Ascii evseId) (code : ResponseCode) (stale : UInt8) :
    decodeSessionSetupRes grammar left stale
        (some (packBits ((sessionSetupResMessage sid evseId code).form grammar))) =
      .ok ({ responseCode := code.code.toNat
             evseId := evseId.take (evseIdCharacterSize - 1)
             evseTimeStamp := none }, sid) := by
  have hread := exiDecode_message grammar (sessionSetupResMessage_fits sid hascii code) [] stale
  rw [List.append_nil] at hread
  rw [decodeSessionSetupRes, hread]
  simp [sessionSetupResMessage]

/-- The event code of a message is that of no handshake document. -/
theorem decodeSappReq_packBits_iso2 (msg : V2gMessage σ β) (stale : UInt8) :
    decodeSappReq stale (packBits (msg.form grammar)) = none := by
  have hcode : bitsOf 7 76 = bitsOf 2 2 ++ bitsOf 5 12 := by decide
  have hahead : bitsOf 8 exiSimpleHeaderValue ++ (bitsOf 2 2 ++ []) <+:
      bytesBits (packBits (msg.form grammar) ++ [stale]) := by
    rw [bytesBits_append, bytesBits_packBits, V2gMessage.form, hcode, List.append_nil]
    simp only [List.append_assoc]
    rw [List.prefix_append_right_inj]
    exact List.prefix_append _ _
  rw [decodeSappReq, exiDecode_of_refuses decodeAppHandExiDocument_refuses hahead]

/-- **What the calls of the codec make is read.** Whatever the workspaces and the buffers held
before, a buffer of 135 bytes is large enough for each of the four calls, and the other side's call
reads what was meant: the offer of a vehicle, with its namespace cut to the characters that the
decoder has room for and its priority to five bits; the selection of a station, with a SchemaID
unless it failed; the vehicle's request for a new session, which no decoder that is tried before
takes for offers; and the station's response to it, with the SessionID of its header. -/
theorem codecCalls_read {ns evseId : List Char} (hns : ExiBasetypes.Ascii ns)
    (hevseId : ExiBasetypes.Ascii evseId) (verMajor verMinor : UInt32) (schemaId priority : UInt8)
    (appCode : AppResponseCode)
    (evccId : { bytes : List UInt8 // bytes.length = evccIdTypeBytesSize })
    (sid left : Sid) (code : ResponseCode) (read : β → Iso2Body) (memory : ℕ → UInt8)
    {outLen : ℕ} (hroom : 135 ≤ outLen) (stale : UInt8) :
    (∃ payload, encodeSappReq ns verMajor verMinor schemaId priority memory outLen = .ok payload ∧
      decodeSappReq stale payload =
        some [AppProtocol.onWire
          { protocolNamespace := ns.take (protocolNamespaceCharacterSize - 1)
            versionNumberMajor := verMajor
            versionNumberMinor := verMinor
            schemaId
            priority }]) ∧
    (∃ payload, encodeSappRes schemaId appCode memory outLen = .ok payload ∧
      decodeSappRes stale (some payload) =
        .ok { responseCode := appCode.code.toNat
              schemaId := if appCode ≠ .failedNoNegotiation then some schemaId else none }) ∧
    (∃ payload, encodeSessionSetupReq grammar evccId memory outLen = .ok payload ∧
      decodeSappReq stale payload = none ∧
      decodeIso2Req grammar read stale payload =
        some { sessionId := [], body := .sessionSetupReq }) ∧
    ∃ payload, encodeSessionSetupRes grammar sid evseId code memory outLen = .ok payload ∧
      decodeSessionSetupRes grammar left stale (some payload) =
        .ok ({ responseCode := code.code.toNat
               evseId := evseId.take (evseIdCharacterSize - 1)
               evseTimeStamp := none }, sid) := by
  refine ⟨?_, ?_, ?_, ?_⟩
  · exact decodeSappReq_encodeSappReq hns verMajor verMinor schemaId priority memory (by omega)
      stale
  · exact ⟨_, encodeSappRes_eq schemaId appCode memory (by omega),
      decodeSappRes_packBits schemaId appCode stale⟩
  · exact ⟨_, encodeSessionSetupReq_eq grammar evccId memory hroom,
      decodeSappReq_packBits_iso2 grammar _ stale,
      decodeIso2Req_packBits grammar read (sessionSetupReqMessage_fits evccId.2.le) stale⟩
  · exact ⟨_, encodeSessionSetupRes_eq grammar sid hevseId code memory hroom,
      decodeSessionSetupRes_packBits grammar left sid hevseId code stale⟩

end Messages

/-- A namespace and an identifier that are cut. -/
theorem codecCalls_read_sample :
    ∃ payload,
      encodeSessionSetupRes emptyGrammar .zero (List.replicate 40 'E') .ok (fun _ => 0) 4096 =
        .ok payload ∧
      decodeSessionSetupRes emptyGrammar .zero 0 (some payload) =
        .ok ({ responseCode := 0, evseId := List.replicate 37 'E', evseTimeStamp := none },
          .zero) := by
  have hns : ExiBasetypes.Ascii "urn:iso:15118:2:2013:MsgDef".toList := by decide
  have hevseId : ExiBasetypes.Ascii (List.replicate 40 'E') := by decide
  exact (codecCalls_read emptyGrammar hns hevseId 2 0 1 1 .okSuccessfulNegotiation
    ⟨[2, 0, 0, 0, 0, 1], rfl⟩ .zero .zero .ok Empty.elim (fun _ => 0) (by decide : 135 ≤ 4096)
    0).2.2.2

end Jpv2g
