import Jpv2g.Messages
import Jpv2g.Transport.SendLoop
import Jpv2g.V2gtp

/-!
# Minimal FAILED Responses

The answer to a request that one of the two gates rejects: a response of the request's own type
with its default payload (`jpv2g_cbv2g_encode_min_failed_res` of `cbv2g_codec.c`), sent without
regard to failures (`secc_send_min_failed` of `secc.c`).

## Main definitions

* `MinFailedRes`: the encoder called, and its arguments.
* `minFailedRes`: the response to a type of request.
* `sendBytes`: the bytes that reach the wire, call by call of the transport.
* `sendMinFailed`: the bytes of the answer that reach the wire.

## Main results

* `minFailedRes_answers`: the response is one to the request that was rejected.
* `sendMinFailed_cases`: nothing is sent, or a first part of one frame.
* `sendMinFailed_eq`: the whole frame is sent when the transport takes it.
-/

namespace Jpv2g

/-! ## The responses -/

/-- The ISO 15118-2 response encoders as called without a payload: their arguments other than the
session identifier and the code. -/
inductive Iso2MinRes where
  | sessionSetup (evseId : List Char)
  | serviceDiscovery (payment : PaymentOption) (energyTransferMode : EnergyTransferMode)
      (serviceId : UInt16) (serviceName : List Char) (freeService : ℕ)
  | serviceDetail (serviceId : UInt16)
  | paymentServiceSelection
  | paymentDetails (evseTimeStamp : ℤ)
  | authorization (processing : EvseProcessing)
  | chargeParameterDiscovery (requestedEnergyTransferMode : EnergyTransferMode)
  | cableCheck (processing : EvseProcessing)
  | preCharge
  | powerDelivery
  | chargingStatus (evseId : List Char) (saScheduleTupleId : ℕ)
  | currentDemand
  | meteringReceipt
  | weldingDetection
  | sessionStop
deriving DecidableEq, Repr

/-- The DIN 70121 response encoders as called without a payload. -/
inductive DinMinRes where
  | sessionSetup (evseId : List Char) (dateTimeNow : ℤ)
  | serviceDiscovery (payment : PaymentOption) (energyTransferType : EnergyTransferMode)
      (serviceId : UInt16) (freeService : ℕ)
  | serviceDetail (serviceId : UInt16)
  | servicePaymentSelection
  | paymentDetails (dateTimeNow : ℤ)
  | contractAuthentication (processing : EvseProcessing)
  | chargeParameterDiscovery (processing : EvseProcessing)
  | cableCheck (processing : EvseProcessing)
  | preCharge
  | powerDelivery
  | currentDemand
  | meteringReceipt
  | weldingDetection
  | sessionStop
deriving DecidableEq, Repr

/-- The code of a minimal response. -/
inductive MinFailedCode where
  | failedSequenceError | failedUnknownSession
deriving DecidableEq, Repr

/-- A minimal response. -/
inductive MinFailedRes where
  | iso2 (sid : Sid) (code : MinFailedCode) (body : Iso2MinRes)
  | din (sid : Sid) (code : MinFailedCode) (body : DinMinRes)
deriving DecidableEq, Repr

/-- The code that names the kind of failure. -/
def MinFailedKind.code : MinFailedKind → MinFailedCode
  | .unknownSession => .failedUnknownSession
  | .sequenceError => .failedSequenceError

/-- `kIsoEvseIdMinFailed`. -/
def isoEvseIdMinFailed : List Char := "IN*JPE*E000100010001".toList

/-- `kDinEvseIdMinFailed`. -/
def dinEvseIdMinFailed : List Char := "JPEVSE000100100010".toList

/-- The DIN 70121 response to a type of request. -/
def dinMinRes : MessageType → Option DinMinRes
  | .sessionSetupReq => some (.sessionSetup dinEvseIdMinFailed (-1))
  | .serviceDiscoveryReq => some (.serviceDiscovery .externalPayment .dcExtended 1 0)
  | .serviceDetailReq => some (.serviceDetail 1)
  | .paymentServiceSelectionReq => some .servicePaymentSelection
  | .paymentDetailsReq => some (.paymentDetails (-1))
  | .authorizationReq => some (.contractAuthentication .finished)
  | .chargeParameterDiscoveryReq => some (.chargeParameterDiscovery .finished)
  | .cableCheckReq => some (.cableCheck .finished)
  | .preChargeReq => some .preCharge
  | .powerDeliveryReq => some .powerDelivery
  | .currentDemandReq => some .currentDemand
  | .meteringReceiptReq => some .meteringReceipt
  | .weldingDetectionReq => some .weldingDetection
  | .sessionStopReq => some .sessionStop
  -- DIN has no ChargingStatusRes
  | _ => none

/-- The ISO 15118-2 response to a type of request. -/
def iso2MinRes : MessageType → Option Iso2MinRes
  | .sessionSetupReq => some (.sessionSetup isoEvseIdMinFailed)
  | .serviceDiscoveryReq =>
    some (.serviceDiscovery .externalPayment .dcExtended 1 "DCFC".toList 0)
  | .serviceDetailReq => some (.serviceDetail 1)
  | .paymentServiceSelectionReq => some .paymentServiceSelection
  | .paymentDetailsReq => some (.paymentDetails (-1))
  | .authorizationReq => some (.authorization .finished)
  | .chargeParameterDiscoveryReq => some (.chargeParameterDiscovery .dcExtended)
  | .cableCheckReq => some (.cableCheck .finished)
  | .preChargeReq => some .preCharge
  | .powerDeliveryReq => some .powerDelivery
  | .chargingStatusReq => some (.chargingStatus isoEvseIdMinFailed 1)
  | .currentDemandReq => some .currentDemand
  | .meteringReceiptReq => some .meteringReceipt
  | .weldingDetectionReq => some .weldingDetection
  | .sessionStopReq => some .sessionStop
  | _ => none

/-- The minimal response to a type of request (`jpv2g_cbv2g_encode_min_failed_res`), if there is
one; `-ENOTSUP` otherwise. -/
def minFailedRes (protocol : Protocol) (type : MessageType) (kind : MinFailedKind) (sid : Sid) :
    Option MinFailedRes :=
  match protocol with
  | .din70121 => (dinMinRes type).map (.din sid kind.code)
  | .iso15118_2 => (iso2MinRes type).map (.iso2 sid kind.code)
  | .unknown | .iso15118_20_dc => none

namespace MinFailedRes

/-- The protocol of the grammar. -/
def protocol : MinFailedRes → Protocol
  | .iso2 _ _ _ => .iso15118_2
  | .din _ _ _ => .din70121

/-- The SessionID in the header. -/
def sid : MinFailedRes → Sid
  | .iso2 sid _ _ | .din sid _ _ => sid

/-- The response code. -/
def code : MinFailedRes → MinFailedCode
  | .iso2 _ code _ | .din _ code _ => code

end MinFailedRes

/-- The type of request an ISO 15118-2 response answers. -/
def Iso2MinRes.requestType : Iso2MinRes → MessageType
  | .sessionSetup _ => .sessionSetupReq
  | .serviceDiscovery _ _ _ _ _ => .serviceDiscoveryReq
  | .serviceDetail _ => .serviceDetailReq
  | .paymentServiceSelection => .paymentServiceSelectionReq
  | .paymentDetails _ => .paymentDetailsReq
  | .authorization _ => .authorizationReq
  | .chargeParameterDiscovery _ => .chargeParameterDiscoveryReq
  | .cableCheck _ => .cableCheckReq
  | .preCharge => .preChargeReq
  | .powerDelivery => .powerDeliveryReq
  | .chargingStatus _ _ => .chargingStatusReq
  | .currentDemand => .currentDemandReq
  | .meteringReceipt => .meteringReceiptReq
  | .weldingDetection => .weldingDetectionReq
  | .sessionStop => .sessionStopReq

/-- The type of request a DIN 70121 response answers. -/
def DinMinRes.requestType : DinMinRes → MessageType
  | .sessionSetup _ _ => .sessionSetupReq
  | .serviceDiscovery _ _ _ _ => .serviceDiscoveryReq
  | .serviceDetail _ => .serviceDetailReq
  | .servicePaymentSelection => .paymentServiceSelectionReq
  | .paymentDetails _ => .paymentDetailsReq
  | .contractAuthentication _ => .authorizationReq
  | .chargeParameterDiscovery _ => .chargeParameterDiscoveryReq
  | .cableCheck _ => .cableCheckReq
  | .preCharge => .preChargeReq
  | .powerDelivery => .powerDeliveryReq
  | .currentDemand => .currentDemandReq
  | .meteringReceipt => .meteringReceiptReq
  | .weldingDetection => .weldingDetectionReq
  | .sessionStop => .sessionStopReq

/-- The type of request a minimal response answers. -/
def MinFailedRes.requestType : MinFailedRes → MessageType
  | .iso2 _ _ body => body.requestType
  | .din _ _ body => body.requestType

section Responses

variable {protocol : Protocol} {type : MessageType} {kind : MinFailedKind} {sid : Sid}
  {res : MinFailedRes}

theorem dinMinRes_requestType {body : DinMinRes} (h : dinMinRes type = some body) :
    body.requestType = type := by
  cases type <;> simp only [dinMinRes, Option.some.injEq, reduceCtorEq] at h <;> subst h <;> rfl

theorem iso2MinRes_requestType {body : Iso2MinRes} (h : iso2MinRes type = some body) :
    body.requestType = type := by
  cases type <;> simp only [iso2MinRes, Option.some.injEq, reduceCtorEq] at h <;> subst h <;> rfl

/-- The response is one to the request that was rejected: it has the type and the protocol of the
request, the code of the failure and the live session identifier. -/
theorem minFailedRes_answers (h : minFailedRes protocol type kind sid = some res) :
    res.protocol = protocol ∧ res.requestType = type ∧ res.code = kind.code ∧ res.sid = sid := by
  unfold minFailedRes at h
  split at h
  · obtain ⟨body, hbody, rfl⟩ := Option.map_eq_some_iff.mp h
    exact ⟨rfl, dinMinRes_requestType hbody, rfl, rfl⟩
  · obtain ⟨body, hbody, rfl⟩ := Option.map_eq_some_iff.mp h
    exact ⟨rfl, iso2MinRes_requestType hbody, rfl, rfl⟩
  · cases h
  · cases h

/-- Every request that decodes under ISO 15118-2 has a minimal response. -/
theorem iso2MinRes_isSome {body : Iso2Body} (h : body.messageType ≠ .unknownMessage) :
    (iso2MinRes body.messageType).isSome := by
  cases body with
  | other => exact absurd rfl h
  | _ => rfl

/-- Every request that decodes under DIN 70121 has a minimal response, ChargingStatus aside. -/
theorem dinMinRes_isSome {body : DinBody} (h : body.messageType ≠ .unknownMessage)
    (hstatus : body.messageType ≠ .chargingStatusReq) :
    (dinMinRes body.messageType).isSome := by
  cases body with
  | other => exact absurd rfl h
  | chargingStatusReq => exact absurd rfl hstatus
  | _ => rfl

end Responses

/-! ## The transport -/

/-- Send a buffer (`secc_send_bytes`): the bytes that reach the wire, and the return code. The
list is what the calls of `send_fn` return until the deadline; a transport that claims more than it
was offered has taken all of it. -/
def sendBytes (buf : List UInt8) (calls : List (Except Errno ℕ)) : List UInt8 × Rc :=
  let sent := (seccSendLoop 0 0 buf).run 0
    (calls.map fun answer => { nowMs := 0, answer, overTaken := buf.length })
  (takenBytes sent.2, sent.1.elim (fun _ => .error .etimedout) id)

/-- What the calls of the transport return for the header and for the payload of an answer. -/
structure MinFailedSends where
  header : List (Except Errno ℕ)
  payload : List (Except Errno ℕ)

/-- The bytes of the answer that reach the wire (`secc_send_min_failed`): header and payload are
written one after the other, and every failure ends the answer. -/
def sendMinFailed (encode : MinFailedRes → Except Errno (List UInt8)) (sends : MinFailedSends)
    (protocol : Protocol) (type : MessageType) (kind : MinFailedKind) (sid : Sid) : List UInt8 :=
  match (minFailedRes protocol type kind sid).map encode with
  | none | some (.error _) | some (.ok []) => []
  | some (.ok exi) =>
    match sendBytes (v2gtpHeader .exi exi.length) sends.header with
    | (sent, .error _) => sent
    | (sent, .ok ()) => sent ++ (sendBytes exi sends.payload).1

/-- The V2GTP frame of an encoded answer. -/
def minFailedFrame (exi : List UInt8) : List UInt8 :=
  v2gtpHeader .exi exi.length ++ exi

section Send

variable {encode : MinFailedRes → Except Errno (List UInt8)} {sends : MinFailedSends}
  {protocol : Protocol} {type : MessageType} {kind : MinFailedKind} {sid : Sid}

/-- What reaches the wire is a first part of the buffer, and all of it when the send succeeds. -/
theorem sendBytes_spec (buf : List UInt8) (calls : List (Except Errno ℕ)) :
    (sendBytes buf calls).1 <+: buf ∧
      ((sendBytes buf calls).2 = .ok () → (sendBytes buf calls).1 = buf) := by
  have hspec := seccSendLoop_spec 0 0 buf
    (calls.map fun answer => { nowMs := 0, answer, overTaken := buf.length })
  rw [sendBytes]
  rcases hrun : (seccSendLoop 0 0 buf).run 0
    (calls.map fun answer => { nowMs := 0, answer, overTaken := buf.length }) with ⟨off | rc, t⟩ <;>
    rw [hrun] at hspec
  -- the deadline passes while the loop waits
  · obtain ⟨-, ⟨htaken, -⟩, -⟩ := hspec
    exact ⟨htaken ▸ List.take_prefix _ _, by simp⟩
  · exact hspec.1

/-- Nothing is sent, or a first part of the frame of the minimal response. -/
theorem sendMinFailed_cases :
    sendMinFailed encode sends protocol type kind sid = [] ∨
      ∃ res exi, minFailedRes protocol type kind sid = some res ∧ encode res = .ok exi ∧
        sendMinFailed encode sends protocol type kind sid <+: minFailedFrame exi := by
  unfold sendMinFailed
  cases hres : minFailedRes protocol type kind sid with
  | none => exact .inl rfl
  | some res =>
    rw [Option.map_some]
    split
    · exact .inl rfl
    · exact .inl rfl
    · exact .inl rfl
    · rename_i exi hne hexi
      refine .inr ⟨res, exi, rfl, Option.some.inj hexi, ?_⟩
      obtain ⟨hheader, hall⟩ := sendBytes_spec (v2gtpHeader .exi exi.length) sends.header
      split <;> rename_i hsent <;> rw [hsent] at hheader hall <;> dsimp only at hheader hall
      -- the header was cut short, or the payload follows the whole of it
      · exact hheader.trans (List.prefix_append _ _)
      · rw [hall rfl]
        exact (List.prefix_append_right_inj _).mpr (sendBytes_spec exi sends.payload).1

/-- The whole frame is sent when the transport takes it. -/
theorem sendMinFailed_eq {res : MinFailedRes} {exi : List UInt8}
    (hres : minFailedRes protocol type kind sid = some res) (hexi : encode res = .ok exi)
    (hne : exi ≠ [])
    (hheader : (sendBytes (v2gtpHeader .exi exi.length) sends.header).2 = .ok ())
    (hpayload : (sendBytes exi sends.payload).2 = .ok ()) :
    sendMinFailed encode sends protocol type kind sid = minFailedFrame exi := by
  obtain ⟨b, bs, rfl⟩ := List.exists_cons_of_ne_nil hne
  have hsent : sendBytes (v2gtpHeader .exi (b :: bs).length) sends.header =
      (v2gtpHeader .exi (b :: bs).length, .ok ()) :=
    Prod.ext ((sendBytes_spec _ _).2 hheader) hheader
  unfold sendMinFailed
  rw [hres, Option.map_some, hexi]
  dsimp only
  rw [hsent]
  dsimp only
  rw [(sendBytes_spec _ _).2 hpayload, minFailedFrame]

end Send

end Jpv2g
