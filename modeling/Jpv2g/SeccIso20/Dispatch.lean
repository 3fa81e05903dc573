import Jpv2g.SeccIso20.Handlers
import Jpv2g.V2gtp

/-!
# ISO 15118-20 Frame Handling

The two dispatchers and the handling of one frame (`jpv2g_secc20_handle_frame`).

## Main definitions

* `s20Dispatch`: decode, check the session and the sequence, and handle a request.
* `secc20HandleFrame`: the timers, the dispatch and the termination rule.
-/

namespace Jpv2g

section Dispatch

variable (codec : Codec20) (env : Env20) (outCap : ℕ) (s : Secc20)

/-- The handler of a request the session and sequence checks have passed. -/
def s20Handle : Body20 → HandlerResult20
  | .common (.sessionSetupReq evccId) => s20HandleSessionSetup codec env outCap s evccId
  | .common .authorizationSetupReq => s20HandleAuthSetup codec env outCap s
  | .common (.authorizationReq selected) => s20HandleAuthorization codec env outCap s selected
  | .common (.serviceDiscoveryReq ids) => s20HandleServiceDiscovery codec env outCap s ids
  | .common (.serviceDetailReq serviceId) => s20HandleServiceDetail codec env outCap s serviceId
  | .common (.serviceSelectionReq serviceId parameterSetId selectedVasCount) =>
    s20HandleServiceSelection codec env outCap s serviceId parameterSetId selectedVasCount
  | .common (.scheduleExchangeReq dynamicMode scheduledMode) =>
    s20HandleScheduleExchange codec env outCap s dynamicMode scheduledMode
  | .common (.powerDeliveryReq progress tuple) =>
    s20HandlePowerDelivery codec env outCap s progress tuple
  | .common (.sessionStopReq action code explanation) =>
    s20HandleSessionStop codec env outCap s action code explanation
  | .dc (.chargeParameterDiscoveryReq bptMode dcMode) =>
    s20HandleDcCpd codec env outCap s bptMode dcMode
  | .dc .cableCheckReq => s20HandleDcCableCheck codec env outCap s
  | .dc (.preChargeReq target present) =>
    s20HandleDcPreCharge codec env outCap s target present
  | .dc (.chargeLoopReq req) => s20HandleDcChargeLoop codec env outCap s req
  | .dc (.weldingDetectionReq evProcessing) =>
    s20HandleDcWelding codec env outCap s evProcessing
  -- no state accepts the remaining kinds
  | .common body => s20BuildRes codec env outCap s [] body.kind .failedSequenceError
  | .dc .other =>
    { session := s, calls := [], res := none, rc := .error .einval, disposition := .continue }

/-- The request comes after the setup of a session and does not carry its identifier. -/
def s20UnknownSession (doc : V2gDoc Body20) : Bool :=
  doc.body.kind != .sessionSetup && s.sessionEstablished &&
    !s20SessionIdMatches s doc.sessionId

/-- The request passes the session and the sequence check. -/
def s20Admits (doc : V2gDoc Body20) : Bool :=
  !s20UnknownSession s doc && s20StateAccepts s.state doc.body.kind

/-- Dispatch a decoded request, which both dispatchers do alike. -/
def s20Dispatch (doc : V2gDoc Body20) : HandlerResult20 :=
  -- a decodable document without a request is treated like an undecodable frame
  if doc.body.kind = .none then
    { session := s, calls := [], res := none, rc := .error .ebadmsg, disposition := .continue }
  -- the answer carries our identifier, and its code ends the session
  else if s20UnknownSession s doc then
    s20BuildRes codec env outCap s [] doc.body.kind .failedUnknownSession
  else if s20StateAccepts s.state doc.body.kind = false then
    s20BuildRes codec env outCap s [] doc.body.kind .failedSequenceError
  else s20Handle codec env outCap s doc.body

/-- The request of a frame, by the grammar of its payload type (`s20_dispatch_common`,
`s20_dispatch_dc`). -/
def s20Decode (payloadType : PayloadType) (exi : List UInt8) : Option (V2gDoc Body20) :=
  match payloadType with
  | .exi20Mainstream =>
    (codec.decodeCommon exi).map fun doc => ⟨doc.sessionId, .common doc.body⟩
  | .exi20Dc => (codec.decodeDc exi).map fun doc => ⟨doc.sessionId, .dc doc.body⟩
  | _ => none

/-- Decode and dispatch a frame. -/
def s20DispatchFrame (payloadType : PayloadType) (exi : List UInt8) : HandlerResult20 :=
  match s20Decode codec payloadType exi with
  | some doc => s20Dispatch codec env outCap s doc
  | none =>
    { session := s, calls := [], res := none, rc := .error .ebadmsg, disposition := .continue }

/-- The termination rule: a response code from FAILED on ends the session after its response,
and anything else re-arms the sequence timer. -/
def s20Conclude (result : HandlerResult20) : HandlerResult20 :=
  match result.rc with
  | .error _ => result
  | .ok _ =>
    -- warnings have smaller codes than FAILED
    let disposition : Disposition20 :=
      if result.disposition = .continue ∧ rcFailed ≤ result.session.lastResponseCode then
        .doneFailed
      else result.disposition
    { result with
      disposition
      session :=
        if disposition = .continue then
          { result.session with
            sequenceDeadlineMs := env.nowReply + Secc20.sequenceTimeoutMs }
        else { result.session with state := .ended } }

/-- The sequence timer has expired when the frame arrives. -/
def s20SequenceExpired : Bool :=
  s.sequenceDeadlineMs != 0 && decide (s.sequenceDeadlineMs < env.nowArrival)

/-- Handle one frame (`jpv2g_secc20_handle_frame`). -/
def secc20HandleFrame (payloadType : PayloadType) (exi : List UInt8) : HandlerResult20 :=
  if exi = [] then
    { session := s, calls := [], res := none, rc := .error .einval, disposition := .continue }
  else if s.state = .ended then
    { session := s, calls := [], res := none, rc := .error .eproto, disposition := .continue }
  else if s20SequenceExpired env s then
    { session := { s with state := .ended }, calls := [], res := none, rc := .error .etimedout,
      disposition := .continue }
  -- the receipt stops the sequence timer, which a failing dispatch does not re-arm
  else
    s20Conclude env
      (s20DispatchFrame codec env outCap { s with sequenceDeadlineMs := 0 } payloadType exi)

end Dispatch

end Jpv2g
