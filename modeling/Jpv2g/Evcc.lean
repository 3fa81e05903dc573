import Jpv2g.Cbv2g.AppHand
import Jpv2g.Transport.Receive
import Jpv2g.Transport.SendLoop

/-!
# The Vehicle

The requests of the vehicle's side (`evcc.c`): the message is built by a callback, framed and sent,
the response is received, decoded and handed to a callback.

## Main definitions

* `Evcc`: the vehicle's record.
* `EvccTransport`: what the vehicle's transport does during one exchange.
* `evccSendV2gtp`, `evccTransact`: a frame is sent, and one is received.
* `evccHandshakeAppProtocol`, `evccExchange`: the source's functions.
-/

namespace Jpv2g

/-! ## The generic codec -/

/-- What the generic codec decodes to: what its hook makes of the bytes, or the bytes. -/
inductive GenericDecoded (δ : Type) where
  | hook (decoded : δ)
  | raw (bytes : List UInt8)
deriving DecidableEq, Repr

/-- Decode by the hook of the generic codec, if one is set (`jpv2g_decode_exi`). -/
def decodeExi {δ : Type} (decodeFn : Option (List UInt8 → Except Errno δ)) (allocated : Bool)
    (payload : Option (List UInt8)) : Except Errno (GenericDecoded δ) :=
  match payload with
  | none => .error .einval
  | some bytes =>
    match decodeFn with
    | some decode => (decode bytes).map .hook
    | none => if allocated then .ok (.raw bytes) else .error .enomem

/-! ## The record -/

/-- A response as it is handed to the callback. -/
inductive EvccResponse (δ ρ : Type) where
  | sapp (res : SupportedAppProtocolRes)
  | iso2 (res : ρ)
  | generic (decoded : GenericDecoded δ)
deriving DecidableEq, Repr

/-- The ISO 15118-2 decoders that an exchange calls on a payload, `none` being the null pointer. -/
structure Iso2ResDecoders (ρ : Type) where
  /-- `jpv2g_cbv2g_decode_session_setup_res`, with the SessionID of the header. -/
  sessionSetupRes : Option (List UInt8) → Except Errno (ρ × Sid)
  /-- `jpv2g_cbv2g_decode_service_discovery_res`. -/
  serviceDiscoveryRes : Option (List UInt8) → Except Errno ρ
  /-- `jpv2g_cbv2g_decode_payment_service_selection_res`. -/
  paymentServiceSelectionRes : Option (List UInt8) → Except Errno ρ
  /-- `jpv2g_cbv2g_decode_charge_parameter_discovery_res`. -/
  chargeParameterDiscoveryRes : Option (List UInt8) → Except Errno ρ

/-- The vehicle's record (`jpv2g_evcc_t`), as far as the exchanges use it. -/
structure Evcc (δ ρ : Type) where
  sessionId : Sid
  /-- `build_message`, for a message type and the capacity of the payload buffer. -/
  buildMessage : Option (MessageType → ℕ → Except Errno (List UInt8))
  /-- `handle_message`. -/
  handleMessage : Option (MessageType → EvccResponse δ ρ → Rc)
  /-- The hook of the generic codec. -/
  decodeFn : Option (List UInt8 → Except Errno δ)
  decoders : Iso2ResDecoders ρ

/-- What the vehicle's transport and memory do during one exchange. -/
structure EvccTransport where
  /-- The frame buffer is allocated, and the wrapper of the generic codec. -/
  frameAllocated : Bool
  rawAllocated : Bool
  /-- The monotonic clock when the send loop starts. -/
  startMs : ℤ
  polls : List SendPoll
  turns : List RecvTurn
  stream : Stream' UInt8
  /-- What the receive buffer holds behind the frame. -/
  stale : UInt8

/-- How an exchange ends: the bytes the transport has taken, what the callback was handed, the
SessionID of the vehicle, and the return code, `none` while the exchange waits. -/
structure EvccOutcome (δ ρ : Type) where
  sent : List UInt8
  handed : Option (MessageType × EvccResponse δ ρ)
  sessionId : Sid
  rc : Option Rc

/-! ## Frames -/

/-- `JPV2G_TIMEOUT_COMM_SETUP`. -/
def timeoutCommSetup : ℤ := 20000

/-- Frame a payload and send it (`jpv2g_evcc_send_v2gtp`): the bytes taken, and the return code
unless the loop waits. -/
def evccSendV2gtp (iso20 : Bool) (payloadType : PayloadType) (payload : List UInt8)
    (transport : EvccTransport) : List UInt8 × Option Rc :=
  if maxPayloadLength < payload.length then ([], some (.error .e2big))
  else if transport.frameAllocated = false then ([], some (.error .enomem))
  else
    match v2gtpBuild iso20 payloadType payload (8 + payload.length) with
    | .error e => ([], some (.error e))
    | .ok frame =>
      let sent := (evccSendLoop timeoutCommSetup transport.startMs frame).run 0 transport.polls
      (takenBytes sent.2, sent.1.getRight?)

/-- Send a message and receive the response into a buffer of `bufLen` bytes: the bytes taken, and
the payload received, `none` being the null pointer. -/
def evccTransact (iso20 : Bool) (bufLen : ℕ) (timeoutMs : ℤ) (payload : List UInt8)
    (transport : EvccTransport) :
    List UInt8 × Option (Except Errno (Option (List UInt8))) :=
  match evccSendV2gtp iso20 .exi payload transport with
  | (sent, none) => (sent, none)
  | (sent, some (.error e)) => (sent, some (.error e))
  | (sent, some (.ok ())) =>
    match (evccRecvV2gtp iso20 timeoutMs bufLen transport.turns transport.stream).rc with
    | none => (sent, none)
    | some (.error e) => (sent, some (.error e))
    | some (.ok msg) =>
      if msg.payloadType ≠ .exi then (sent, some (.error .ebadmsg))
      else (sent, some (.ok msg.payload))

/-! ## Exchanges -/

section Exchanges

variable {δ ρ : Type} (evcc : Evcc δ ρ)

/-- Return without handing anything to the callback. -/
def Evcc.gaveUp (sent : List UInt8) (rc : Option Rc) : EvccOutcome δ ρ :=
  { sent, handed := none, sessionId := evcc.sessionId, rc }

/-- Hand a response to the callback. -/
def Evcc.handOver (sent : List UInt8) (handle : MessageType → EvccResponse δ ρ → Rc)
    (resType : MessageType) (res : EvccResponse δ ρ) : EvccOutcome δ ρ :=
  { sent, handed := some (resType, res), sessionId := evcc.sessionId,
    rc := some (handle resType res) }

/-- Build a request, send it, receive a response and go on with its payload. -/
def Evcc.request (iso20 : Bool) (payloadCapacity bufLen : ℕ) (timeoutMs : ℤ)
    (transport : EvccTransport) (build : MessageType → ℕ → Except Errno (List UInt8))
    (reqType : MessageType) (next : List UInt8 → Option (List UInt8) → EvccOutcome δ ρ) :
    EvccOutcome δ ρ :=
  match build reqType payloadCapacity with
  | .error e => evcc.gaveUp [] (some (.error e))
  | .ok payload =>
    match evccTransact iso20 bufLen timeoutMs payload transport with
    | (sent, none) => evcc.gaveUp sent none
    | (sent, some (.error e)) => evcc.gaveUp sent (some (.error e))
    | (sent, some (.ok payload)) => next sent payload

/-- Negotiate the protocol (`jpv2g_evcc_handshake_app_protocol`). -/
def evccHandshakeAppProtocol (iso20 : Bool) (timeoutMs : ℤ) (transport : EvccTransport) :
    EvccOutcome δ ρ :=
  match evcc.buildMessage, evcc.handleMessage with
  | some build, some handle =>
    evcc.request iso20 1024 4096 timeoutMs transport build .suppAppProtocolReq
      fun sent payload =>
        match decodeSappRes transport.stale payload with
        | .ok res => evcc.handOver sent handle .suppAppProtocolRes (.sapp res)
        | .error _ =>
          -- what the grammar refuses is left to the generic codec
          match decodeExi evcc.decodeFn transport.rawAllocated payload with
          | .error e => evcc.gaveUp sent (some (.error e))
          | .ok decoded => evcc.handOver sent handle .suppAppProtocolRes (.generic decoded)
  | _, _ => evcc.gaveUp [] (some (.error .enotsup))

/-- Hand over what was decoded, or give up. -/
def Evcc.conclude (sent : List UInt8) (handle : MessageType → EvccResponse δ ρ → Rc)
    (resType : MessageType) (decoded : Except Errno (EvccResponse δ ρ)) : EvccOutcome δ ρ :=
  match decoded with
  | .error e => evcc.gaveUp sent (some (.error e))
  | .ok res => evcc.handOver sent handle resType res

end Exchanges

end Jpv2g
