import Jpv2g.Messages

/-!
# The Request Sequencer

The connection-level sequencer that decides, for every decoded request, whether the request is
valid in the current phase of the session (`state_secc.c`, and `secc_accept_request_sequence` of
`secc.c`, the only entry the stream dispatcher uses).

A rejected request can still change the sequence: the protocol of the first request judged while
no protocol is fixed is committed before the phase is looked at.

## Main definitions

* `Sequence`: the sequencer state (`jpv2g_secc_sequence_t`).
* `seccAcceptRequestSequence`: validate and commit one decoded request.
-/

namespace Jpv2g

/-- The phases of a session (`jpv2g_secc_phase_t`). -/
inductive Phase where
  | appProtocol | sessionSetup | serviceDiscovery | serviceSelection | authorization
  | chargeParameters | cableCheck | preCharge | powerDelivery | charging
  | powerDeliveryStop | welding | complete
deriving DecidableEq, Repr

/-- The numeric value of a phase. -/
def Phase.rank : Phase → ℕ
  | .appProtocol => 0
  | .sessionSetup => 1
  | .serviceDiscovery => 2
  | .serviceSelection => 3
  | .authorization => 4
  | .chargeParameters => 5
  | .cableCheck => 6
  | .preCharge => 7
  | .powerDelivery => 8
  | .charging => 9
  | .powerDeliveryStop => 10
  | .welding => 11
  | .complete => 12

/-- The sequencer state (`jpv2g_secc_sequence_t`). -/
structure Sequence where
  phase : Phase
  protocol : Protocol
  /-- The session charges DC; meaningful once `modeKnown` is set. -/
  dcMode : Bool
  modeKnown : Bool
deriving DecidableEq, Repr

namespace Sequence

/-- The state of a fresh connection (`jpv2g_secc_sequence_init`). -/
def init : Sequence :=
  { phase := .appProtocol, protocol := .unknown, dcMode := false, modeKnown := false }

/-- Accept the request and move to `phase`. -/
def advance (seq : Sequence) (phase : Phase) : Sequence × Rc :=
  ({ seq with phase }, .ok ())

/-- Accept the request without leaving the phase. -/
def stay (seq : Sequence) : Sequence × Rc :=
  (seq, .ok ())

/-- Reject the request with `-EPROTO`. -/
def reject (seq : Sequence) : Sequence × Rc :=
  (seq, .error .eproto)

/-- The session charges DC, as far as the sequencer knows. -/
def isDc (seq : Sequence) : Bool :=
  seq.modeKnown && seq.dcMode

end Sequence

/-! ## The sequencer -/

/-- Check a request's protocol against the sequence, committing it when none is fixed yet. -/
def seccSequenceRequireProtocol (seq : Sequence) (protocol : Protocol) : Sequence × Rc :=
  if protocol = .unknown then seq.reject
  -- the lazy commit: it stays even if the request is rejected afterwards
  else if seq.protocol = .unknown then ({ seq with protocol }, .ok ())
  else if seq.protocol = protocol then seq.stay
  else seq.reject

/-- The PowerDelivery phase table of a sequence whose protocol has been checked. -/
def seccSequenceAcceptPowerDeliveryPhase (seq : Sequence) (protocol : Protocol)
    (energyEnabled : Bool) : Sequence × Rc :=
  let next : Phase := if energyEnabled then .powerDelivery else .powerDeliveryStop
  match seq.phase with
  | .chargeParameters =>
    if protocol = .din70121 ∨ energyEnabled = false then seq.reject
    -- first passage directly from ChargeParameterDiscovery is taken for ISO AC, while a
    -- renegotiation keeps the mode, so that CableCheck and PreCharge need not be repeated
    else if seq.modeKnown then seq.advance next
    else { seq with dcMode := false, modeKnown := true }.advance next
  | .preCharge | .powerDelivery | .charging => seq.advance next
  | .powerDeliveryStop =>
    -- a repeated Stop is idempotent, a Start after it needs a new session
    if energyEnabled then seq.reject else seq.advance next
  | _ => seq.reject

/-- The semantic PowerDelivery transition; `energyEnabled` is ISO Start or DIN
ReadyToChargeState. -/
def seccSequenceAcceptPowerDelivery (seq : Sequence) (protocol : Protocol)
    (energyEnabled : Bool) : Sequence × Rc :=
  match seccSequenceRequireProtocol seq protocol with
  | (seq, .error _) => seq.reject
  | (seq, .ok ()) => seccSequenceAcceptPowerDeliveryPhase seq protocol energyEnabled

/-- ISO 15118-2 ChargeProgress=Renegotiate: back to ChargeParameterDiscovery, keeping the
negotiated mode. -/
def seccSequenceAcceptRenegotiation (seq : Sequence) (protocol : Protocol) : Sequence × Rc :=
  match seccSequenceRequireProtocol seq protocol with
  | (seq, .error _) => seq.reject
  | (seq, .ok ()) =>
    if protocol ≠ .iso15118_2 then seq.reject
    else if seq.phase ≠ .powerDelivery ∧ seq.phase ≠ .charging then seq.reject
    else seq.advance .chargeParameters

/-- The transition of a connection that has not seen a SupportedAppProtocolReq yet. -/
def seccSequenceAcceptAppProtocol (seq : Sequence) (protocol : Protocol) (type : MessageType) :
    Sequence × Rc :=
  -- deployed DIN stacks start directly with SessionSetup
  if type = .sessionSetupReq ∧ protocol = .din70121 then
    { seq with protocol }.advance .serviceDiscovery
  else if type ≠ .suppAppProtocolReq then seq.reject
  -- an unsupported offer is let through for the handler to answer Failed_NoNegotiation
  else if protocol ≠ .unknown then { seq with protocol }.advance .sessionSetup
  else seq.advance .sessionSetup

/-- The phase table of a sequence whose protocol has been checked. -/
def seccSequenceAcceptPhase (seq : Sequence) (protocol : Protocol) (type : MessageType) :
    Sequence × Rc :=
  match seq.phase with
  | .sessionSetup =>
    -- the exchange may be retried, but a selection may only be repeated
    if type = .suppAppProtocolReq then
      if seq.protocol ≠ .unknown ∧ protocol ≠ seq.protocol then seq.reject
      else if protocol ≠ .unknown then { seq with protocol }.stay
      else seq.stay
    else if type = .sessionSetupReq then seq.advance .serviceDiscovery
    else seq.reject
  | .serviceDiscovery =>
    if type = .serviceDiscoveryReq then seq.advance .serviceSelection else seq.reject
  | .serviceSelection =>
    -- the vehicle may look at the offered services again
    if type = .serviceDiscoveryReq ∨ type = .serviceDetailReq then seq.stay
    else if type = .paymentServiceSelectionReq then seq.advance .authorization
    else seq.reject
  | .authorization =>
    -- what the handler answered to an AuthorizationReq is not looked at
    if type = .paymentServiceSelectionReq ∨ type = .paymentDetailsReq ∨
        type = .authorizationReq then seq.stay
    else if type = .chargeParameterDiscoveryReq then seq.advance .chargeParameters
    else seq.reject
  | .chargeParameters =>
    if type = .chargeParameterDiscoveryReq then seq.stay
    -- the first CableCheckReq is what makes the session a DC session
    else if type = .cableCheckReq then
      { seq with dcMode := true, modeKnown := true }.advance .cableCheck
    else if type = .powerDeliveryReq then seccSequenceAcceptPowerDelivery seq protocol true
    else seq.reject
  | .cableCheck =>
    if type = .cableCheckReq then seq.stay
    else if type = .preChargeReq then seq.advance .preCharge
    else seq.reject
  | .preCharge =>
    if type = .preChargeReq then seq.stay
    else if type = .powerDeliveryReq then seccSequenceAcceptPowerDelivery seq protocol true
    else seq.reject
  | .powerDelivery =>
    if type = .powerDeliveryReq then seccSequenceAcceptPowerDelivery seq protocol true
    else if type = .sessionStopReq then seq.advance .complete
    else if seq.dcMode ∧ type = .currentDemandReq then seq.advance .charging
    else if ¬seq.dcMode ∧ type = .chargingStatusReq then seq.advance .charging
    else if seq.dcMode ∧ type = .weldingDetectionReq then seq.advance .welding
    else seq.reject
  | .charging =>
    if (seq.dcMode ∧ type = .currentDemandReq) ∨ (¬seq.dcMode ∧ type = .chargingStatusReq) ∨
        type = .meteringReceiptReq then seq.stay
    else if type = .powerDeliveryReq then seccSequenceAcceptPowerDelivery seq protocol true
    else if seq.dcMode ∧ type = .weldingDetectionReq then seq.advance .welding
    else if type = .sessionStopReq then seq.advance .complete
    else seq.reject
  | .powerDeliveryStop =>
    if seq.dcMode ∧ type = .weldingDetectionReq then seq.advance .welding
    else if type = .sessionStopReq then seq.advance .complete
    else seq.reject
  | .welding =>
    if type = .weldingDetectionReq then seq.stay
    else if type = .sessionStopReq then seq.advance .complete
    else seq.reject
  | .complete | .appProtocol => seq.reject

/-- Validate and commit one request by its protocol and message type
(`jpv2g_secc_sequence_accept`). -/
def seccSequenceAccept (seq : Sequence) (protocol : Protocol) (type : MessageType) :
    Sequence × Rc :=
  if seq.phase = .appProtocol then seccSequenceAcceptAppProtocol seq protocol type
  else
    match seccSequenceRequireProtocol seq protocol with
    | (seq, .error _) => seq.reject
    | (seq, .ok ()) =>
      -- SessionStop is the graceful abort of every established session
      if type = .sessionStopReq ∧ Phase.serviceDiscovery.rank ≤ seq.phase.rank ∧
          seq.phase.rank < Phase.complete.rank then seq.advance .complete
      else seccSequenceAcceptPhase seq protocol type

namespace Request

/-- The ReadyToChargeState of a DIN PowerDeliveryReq body. -/
def dinReadyToCharge (request : Request) : Option Bool :=
  match request.body with
  | some (.din (.powerDeliveryReq ready)) => some ready
  | _ => none

/-- The ChargeProgress of an ISO PowerDeliveryReq body. -/
def iso2ChargeProgress (request : Request) : Option ChargeProgress :=
  match request.body with
  | some (.iso2 (.powerDeliveryReq progress)) => some progress
  | _ => none

/-- What a PowerDeliveryReq asks for, whichever grammar it is written in; DIN
ReadyToChargeState reads as Start or Stop. -/
def powerDelivery (request : Request) : Option ChargeProgress :=
  match request.type, request.protocol with
  | .powerDeliveryReq, .din70121 =>
    request.dinReadyToCharge.map fun ready => if ready then .start else .stop
  | .powerDeliveryReq, .iso15118_2 => request.iso2ChargeProgress
  | _, _ => none

end Request

/-- Validate and commit one decoded request (`secc_accept_request_sequence`). -/
def seccAcceptRequestSequence (seq : Sequence) (request : Request) : Sequence × Rc :=
  if request.type ≠ .powerDeliveryReq then
    seccSequenceAccept seq request.protocol request.type
  else
    match request.body with
    | none => (seq, .error .ebadmsg)
    | some _ =>
      match request.protocol with
      | .din70121 =>
        match request.dinReadyToCharge with
        | some ready => seccSequenceAcceptPowerDelivery seq request.protocol ready
        | none => (seq, .error .ebadmsg)
      | .iso15118_2 =>
        match request.iso2ChargeProgress with
        | some .start => seccSequenceAcceptPowerDelivery seq request.protocol true
        | some .stop => seccSequenceAcceptPowerDelivery seq request.protocol false
        | some .renegotiate => seccSequenceAcceptRenegotiation seq request.protocol
        | some .reserved => seq.reject
        | none => (seq, .error .ebadmsg)
      | .unknown | .iso15118_20_dc => seq.reject

end Jpv2g
