import Jpv2g.StateSecc.Gate

/-!
# Repeated Requests in the Sequence Gate

A vehicle may send most requests again, and the copy must be accepted without moving the sequence.
The gate honours this for every repeatable request but one: after a negotiation that failed, the
retried SupportedAppProtocolReq still has no protocol, and the protocol check turns it away before
the phase table, which would have taken it.

## Main definitions

* `Request.Repeatable`: the requests a vehicle may repeat.
* `Idempotent`: once accepted, the request is accepted again and changes nothing.
* `FailedNegotiation`: the request is the first negotiation of a connection and selects nothing.

## Main results

* `idempotent_iff`: in every reachable sequence, a repeatable request is idempotent exactly when it
  is not a failed negotiation.
-/

namespace Jpv2g

/-- The types of the requests a vehicle may repeat, PowerDelivery apart. -/
def repeatableTypes : List MessageType :=
  [.suppAppProtocolReq, .serviceDiscoveryReq, .serviceDetailReq, .paymentServiceSelectionReq,
    .paymentDetailsReq, .authorizationReq, .chargeParameterDiscoveryReq, .cableCheckReq,
    .preChargeReq, .currentDemandReq, .chargingStatusReq, .meteringReceiptReq,
    .weldingDetectionReq]

/-- The vehicle may send the request again. -/
def Request.Repeatable (r : Request) : Prop :=
  r.type ∈ repeatableTypes ∨ r.powerDelivery = some .start ∨ r.powerDelivery = some .stop

/-- An accepted repeatable request is accepted again at once, and the copy changes nothing. -/
def Idempotent (s : Sequence) (r : Request) : Prop :=
  r.Repeatable → ∀ s', seccAcceptRequestSequence s r = (s', .ok ()) →
    seccAcceptRequestSequence s' r = (s', .ok ())

/-- The request is the first negotiation of the connection, and no protocol is selected. -/
def FailedNegotiation (s : Sequence) (r : Request) : Prop :=
  s.phase = .appProtocol ∧ r.type = .suppAppProtocolReq ∧ r.protocol = .unknown

section

variable {r : Request} {s s' : Sequence}

/-- A repeatable PowerDeliveryReq asks for Start or Stop. -/
theorem Request.Repeatable.powerDelivery (hr : r.Repeatable) {progress : ChargeProgress}
    (hpower : r.powerDelivery = some progress) : progress = .start ∨ progress = .stop := by
  have htype : r.type = .powerDeliveryReq := Request.type_of_powerDelivery hpower
  rcases hr with hmem | hstart | hstop
  · simp [htype, repeatableTypes] at hmem
  · exact .inl (Option.some.inj (hpower.symm.trans hstart))
  · exact .inr (Option.some.inj (hpower.symm.trans hstop))

/-- The two requests that start and end a session are not repeatable. -/
theorem Request.Repeatable.type_ne (hr : r.Repeatable) :
    r.type ≠ .sessionSetupReq ∧ r.type ≠ .sessionStopReq := by
  rcases hr with hmem | hpower | hpower
  · constructor <;> intro htype <;> simp [htype, repeatableTypes] at hmem
  · simp [Request.type_of_powerDelivery hpower]
  · simp [Request.type_of_powerDelivery hpower]

/-- Where a repeatable request leads, its copy stays. -/
theorem Moves.again (hmove : Moves r s s') (hr : r.Repeatable) : Moves r s' s' := by
  cases hmove with
  -- requests that stay in their phase
  | retryAppProtocol hphase htype => exact .retryAppProtocol hphase htype
  | inspectServices hphase htype => exact .inspectServices hphase htype
  | authorize hphase htype => exact .authorize hphase htype
  | repeatChargeParameterDiscovery hphase htype =>
    exact .repeatChargeParameterDiscovery hphase htype
  | repeatCableCheck hphase htype => exact .repeatCableCheck hphase htype
  | repeatPreCharge hphase htype => exact .repeatPreCharge hphase htype
  | meteringReceipt hphase htype => exact .meteringReceipt hphase htype
  | repeatWeldingDetection hphase htype => exact .repeatWeldingDetection hphase htype
  -- requests that advance: the next phase has a row of its own for the copy
  | serviceDiscovery _ htype => exact .inspectServices rfl (.inl htype)
  | paymentServiceSelection _ htype => exact .authorize rfl (.inl htype)
  | chargeParameterDiscovery _ htype => exact .repeatChargeParameterDiscovery rfl htype
  | cableCheck _ htype => exact .repeatCableCheck rfl htype
  | preCharge _ htype => exact .repeatPreCharge rfl htype
  | startDirectly _ _ hpower => exact .start (.inr (.inl rfl)) hpower
  | start _ hpower => exact .start (.inr (.inl rfl)) hpower
  | stop _ hpower => exact .stop (.inr (.inr (.inr rfl))) hpower
  | demand _ htype => exact .demand (.inr rfl) htype
  | weldingDetection _ _ htype => exact .repeatWeldingDetection rfl htype
  -- requests that are not repeatable
  | sessionStop _ _ _ htype => exact absurd htype hr.type_ne.2
  | sessionSetup _ htype => exact absurd htype hr.type_ne.1
  | renegotiate _ _ hpower =>
    rcases hr.powerDelivery hpower with heq | heq <;> cases heq

/-- An accepted repeatable request is accepted again, unless it is a failed negotiation. -/
theorem Accepts.again (hacc : Accepts r s s') (hr : r.Repeatable)
    (hselected : ¬FailedNegotiation s r) : Accepts r s' s' := by
  cases hacc with
  | directSetup _ htype => exact absurd htype hr.type_ne.1
  | negotiate hphase htype =>
    have hknown : r.protocol ≠ .unknown := fun h => hselected ⟨hphase, htype, h⟩
    rw [if_neg hknown]
    exact .move hknown (.inr rfl) (.retryAppProtocol rfl htype)
  | move hknown _ hmove =>
    have hprotocol : s'.protocol = r.protocol := hmove.protocol_eq
    refine .move hknown (.inr hprotocol) ?_
    rw [← hprotocol]
    exact hmove.again hr

/-- The copy of a failed negotiation is not accepted: it has no protocol to check. -/
theorem not_accepts_of_unknown {s'' : Sequence} (hphase : s.phase = .sessionSetup)
    (hunknown : r.protocol = .unknown) : ¬Accepts r s s'' := by
  intro hacc
  cases hacc with
  | directSetup h | negotiate h => simp [hphase] at h
  | move hknown => exact hknown hunknown

/-- In every sequence, a repeatable request is idempotent exactly when it is not a failed
negotiation. -/
theorem idempotent_of_sequence : Idempotent s r ↔ ¬FailedNegotiation s r := by
  constructor
  · rintro hidem ⟨hphase, htype, hunknown⟩
    -- the negotiation itself is let through, for the handler to answer it
    have hfirst := accepts_iff.mpr (Accepts.negotiate (r := r) hphase htype)
    have hrepeatable : r.Repeatable := .inl (by simp [htype, repeatableTypes])
    have hcopy := accepts_of_ok (hidem hrepeatable _ hfirst)
    exact not_accepts_of_unknown rfl hunknown hcopy
  · intro hselected hr s' hfirst
    exact accepts_iff.mpr ((accepts_of_ok hfirst).again hr hselected)

end

/-- After every list of requests and grants, a repeatable request that is accepted is accepted
again and changes nothing, exactly when it is not a negotiation that failed. -/
theorem idempotent_iff (inputs : List GateInput) (r : Request) :
    Idempotent (gate.run .init inputs).1 r ↔ ¬FailedNegotiation (gate.run .init inputs).1 r :=
  idempotent_of_sequence

/-- A SupportedAppProtocolReq that offers no protocol the station speaks. -/
def unsupportedOffer : Request :=
  { type := .suppAppProtocolReq
    protocol := .unknown
    header := none
    dinHeader := none
    body := some (.app [
      { protocolNamespace := "urn:iso:15118:2:2010:MsgDef".toList
        versionNumberMajor := 1
        versionNumberMinor := 0
        schemaId := 1
        priority := 1 }]) }

/-- On a fresh connection, a negotiation that failed is accepted, and its retry is not. -/
theorem not_idempotent : ¬∀ inputs r, Idempotent (gate.run .init inputs).1 r := by
  intro h
  have hretry := h [] unsupportedOffer (.inl (by decide)) { Sequence.init with
    phase := .sessionSetup } (by decide)
  exact absurd hretry (by decide)

end Jpv2g
