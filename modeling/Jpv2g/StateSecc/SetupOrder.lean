import Jpv2g.StateSecc.Gate

/-!
# Setup Ordering of the Sequence Gate

What the accepted requests of a connection tell about the setup behind a
ChargeParameterDiscoveryReq. The gate takes the request in the authorization phase whether or not
an AuthorizationReq came first, so that the order holds exactly in the runs in which no vehicle
overtakes its authorization.

## Main definitions

* `SetupOrdered`: an accepted ChargeParameterDiscoveryReq has the mandatory setup behind it.
* `SetupProgress`: the invariant, the requests accepted before a phase was reached.
* `AuthorizesFirst`: no ChargeParameterDiscoveryReq overtakes the AuthorizationReq.

## Main results

* `setup_ordered_iff`: the order holds of exactly the runs all of whose steps meet the condition.
-/

namespace Jpv2g

open Trace GateEvent

/-- The setup up to the payment selection. -/
def paymentSetup : List (GateEvent → Prop) :=
  [acceptedType .sessionSetupReq, acceptedType .serviceDiscoveryReq,
    acceptedType .paymentServiceSelectionReq]

/-- The mandatory setup of a session. -/
def mandatorySetup : List (GateEvent → Prop) :=
  paymentSetup ++ [acceptedType .authorizationReq]

/-- An accepted ChargeParameterDiscoveryReq is preceded by the mandatory setup. -/
def SetupOrdered (pre : List GateEvent) (e : GateEvent) : Prop :=
  acceptedType .chargeParameterDiscoveryReq e → InOrder mandatorySetup pre

/-- The requests accepted before a phase was reached. -/
def Phase.setupBehind : Phase → List (GateEvent → Prop)
  | .appProtocol | .sessionSetup | .complete => []
  | .serviceDiscovery => [acceptedType .sessionSetupReq]
  | .serviceSelection => [acceptedType .sessionSetupReq, acceptedType .serviceDiscoveryReq]
  | .authorization => paymentSetup
  | .chargeParameters | .cableCheck | .preCharge | .powerDelivery | .charging
  | .powerDeliveryStop | .welding => [acceptedType .chargeParameterDiscoveryReq]

/-- What the accepted requests so far contain: the setup behind the phase, and the mandatory setup
once an AuthorizationReq is among them. -/
structure SetupProgress (t : List GateEvent) (s : Sequence) : Prop where
  behind : InOrder s.phase.setupBehind t
  authorized : (∃ e ∈ t, acceptedType .authorizationReq e) → InOrder mandatorySetup t

/-- A ChargeParameterDiscoveryReq of the session's protocol that arrives in the authorization
phase has an accepted AuthorizationReq behind it. -/
def AuthorizesFirst (t : List GateEvent) (s : Sequence) : GateInput → Prop
  | .request r =>
    s.phase = .authorization → r.type = .chargeParameterDiscoveryReq → r.protocol ≠ .unknown →
      (s.protocol = .unknown ∨ s.protocol = r.protocol) →
        ∃ e ∈ t, acceptedType .authorizationReq e
  | .resumeGrant => True

variable {t : List GateEvent} {r : Request} {s s' : Sequence}

/-- An accepted request keeps the setup behind the phase, or adds itself to it. -/
theorem Accepts.setupBehind (hacc : Accepts r s s') (h : InOrder s.phase.setupBehind t) :
    InOrder s'.phase.setupBehind (t ++ [.accepted r]) := by
  cases hacc with
  | directSetup hphase htype => exact inOrder_last htype
  | negotiate => exact inOrder_nil
  | move hknown hagree hmove =>
    have hbehind : ∀ {phase}, s.phase = phase → InOrder phase.setupBehind t := by
      rintro _ rfl
      exact h
    cases hmove with
    | sessionStop => exact inOrder_nil
    | sessionSetup _ htype => exact inOrder_last htype
    | serviceDiscovery hphase htype => exact (hbehind hphase).concat htype
    | paymentServiceSelection hphase htype => exact (hbehind hphase).concat htype
    | chargeParameterDiscovery _ htype => exact inOrder_last htype
    | retryAppProtocol | inspectServices | authorize | repeatChargeParameterDiscovery
    | repeatCableCheck | repeatPreCharge | meteringReceipt | repeatWeldingDetection =>
      exact h.append
    -- past the authorization the requests move between phases with the same setup behind them
    | cableCheck hphase | preCharge hphase | startDirectly hphase =>
      exact (hbehind hphase).append
    | start hphase | weldingDetection hphase =>
      rcases hphase with hphase | hphase | hphase <;> exact (hbehind hphase).append
    | demand hphase | renegotiate hphase =>
      rcases hphase with hphase | hphase <;> exact (hbehind hphase).append
    | stop hphase =>
      rcases hphase with hphase | hphase | hphase | hphase <;> exact (hbehind hphase).append

/-- An AuthorizationReq is accepted in the authorization phase only. -/
theorem Accepts.of_authorization (hacc : Accepts r s s') (hr : r.type = .authorizationReq) :
    s.phase = .authorization := by
  cases hacc with
  | directSetup _ htype | negotiate _ htype => simp [hr] at htype
  | move hknown hagree hmove => cases hmove <;> grind [Request.type_of_powerDelivery]

/-- A ChargeParameterDiscoveryReq is accepted in the authorization phase, where it has to be of the
session's protocol, or once one was accepted. -/
theorem Accepts.of_chargeParameterDiscovery (hacc : Accepts r s s')
    (hr : r.type = .chargeParameterDiscoveryReq) :
    s.phase = .authorization ∧ r.protocol ≠ .unknown ∧
        (s.protocol = .unknown ∨ s.protocol = r.protocol) ∨
      s.phase = .chargeParameters := by
  cases hacc with
  | directSetup _ htype | negotiate _ htype => simp [hr] at htype
  | move hknown hagree hmove => cases hmove <;> grind [Request.type_of_powerDelivery]

/-- The authorization phase accepts a ChargeParameterDiscoveryReq of the session's protocol. -/
theorem accepts_chargeParameterDiscovery (hphase : s.phase = .authorization)
    (htype : r.type = .chargeParameterDiscoveryReq) (hknown : r.protocol ≠ .unknown)
    (hagree : s.protocol = .unknown ∨ s.protocol = r.protocol) : ∃ s', Accepts r s s' :=
  ⟨_, .move hknown hagree (.chargeParameterDiscovery hphase htype)⟩

/-- An accepted request keeps the progress. -/
theorem SetupProgress.accepts (h : SetupProgress t s) (hacc : Accepts r s s') :
    SetupProgress (t ++ [.accepted r]) s' where
  behind := hacc.setupBehind h.behind
  authorized := by
    rintro ⟨e, he, htype⟩
    simp only [List.mem_append, List.mem_singleton] at he
    rcases he with he | rfl
    · exact (h.authorized ⟨e, he, htype⟩).append
    · -- the request itself authorizes, in the phase that has the payment setup behind it
      have hbehind := h.behind
      rw [hacc.of_authorization htype] at hbehind
      exact hbehind.concat htype

/-- Every input of the gate keeps the progress. -/
theorem SetupProgress.step (h : SetupProgress t s) (i : GateInput) :
    SetupProgress (t ++ (gate.step s i).2) (gate.step s i).1 := by
  rcases gate_step_cases s i with ⟨s', hcommit, heq⟩ | ⟨r, s', hacc, heq⟩ | heq <;> rw [heq]
  · rw [List.append_nil]
    exact ⟨by rw [hcommit.phase_eq]; exact h.behind, h.authorized⟩
  · exact h.accepts hacc
  · refine ⟨h.behind.append, fun hauth => (h.authorized ?_).append⟩
    simpa [acceptedType, or_and_right, exists_or] using hauth

/-- A fresh connection has made no progress. -/
theorem setupProgress_init : SetupProgress [] .init :=
  ⟨inOrder_nil, by simp⟩

/-- After justified events, an accepted ChargeParameterDiscoveryReq has the mandatory setup behind
it exactly when it does not overtake the authorization. -/
theorem SetupProgress.ordered_iff (h : SetupProgress t s) (hjust : Justified SetupOrdered t)
    (hacc : Accepts r s s') : SetupOrdered t (.accepted r) ↔ AuthorizesFirst t s (.request r) := by
  constructor
  · intro hordered hphase htype hknown hagree
    exact (hordered htype).exists_mem (by simp [mandatorySetup])
  · intro hfirst htype
    rcases hacc.of_chargeParameterDiscovery htype with ⟨hphase, hknown, hagree⟩ | hphase
    · exact h.authorized (hfirst hphase htype hknown hagree)
    · -- the request repeats one that was accepted with the setup behind it
      have hbehind := h.behind
      rw [hphase] at hbehind
      obtain ⟨e, he, hdiscovered⟩ := hbehind.exists_mem (List.mem_singleton_self _)
      obtain ⟨pre, post, rfl⟩ := List.append_of_mem he
      exact (hjust pre e post rfl hdiscovered).append

/-- The condition decides each step of the gate. -/
theorem SetupProgress.step_iff (h : SetupProgress t s) (hjust : Justified SetupOrdered t)
    (i : GateInput) :
    Justified SetupOrdered (t ++ (gate.step s i).2) ↔ AuthorizesFirst t s i := by
  cases i with
  | resumeGrant =>
    refine iff_of_true (hjust.concat ?_) trivial
    exact fun hgranted => hgranted.elim
  | request r =>
    rcases hgate : seccAcceptRequestSequence s r with ⟨s', e | ⟨⟨⟩⟩⟩
    -- a rejected request is no event, and no ChargeParameterDiscoveryReq that could be accepted
    · have hevents : (gate.step s (.request r)).2 = [] := by simp [gate, gateStep, hgate]
      rw [hevents, List.append_nil]
      apply iff_of_true hjust
      intro hphase htype hknown hagree
      obtain ⟨s'', hacc⟩ := accepts_chargeParameterDiscovery hphase htype hknown hagree
      rw [← accepts_iff, hgate] at hacc
      cases hacc
    · have hacc := accepts_of_ok hgate
      have hevents : (gate.step s (.request r)).2 = [.accepted r] := by
        simp [gate, gateStep, hgate]
      rw [hevents, ← h.ordered_iff hjust hacc]
      exact hjust.concat_iff

/-- Over every list of requests and resume grants, an accepted ChargeParameterDiscoveryReq is
preceded by SessionSetup, ServiceDiscovery, PaymentServiceSelection and Authorization, accepted in
this order, exactly when no ChargeParameterDiscoveryReq overtakes the Authorization. -/
theorem setup_ordered_iff (inputs : List GateInput) :
    Justified SetupOrdered (gateTrace inputs) ↔
      gate.Meets AuthorizesFirst [] .init inputs :=
  gate.justified_run_iff_meets SetupProgress (fun _ _ i h => h.step i)
    (fun _ _ i h hjust => h.step_iff hjust i) setupProgress_init inputs

/-- A request of an ISO 15118-2 session. -/
def Iso2Body.request (body : Iso2Body) : Request :=
  { type := body.messageType
    protocol := .iso15118_2
    header := some [1, 2, 3, 4, 5, 6, 7, 8]
    dinHeader := none
    body := some (.iso2 body) }

/-- The negotiation of ISO 15118-2 and the setup up to the payment selection. -/
def setupWithoutAuthorization : List Request :=
  { type := .suppAppProtocolReq
    protocol := .iso15118_2
    header := none
    dinHeader := none
    body := some (.app [
      { protocolNamespace := "urn:iso:15118:2:2013:MsgDef".toList
        versionNumberMajor := 2
        versionNumberMinor := 0
        schemaId := 1
        priority := 1 }]) } ::
  [Iso2Body.sessionSetupReq, .serviceDiscoveryReq,
    .paymentServiceSelectionReq .externalPayment].map Iso2Body.request

/-- The setup up to the payment selection is enough for a ChargeParameterDiscoveryReq. -/
theorem not_setup_ordered : ¬∀ inputs, Justified SetupOrdered (gateTrace inputs) := by
  intro h
  let last := Iso2Body.request (.chargeParameterDiscoveryReq .dcCore)
  have hlast := h ((setupWithoutAuthorization ++ [last]).map .request)
    (setupWithoutAuthorization.map .accepted) (.accepted last) [] (by decide) rfl
  -- none of the accepted requests is an AuthorizationReq
  have hauth : ∃ e ∈ setupWithoutAuthorization.map .accepted,
      acceptedType .authorizationReq e := hlast.exists_mem (by simp [mandatorySetup])
  exact absurd hauth (by decide)

end Jpv2g
