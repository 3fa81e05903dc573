import Jpv2g.StateSecc

/-!
# The Accepted Transitions of the Request Sequencer

An abstract view of the sequencer: the transitions that accept a request, one constructor each,
with the guards under which they are taken. The sequencer accepts exactly along these
transitions, and a rejected request commits at most the protocol.

## Main definitions

* `Moves`: the transitions of a sequence whose protocol is fixed.
* `Accepts`: all accepted transitions.

## Main results

* `accepts_iff`: a request is accepted exactly along one of the transitions.
* `commits_of_error`: a rejected request commits at most the protocol.
-/

namespace Jpv2g

/-- The transitions of a sequence that has fixed its protocol. -/
inductive Moves (r : Request) (s : Sequence) : Sequence → Prop
  | sessionStop (hstart : s.phase ≠ .appProtocol) (hsetup : s.phase ≠ .sessionSetup)
      (hopen : s.phase ≠ .complete) (htype : r.type = .sessionStopReq) :
      Moves r s { s with phase := .complete }
  | retryAppProtocol (hphase : s.phase = .sessionSetup) (htype : r.type = .suppAppProtocolReq) :
      Moves r s s
  | sessionSetup (hphase : s.phase = .sessionSetup) (htype : r.type = .sessionSetupReq) :
      Moves r s { s with phase := .serviceDiscovery }
  | serviceDiscovery (hphase : s.phase = .serviceDiscovery)
      (htype : r.type = .serviceDiscoveryReq) :
      Moves r s { s with phase := .serviceSelection }
  | inspectServices (hphase : s.phase = .serviceSelection)
      (htype : r.type = .serviceDiscoveryReq ∨ r.type = .serviceDetailReq) :
      Moves r s s
  | paymentServiceSelection (hphase : s.phase = .serviceSelection)
      (htype : r.type = .paymentServiceSelectionReq) :
      Moves r s { s with phase := .authorization }
  | authorize (hphase : s.phase = .authorization)
      (htype : r.type = .paymentServiceSelectionReq ∨ r.type = .paymentDetailsReq ∨
        r.type = .authorizationReq) :
      Moves r s s
  | chargeParameterDiscovery (hphase : s.phase = .authorization)
      (htype : r.type = .chargeParameterDiscoveryReq) :
      Moves r s { s with phase := .chargeParameters }
  | repeatChargeParameterDiscovery (hphase : s.phase = .chargeParameters)
      (htype : r.type = .chargeParameterDiscoveryReq) :
      Moves r s s
  | cableCheck (hphase : s.phase = .chargeParameters) (htype : r.type = .cableCheckReq) :
      Moves r s { s with phase := .cableCheck, dcMode := true, modeKnown := true }
  | repeatCableCheck (hphase : s.phase = .cableCheck) (htype : r.type = .cableCheckReq) :
      Moves r s s
  | preCharge (hphase : s.phase = .cableCheck) (htype : r.type = .preChargeReq) :
      Moves r s { s with phase := .preCharge }
  | repeatPreCharge (hphase : s.phase = .preCharge) (htype : r.type = .preChargeReq) :
      Moves r s s
  | startDirectly (hphase : s.phase = .chargeParameters) (hprotocol : r.protocol ≠ .din70121)
      (hpower : r.powerDelivery = some .start) :
      Moves r s { s with phase := .powerDelivery, dcMode := s.isDc, modeKnown := true }
  | start (hphase : s.phase = .preCharge ∨ s.phase = .powerDelivery ∨ s.phase = .charging)
      (hpower : r.powerDelivery = some .start) :
      Moves r s { s with phase := .powerDelivery }
  | stop (hphase : s.phase = .preCharge ∨ s.phase = .powerDelivery ∨ s.phase = .charging ∨
        s.phase = .powerDeliveryStop)
      (hpower : r.powerDelivery = some .stop) :
      Moves r s { s with phase := .powerDeliveryStop }
  | renegotiate (hphase : s.phase = .powerDelivery ∨ s.phase = .charging)
      (hprotocol : r.protocol = .iso15118_2) (hpower : r.powerDelivery = some .renegotiate) :
      Moves r s { s with phase := .chargeParameters }
  | demand (hphase : s.phase = .powerDelivery ∨ s.phase = .charging)
      (htype : s.dcMode = true ∧ r.type = .currentDemandReq ∨
        s.dcMode = false ∧ r.type = .chargingStatusReq) :
      Moves r s { s with phase := .charging }
  | meteringReceipt (hphase : s.phase = .charging) (htype : r.type = .meteringReceiptReq) :
      Moves r s s
  | weldingDetection (hphase : s.phase = .powerDelivery ∨ s.phase = .charging ∨
        s.phase = .powerDeliveryStop)
      (hdc : s.dcMode = true) (htype : r.type = .weldingDetectionReq) :
      Moves r s { s with phase := .welding }
  | repeatWeldingDetection (hphase : s.phase = .welding)
      (htype : r.type = .weldingDetectionReq) :
      Moves r s s

/-- The accepted transitions of the sequencer. -/
inductive Accepts (r : Request) (s : Sequence) : Sequence → Prop
  | directSetup (hphase : s.phase = .appProtocol) (htype : r.type = .sessionSetupReq)
      (hprotocol : r.protocol = .din70121) :
      Accepts r s { s with phase := .serviceDiscovery, protocol := .din70121 }
  | negotiate (hphase : s.phase = .appProtocol) (htype : r.type = .suppAppProtocolReq) :
      Accepts r s
        { s with
          phase := .sessionSetup
          protocol := if r.protocol = .unknown then s.protocol else r.protocol }
  | move (hprotocol : r.protocol ≠ .unknown)
      (hagree : s.protocol = .unknown ∨ s.protocol = r.protocol) {s' : Sequence}
      (hmove : Moves r { s with protocol := r.protocol } s') : Accepts r s s'

/-- A PowerDeliveryReq that asks for anything is a PowerDeliveryReq. -/
theorem Request.type_of_powerDelivery {r : Request} {progress : ChargeProgress}
    (h : r.powerDelivery = some progress) : r.type = .powerDeliveryReq := by
  unfold Request.powerDelivery at h
  split at h <;> simp_all

/-- A transition of a fixed protocol keeps the protocol. -/
theorem Moves.protocol_eq {r : Request} {s s' : Sequence} (h : Moves r s s') :
    s'.protocol = s.protocol := by
  cases h <;> rfl

/-- Nothing is accepted in a completed session. -/
theorem Accepts.phase_ne_complete {r : Request} {s s' : Sequence} (hacc : Accepts r s s') :
    s.phase ≠ .complete := by
  cases hacc with
  | directSetup hphase | negotiate hphase => simp [hphase]
  | move hknown hagree hmove => cases hmove <;> grind

/-- A SessionStopReq completes the session. -/
theorem Accepts.of_sessionStop {r : Request} {s s' : Sequence} (hacc : Accepts r s s')
    (hr : r.type = .sessionStopReq) : s'.phase = .complete := by
  cases hacc with
  | directSetup _ htype | negotiate _ htype => simp [hr] at htype
  | move hknown hagree hmove => cases hmove <;> grind [Request.type_of_powerDelivery]

/-- A PowerDelivery Stop leads to the stop phase. -/
theorem Accepts.of_stop {r : Request} {s s' : Sequence} (hacc : Accepts r s s')
    (hr : r.powerDelivery = some .stop) : s'.phase = .powerDeliveryStop := by
  have htype := Request.type_of_powerDelivery hr
  cases hacc with
  | directSetup _ h | negotiate _ h => simp [htype] at h
  | move hknown hagree hmove => cases hmove <;> grind

/-- A negotiation leads to the setup, and fixes the protocol of its request. -/
theorem Accepts.of_suppAppProtocol {r : Request} {s s' : Sequence} (hacc : Accepts r s s')
    (hr : r.type = .suppAppProtocolReq) :
    s'.phase = .sessionSetup ∧ (r.protocol ≠ .unknown → s'.protocol = r.protocol) := by
  cases hacc with
  | directSetup _ htype => simp [hr] at htype
  | negotiate => exact ⟨rfl, fun hknown => by simp [hknown]⟩
  | move hknown hagree hmove =>
    refine ⟨?_, fun _ => hmove.protocol_eq⟩
    cases hmove <;> grind [Request.type_of_powerDelivery]

/-- A request after the setup is accepted after the setup. -/
theorem Accepts.past_setup {r : Request} {s s' : Sequence} (hacc : Accepts r s s')
    (happ : r.type ≠ .suppAppProtocolReq) (hsetup : r.type ≠ .sessionSetupReq) :
    s.phase ≠ .appProtocol ∧ s.phase ≠ .sessionSetup := by
  cases hacc with
  | directSetup _ htype => exact absurd htype hsetup
  | negotiate _ htype => exact absurd htype happ
  | move _ _ hmove => cases hmove <;> grind

/-! ## Accepted requests -/

namespace Sequence

variable {s s' : Sequence} {phase : Phase}

/-- An advance succeeds, and moves the phase only. -/
@[simp]
theorem advance_eq_ok : s.advance phase = (s', .ok ()) ↔ { s with phase } = s' := by
  simp [advance]

/-- A stay succeeds, and changes nothing. -/
@[simp]
theorem stay_eq_ok : s.stay = (s', .ok ()) ↔ s = s' := by
  simp [stay]

/-- A rejection never succeeds. -/
@[simp]
theorem reject_ne_ok : s.reject = (s', .ok ()) ↔ False := by
  simp [reject]

end Sequence

/-- The protocol check passes exactly when it leaves the request's protocol committed. -/
theorem seccSequenceRequireProtocol_ok {s s' : Sequence} {p : Protocol}
    (h : seccSequenceRequireProtocol s p = (s', .ok ())) :
    p ≠ .unknown ∧ (s.protocol = .unknown ∨ s.protocol = p) ∧
      s' = { s with protocol := p } := by
  unfold seccSequenceRequireProtocol at h
  split_ifs at h with hp hs heq
  · simp at h
  · exact ⟨hp, .inl hs, by simpa using (Prod.mk.inj h).1.symm⟩
  · subst heq
    exact ⟨hp, .inr rfl, (Sequence.stay_eq_ok.mp h).symm⟩
  · simp at h

/-- The phase table accepts a request other than PowerDelivery along a transition. -/
theorem moves_of_phase_ok {r : Request} {s s' : Sequence} (hr : r.type ≠ .powerDeliveryReq)
    (hs : s.protocol = r.protocol)
    (h : seccSequenceAcceptPhase s r.protocol r.type = (s', .ok ())) : Moves r s s' := by
  -- one case for each phase of the source, and one move for each branch that accepts
  cases hphase : s.phase <;> simp only [seccSequenceAcceptPhase, hphase, hr, if_false] at h
  case appProtocol | complete => simp at h
  -- the negotiation may be repeated, with or without a protocol that was selected
  case sessionSetup =>
    split_ifs at h with happ hbad hknown hsetup <;> simp at h
    · subst h
      simpa [← hs, ← hphase] using Moves.retryAppProtocol hphase happ
    · subst h
      exact .retryAppProtocol hphase happ
    · subst h
      exact .sessionSetup hphase hsetup
  case serviceDiscovery =>
    split_ifs at h with htype <;> simp at h
    subst h
    exact .serviceDiscovery hphase htype
  case serviceSelection =>
    split_ifs at h with hinspect hpay <;> simp at h
    · subst h
      exact .inspectServices hphase hinspect
    · subst h
      exact .paymentServiceSelection hphase hpay
  case authorization =>
    split_ifs at h with hauth hcpd <;> simp at h
    · subst h
      exact .authorize hphase hauth
    · subst h
      exact .chargeParameterDiscovery hphase hcpd
  case chargeParameters =>
    split_ifs at h with hcpd hcable <;> simp at h
    · subst h
      exact .repeatChargeParameterDiscovery hphase hcpd
    · subst h
      exact .cableCheck hphase hcable
  case cableCheck =>
    split_ifs at h with hcable hpre <;> simp at h
    · subst h
      exact .repeatCableCheck hphase hcable
    · subst h
      exact .preCharge hphase hpre
  case preCharge =>
    split_ifs at h with hpre <;> simp at h
    subst h
    exact .repeatPreCharge hphase hpre
  case powerDelivery =>
    split_ifs at h with hstop hdemand hstatus hweld <;> simp at h <;> subst h
    · exact .sessionStop (by simp [hphase]) (by simp [hphase]) (by simp [hphase]) hstop
    · exact .demand (.inl hphase) (.inl hdemand)
    · exact .demand (.inl hphase) (.inr (by simpa using hstatus))
    · exact .weldingDetection (.inl hphase) hweld.1 hweld.2
  -- the charging loop keeps its phase for the three requests of the loop
  case charging =>
    split_ifs at h with hloop hweld hstop <;> simp at h <;> subst h
    · rcases hloop with hdemand | hstatus | hmeter
      · simpa [← hphase] using Moves.demand (.inr hphase) (.inl hdemand)
      · simpa [← hphase] using Moves.demand (.inr hphase) (.inr (by simpa using hstatus))
      · exact .meteringReceipt hphase hmeter
    · exact .weldingDetection (.inr (.inl hphase)) hweld.1 hweld.2
    · exact .sessionStop (by simp [hphase]) (by simp [hphase]) (by simp [hphase]) hstop
  case powerDeliveryStop =>
    split_ifs at h with hweld hstop <;> simp at h <;> subst h
    · exact .weldingDetection (.inr (.inr hphase)) hweld.1 hweld.2
    · exact .sessionStop (by simp [hphase]) (by simp [hphase]) (by simp [hphase]) hstop
  case welding =>
    split_ifs at h with hweld hstop <;> simp at h <;> subst h
    · exact .repeatWeldingDetection hphase hweld
    · exact .sessionStop (by simp [hphase]) (by simp [hphase]) (by simp [hphase]) hstop

/-- The phase table accepts a PowerDelivery Start along a transition. -/
theorem moves_of_start_ok {r : Request} {s s' : Sequence} (hpower : r.powerDelivery = some .start)
    (h : seccSequenceAcceptPowerDeliveryPhase s r.protocol true = (s', .ok ())) :
    Moves r s s' := by
  cases hphase : s.phase <;> simp [seccSequenceAcceptPowerDeliveryPhase, hphase] at h
  case chargeParameters =>
    split_ifs at h with hdin hmode <;> simp at h <;> subst h <;>
      simpa [Sequence.isDc, hmode] using Moves.startDirectly hphase hdin hpower
  case preCharge => exact h ▸ .start (.inl hphase) hpower
  case powerDelivery => exact h ▸ .start (.inr (.inl hphase)) hpower
  case charging => exact h ▸ .start (.inr (.inr hphase)) hpower

/-- The phase table accepts a PowerDelivery Stop along a transition. -/
theorem moves_of_stop_ok {r : Request} {s s' : Sequence} (hpower : r.powerDelivery = some .stop)
    (h : seccSequenceAcceptPowerDeliveryPhase s r.protocol false = (s', .ok ())) :
    Moves r s s' := by
  cases hphase : s.phase <;> simp [seccSequenceAcceptPowerDeliveryPhase, hphase] at h
  case preCharge => exact h ▸ .stop (.inl hphase) hpower
  case powerDelivery => exact h ▸ .stop (.inr (.inl hphase)) hpower
  case charging => exact h ▸ .stop (.inr (.inr (.inl hphase))) hpower
  case powerDeliveryStop => exact h ▸ .stop (.inr (.inr (.inr hphase))) hpower

/-- A PowerDelivery Start or Stop is accepted along a transition. -/
theorem accepts_of_powerDelivery_ok {r : Request} {s s' : Sequence} {energyEnabled : Bool}
    (hpower : r.powerDelivery = some (if energyEnabled then .start else .stop))
    (h : seccSequenceAcceptPowerDelivery s r.protocol energyEnabled = (s', .ok ())) :
    Accepts r s s' := by
  unfold seccSequenceAcceptPowerDelivery at h
  split at h
  · simp at h
  · rename_i s₀ hrequire
    obtain ⟨hp, hagree, rfl⟩ := seccSequenceRequireProtocol_ok hrequire
    cases energyEnabled with
    | false => exact .move hp hagree (moves_of_stop_ok hpower h)
    | true => exact .move hp hagree (moves_of_start_ok hpower h)

/-- A PowerDelivery Renegotiate is accepted along a transition. -/
theorem accepts_of_renegotiation_ok {r : Request} {s s' : Sequence}
    (hpower : r.powerDelivery = some .renegotiate)
    (h : seccSequenceAcceptRenegotiation s r.protocol = (s', .ok ())) : Accepts r s s' := by
  unfold seccSequenceAcceptRenegotiation at h
  split at h
  · simp at h
  · rename_i s₀ hrequire
    obtain ⟨hp, hagree, rfl⟩ := seccSequenceRequireProtocol_ok hrequire
    refine .move hp hagree ?_
    split_ifs at h with hiso hphase <;> simp at h
    subst h
    exact .renegotiate (by tauto) (not_not.mp hiso) hpower

/-- A request other than PowerDelivery is accepted along a transition. -/
theorem accepts_of_accept_ok {r : Request} {s s' : Sequence} (hr : r.type ≠ .powerDeliveryReq)
    (h : seccSequenceAccept s r.protocol r.type = (s', .ok ())) : Accepts r s s' := by
  unfold seccSequenceAccept at h
  split_ifs at h with hphase
  -- before the negotiation: the DIN shortcut, or a negotiation with or without a selection
  · unfold seccSequenceAcceptAppProtocol at h
    split_ifs at h with hdirect hsapp hknown <;> simp at h <;> subst h
    · simpa [hdirect.2] using Accepts.directSetup hphase hdirect.1 hdirect.2
    · simpa [hknown] using Accepts.negotiate (r := r) hphase (not_not.mp hsapp)
    · simpa [not_not.mp hknown] using Accepts.negotiate (r := r) hphase (not_not.mp hsapp)
  · split at h
    · simp at h
    · rename_i s₀ hrequire
      obtain ⟨hp, hagree, rfl⟩ := seccSequenceRequireProtocol_ok hrequire
      refine .move hp hagree ?_
      -- the graceful abort is judged before the phase table
      split_ifs at h with hstop
      · simp at h
        subst h
        refine .sessionStop hphase ?_ ?_ hstop.1 <;> intro heq <;>
          simp [Phase.rank, show s.phase = _ from heq] at hstop
      · exact moves_of_phase_ok hr rfl h

/-- Every accepted request takes one of the accepted transitions. -/
theorem accepts_of_ok {r : Request} {s s' : Sequence}
    (h : seccAcceptRequestSequence s r = (s', .ok ())) : Accepts r s s' := by
  unfold seccAcceptRequestSequence at h
  split_ifs at h with hr
  · exact accepts_of_accept_ok hr h
  -- a PowerDeliveryReq is judged by its body, which the grammar of the protocol reads
  · rw [not_not] at hr
    split at h
    · simp at h
    cases hprotocol : r.protocol <;> simp only [hprotocol] at h
    case din70121 =>
      rw [← hprotocol] at h
      split at h <;> rename_i hready
      · refine accepts_of_powerDelivery_ok ?_ h
        simp [Request.powerDelivery, hr, hprotocol, hready]
      · simp at h
    case iso15118_2 =>
      rw [← hprotocol] at h
      have hpower : r.powerDelivery = r.iso2ChargeProgress := by
        simp [Request.powerDelivery, hr, hprotocol]
      split at h <;> rename_i hprogress
      · exact accepts_of_powerDelivery_ok (by simpa [hpower] using hprogress) h
      · exact accepts_of_powerDelivery_ok (by simpa [hpower] using hprogress) h
      · exact accepts_of_renegotiation_ok (hpower.trans hprogress) h
      all_goals simp at h
    all_goals simp at h

/-! ## Every transition is taken -/

section Taken

variable {r : Request} {s s' : Sequence}

/-- A request of the protocol the sequence has, or is free to take, passes the protocol check. -/
theorem seccSequenceRequireProtocol_of_agree {p : Protocol} (hp : p ≠ .unknown)
    (hagree : s.protocol = .unknown ∨ s.protocol = p) :
    seccSequenceRequireProtocol s p = ({ s with protocol := p }, .ok ()) := by
  unfold seccSequenceRequireProtocol
  rcases hagree with hunknown | rfl
  · simp [hp, hunknown]
  · simp [hp, Sequence.stay]

/-- A request other than PowerDelivery is judged by its type. -/
theorem seccAcceptRequestSequence_of_ne (hr : r.type ≠ .powerDeliveryReq) :
    seccAcceptRequestSequence s r = seccSequenceAccept s r.protocol r.type := by
  simp [seccAcceptRequestSequence, hr]

/-- A PowerDeliveryReq is judged by what it asks for. -/
theorem seccAcceptRequestSequence_of_powerDelivery {progress : ChargeProgress}
    (hpower : r.powerDelivery = some progress) :
    seccAcceptRequestSequence s r =
      match progress with
      | .start => seccSequenceAcceptPowerDelivery s r.protocol true
      | .stop => seccSequenceAcceptPowerDelivery s r.protocol false
      | .renegotiate => seccSequenceAcceptRenegotiation s r.protocol
      | .reserved => s.reject := by
  have htype := Request.type_of_powerDelivery hpower
  cases hprotocol : r.protocol <;> simp only [Request.powerDelivery, htype, hprotocol] at hpower
  -- DIN knows start and stop only
  case din70121 =>
    rcases hbody : r.dinReadyToCharge with _ | ready
    · simp [hbody] at hpower
    · have hsome : ∃ body, r.body = some body := by
        unfold Request.dinReadyToCharge at hbody
        split at hbody <;> simp_all
      obtain ⟨body, hsome⟩ := hsome
      rw [hbody] at hpower
      cases ready <;> simp at hpower <;> subst hpower <;>
        simp [seccAcceptRequestSequence, htype, hsome, hprotocol, hbody]
  case iso15118_2 =>
    have hsome : ∃ body, r.body = some body := by
      unfold Request.iso2ChargeProgress at hpower
      split at hpower <;> simp_all
    obtain ⟨body, hsome⟩ := hsome
    cases progress <;> simp [seccAcceptRequestSequence, htype, hsome, hprotocol, hpower]
  -- without a protocol there is no progress to look at
  all_goals simp at hpower

/-- A transition of a fixed protocol starts in a phase after negotiation. -/
theorem Moves.phase_ne (h : Moves r s s') : s.phase ≠ .appProtocol := by
  cases h <;> grind

/-- The phase table takes the transitions of the requests that are neither PowerDelivery nor
SessionStop. -/
theorem Moves.phase_ok (hmove : Moves r s s') (hp : r.protocol ≠ .unknown)
    (hagree : s.protocol = r.protocol) (hpower : r.type ≠ .powerDeliveryReq)
    (hstop : r.type ≠ .sessionStopReq) :
    seccSequenceAcceptPhase s r.protocol r.type = (s', .ok ()) := by
  cases hmove with
  | sessionStop _ _ _ htype => exact absurd htype hstop
  | startDirectly _ _ h | start _ h | stop _ h | renegotiate _ _ h =>
    exact absurd (Request.type_of_powerDelivery h) hpower
  | retryAppProtocol hphase htype =>
    have hknown : s.protocol ≠ .unknown := hagree ▸ hp
    simp [seccSequenceAcceptPhase, hphase, htype, ← hagree, hknown]
    rw [← hphase]
  | inspectServices hphase htype =>
    rcases htype with htype | htype <;> simp [seccSequenceAcceptPhase, hphase, htype]
  | authorize hphase htype =>
    rcases htype with htype | htype | htype <;> simp [seccSequenceAcceptPhase, hphase, htype]
  | demand hphase htype =>
    -- the charging loop stays in its phase, the first demand enters it
    rcases hphase with hphase | hphase <;> rcases htype with ⟨hmode, htype⟩ | ⟨hmode, htype⟩ <;>
      simp [seccSequenceAcceptPhase, hphase, htype, hmode]
    all_goals rw [← hphase, ← hmode]
  | weldingDetection hphase hdc htype =>
    rcases hphase with hphase | hphase | hphase <;>
      simp [seccSequenceAcceptPhase, hphase, htype, hdc]
  | _ hphase htype => simp [seccSequenceAcceptPhase, hphase, htype]

/-- The PowerDelivery transitions are taken. -/
theorem Moves.power_ok (hp : r.protocol ≠ .unknown)
    (hagree : s.protocol = .unknown ∨ s.protocol = r.protocol)
    (hmove : Moves r { s with protocol := r.protocol } s') (hr : r.type = .powerDeliveryReq) :
    seccAcceptRequestSequence s r = (s', .ok ()) := by
  have hrequire := seccSequenceRequireProtocol_of_agree hp hagree
  -- the moves of a PowerDeliveryReq, each through the function its progress calls
  cases hmove with
  | startDirectly hphase hdin hpower =>
    rw [seccAcceptRequestSequence_of_powerDelivery hpower]
    cases hmode : s.modeKnown <;>
      simp [seccSequenceAcceptPowerDelivery, hrequire, seccSequenceAcceptPowerDeliveryPhase,
        show s.phase = _ from hphase, hdin, hmode, Sequence.isDc]
  | start hphase hpower =>
    rw [seccAcceptRequestSequence_of_powerDelivery hpower]
    rcases hphase with hphase | hphase | hphase <;>
      simp [seccSequenceAcceptPowerDelivery, hrequire, seccSequenceAcceptPowerDeliveryPhase,
        show s.phase = _ from hphase]
  | stop hphase hpower =>
    rw [seccAcceptRequestSequence_of_powerDelivery hpower]
    rcases hphase with hphase | hphase | hphase | hphase <;>
      simp [seccSequenceAcceptPowerDelivery, hrequire, seccSequenceAcceptPowerDeliveryPhase,
        show s.phase = _ from hphase]
  | renegotiate hphase hiso hpower =>
    rw [seccAcceptRequestSequence_of_powerDelivery hpower]
    rw [hiso] at hrequire ⊢
    rcases hphase with hphase | hphase <;>
      simp [seccSequenceAcceptRenegotiation, hrequire, show s.phase = _ from hphase]
  | _ => simp_all

/-- A SessionStopReq is taken in every phase between the setup and the end. -/
theorem Moves.sessionStop_ok (hp : r.protocol ≠ .unknown)
    (hagree : s.protocol = .unknown ∨ s.protocol = r.protocol)
    (hmove : Moves r { s with protocol := r.protocol } s') (hr : r.type = .sessionStopReq) :
    seccAcceptRequestSequence s r = (s', .ok ()) := by
  have hrequire := seccSequenceRequireProtocol_of_agree hp hagree
  cases hmove with
  | sessionStop hstart hsetup hopen =>
    rw [seccAcceptRequestSequence_of_ne (by simp [hr]), seccSequenceAccept, if_neg hstart,
      hrequire]
    cases hphase : s.phase <;> simp_all [Phase.rank]
  | startDirectly _ _ h | start _ h | stop _ h | renegotiate _ _ h =>
    exact absurd ((Request.type_of_powerDelivery h).symm.trans hr) (by simp)
  | _ => simp_all

/-- The sequencer accepts exactly along its accepted transitions. -/
theorem accepts_iff : seccAcceptRequestSequence s r = (s', .ok ()) ↔ Accepts r s s' := by
  refine ⟨accepts_of_ok, ?_⟩
  intro hacc
  -- each way of accepting, through the function that the request is handed to
  cases hacc with
  | directSetup hphase htype hdin =>
    rw [seccAcceptRequestSequence_of_ne (by simp [htype])]
    simp [seccSequenceAccept, hphase, seccSequenceAcceptAppProtocol, htype, hdin]
  | negotiate hphase htype =>
    rw [seccAcceptRequestSequence_of_ne (by simp [htype])]
    by_cases hknown : r.protocol = .unknown <;>
      simp [seccSequenceAccept, hphase, seccSequenceAcceptAppProtocol, htype, hknown]
  | move hp hagree hmove =>
    by_cases hpower : r.type = .powerDeliveryReq
    · exact hmove.power_ok hp hagree hpower
    by_cases hstop : r.type = .sessionStopReq
    · exact hmove.sessionStop_ok hp hagree hstop
    have hphase : s.phase ≠ .appProtocol := hmove.phase_ne
    rw [seccAcceptRequestSequence_of_ne hpower, seccSequenceAccept, if_neg hphase,
      seccSequenceRequireProtocol_of_agree hp hagree]
    simpa [hstop] using hmove.phase_ok hp rfl hpower hstop

end Taken

/-! ## Rejected requests -/

/-- The sequences a rejected request can leave behind: the protocol may have been committed,
everything else is as before. -/
def CommitsAtMost (s s' : Sequence) : Prop :=
  s' = s ∨ s.protocol = .unknown ∧ s' = { s with protocol := s'.protocol }

theorem CommitsAtMost.phase_eq {s s' : Sequence} (h : CommitsAtMost s s') :
    s'.phase = s.phase := by
  rcases h with rfl | ⟨-, h⟩
  · rfl
  · rw [h]

theorem CommitsAtMost.dcMode_eq {s s' : Sequence} (h : CommitsAtMost s s') :
    s'.dcMode = s.dcMode := by
  rcases h with rfl | ⟨-, h⟩
  · rfl
  · rw [h]

theorem CommitsAtMost.modeKnown_eq {s s' : Sequence} (h : CommitsAtMost s s') :
    s'.modeKnown = s.modeKnown := by
  rcases h with rfl | ⟨-, h⟩
  · rfl
  · rw [h]

/-- Whatever its verdict, the protocol check commits at most the protocol. -/
theorem seccSequenceRequireProtocol_commits (s : Sequence) (p : Protocol) :
    CommitsAtMost s (seccSequenceRequireProtocol s p).1 := by
  unfold seccSequenceRequireProtocol
  split_ifs with hp hs heq
  · exact .inl rfl
  · exact .inr ⟨hs, rfl⟩
  · exact .inl rfl
  · exact .inl rfl

/-- A request the PowerDelivery table rejects leaves the sequence alone. -/
theorem seccSequenceAcceptPowerDeliveryPhase_error {s s' : Sequence} {p : Protocol}
    {energyEnabled : Bool} {e : Errno}
    (h : seccSequenceAcceptPowerDeliveryPhase s p energyEnabled = (s', .error e)) : s' = s := by
  cases hphase : s.phase <;> simp only [seccSequenceAcceptPowerDeliveryPhase, hphase] at h <;>
    (try split_ifs at h) <;> simp_all [Sequence.advance, Sequence.reject]

/-- A protocol that has been checked passes the check again. -/
theorem seccSequenceRequireProtocol_self {s : Sequence} (hp : s.protocol ≠ .unknown) :
    seccSequenceRequireProtocol s s.protocol = (s, .ok ()) :=
  seccSequenceRequireProtocol_of_agree hp (.inr rfl)

/-- A request that the phase table rejects leaves the sequence alone. -/
theorem seccSequenceAcceptPhase_error {s s' : Sequence} {t : MessageType} {e : Errno}
    (hp : s.protocol ≠ .unknown)
    (h : seccSequenceAcceptPhase s s.protocol t = (s', .error e)) : s' = s := by
  -- the PowerDelivery of the table repeats a check that has already passed
  have hpower : ∀ {s' e}, seccSequenceAcceptPowerDelivery s s.protocol true = (s', .error e) →
      s' = s := by
    intro s' e h
    rw [seccSequenceAcceptPowerDelivery, seccSequenceRequireProtocol_self hp] at h
    exact seccSequenceAcceptPowerDeliveryPhase_error h
  cases hphase : s.phase <;> simp only [seccSequenceAcceptPhase, hphase] at h <;>
    (try split_ifs at h) <;>
    first
      | exact hpower h
      | simp_all [Sequence.advance, Sequence.stay, Sequence.reject]

/-- A rejected PowerDelivery Start or Stop commits at most the protocol. -/
theorem seccSequenceAcceptPowerDelivery_error {s s' : Sequence} {p : Protocol}
    {energyEnabled : Bool} {e : Errno}
    (h : seccSequenceAcceptPowerDelivery s p energyEnabled = (s', .error e)) :
    CommitsAtMost s s' := by
  have hrequire := seccSequenceRequireProtocol_commits s p
  unfold seccSequenceAcceptPowerDelivery at h
  split at h <;> rename_i s₀ hcheck <;> rw [hcheck] at hrequire
  · exact (Prod.mk.inj h).1 ▸ hrequire
  · exact seccSequenceAcceptPowerDeliveryPhase_error h ▸ hrequire

/-- A rejected Renegotiate commits at most the protocol. -/
theorem seccSequenceAcceptRenegotiation_error {s s' : Sequence} {p : Protocol} {e : Errno}
    (h : seccSequenceAcceptRenegotiation s p = (s', .error e)) : CommitsAtMost s s' := by
  have hrequire := seccSequenceRequireProtocol_commits s p
  unfold seccSequenceAcceptRenegotiation at h
  split at h <;> rename_i s₀ hcheck <;> rw [hcheck] at hrequire
  · exact (Prod.mk.inj h).1 ▸ hrequire
  · split_ifs at h with hiso hphase
    · exact (Prod.mk.inj h).1 ▸ hrequire
    · exact (Prod.mk.inj h).1 ▸ hrequire
    · simp [Sequence.advance] at h

/-- A request rejected by its type commits at most the protocol. -/
theorem seccSequenceAccept_error {s s' : Sequence} {p : Protocol} {t : MessageType} {e : Errno}
    (h : seccSequenceAccept s p t = (s', .error e)) : CommitsAtMost s s' := by
  have hrequire := seccSequenceRequireProtocol_commits s p
  unfold seccSequenceAccept at h
  split_ifs at h with hphase
  · unfold seccSequenceAcceptAppProtocol at h
    split_ifs at h
    all_goals first
      | exact .inl (Prod.mk.inj h).1.symm
      | simp [Sequence.advance] at h
  · split at h <;> rename_i s₀ hcheck
    · rw [hcheck] at hrequire
      exact (Prod.mk.inj h).1 ▸ hrequire
    · split_ifs at h with hstop
      · simp [Sequence.advance] at h
      · obtain ⟨hp, -, rfl⟩ := seccSequenceRequireProtocol_ok hcheck
        rw [hcheck] at hrequire
        exact seccSequenceAcceptPhase_error hp h ▸ hrequire

/-- A rejected request commits at most the protocol. -/
theorem commits_of_error {r : Request} {s s' : Sequence} {e : Errno}
    (h : seccAcceptRequestSequence s r = (s', .error e)) : CommitsAtMost s s' := by
  unfold seccAcceptRequestSequence at h
  split_ifs at h with hr
  · exact seccSequenceAccept_error h
  · split at h
    · exact .inl (Prod.mk.inj h).1.symm
    · split at h <;> (try split at h)
      all_goals first
        | exact seccSequenceAcceptPowerDelivery_error h
        | exact seccSequenceAcceptRenegotiation_error h
        | exact .inl (Prod.mk.inj h).1.symm

end Jpv2g
