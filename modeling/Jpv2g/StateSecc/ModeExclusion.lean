import Jpv2g.StateSecc.RejectedCalls

/-!
# Charging Modes in the Sequence Gate

The gate learns whether a session charges AC or DC on the way: a CableCheckReq or a resume grant
makes it DC for good, a direct PowerDelivery Start makes it AC as long as nothing made it DC. The
charging messages of the two modes exclude each other over every list of requests and grants.

The protocol of the session is not as firm. A PowerDeliveryReq that arrives before the negotiation
is rejected, but commits its protocol, and the negotiation that follows replaces it.

## Main definitions

* `ModeExclusive`: what one step of the gate respects, given the steps before it.
* `ExclusionInv`: the invariant, the mode and the protocol behind the phases of energy transfer.
* `KeepsProtocol`: a negotiation selects the protocol that has been committed, if there is one.

## Main results

* `mode_exclusive_iff`: a run is mode-exclusive exactly when its negotiations keep the protocol.
-/

namespace Jpv2g

open Trace GateEvent

/-- One step of the gate, with the sequences around it. -/
abbrev GateStep := Machine.Step Sequence GateInput GateEvent

/-- The steps of the gate from a fresh connection. -/
def gateSteps (inputs : List GateInput) : List GateStep :=
  (gate.logged.run .init inputs).2

/-- The event makes the session a DC session for good. -/
def GateEvent.FixesDc (e : GateEvent) : Prop :=
  e = .granted ∨ acceptedType .cableCheckReq e

/-- What a step of the gate respects: the charging status of a session is asked for under
ISO 15118-2 and outside DC mode only, current demand and welding detection inside it only, the DC
mode stays once it is fixed, and so does the protocol. -/
structure ModeExclusive (pre : List GateStep) (x : GateStep) : Prop where
  status : (∃ e ∈ x.events, acceptedType .chargingStatusReq e) →
    x.before.protocol = .iso15118_2 ∧ x.after.protocol = .iso15118_2 ∧ x.before.dcMode = false
  demand : (∃ e ∈ x.events,
      acceptedType .currentDemandReq e ∨ acceptedType .weldingDetectionReq e) →
    x.before.dcMode = true
  fixed : (∃ y ∈ pre ++ [x], ∃ e ∈ y.events, FixesDc e) →
    x.after.dcMode = true ∧ x.after.modeKnown = true
  protocol : x.before.protocol ≠ .unknown → x.after.protocol = x.before.protocol

/-- A negotiation, or a direct DIN 70121 setup, that finds a protocol committed is one of that
protocol. -/
def KeepsProtocol (_ : List GateStep) (s : Sequence) : GateInput → Prop
  | .request r =>
    s.phase = .appProtocol → s.protocol ≠ .unknown →
      r.type = .suppAppProtocolReq ∧ r.protocol ≠ .unknown ∨
          r.type = .sessionSetupReq ∧ r.protocol = .din70121 →
        r.protocol = s.protocol
  | .resumeGrant => True

/-! ## The invariant -/

/-- The mode and the protocol behind the phases of energy transfer. -/
structure ExclusionInv (t : List GateStep) (s : Sequence) : Prop where
  fixed : ProtocolFixed s
  known : s.dcMode = true → s.modeKnown = true
  /-- What made the session a DC session cannot be undone. -/
  sticky : (∃ x ∈ t, ∃ e ∈ x.events, FixesDc e) → s.dcMode = true
  /-- The phases that only a DC session passes. -/
  prepared : s.phase = .cableCheck ∨ s.phase = .preCharge ∨ s.phase = .welding → s.dcMode = true
  /-- Outside DC mode, energy is transferred under ISO 15118-2. -/
  powered : s.phase = .powerDelivery ∨ s.phase = .charging → s.dcMode = false →
    s.protocol = .iso15118_2

section

variable {t : List GateStep} {r : Request} {s s' : Sequence}

/-- A PowerDeliveryReq is written in one of the two legacy grammars. -/
theorem Request.protocol_of_powerDelivery {progress : ChargeProgress}
    (h : r.powerDelivery = some progress) : r.protocol = .din70121 ∨ r.protocol = .iso15118_2 := by
  cases hprotocol : r.protocol <;> simp_all [Request.powerDelivery]

/-- An accepted request leaves a protocol behind that is fixed past the setup. -/
theorem Accepts.protocolFixed (hacc : Accepts r s s') : ProtocolFixed s' := by
  cases hacc with
  | directSetup => exact .inr (.inr (by simp))
  | negotiate => exact .inr (.inl rfl)
  | move hknown _ hmove =>
    refine .inr (.inr ?_)
    rw [hmove.protocol_eq]
    exact hknown

/-- An accepted request never leaves the DC mode. -/
theorem Accepts.dcMode_of (hacc : Accepts r s s') (hknown : s.dcMode = true → s.modeKnown = true)
    (hdc : s.dcMode = true) : s'.dcMode = true := by
  cases hacc with
  | directSetup | negotiate => exact hdc
  | move _ _ hmove =>
    cases hmove with
    -- the one request that infers the mode keeps a known one
    | startDirectly => simp [Sequence.isDc, hdc, hknown hdc]
    | cableCheck => rfl
    | _ => exact hdc

/-- An accepted CableCheckReq enters the DC mode. -/
theorem Accepts.dcMode_of_cableCheck (hacc : Accepts r s s') (hr : r.type = .cableCheckReq)
    (hprepared : s.phase = .cableCheck → s.dcMode = true) : s'.dcMode = true := by
  cases hacc with
  | directSetup _ htype | negotiate _ htype => simp [hr] at htype
  | move _ _ hmove =>
    cases hmove with
    | cableCheck => rfl
    | repeatCableCheck hphase => exact hprepared hphase
    | _ => grind [Request.type_of_powerDelivery]

/-- An accepted request that knows the mode leaves it known. -/
theorem Accepts.modeKnown_of (hacc : Accepts r s s') (hknown : s.dcMode = true → s.modeKnown = true)
    (hdc : s'.dcMode = true) : s'.modeKnown = true := by
  cases hacc with
  | directSetup | negotiate => exact hknown hdc
  | move _ _ hmove =>
    cases hmove with
    | startDirectly | cableCheck => rfl
    | _ => exact hknown hdc

/-- The DC phases are entered in DC mode. -/
theorem Accepts.dcMode_of_prepared (hacc : Accepts r s s')
    (hprepared : s.phase = .cableCheck ∨ s.phase = .preCharge ∨ s.phase = .welding →
      s.dcMode = true)
    (h : s'.phase = .cableCheck ∨ s'.phase = .preCharge ∨ s'.phase = .welding) :
    s'.dcMode = true := by
  cases hacc with
  | directSetup | negotiate => simp at h
  | move _ _ hmove => cases hmove <;> grind

/-- Energy transfer outside DC mode starts under ISO 15118-2, by a direct Start. -/
theorem Accepts.iso2_of_powered (hacc : Accepts r s s')
    (hprepared : s.phase = .preCharge → s.dcMode = true)
    (hpowered : s.phase = .powerDelivery ∨ s.phase = .charging → s.dcMode = false →
      r.protocol = .iso15118_2)
    (h : s'.phase = .powerDelivery ∨ s'.phase = .charging) (hac : s'.dcMode = false) :
    s'.protocol = .iso15118_2 := by
  cases hacc with
  | directSetup | negotiate => simp at h
  | move _ _ hmove =>
    cases hmove with
    -- AC is entered by a PowerDeliveryReq right after the parameters, which DIN has not
    | startDirectly hphase hdin hpower =>
      exact (Request.protocol_of_powerDelivery hpower).resolve_left hdin
    | start hphase hpower =>
      rcases hphase with hphase | hphase
      · rw [show s.dcMode = false from hac] at hprepared
        cases hprepared hphase
      · exact hpowered hphase hac
    | demand hphase | meteringReceipt hphase => grind
    | _ => grind

/-- A step extends the log by itself. -/
theorem exists_mem_concat {p : GateStep → Prop} {x : GateStep} :
    (∃ y ∈ t ++ [x], p y) ↔ (∃ y ∈ t, p y) ∨ p x := by
  simp [or_and_right, exists_or]

/-- A rejected request keeps the invariant: past the setup there is no protocol to commit. -/
theorem ExclusionInv.commit (h : ExclusionInv t s) (hcommit : CommitsAtMost s s') (i : GateInput) :
    ExclusionInv (t ++ [⟨s, i, [], s'⟩]) s' := by
  have hphase : s'.phase = s.phase := hcommit.phase_eq
  -- a commitment fixes the protocol, and nothing else
  have hprotocol : s'.protocol = s.protocol ∨ s.protocol = .unknown := by
    rcases hcommit with rfl | ⟨hunknown, -⟩
    · exact .inl rfl
    · exact .inr hunknown
  refine ⟨?_, ?_, ?_, ?_, ?_⟩
  · rcases h.fixed with hp | hp | hknown
    · exact .inl (hphase.trans hp)
    · exact .inr (.inl (hphase.trans hp))
    · exact .inr (.inr ((hprotocol.resolve_right hknown).symm ▸ hknown))
  · rw [hcommit.dcMode_eq, hcommit.modeKnown_eq]
    exact h.known
  · rw [exists_mem_concat, hcommit.dcMode_eq]
    rintro (hfixed | ⟨e, he, -⟩)
    · exact h.sticky hfixed
    · cases he
  · rw [hphase, hcommit.dcMode_eq]
    exact h.prepared
  · rw [hphase, hcommit.dcMode_eq]
    intro hpowered hac
    rcases h.fixed with hp | hp | hknown
    · simp [hp] at hpowered
    · simp [hp] at hpowered
    · rw [hprotocol.resolve_right hknown]
      exact h.powered hpowered hac

/-- The protocol of a request accepted during energy transfer is the one the invariant names. -/
theorem ExclusionInv.iso2_of_accepts (h : ExclusionInv t s) (hacc : Accepts r s s')
    (hpowered : s.phase = .powerDelivery ∨ s.phase = .charging) (hac : s.dcMode = false) :
    r.protocol = .iso15118_2 := by
  have hprotocol : s.protocol = .iso15118_2 := h.powered hpowered hac
  cases hacc with
  | directSetup hphase | negotiate hphase => simp [hphase] at hpowered
  | move _ hagree =>
    rcases hagree with hunknown | hagree
    · simp [hprotocol] at hunknown
    · exact hagree.symm.trans hprotocol

/-- An accepted request keeps the invariant. -/
theorem ExclusionInv.accept (h : ExclusionInv t s) (hacc : Accepts r s s') (i : GateInput) :
    ExclusionInv (t ++ [⟨s, i, [.accepted r], s'⟩]) s' where
  fixed := hacc.protocolFixed
  known := hacc.modeKnown_of h.known
  sticky := by
    rw [exists_mem_concat]
    rintro (hfixed | ⟨e, he, hfixed⟩)
    · exact hacc.dcMode_of h.known (h.sticky hfixed)
    · -- the request itself fixes the mode: it is a CableCheckReq
      rw [List.mem_singleton] at he
      subst he
      have hr : r.type = .cableCheckReq := by simpa [FixesDc, acceptedType] using hfixed
      exact hacc.dcMode_of_cableCheck hr fun hphase => h.prepared (.inl hphase)
  prepared := hacc.dcMode_of_prepared h.prepared
  powered := by
    apply hacc.iso2_of_powered
    · exact fun hphase => h.prepared (.inr (.inl hphase))
    · exact h.iso2_of_accepts hacc

/-- A resume grant keeps the invariant. -/
theorem ExclusionInv.grant (h : ExclusionInv t s) :
    ExclusionInv (t ++ [⟨s, .resumeGrant, [.granted], s.grantResume⟩]) s.grantResume where
  fixed := h.fixed
  known := fun _ => rfl
  sticky := fun _ => rfl
  prepared := fun _ => rfl
  powered := by
    intro _ hac
    cases hac

/-- Every step of the gate keeps the invariant. -/
theorem ExclusionInv.step (h : ExclusionInv t s) (i : GateInput) :
    ExclusionInv (t ++ (gate.logged.step s i).2) (gate.logged.step s i).1 := by
  rw [Machine.logged_step]
  cases i with
  | resumeGrant => exact h.grant
  | request r =>
    rcases gate_step_cases s (.request r) with ⟨s', hcommit, heq⟩ | ⟨r', s', hacc, heq⟩ | heq <;>
      rw [heq]
    · exact h.commit hcommit _
    · exact h.accept hacc _
    · exact ⟨h.fixed, fun _ => rfl, fun _ => rfl, fun _ => rfl, fun _ hac => nomatch hac⟩

/-- A ChargingStatusReq is accepted during energy transfer outside DC mode. -/
theorem Accepts.of_chargingStatus (hacc : Accepts r s s') (hr : r.type = .chargingStatusReq) :
    (s.phase = .powerDelivery ∨ s.phase = .charging) ∧ s.dcMode = false ∧
      s'.protocol = r.protocol ∧ (s.protocol = .unknown ∨ s.protocol = r.protocol) := by
  cases hacc with
  | directSetup _ htype | negotiate _ htype => simp [hr] at htype
  | move _ hagree hmove =>
    have hprotocol := hmove.protocol_eq
    cases hmove <;> grind [Request.type_of_powerDelivery]

/-- A WeldingDetectionReq is accepted in DC mode, or in the phase that only DC mode reaches. -/
theorem Accepts.of_weldingDetection (hacc : Accepts r s s') (hr : r.type = .weldingDetectionReq) :
    s.dcMode = true ∨ s.phase = .welding := by
  cases hacc with
  | directSetup _ htype | negotiate _ htype => simp [hr] at htype
  | move _ _ hmove => cases hmove <;> grind [Request.type_of_powerDelivery]

/-- What a step respects apart from the protocol, it always respects. -/
theorem ExclusionInv.exclusive (h : ExclusionInv t s) (i : GateInput)
    (hprotocol : s.protocol ≠ .unknown → (gate.step s i).1.protocol = s.protocol) :
    ModeExclusive t ⟨s, i, (gate.step s i).2, (gate.step s i).1⟩ := by
  have hnext := h.step i
  rw [Machine.logged_step] at hnext
  refine ⟨?_, ?_, ?_, hprotocol⟩
  -- a ChargingStatusReq is accepted under ISO 15118-2 and in AC only
  · rintro ⟨e, he, htype⟩
    rcases gate_step_cases s i with ⟨s', -, heq⟩ | ⟨r, s', hacc, heq⟩ | heq <;> rw [heq] at he ⊢
    · cases he
    · rw [List.mem_singleton] at he
      subst he
      obtain ⟨hphase, hac, hafter, hagree⟩ := hacc.of_chargingStatus htype
      have hiso : r.protocol = .iso15118_2 := h.iso2_of_accepts hacc hphase hac
      exact ⟨h.powered hphase hac, hafter.trans hiso, hac⟩
    · rw [List.mem_singleton] at he
      subst he
      cases htype
  -- the DC requests are accepted in DC only
  · rintro ⟨e, he, htype⟩
    rcases gate_step_cases s i with ⟨s', -, heq⟩ | ⟨r, s', hacc, heq⟩ | heq <;> rw [heq] at he
    · cases he
    · rw [List.mem_singleton] at he
      subst he
      rcases htype with htype | htype
      · exact (hacc.of_currentDemand htype).2.1
      · rcases hacc.of_weldingDetection htype with hdc | hphase
        · exact hdc
        · exact h.prepared (.inr (.inr hphase))
    · rw [List.mem_singleton] at he
      subst he
      rcases htype with htype | htype <;> cases htype
  -- a mode that is fixed stays
  · intro hfixed
    have hdc := hnext.sticky hfixed
    exact ⟨hdc, hnext.known hdc⟩

/-! ## The protocol of the session -/

/-- A negotiation is accepted in the phase that waits for it. -/
theorem accepts_negotiation (hphase : s.phase = .appProtocol)
    (hr : r.type = .suppAppProtocolReq ∧ r.protocol ≠ .unknown ∨
      r.type = .sessionSetupReq ∧ r.protocol = .din70121) :
    ∃ s', Accepts r s s' ∧ s'.protocol = r.protocol := by
  rcases hr with ⟨htype, hknown⟩ | ⟨htype, hdin⟩
  · exact ⟨_, .negotiate hphase htype, if_neg hknown⟩
  · exact ⟨_, .directSetup hphase htype hdin, hdin.symm⟩

/-- An accepted request keeps a committed protocol, unless it is a negotiation of another. -/
theorem Accepts.keeps_protocol (hacc : Accepts r s s') (hknown : s.protocol ≠ .unknown)
    (hkeeps : KeepsProtocol t s (.request r)) : s'.protocol = s.protocol := by
  cases hacc with
  | directSetup hphase htype hdin =>
    rw [← hkeeps hphase hknown (.inr ⟨htype, hdin⟩)]
    exact hdin.symm
  | negotiate hphase htype =>
    -- a negotiation that selects nothing leaves the protocol as it was
    show (if r.protocol = .unknown then s.protocol else r.protocol) = s.protocol
    split_ifs with hr
    · rfl
    · exact hkeeps hphase hknown (.inl ⟨htype, hr⟩)
  | move _ hagree hmove => exact hmove.protocol_eq.trans (hagree.resolve_left hknown).symm

/-- A step keeps a committed protocol exactly when no negotiation selects another. -/
theorem gate_protocol_iff (t : List GateStep) (s : Sequence) (i : GateInput) :
    (s.protocol ≠ .unknown → (gate.step s i).1.protocol = s.protocol) ↔ KeepsProtocol t s i := by
  cases i with
  | resumeGrant => exact iff_of_true (fun _ => rfl) trivial
  | request r =>
    constructor
    · intro hstep hphase hknown hr
      obtain ⟨s', hacc, hprotocol⟩ := accepts_negotiation hphase hr
      have heq := hstep hknown
      simp only [gate, gateStep, accepts_iff.mpr hacc] at heq
      exact hprotocol.symm.trans heq
    · intro hkeeps hknown
      rcases hgate : seccAcceptRequestSequence s r with ⟨s', e | ⟨⟨⟩⟩⟩ <;>
        simp only [gate, gateStep, hgate]
      · rcases commits_of_error hgate with rfl | ⟨hunknown, -⟩
        · rfl
        · exact absurd hunknown hknown
      · exact (accepts_of_ok hgate).keeps_protocol hknown hkeeps

end

/-- A fresh connection meets the invariant. -/
theorem exclusionInv_init : ExclusionInv [] .init :=
  ⟨.inl rfl, nofun, by simp, by simp [Sequence.init], by simp [Sequence.init]⟩

/-- Over every list of requests and resume grants, every step is mode-exclusive exactly when every
negotiation that finds a protocol committed selects that protocol. -/
theorem mode_exclusive_iff (inputs : List GateInput) :
    Justified ModeExclusive (gateSteps inputs) ↔
      gate.logged.Meets KeepsProtocol [] .init inputs := by
  refine gate.logged.justified_run_iff_meets ExclusionInv (fun _ _ i h => h.step i) ?_
    exclusionInv_init inputs
  intro t s i hinv hjust
  rw [Machine.logged_step, hjust.concat_iff, ← gate_protocol_iff t s i]
  -- the other clauses hold of every step
  exact ⟨ModeExclusive.protocol, hinv.exclusive i⟩

/-- A PowerDeliveryReq of ISO 15118-2 that no negotiation precedes. -/
def earlyStart : Request :=
  Iso2Body.request (.powerDeliveryReq .start)

/-- The SessionSetupReq with which a DIN 70121 vehicle starts without a negotiation. -/
def dinSetup : Request :=
  { type := .sessionSetupReq
    protocol := .din70121
    header := none
    dinHeader := some []
    body := some (.din .sessionSetupReq) }

/-- A PowerDeliveryReq before the negotiation is rejected but commits ISO 15118-2, and a direct
DIN 70121 setup replaces it. -/
theorem not_mode_exclusive : ¬∀ inputs, Justified ModeExclusive (gateSteps inputs) := by
  intro h
  have hlast := (h [.request earlyStart, .request dinSetup]).last (t := [_])
  exact absurd (hlast.protocol (by decide)) (by decide)

end Jpv2g
