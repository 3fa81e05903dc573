import Jpv2g.StateSecc.Gate

/-!
# Power Ordering in the Sequence Gate

The order in which the gate lets a session reach and leave energy transfer, over every list of
requests and grants from a fresh connection.

## Main definitions

* `Progress t s`: what the accepted requests `t` must contain for the sequence to be in its
  phase.
* `Stopping`: the phases after a PowerDelivery Stop.

## Main results

* `gate_power_ordering`: a CurrentDemandReq is accepted only after the full DC preparation and
  a PowerDelivery Start; nothing transfers energy after a PowerDelivery Stop; nothing is
  accepted after a SessionStopReq.
-/

namespace Jpv2g

open Trace GateEvent

/-! ## The ordering properties -/

/-- ChargeParameterDiscovery, CableCheck and PreCharge, in this order. -/
def dcPreparation : List (GateEvent → Prop) :=
  [acceptedType .chargeParameterDiscoveryReq, acceptedType .cableCheckReq,
    acceptedType .preChargeReq]

/-- An event that neither changes the power delivery nor ends the energy transfer. -/
def KeepsPower (e : GateEvent) : Prop :=
  ¬acceptedType .powerDeliveryReq e ∧ ¬acceptedType .weldingDetectionReq e ∧
    ¬acceptedType .sessionStopReq e

/-- A CurrentDemandReq follows a PowerDelivery Start, which nothing has ended since; unless a
resume was granted, and always under DIN, the full DC preparation precedes that Start. -/
def DemandPrepared (pre : List GateEvent) : GateEvent → Prop
  | .accepted r => r.type = .currentDemandReq →
      Since KeepsPower (acceptedPower .start) pre ∧
        (NoGrant pre ∨ r.protocol = .din70121 →
          InOrder (dcPreparation ++ [acceptedPower .start]) pre)
  | .granted => True

/-- After a PowerDelivery Stop neither the charging loop nor a Start is accepted. -/
def NoEnergyAfterStop (pre : List GateEvent) : GateEvent → Prop
  | .accepted r =>
      r.type = .currentDemandReq ∨ r.type = .chargingStatusReq ∨
        r.type = .meteringReceiptReq ∨ r.powerDelivery = some .start →
      ∀ e ∈ pre, ¬acceptedPower .stop e
  | .granted => True

/-- After a SessionStopReq nothing is accepted. -/
def NothingAfterSessionStop (pre : List GateEvent) : GateEvent → Prop
  | .accepted _ => ∀ e ∈ pre, ¬acceptedType .sessionStopReq e
  | .granted => True

/-! ## The invariant -/

/-- What the accepted requests so far must contain for the sequence to be in its phase. -/
def Progress (t : List GateEvent) (s : Sequence) : Prop :=
  match s.phase with
  -- reached from the authorization, or by a renegotiation that keeps the mode
  | .chargeParameters =>
    InOrder [acceptedType .chargeParameterDiscoveryReq] t ∧
      (NoGrant t → s.dcMode = true → InOrder dcPreparation t)
  | .cableCheck =>
    s.dcMode = true ∧ InOrder [acceptedType .chargeParameterDiscoveryReq,
      acceptedType .cableCheckReq] t
  | .preCharge => s.dcMode = true ∧ InOrder dcPreparation t
  -- DIN never starts directly, so that it needs neither the mode nor the grant
  | .powerDelivery | .charging =>
    Since KeepsPower (acceptedPower .start) t ∧
      InOrder [acceptedType .chargeParameterDiscoveryReq] t ∧
      ((NoGrant t ∧ s.dcMode = true) ∨ s.protocol = .din70121 →
        InOrder (dcPreparation ++ [acceptedPower .start]) t)
  | .powerDeliveryStop | .welding | .complete => True
  | .appProtocol | .sessionSetup | .serviceDiscovery | .serviceSelection | .authorization =>
    NoGrant t → s.dcMode = false

/-- The phases that follow a PowerDelivery Stop. -/
def Stopping (s : Sequence) : Prop :=
  s.phase = .powerDeliveryStop ∨ s.phase = .welding ∨ s.phase = .complete

/-- A session past its setup has fixed a protocol. -/
def ProtocolFixed (s : Sequence) : Prop :=
  s.phase = .appProtocol ∨ s.phase = .sessionSetup ∨ s.protocol ≠ .unknown

variable {r : Request} {s s' : Sequence} {t : List GateEvent}

/-- The DC preparation starts with ChargeParameterDiscovery. -/
theorem discovery_of_preparation (h : InOrder dcPreparation t) :
    InOrder [acceptedType .chargeParameterDiscoveryReq] t :=
  InOrder.of_append (show InOrder ([_] ++ [_, _]) t from h)

/-- A request of any type but the three that change or end the power delivery keeps it. -/
theorem keepsPower_of_type (hpower : r.type ≠ .powerDeliveryReq)
    (hweld : r.type ≠ .weldingDetectionReq) (hstop : r.type ≠ .sessionStopReq) :
    KeepsPower (.accepted r) :=
  ⟨hpower, hweld, hstop⟩

/-- A repeated request that keeps the phase and the mode keeps the progress. -/
theorem Progress.concat (h : Progress t s) (hkeep : KeepsPower (.accepted r)) :
    Progress (t ++ [.accepted r]) s := by
  have hgrant : NoGrant (t ++ [.accepted r]) → NoGrant t := NoGrant.of_append
  have henergy : ∀ e ∈ [GateEvent.accepted r], KeepsPower e := by simpa using hkeep
  unfold Progress at h ⊢
  split <;> rename_i hphase <;> simp only [hphase] at h
  · exact ⟨h.1.append, fun hno hdc => (h.2 (hgrant hno) hdc).append⟩
  · exact ⟨h.1, h.2.append⟩
  · exact ⟨h.1, h.2.append⟩
  · exact ⟨h.1.append henergy, h.2.1.append,
      fun hcond => (h.2.2 (hcond.imp_left (.imp_left hgrant))).append⟩
  · exact ⟨h.1.append henergy, h.2.1.append,
      fun hcond => (h.2.2 (hcond.imp_left (.imp_left hgrant))).append⟩
  all_goals first | trivial | exact fun hno => h (hgrant hno)

/-- A PowerDelivery Start reached through the DC preparation, or by a mode that is not DC,
opens the energy transfer. -/
theorem progress_of_start (hphase : s'.phase = .powerDelivery)
    (hpower : r.powerDelivery = some .start)
    (hcpd : InOrder [acceptedType .chargeParameterDiscoveryReq] t)
    (hprep : (NoGrant t ∧ s'.dcMode = true) ∨ s'.protocol = .din70121 →
      InOrder dcPreparation t) :
    Progress (t ++ [.accepted r]) s' := by
  simp only [Progress, hphase]
  have hstart : acceptedPower .start (.accepted r) := hpower
  exact ⟨since_concat hstart, hcpd.append,
    fun hcond => (hprep (hcond.imp_left (.imp_left NoGrant.of_append))).concat hstart⟩

/-- Every transition of a fixed protocol keeps the progress. -/
theorem Progress.move (h : Progress t s) (hprotocol : s.protocol = r.protocol)
    (hmove : Moves r s s') : Progress (t ++ [.accepted r]) s' := by
  have hgrant : NoGrant (t ++ [.accepted r]) → NoGrant t := NoGrant.of_append
  cases hmove with
  | sessionStop | stop | weldingDetection | repeatWeldingDetection =>
    simp_all [Progress]
  | retryAppProtocol hphase htype | repeatChargeParameterDiscovery hphase htype
  | repeatCableCheck hphase htype | repeatPreCharge hphase htype
  | meteringReceipt hphase htype =>
    exact h.concat (keepsPower_of_type (by simp [htype]) (by simp [htype]) (by simp [htype]))
  | inspectServices hphase htype | authorize hphase htype =>
    refine h.concat (keepsPower_of_type ?_ ?_ ?_) <;> rintro heq <;> simp [heq] at htype
  | sessionSetup hphase | serviceDiscovery hphase | paymentServiceSelection hphase =>
    simp only [Progress, hphase] at h ⊢
    exact fun hno => h (hgrant hno)
  | chargeParameterDiscovery hphase htype =>
    simp only [Progress, hphase] at h ⊢
    -- before the first ChargeParameterDiscovery the mode can only come from a grant
    refine ⟨inOrder_nil.concat htype, ?_⟩
    intro hno hdc
    rw [h (hgrant hno)] at hdc
    cases hdc
  | cableCheck hphase htype =>
    simp only [Progress, hphase] at h ⊢
    exact ⟨trivial, h.1.concat htype⟩
  | preCharge hphase htype =>
    simp only [Progress, hphase] at h ⊢
    exact ⟨h.1, h.2.concat htype⟩
  | startDirectly hphase hdin hpower =>
    simp only [Progress, hphase] at h
    -- a direct Start in DC mode is one after a renegotiation, and DIN takes none
    refine progress_of_start rfl hpower h.1 ?_
    rintro (⟨hno, hdc⟩ | hdc)
    · simp only [Sequence.isDc, Bool.and_eq_true] at hdc
      exact h.2 hno hdc.2
    · exact absurd (hprotocol ▸ hdc) hdin
  | start hphase hpower =>
    rcases hphase with hphase | hphase | hphase <;> simp only [Progress, hphase] at h
    · exact progress_of_start rfl hpower (discovery_of_preparation h.2) fun _ => h.2
    · exact progress_of_start rfl hpower h.2.1 fun hcond => (h.2.2 hcond).of_append
    · exact progress_of_start rfl hpower h.2.1 fun hcond => (h.2.2 hcond).of_append
  | renegotiate hphase hiso hpower =>
    -- the preparation done before the current Start serves the next one too
    rcases hphase with hphase | hphase <;> simp only [Progress, hphase] at h ⊢ <;>
      exact ⟨h.2.1.append, fun hno hdc => (h.2.2 (.inl ⟨hgrant hno, hdc⟩)).of_append.append⟩
  | demand hphase htype =>
    have hkeep : KeepsPower (.accepted r) := by
      rcases htype with ⟨-, htype⟩ | ⟨-, htype⟩ <;>
        exact keepsPower_of_type (by simp [htype]) (by simp [htype]) (by simp [htype])
    have := h.concat hkeep
    rcases hphase with hphase | hphase <;> simpa only [Progress, hphase] using this

/-- Committing the protocol of a session that may still change it keeps the progress. -/
theorem Progress.commit {p : Protocol} (h : Progress t s) (hfixed : ProtocolFixed s)
    (hagree : s.protocol = .unknown ∨ s.protocol = p) :
    Progress t { s with protocol := p } := by
  rcases hagree with hunknown | rfl
  · rcases hfixed with hphase | hphase | hknown
    · simpa only [Progress, hphase] using h
    · simpa only [Progress, hphase] using h
    · exact absurd hunknown hknown
  · exact h

/-- What an accepted request keeps: the progress, and a fixed protocol past the setup. -/
theorem Progress.accepts (h : Progress t s) (hfixed : ProtocolFixed s) (hacc : Accepts r s s') :
    Progress (t ++ [.accepted r]) s' ∧ ProtocolFixed s' := by
  cases hacc with
  | directSetup hphase htype hprotocol =>
    refine ⟨?_, .inr (.inr (by simp))⟩
    simp only [Progress, hphase] at h ⊢
    exact fun hno => h hno.of_append
  | negotiate hphase htype =>
    refine ⟨?_, .inr (.inl rfl)⟩
    simp only [Progress, hphase] at h ⊢
    exact fun hno => h hno.of_append
  | move hknown hagree hmove =>
    refine ⟨(h.commit hfixed hagree).move rfl hmove, .inr (.inr ?_)⟩
    rw [hmove.protocol_eq]
    exact hknown

/-- The gate invariant: the progress of the phase, and the phases the two final requests
confine the session to. -/
structure GateInv (t : List GateEvent) (s : Sequence) : Prop where
  progress : Progress t s
  fixed : ProtocolFixed s
  stopping : (∃ e ∈ t, acceptedPower .stop e) → Stopping s
  complete : (∃ e ∈ t, acceptedType .sessionStopReq e) → s.phase = .complete

/-- Past a PowerDelivery Stop the session only winds down. -/
theorem Accepts.of_stopping (hacc : Accepts r s s') (h : Stopping s) :
    Stopping s' ∧ r.type ≠ .currentDemandReq ∧ r.type ≠ .chargingStatusReq ∧
      r.type ≠ .meteringReceiptReq ∧ r.powerDelivery ≠ some .start := by
  have hstart : ∀ {type}, r.type = type → type ≠ .powerDeliveryReq →
      r.powerDelivery ≠ some .start := by
    rintro type htype hne hpower
    exact hne (htype ▸ Request.type_of_powerDelivery hpower)
  cases hacc with
  | directSetup hphase | negotiate hphase => simp [Stopping, hphase] at h
  | move hknown hagree hmove =>
    -- only four transitions leave from the stopping phases
    cases hmove with
    | sessionStop _ _ _ htype =>
      exact ⟨.inr (.inr rfl), by simp [htype], by simp [htype], by simp [htype],
        hstart htype (by simp)⟩
    | stop hphase hpower =>
      have htype := Request.type_of_powerDelivery hpower
      exact ⟨.inl rfl, by simp [htype], by simp [htype], by simp [htype], by simp [hpower]⟩
    | weldingDetection _ _ htype =>
      exact ⟨.inr (.inl rfl), by simp [htype], by simp [htype], by simp [htype],
        hstart htype (by simp)⟩
    | repeatWeldingDetection _ htype =>
      exact ⟨h, by simp [htype], by simp [htype], by simp [htype], hstart htype (by simp)⟩
    | _ => grind [Stopping]

/-- A resume grant keeps the progress: it only lifts obligations. -/
theorem Progress.grantResume (h : Progress t s) : Progress (t ++ [.granted]) s.grantResume := by
  have hgrant : ¬NoGrant (t ++ [.granted]) := not_noGrant_concat
  have hkeep : ∀ e ∈ [GateEvent.granted], KeepsPower e := by
    simp [KeepsPower, acceptedType]
  cases hphase : s.phase <;>
    simp only [Progress, Sequence.grantResume, hphase, hgrant, false_and, false_or] at h ⊢
  case chargeParameters => exact ⟨h.1.append, fun hno => hno.elim⟩
  case cableCheck => exact ⟨trivial, h.2.append⟩
  case preCharge => exact ⟨trivial, h.2.append⟩
  case powerDelivery | charging =>
    exact ⟨h.1.append hkeep, h.2.1.append, fun hdin => (h.2.2 (.inr hdin)).append⟩
  all_goals exact fun hno => hno.elim

/-- Every input of the gate keeps the invariant, and what it accepts is justified by the past. -/
theorem GateInv.step (h : GateInv t s) (i : GateInput) :
    GateInv (t ++ (gate.step s i).2) (gate.step s i).1 := by
  rcases gate_step_cases s i with ⟨s', hcommit, heq⟩ | ⟨r, s', hacc, heq⟩ | heq <;> rw [heq]
  -- a rejection: past the setup there is no protocol left to commit
  · have hphase := hcommit.phase_eq
    rw [List.append_nil]
    refine ⟨?_, ?_, fun hstop => ?_, fun hstop => hphase.trans (h.complete hstop)⟩
    · rcases hcommit with rfl | ⟨hunknown, hs'⟩
      · exact h.progress
      · exact hs' ▸ h.progress.commit h.fixed (.inl hunknown)
    · rcases hcommit with rfl | ⟨hunknown, hs'⟩
      · exact h.fixed
      · rcases h.fixed with hp | hp | hp
        · exact .inl (hphase.trans hp)
        · exact .inr (.inl (hphase.trans hp))
        · exact absurd hunknown hp
    · simpa only [Stopping, hphase] using h.stopping hstop
  -- an accepted request: the two final requests are the new one or lie in the past
  · obtain ⟨hprogress, hfixed⟩ := h.progress.accepts h.fixed hacc
    refine ⟨hprogress, hfixed, fun hstop => ?_, fun hstop => ?_⟩
    · simp only [List.mem_append, List.mem_singleton] at hstop
      obtain ⟨e, he | rfl, hpower⟩ := hstop
      · exact (hacc.of_stopping (h.stopping ⟨e, he, hpower⟩)).1
      · exact .inl (hacc.of_stop hpower)
    · simp only [List.mem_append, List.mem_singleton] at hstop
      obtain ⟨e, he | rfl, htype⟩ := hstop
      · exact absurd (h.complete ⟨e, he, htype⟩) hacc.phase_ne_complete
      · exact hacc.of_sessionStop htype
  -- a resume grant changes neither the phase nor the protocol
  · refine ⟨?_, h.fixed, fun hstop => h.stopping ?_, fun hstop => h.complete ?_⟩
    · exact h.progress.grantResume
    · simpa [acceptedPower, or_and_right, exists_or] using hstop
    · simpa [acceptedType, or_and_right, exists_or] using hstop

/-- A fresh connection meets the invariant. -/
theorem gateInv_init : GateInv [] .init :=
  ⟨fun _ => rfl, .inl rfl, by simp, by simp⟩

/-- Every reachable sequence meets the invariant. -/
theorem Reached.gateInv (h : Reached t s) : GateInv t s :=
  h.induction GateInv gateInv_init fun _ _ i hinv => hinv.step i

/-- What an accepted CurrentDemandReq tells about the session. -/
theorem Accepts.of_currentDemand (hacc : Accepts r s s') (hr : r.type = .currentDemandReq) :
    (s.phase = .powerDelivery ∨ s.phase = .charging) ∧ s.dcMode = true ∧
      (s.protocol = .unknown ∨ s.protocol = r.protocol) := by
  cases hacc with
  | directSetup _ htype | negotiate _ htype => simp [hr] at htype
  | move hknown hagree hmove => cases hmove <;> grind [Request.type_of_powerDelivery]

/-- Every accepted request is justified by the requests accepted before it. -/
theorem GateInv.justifies (h : GateInv t s) (hacc : Accepts r s s') :
    DemandPrepared t (.accepted r) ∧ NoEnergyAfterStop t (.accepted r) ∧
      NothingAfterSessionStop t (.accepted r) := by
  refine ⟨fun hr => ?_, fun hr e he hstop => ?_, fun e he hstop => ?_⟩
  · obtain ⟨hphase, hdc, hagree⟩ := hacc.of_currentDemand hr
    -- the protocol of the request is the one the invariant speaks about
    have hprogress := h.progress.commit h.fixed hagree
    rcases hphase with hphase | hphase <;> simp only [Progress, hphase] at hprogress <;>
      exact ⟨hprogress.1, fun hcond => hprogress.2.2 (hcond.imp_left fun hno => ⟨hno, hdc⟩)⟩
  · obtain ⟨-, hdemand, hstatus, hmeter, hstart⟩ := hacc.of_stopping (h.stopping ⟨e, he, hstop⟩)
    tauto
  · exact hacc.phase_ne_complete (h.complete ⟨e, he, hstop⟩)

/-- The ordering properties as one relation between an accepted request and its past. -/
def PowerOrdered (pre : List GateEvent) (e : GateEvent) : Prop :=
  DemandPrepared pre e ∧ NoEnergyAfterStop pre e ∧ NothingAfterSessionStop pre e

/-- Over every list of requests and resume grants, each accepted request is power-ordered: a
CurrentDemandReq follows ChargeParameterDiscovery, CableCheck, PreCharge and a PowerDelivery
Start that nothing has ended since (under DIN even if a resume was granted); after a
PowerDelivery Stop neither the charging loop nor a Start is accepted; after a SessionStopReq
nothing is. -/
theorem gate_power_ordering (inputs : List GateInput) :
    Justified PowerOrdered (gateTrace inputs) := by
  have hrun := gate.run_induction (fun t s => GateInv t s ∧ Justified PowerOrdered t)
    (t := []) (s := .init) ?_ ?_ inputs
  · exact hrun.2
  · rintro t s i ⟨hinv, hjust⟩
    refine ⟨hinv.step i, ?_⟩
    rcases gate_step_cases s i with ⟨s', -, heq⟩ | ⟨r, s', hacc, heq⟩ | heq <;> rw [heq]
    · simpa using hjust
    · exact hjust.concat (hinv.justifies hacc)
    · exact hjust.concat ⟨trivial, trivial, trivial⟩
  · exact ⟨gateInv_init, justified_nil⟩

end Jpv2g
