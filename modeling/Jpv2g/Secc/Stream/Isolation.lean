import Jpv2g.Secc.EnergyMode
import Jpv2g.Secc.Stream.Live
import Jpv2g.StateSecc.PowerOrdering

/-!
# Isolation Test before DC Power

The sequence of a connection is a run of the sequence gate, so what the gate guarantees holds of
the requests of every connection. The gate never sees the negotiated energy transfer mode: a
PowerDelivery Start that directly follows ChargeParameterDiscovery is taken for AC, whatever the
handler has confirmed. A session that has started its isolation test has to finish it.

## Main definitions

* `gateEvents`: the events of a connection as the sequence gate sees them.
* `PowerIsolated`: power is started, and demanded, only after the isolation test.

## Main results

* `reached_live`: the sequence of a connection is a run of the sequence gate.
* `power_isolated`: the requests of every session that was not resumed are isolated.
-/

namespace Jpv2g

open Trace GateEvent

/-! ## The sequence of a connection -/

/-- The session setup joined the paused session. -/
def StreamEvent.joined : StreamEvent → Prop
  | .dispatched x => x.joins
  | _ => False

instance : DecidablePred StreamEvent.joined
  | .dispatched x => inferInstanceAs (Decidable x.joins)
  | .connected | .rejected _ _ | .refused _ _ | .frame20 _ | .reset20 | .closed _ | .retired =>
    inferInstanceAs (Decidable False)

/-- The events of the sequence gate: a request passes it, and a setup that joined a paused DC
session is granted its mode. -/
def StreamEvent.gateEvents : StreamEvent → List GateEvent
  | .refused r _ => [.accepted r]
  | .dispatched x =>
    if x.joins ∧ x.result.secc.resumeDcPending = true then [.accepted x.request, .granted]
    else [.accepted x.request]
  | _ => []

/-- The events of the sequence gate on a connection. -/
def gateEvents (seg : List StreamEvent) : List GateEvent :=
  seg.flatMap StreamEvent.gateEvents

theorem gateEvents_concat {seg : List StreamEvent} {e : StreamEvent} :
    gateEvents (seg ++ [e]) = gateEvents seg ++ e.gateEvents := by
  simp [gateEvents]

/-- Quiet events do not reach the gate. -/
theorem StreamEvent.quiet.gateEvents_eq {e : StreamEvent} (h : e.quiet) : e.gateEvents = [] := by
  cases e with
  | frame20 | reset20 | closed => rfl
  | _ => exact h.elim

/-- Without a joined session there is no resume grant. -/
theorem noGrant_gateEvents {seg : List StreamEvent} (h : ∀ e ∈ seg, ¬e.joined) :
    NoGrant (gateEvents seg) := by
  intro hmem
  obtain ⟨e, he, hgrant⟩ := List.mem_flatMap.mp hmem
  cases e with
  | dispatched x =>
    simp only [StreamEvent.gateEvents] at hgrant
    split_ifs at hgrant with hjoins
    · exact h _ he hjoins.1
    · simp at hgrant
  | refused => simp [StreamEvent.gateEvents] at hgrant
  | _ => simp [StreamEvent.gateEvents] at hgrant

/-- The sequence of a connection is a run of the sequence gate. -/
theorem reached_live (build : Build) (codec : Codec) {R : List StreamEvent → StreamEvent → Prop}
    (hR : ∀ {seg e}, e.passed = none → R seg e)
    (hrefused : ∀ {seg r answer s s'}, Reached (gateEvents seg) s → Accepts r s s' →
      R seg (.refused r answer))
    (hdispatched : ∀ {seg x s s'}, Reached (gateEvents seg) s → Accepts x.request s s' →
      R seg (.dispatched x)) :
    LiveInvariant build codec (fun _ _ _ => True)
      (fun seg _ sequence _ => Reached (gateEvents seg) sequence) R where
  init := fun _ => reached_init
  quiet := fun hinv hquiet => by
    rw [gateEvents_concat, hquiet.gateEvents_eq, List.append_nil]
    exact hinv
  unconstrained := fun hnone _ => hR hnone
  framed := fun _ _ _ _ => hR rfl
  refused := fun hpasses _ hinv => hrefused hinv (accepts_of_ok hpasses.gate)
  dispatched := fun {t c i stream x} hpasses _ hinv _ hruns => by
    refine ⟨hdispatched hinv (accepts_of_ok hpasses.gate), ?_⟩
    intro _ htype
    -- the loop presets the DC mode exactly after a setup that joined a DC session
    have haccept := hinv.accept hpasses.gate
    rw [gateEvents_concat, Secc.recordPauseMode_of_ne_sessionStop htype]
    by_cases hjoins : x.joins ∧ x.result.secc.resumeDcPending = true
    · have hpending := And.intro hjoins.1.1 hjoins.2
      rw [StreamEvent.gateEvents, if_pos hjoins, applyResume, if_pos hpending]
      simpa using haccept.grant
    · have hpending : ¬(x.request.type = .sessionSetupReq ∧
          x.result.secc.resumeDcPending = true) :=
        fun h => hjoins ⟨hruns.joins_of_pending h.1 h.2, h.2⟩
      rw [StreamEvent.gateEvents, if_neg hjoins, applyResume, if_neg hpending]
      exact haccept

/-! ## The isolation test in the gate -/

section Gate

variable {r : Request} {s s' : Sequence} {t : List GateEvent}

/-- A sequence that knows its DC mode keeps it. -/
theorem Accepts.isDc (hacc : Accepts r s s') (h : s.isDc = true) : s'.isDc = true := by
  simp only [Sequence.isDc, Bool.and_eq_true] at h ⊢
  cases hacc with
  | directSetup | negotiate => exact h
  | move hknown hagree hmove => cases hmove <;> simp_all [Sequence.isDc]

/-- A CableCheckReq makes the sequence DC, unless one has been accepted before. -/
theorem Accepts.of_cableCheck (hacc : Accepts r s s') (hr : r.type = .cableCheckReq) :
    s'.isDc = true ∨ s.phase = .cableCheck := by
  cases hacc with
  | directSetup _ htype | negotiate _ htype => simp [hr] at htype
  | move hknown hagree hmove =>
    cases hmove <;> grind [Sequence.isDc, Request.type_of_powerDelivery]

/-- A PowerDelivery Start is accepted before and during the power delivery. -/
theorem Accepts.of_start (hacc : Accepts r s s') (hr : r.powerDelivery = some .start) :
    s.phase = .chargeParameters ∨ s.phase = .preCharge ∨ s.phase = .powerDelivery ∨
      s.phase = .charging := by
  have htype := Request.type_of_powerDelivery hr
  cases hacc with
  | directSetup _ h | negotiate _ h => simp [htype] at h
  | move hknown hagree hmove => cases hmove <;> grind

/-- After a CableCheckReq the sequence is DC. -/
theorem Reached.isDc_of_cableCheck (h : Reached t s)
    (hcheck : ∃ e ∈ t, acceptedType .cableCheckReq e) : s.isDc = true := by
  refine (h.induction (fun t s => GateInv t s ∧
    ((∃ e ∈ t, acceptedType .cableCheckReq e) → s.isDc = true)) ⟨gateInv_init, by simp⟩ ?_).2 hcheck
  rintro t s i ⟨hinv, hdc⟩
  refine ⟨hinv.step i, ?_⟩
  rcases gate_step_cases s i with ⟨s', hcommit, heq⟩ | ⟨r, s', hacc, heq⟩ | heq <;> rw [heq]
  · rw [List.append_nil, Sequence.isDc, hcommit.dcMode_eq, hcommit.modeKnown_eq]
    exact hdc
  · simp only [List.mem_append, List.mem_singleton]
    rintro ⟨e, he | rfl, hcheck⟩
    · exact hacc.isDc (hdc ⟨e, he, hcheck⟩)
    · rcases hacc.of_cableCheck hcheck with hdc' | hphase
      · exact hdc'
      -- a repeated CableCheckReq: the first one is in the past
      · have hprogress := hinv.progress
        simp only [Progress, hphase] at hprogress
        exact hacc.isDc (hdc (hprogress.2.exists_mem (by simp)))
  · exact fun _ => rfl

/-- Without a resume grant, a session that has started its isolation test starts power only after
it has finished the test. -/
theorem Reached.start_isolated (h : Reached t s) (hacc : Accepts r s s') (hno : NoGrant t)
    (hr : r.powerDelivery = some .start) :
    InOrder dcPreparation t ∨ ∀ e ∈ t, ¬acceptedType .cableCheckReq e := by
  by_cases hcheck : ∃ e ∈ t, acceptedType .cableCheckReq e
  · refine .inl ?_
    have hdc : s.dcMode = true := by
      have := h.isDc_of_cableCheck hcheck
      simp only [Sequence.isDc, Bool.and_eq_true] at this
      exact this.2
    have hprogress := h.gateInv.progress
    -- in DC mode every phase that takes a Start has the preparation behind it
    rcases hacc.of_start hr with hphase | hphase | hphase | hphase <;>
      simp only [Progress, hphase] at hprogress
    · exact hprogress.2 hno hdc
    · exact hprogress.2
    · exact (hprogress.2.2 (.inl ⟨hno, hdc⟩)).of_append
    · exact (hprogress.2.2 (.inl ⟨hno, hdc⟩)).of_append
  · exact .inr fun e he htype => hcheck ⟨e, he, htype⟩

end Gate

/-! ## The isolation test on a connection -/

/-- In a session that was not resumed, a PowerDelivery Start passes the sequence gate only after
the full DC preparation, or when no isolation test has been started; a CurrentDemandReq passes it
only after the DC preparation and a Start. -/
def PowerIsolated (seg : List StreamEvent) (e : StreamEvent) : Prop :=
  (∀ e ∈ seg, ¬e.joined) → ∀ r ∈ e.passed,
    (r.powerDelivery = some .start → InOrder dcPreparation (gateEvents seg) ∨
      ∀ g ∈ gateEvents seg, ¬acceptedType .cableCheckReq g) ∧
    (r.type = .currentDemandReq →
      InOrder (dcPreparation ++ [acceptedPower .start]) (gateEvents seg))

/-- Every request the gate accepts is isolated. -/
theorem powerIsolated_of_accepts {seg : List StreamEvent} {e : StreamEvent} {r : Request}
    {s s' : Sequence} (hpassed : e.passed = some r) (h : Reached (gateEvents seg) s)
    (hacc : Accepts r s s') : PowerIsolated seg e := by
  rintro hjoined r' hr'
  cases hpassed.symm.trans hr'
  have hno := noGrant_gateEvents hjoined
  exact ⟨h.start_isolated hacc hno, fun hr => ((h.gateInv.justifies hacc).1 hr).2 (.inl hno)⟩

/-- On every connection whose session was not resumed, DC power is demanded only after the
isolation test, and power is started only after it unless the session has not started it. -/
theorem power_isolated (build : Build) (codec : Codec) (codec20 : Codec20) (station : Station)
    (inputs : List ChargerInput) :
    JustifiedInStream PowerIsolated
      ((charger build codec codec20).run { station, stream := none } inputs).2 := by
  have hlive : LiveInvariant build codec (fun _ _ _ => True)
      (fun seg _ sequence _ => Reached (gateEvents seg) sequence) PowerIsolated :=
    reached_live build codec (fun hpassed _ r hr => (by cases hpassed.symm.trans hr))
      (powerIsolated_of_accepts rfl) (powerIsolated_of_accepts rfl)
  exact (hlive.run station (Machine.meets_of_forall _ fun _ _ => trivial)).2

/-! ## The confirmed energy transfer mode -/

/-- The energy transfer mode that a ChargeParameterDiscoveryRes answered OK confirms. -/
def Res.confirmedMode : Res → Option EnergyTransferMode
  | .iso2 _ (.chargeParameterDiscovery .ok mode) => some mode
  | _ => none

/-- The mode an event confirms. -/
def StreamEvent.confirmedMode : StreamEvent → Option EnergyTransferMode
  | .dispatched x => x.result.res.bind Res.confirmedMode
  | _ => none

/-- The most recently confirmed mode. -/
def confirmedMode (seg : List StreamEvent) : Option EnergyTransferMode :=
  lastSome StreamEvent.confirmedMode seg

/-- In a session that was not resumed and whose confirmed mode is DC, a PowerDelivery Start passes
the sequence gate only after a CableCheckReq and a PreChargeReq. -/
def StartTested (seg : List StreamEvent) (e : StreamEvent) : Prop :=
  (∀ e ∈ seg, ¬e.joined) → (confirmedMode seg).any EnergyTransferMode.isDc = true →
    ∀ r ∈ e.passed, r.powerDelivery = some .start →
      (∃ g ∈ gateEvents seg, acceptedType .cableCheckReq g) ∧
        ∃ g ∈ gateEvents seg, acceptedType .preChargeReq g

/-- A PowerDelivery Start that directly follows the confirmation of DC_core is accepted. -/
theorem not_tested_after_discovery :
    ¬∀ (build : Build) (codec : Codec) (codec20 : Codec20) (station : Station)
      (inputs : List ChargerInput),
      JustifiedInStream StartTested
        ((charger build codec codec20).run { station, stream := none } inputs).2 := by
  intro h
  have hrun := h sampleBuild sampleCodec emptyCodec20 sampleStation
    (sampleDiscovery true ++ [sampleRequest 9 true true])
  rw [Machine.run_concat] at hrun
  have hcheck := (hrun _ _ [] rfl (by decide) (by decide) _ rfl rfl).1
  exact absurd hcheck (by decide)

end Jpv2g
