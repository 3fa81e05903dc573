import Jpv2g.SeccIso20.Runs

/-!
# The State Invariant of the ISO 15118-20 Module

What the flags of a running session say about its state, over every sequence of frames and resets.

## Main definitions

* `State20.rank`: the position of a state in the session.
* `SessionInv`: the flags of a session that has not ended follow its state.
* `StopsOpen`: a SessionStop is granted with the contactor open only.

## Main results

* `session_inv`: the invariant holds after every run, and every granted SessionStop finds the
  contactor open.
-/

namespace Jpv2g

/-- The position of a state in the session (the values of `jpv2g_secc20_state_t`). -/
def State20.rank : State20 → ℕ
  | .sessionSetup => 0
  | .authSetup => 1
  | .authorization => 2
  | .serviceDiscovery => 3
  | .serviceDetail => 4
  | .dcCpd => 5
  | .scheduleExchange => 6
  | .cableCheck => 7
  | .preCharge => 8
  | .powerDelivery => 9
  | .chargeLoop => 10
  | .welding => 11
  | .sessionStop => 12
  | .ended => 13

/-- The flags of a session that has not ended follow its state. -/
structure SessionInv (s : Secc20) : Prop where
  established : s.state ≠ .ended → (s.sessionEstablished = true ↔ s.state ≠ .sessionSetup)
  closed : s.state ≠ .ended → (s.contactorClosed = true ↔ s.state = .chargeLoop)
  cable_check : s.state.rank < State20.cableCheck.rank → s.cableCheckStarted = false
  charge_loop : s.state.rank < State20.chargeLoop.rank → s.chargeLoopStarted = false

/-- A fresh session satisfies the invariant. -/
theorem sessionInv_init (cfg : Config20) : SessionInv (.init cfg) :=
  ⟨by simp [Secc20.init], by simp [Secc20.init], fun _ => rfl, fun _ => rfl⟩

section Steps

variable {s session : Secc20} {env : Env20} {body : Body20} {calls : List Call20}
  {code : ResponseCode20} {disposition : Disposition20}

/-- A reset session satisfies the invariant. -/
theorem sessionInv_reset (nowMs : ℕ) : SessionInv (s.reset nowMs) :=
  ⟨by simp [Secc20.reset], by simp [Secc20.reset], fun _ => rfl, fun _ => rfl⟩

/-- Stopping the sequence timer keeps the invariant. -/
theorem SessionInv.received (h : SessionInv s) : SessionInv s.received :=
  ⟨h.established, h.closed, h.cable_check, h.charge_loop⟩

/-- An ended session satisfies the invariant. -/
theorem sessionInv_of_ended (hended : s.state = .ended) : SessionInv s := by
  constructor <;> rw [hended]
  · exact fun h => absurd rfl h
  · exact fun h => absurd rfl h
  · exact fun h => absurd h (by decide)
  · exact fun h => absurd h (by decide)

/-- The bookkeeping of a response keeps the invariant, also when it ends the session. -/
theorem SessionInv.concludesAs {after : Secc20} {code : ℕ} (h : SessionInv session)
    (hafter : ConcludesAs session code after) : SessionInv after := by
  obtain ⟨state, deadline, rfl | rfl, rfl⟩ := hafter
  · exact ⟨h.established, h.closed, h.cable_check, h.charge_loop⟩
  · exact sessionInv_of_ended rfl

/-- Leading into another state before the charge loop keeps the flags. -/
theorem SessionInv.move {state : State20} (h : SessionInv s) (hlive : s.state ≠ .ended)
    (hsetup : s.state ≠ .sessionSetup) (hloop : s.state ≠ .chargeLoop)
    (hstate : state ≠ .sessionSetup ∧ state ≠ .chargeLoop)
    (hcable : state.rank < State20.cableCheck.rank → s.state.rank < State20.cableCheck.rank)
    (hcharge : state.rank < State20.chargeLoop.rank → s.state.rank < State20.chargeLoop.rank) :
    SessionInv { s with state } := by
  have hestablished : s.sessionEstablished = true := (h.established hlive).mpr hsetup
  have hopen : s.contactorClosed ≠ true := fun hclosed => hloop ((h.closed hlive).mp hclosed)
  exact ⟨fun _ => iff_of_true hestablished hstate.1, fun _ => iff_of_false hopen hstate.2,
    fun hrank => h.cable_check (hcable hrank), fun hrank => h.charge_loop (hcharge hrank)⟩

/-- The invariant is not about the timers. -/
theorem SessionInv.setTimers (h : SessionInv s) (se eim : ℕ) :
    SessionInv { s with seOngoingDeadlineMs := se, eimOngoingDeadlineMs := eim } :=
  ⟨h.established, h.closed, h.cable_check, h.charge_loop⟩

theorem SessionInv.startEimTimer (h : SessionInv s) (nowMs : ℕ) :
    SessionInv (s.startEimTimer nowMs) := by
  rw [Secc20.startEimTimer]
  split_ifs
  · exact h.setTimers ..
  · exact h

theorem SessionInv.startSeTimer (h : SessionInv s) (nowMs : ℕ) :
    SessionInv (s.startSeTimer nowMs) := by
  rw [Secc20.startSeTimer]
  split_ifs
  · exact h.setTimers ..
  · exact h

/-- Leading on from a given state before the charge loop keeps the invariant. -/
theorem SessionInv.moveFrom {state state' : State20} (h : SessionInv s)
    (hfrom : s.state = state)
    (hstates : state ≠ .ended ∧ state ≠ .sessionSetup ∧ state ≠ .chargeLoop ∧
      state' ≠ .sessionSetup ∧ state' ≠ .chargeLoop)
    (hranks : (state'.rank < State20.cableCheck.rank → state.rank < State20.cableCheck.rank) ∧
      (state'.rank < State20.chargeLoop.rank → state.rank < State20.chargeLoop.rank)) :
    SessionInv { s with state := state' } := by
  subst hfrom
  exact h.move hstates.1 hstates.2.1 hstates.2.2.1 hstates.2.2.2 hranks.1 hranks.2

/-- From the charge loop on, the invariant is about the session and the contactor only. -/
theorem sessionInv_of_loop {after : Secc20} (hrank : State20.chargeLoop.rank ≤ after.state.rank)
    (hestablished : after.sessionEstablished = true)
    (hclosed : after.contactorClosed = true ↔ after.state = .chargeLoop) : SessionInv after := by
  have hsetup : after.state ≠ .sessionSetup := by
    intro hstate
    rw [hstate] at hrank
    exact absurd hrank (by decide)
  have hcable : State20.cableCheck.rank ≤ after.state.rank := le_trans (by decide) hrank
  refine ⟨fun _ => iff_of_true hestablished hsetup, fun _ => hclosed, ?_, ?_⟩
  · intro h
    omega
  · intro h
    omega

/-- Every handled request keeps the invariant. -/
theorem SessionInv.handles (h : SessionInv s)
    (houtcome : Handles s env body session calls code disposition)
    (haccepts : s20StateAccepts s.state body.kind = true) : SessionInv session := by
  have hstates := mem_acceptingStates haccepts
  cases houtcome with
  | sessionSetup =>
    -- a new session: the contactor is open, since before the setup it cannot be closed
    have hstate : s.state = .sessionSetup := List.mem_singleton.mp hstates
    have hopen : s.contactorClosed ≠ true := fun hclosed => by
      have := (h.closed (by simp [hstate])).mp hclosed
      simp [hstate] at this
    exact ⟨fun _ => iff_of_true rfl (by simp), fun _ => iff_of_false hopen (by simp),
      fun _ => h.cable_check (by rw [hstate]; decide),
      fun _ => h.charge_loop (by rw [hstate]; decide)⟩
  -- the phases that only move on by one
  | authSetup | serviceDiscovery | serviceSelection | dcCpd =>
    exact h.moveFrom (List.mem_singleton.mp hstates) (by simp) (by decide)
  | authorizationGranted =>
    have hmoved : SessionInv { s with state := .serviceDiscovery } :=
      h.moveFrom (List.mem_singleton.mp hstates) (by simp) (by decide)
    exact hmoved.setTimers ..
  | scheduleExchange =>
    have hmoved : SessionInv { s with state := .cableCheck } :=
      h.moveFrom (List.mem_singleton.mp hstates) (by simp) (by decide)
    exact hmoved.setTimers ..
  | authorizationSelectionInvalid | authorizationExpired | authorizationRejected
  | authorizationPending => exact h.startEimTimer _
  | scheduleExchangeFailed => exact h.startSeTimer _
  -- the contactor closes on the way into the charge loop
  | start hloop =>
    have hstate : s.state = .powerDelivery := by
      rcases List.mem_pair.mp hstates with hstate | hstate
      · exact hstate
      · exact absurd hstate hloop
    have hestablished : s.sessionEstablished = true :=
      (h.established (by simp [hstate])).mpr (by simp [hstate])
    exact sessionInv_of_loop (by simp) hestablished (iff_of_true rfl rfl)
  -- a stop from either state: the session is established, and the contactor is open
  | stop =>
    have hlive : s.state ≠ .ended ∧ s.state ≠ .sessionSetup := by
      rcases List.mem_pair.mp hstates with hstate | hstate <;> simp [hstate]
    have hestablished : s.sessionEstablished = true := (h.established hlive.1).mpr hlive.2
    exact sessionInv_of_loop (by simp [State20.rank]) hestablished
      (iff_of_false (by simp) (by simp))
  | cableCheckFinished =>
    have hstate : s.state = .cableCheck := List.mem_singleton.mp hstates
    have hmoved : SessionInv { s with state := .preCharge } :=
      h.moveFrom hstate (by simp) (by decide)
    exact ⟨hmoved.established, hmoved.closed, fun hrank => absurd hrank (by simp [State20.rank]),
      hmoved.charge_loop⟩
  -- the phase stays, with the clock of the cable check running
  | cableCheckFault | cableCheckOngoing =>
    have hstate : s.state = .cableCheck := List.mem_singleton.mp hstates
    exact ⟨h.established, h.closed, fun hrank => absurd hrank (by simp [hstate, State20.rank]),
      h.charge_loop⟩
  | preCharge =>
    -- a PreChargeReq is also answered in PowerDelivery, where it moves nothing
    by_cases hstate : s.state = .preCharge
    · rw [if_pos hstate]
      exact h.moveFrom hstate (by simp) (by decide)
    · rw [if_neg hstate]
      exact h
  | chargeLoop =>
    have hstate : s.state = .chargeLoop := List.mem_singleton.mp hstates
    exact ⟨h.established, h.closed, h.cable_check,
      fun hrank => absurd hrank (by simp [hstate, State20.rank])⟩
  | @welding evProcessing =>
    have hstate : s.state = .welding := List.mem_singleton.mp hstates
    by_cases hfinished : evProcessing = .finished
    · rw [if_pos hfinished]
      exact h.moveFrom hstate (by simp) (by decide)
    · rw [if_neg hfinished]
      exact h
  | _ => exact h

/-- Handling a SessionStop leaves the session as it is. -/
theorem Handles.session_eq_of_stop (h : Handles s env body session calls code disposition)
    (hkind : body.kind = .sessionStop) : session = s := by
  cases h with
  | sessionStopRefused | sessionStop => rfl
  | _ => cases hkind

end Steps

/-! ## Granted stops -/

/-- A SessionStopRes with the code OK is produced with the contactor open only. -/
def StopsOpen : Event20 → Prop
  | .frame f => ∀ res, f.result.res = some res → res.body = .sessionStop →
      res.responseCode = .ok →
      f.before.contactorClosed = false ∧ f.result.session.contactorClosed = false
  | .reset => True

/-- A frame in a session that satisfies the invariant grants a SessionStop with the contactor
open only. -/
theorem SessionInv.stopsOpen {s : Secc20} (h : SessionInv s) (codec : Codec20)
    (input : FrameInput20) :
    StopsOpen
      (.frame (secc20Frame codec input.env input.outCap s input.payloadType input.exi)) := by
  intro res hres hbody hok
  have hframe := receives codec input.env input.outCap s input.payloadType input.exi
  dsimp only [secc20Frame] at hres ⊢
  generalize secc20HandleFrame codec input.env input.outCap s input.payloadType input.exi =
    result at hframe hres
  cases hframe with
  | empty | ended | expired | undecodable => cases hres
  -- a refusal is not answered OK
  | unknownSession _ _ hkind | outOfSequence _ _ hkind =>
    rw [s20Conclude_res] at hres
    cases hok.symm.trans ((s20BuildRes_carriesOut hkind).code_eq hres)
  | @handled doc hreads hdecode hadmits =>
    have haccepts : s20StateAccepts s.state doc.body.kind = true :=
      s20StateAccepts_of_admits hadmits
    obtain ⟨session, calls, code, disposition, houtcome, hcarries⟩ :=
      handles_of_accepts codec input.env input.outCap s.received haccepts
    rw [s20Conclude_res] at hres
    have hkind : doc.body.kind = .sessionStop := by
      rw [← (s20Handle_replies ..).kind_eq hres, hbody]
      rfl
    -- no state that accepts a SessionStop is the charge loop
    have hstate : s.state ≠ .ended ∧ s.state ≠ .chargeLoop := by
      rw [hkind] at haccepts
      constructor <;> intro hstate <;> simp [hstate, s20StateAccepts] at haccepts
    have hopen : s.contactorClosed = false :=
      Bool.eq_false_of_not_eq_true fun hclosed =>
        hstate.2 ((h.closed hstate.1).mp hclosed)
    obtain ⟨hsession, -, -⟩ := s20Conclude_cases input.env hcarries.session_eq
    obtain ⟨-, -, -, hflag, -⟩ := hsession.fields
    refine ⟨hopen, hflag.trans ?_⟩
    rw [houtcome.session_eq_of_stop hkind]
    exact hopen

/-- Every frame keeps the invariant. -/
theorem SessionInv.frame {f : Frame20} (h : SessionInv f.before) (hframe : FrameOutcome f) :
    SessionInv f.result.session := by
  cases hframe with
  | rejected _ hsession =>
    obtain ⟨code, hsession⟩ := hsession
    exact h.concludesAs hsession
  | handled _ hadmits houtcome hsession =>
    have hhandled := h.received.handles houtcome (s20StateAccepts_of_admits hadmits)
    exact hhandled.concludesAs hsession

/-- After every sequence of frames and resets from a fresh session the flags of a session that has
not ended follow its state, and every SessionStop on the way was granted with the contactor open
only. -/
theorem session_inv (codec : Codec20) (cfg : Config20) (inputs : List Input20) :
    SessionInv ((secc20Machine codec).run (.init cfg) inputs).1 ∧
      ∀ e ∈ ((secc20Machine codec).run (.init cfg) inputs).2, StopsOpen e := by
  have hrun := (secc20Machine codec).run_induction
    (fun t s => SessionInv s ∧ ∀ e ∈ t, StopsOpen e) ?_ (t := []) ⟨sessionInv_init cfg, by simp⟩
    inputs
  · simpa using hrun
  · rintro t s i ⟨hinv, hstops⟩
    -- a reset starts over, and a frame keeps the invariant
    cases i with
    | reset nowMs =>
      refine ⟨sessionInv_reset nowMs, ?_⟩
      intro e he
      rcases List.mem_append.mp he with he | he
      · exact hstops e he
      · obtain rfl := List.mem_singleton.mp he
        trivial
    | frame input =>
      refine ⟨hinv.frame (secc20Frame_outcome ..), ?_⟩
      intro e he
      rcases List.mem_append.mp he with he | he
      · exact hstops e he
      · obtain rfl := List.mem_singleton.mp he
        exact hinv.stopsOpen codec input

end Jpv2g
