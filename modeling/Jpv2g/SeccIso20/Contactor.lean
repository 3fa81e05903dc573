import Jpv2g.SeccIso20.Runs

/-!
# The Contactor after the Session

Whether the contactor is left commanded closed when a session ends, and whether the session object
knows the last command it gave.

## Main definitions

* `LeftClosed`: the contactor confirmed closing and has not been commanded open since.
* `LastClosed`: the last command to the contactor was to close, and it confirmed.

## Main results

* `contactor_released`: a session that ends outside the charge loop has not left the contactor
  closed; one that ends inside has, and reports its end to the caller.
* `contactor_tracked`: as long as no reset meets a closed contactor, the session object knows that
  the contactor was closed last, and a PowerDelivery Stop opens it.
-/

namespace Jpv2g

open Trace

/-! ## The command history -/

/-- The call commands the contactor open. -/
def Call20.opens : Call20 → Bool
  | .contactorSet false _ => true
  | _ => false

/-- The contactor has been commanded closed, with confirmation, and not commanded open since. -/
def LeftClosed (t : List Event20) : Prop :=
  Since (fun c => c.opens = false) (· = .contactorSet true true) (hookCalls t)

/-- The last command to the contactor was to close it, and it confirmed. -/
def LastClosed (t : List Event20) : Prop :=
  Since (fun c => c.isContactor = false) (· = .contactorSet true true) (hookCalls t)

/-- A history survives calls that neither close the contactor with confirmation nor end it. -/
theorem since_append_iff {q : Call20 → Prop} {h calls : List Call20}
    (hcalls : ∀ c ∈ calls, q c ∧ c ≠ .contactorSet true true) :
    Since q (· = .contactorSet true true) (h ++ calls) ↔ Since q (· = .contactorSet true true) h :=
  ⟨fun hsince => hsince.of_append fun c hc => (hcalls c hc).2,
    fun hsince => hsince.append fun c hc => (hcalls c hc).1⟩

/-- Calls that leave the contactor alone. -/
theorem neutral_of_any {calls : List Call20} (h : calls.any Call20.isContactor = false) :
    ∀ c ∈ calls, c.isContactor = false ∧ c.opens = false ∧ c ≠ .contactorSet true true := by
  intro c hc
  have hc : c.isContactor = false := by
    simpa using List.any_eq_false.mp h c hc
  cases c <;> simp_all [Call20.isContactor, Call20.opens]

section Stop

variable {s : Secc20} {env : Env20} {h : List Call20}

/-- A PowerDelivery Stop opens a contactor that is known to be closed. -/
theorem opens_of_stop (hclosed : s.contactorClosed = true)
    (hinstalled : s.cfg.callbacks.contactorSet = true) :
    ∃ init, stopCalls env s = init ++ [.contactorSet false env.contactorConfirms] := by
  simp [stopCalls, hclosed, contactorCall, invoke, hinstalled]

/-- A PowerDelivery Stop leaves alone a contactor that is not known to be closed. -/
theorem stopCalls_any (hopen : s.contactorClosed = false) :
    (stopCalls env s).any Call20.isContactor = false := by
  unfold stopCalls
  split <;> simp [hopen, Call20.isContactor]

end Stop

/-! ## The invariant -/

/-- A condition on calls that only commands to the contactor can break, and that a command to open
it does break. -/
structure Tracks (q : Call20 → Prop) : Prop where
  neutral : ∀ c, c.isContactor = false → q c
  opening : ∀ confirmed, ¬q (.contactorSet false confirmed)

theorem tracks_opens : Tracks fun c => c.opens = false :=
  ⟨fun c hc => by cases c <;> simp_all [Call20.isContactor, Call20.opens], nofun⟩

theorem tracks_isContactor : Tracks fun c => c.isContactor = false :=
  ⟨fun _ hc => hc, nofun⟩

/-- The contactor is known to be closed exactly in the charge loop, or when the session has ended
there, and exactly when the history says so. -/
structure ContactorInv (q : Call20 → Prop) (t : List Event20) (s : Secc20) : Prop where
  installed : s.contactorClosed = true → s.cfg.callbacks.contactorSet = true
  charging : s.contactorClosed = true → s.state = .chargeLoop ∨ s.state = .ended
  closed : s.state = .chargeLoop → s.contactorClosed = true
  tracked : Since q (· = .contactorSet true true) (hookCalls t) ↔ s.contactorClosed = true

variable {q : Call20 → Prop} {t : List Event20} {s : Secc20} {f : Frame20}

/-- A fresh session tracks the contactor from an empty history. -/
theorem contactorInv_nil (hstate : s.state = .sessionSetup) (hopen : s.contactorClosed = false) :
    ContactorInv q [] s := by
  refine ⟨by simp [hopen], by simp [hopen], by simp [hstate], ?_⟩
  simp [hopen, hookCalls, not_since_nil]

/-- A reset that meets an open contactor keeps the contactor tracked. -/
theorem ContactorInv.reset (h : ContactorInv q t s) (hopen : s.contactorClosed = false)
    (nowMs : ℕ) : ContactorInv q (t ++ [.reset]) (s.reset nowMs) := by
  refine ⟨nofun, nofun, nofun, ?_⟩
  rw [hookCalls_concat]
  simpa [Event20.calls, h.tracked, Secc20.reset] using hopen

/-- A frame that leaves the contactor alone keeps it tracked. -/
theorem ContactorInv.leave (h : ContactorInv q t f.before) (hq : Tracks q)
    (hcalls : f.result.calls.any Call20.isContactor = false)
    (hcfg : f.result.session.cfg = f.before.cfg)
    (hflag : f.result.session.contactorClosed = f.before.contactorClosed)
    (hloop : f.result.session.state ≠ .ended →
      (f.result.session.state = .chargeLoop ↔ f.before.state = .chargeLoop))
    (hended : f.before.state = .ended → f.result.session.state = .ended) :
    ContactorInv q (t ++ [.frame f]) f.result.session := by
  refine ⟨fun hclosed => ?_, fun hclosed => ?_, fun hstate => ?_, ?_⟩
  · rw [hcfg]
    exact h.installed (hflag ▸ hclosed)
  · by_cases hend : f.result.session.state = .ended
    · exact .inr hend
    · rcases h.charging (hflag ▸ hclosed) with hstate | hstate
      · exact .inl ((hloop hend).mpr hstate)
      · exact .inr (hended hstate)
  · rw [hflag]
    exact h.closed ((hloop (by simp [hstate])).mp hstate)
  -- the frame calls no contactor hook, so that the last call is that of before
  · rw [hookCalls_concat, since_append_iff, h.tracked, hflag]
    intro c hc
    obtain ⟨hneutral, -, hclose⟩ := neutral_of_any hcalls c hc
    exact ⟨hq.neutral c hneutral, hclose⟩

/-- Every frame keeps the contactor tracked. -/
theorem ContactorInv.frame (h : ContactorInv q t f.before) (hq : Tracks q)
    (hframe : FrameOutcome f) : ContactorInv q (t ++ [.frame f]) f.result.session := by
  cases hframe with
  | rejected hrequest hsession hcalls =>
    obtain ⟨code, hsession⟩ := hsession
    obtain ⟨hcfg, -, -, hflag, -⟩ := hsession.fields
    refine h.leave hq (by rw [hcalls]; rfl) hcfg hflag (fun hend => ?_) fun hstate => ?_
    · rw [← hsession.state_eq rfl hend]
    · obtain ⟨state, deadline, rfl | rfl, hafter⟩ := hsession <;> simp [hafter, hstate]
  | @handled doc session calls code disposition hrequest hadmits houtcome hsession hcalls hended =>
    have haccepts : s20StateAccepts f.before.state doc.body.kind = true :=
      s20StateAccepts_of_admits hadmits
    have hlive : f.before.state ≠ .ended := by
      intro hstate
      simp [hstate, s20StateAccepts] at haccepts
    obtain ⟨hcfg, -, -, hflag, -⟩ := hsession.fields
    have hcfg : f.result.session.cfg = f.before.cfg := hcfg.trans houtcome.cfg_eq
    cases houtcome.contactorStep haccepts with
    | close hbody hstate hinstalled hclose hclosed hloop =>
      have hflag : f.result.session.contactorClosed = true := hflag.trans hclosed
      refine ⟨fun _ => by rwa [hcfg], fun _ => ?_, fun _ => hflag, ?_⟩
      · obtain ⟨state, deadline, rfl | rfl, hafter⟩ := hsession <;> simp [hafter, hloop]
      · rw [hookCalls_concat, Event20.calls, hcalls, hclose]
        exact iff_of_true (since_concat rfl) hflag
    -- a refused command does not count as closing, and breaks no history: there is none
    | refused hbody hstate hrefused hsame =>
      have hopen : ¬f.before.contactorClosed = true := fun hclosed =>
        (h.charging hclosed).elim hstate hlive
      have hflag : ¬f.result.session.contactorClosed = true := by rwa [hflag, hsame]
      refine ⟨fun hclosed => absurd hclosed hflag, fun hclosed => absurd hclosed hflag,
        fun hloop => ?_, ?_⟩
      · refine absurd ?_ hstate
        rw [← hsession.state_eq hloop (by simp), hsame, Secc20.received]
      · rw [hookCalls_concat, Event20.calls, hcalls]
        refine iff_of_false (fun hsince => hopen (h.tracked.mp (hsince.of_append ?_))) hflag
        intro c hc hclose
        cases (hrefused c hc).symm.trans hclose
    | stop hbody hstop hopened hwelding =>
      have hflag : ¬f.result.session.contactorClosed = true := by simp [hflag, hopened]
      refine ⟨fun hclosed => absurd hclosed hflag, fun hclosed => absurd hclosed hflag,
        fun hloop => ?_, ?_⟩
      · cases hwelding.symm.trans (hsession.state_eq hloop (by simp))
      · rw [hookCalls_concat, Event20.calls, hcalls, hstop]
        refine iff_of_false ?_ hflag
        intro hsince
        -- the open command is the last call, or there was nothing to open
        by_cases hclosed : f.before.contactorClosed = true
        · obtain ⟨init, hinit⟩ : ∃ init, stopCalls f.env f.before.received =
              init ++ [.contactorSet false f.env.contactorConfirms] :=
            opens_of_stop hclosed (h.installed hclosed)
          rw [hinit, ← List.append_assoc, since_concat_iff] at hsince
          rcases hsince with hclose | ⟨-, hopening⟩
          · cases hclose
          · exact hq.opening _ hopening
        · have hneutral : (stopCalls f.env f.before.received).any Call20.isContactor = false :=
            stopCalls_any (Bool.eq_false_of_not_eq_true hclosed)
          refine hclosed (h.tracked.mp (hsince.of_append ?_))
          intro c hc
          exact (neutral_of_any hneutral c hc).2.2
    | other hneutral hclosed hloop =>
      refine h.leave hq (by rw [hcalls, hneutral]) hcfg (hflag.trans hclosed) (fun hend => ?_)
        fun hstate => absurd hstate hlive
      rw [← hsession.state_eq rfl hend]
      exact hloop

/-- A frame that ends the session leaves the contactor as it was. -/
theorem FrameOutcome.contactorClosed_of_ended (hframe : FrameOutcome f)
    (hlive : f.before.state ≠ .ended) (hended : f.result.session.state = .ended) :
    f.result.session.contactorClosed = f.before.contactorClosed := by
  cases hframe with
  | rejected hrequest hsession hcalls hreport =>
    obtain ⟨code, hsession⟩ := hsession
    obtain ⟨-, -, -, hflag, -⟩ := hsession.fields
    exact hflag
  | @handled doc session calls code disposition hrequest hadmits houtcome hsession hcalls hreport =>
    have haccepts : s20StateAccepts f.before.state doc.body.kind = true :=
      s20StateAccepts_of_admits hadmits
    obtain ⟨-, -, -, hflag, -⟩ := hsession.fields
    rcases hreport with hstate | ⟨-, hcause⟩
    · exact absurd (hstate.symm.trans hended) (houtcome.live hlive)
    · rw [hflag]
      -- an accepted PowerDelivery is answered OK, and OK does not end the session
      cases houtcome.contactorStep haccepts with
      | close _ _ _ _ _ _ hgoes | stop _ _ _ _ hgoes =>
        obtain ⟨rfl, rfl⟩ := hgoes
        exact hcause.elim (absurd rfl) fun hfailed => absurd hfailed (by decide)
      | refused _ _ _ hsame => rw [hsame]; rfl
      | other _ hclosed => exact hclosed

/-! ## Sessions that end -/

/-- A session that ends outside the charge loop has not left the contactor closed; one that ends
inside has, and reports its end to the caller. -/
def ReleasedOutsideLoop (pre : List Event20) : Event20 → Prop
  | .frame f => f.before.state ≠ .ended → f.result.session.state = .ended →
      (LeftClosed (pre ++ [.frame f]) ↔ f.before.state = .chargeLoop) ∧ EndsReported f.result
  | .reset => True

/-- Over every run of frames from a fresh reset, a session that ends has left the contactor
commanded closed exactly when it ends in the charge loop, and every end is reported to the caller,
by a disposition other than continue or by the expired timer. -/
theorem contactor_released (codec : Codec20) (s : Secc20) (nowMs : ℕ)
    (frames : List FrameInput20) :
    Justified ReleasedOutsideLoop
      ((secc20Machine codec).run (s.reset nowMs) (frames.map .frame)).2 := by
  -- the run has no reset behind the first
  have hframes : (secc20Machine codec).Meets (fun _ _ i => ∃ input, i = .frame input) []
      (s.reset nowMs) (frames.map .frame) := by
    apply (secc20Machine codec).meets_of_forall
    intro i hi
    obtain ⟨input, -, rfl⟩ := List.mem_map.mp hi
    exact ⟨input, rfl⟩
  have hrun := (secc20Machine codec).run_induction_of_meets
    (fun t s => ContactorInv (fun c => c.opens = false) t s ∧ Justified ReleasedOutsideLoop t)
    ?_ ⟨contactorInv_nil rfl rfl, justified_nil⟩ hframes
  · exact hrun.2
  · rintro t s i ⟨hinv, hjust⟩ ⟨input, rfl⟩
    rcases secc20_step_cases codec s (.frame input) with ⟨nowMs, ⟨⟩, -⟩ | ⟨f, heq, rfl, hframe⟩
    · rw [heq]
      have hafter := hinv.frame tracks_opens hframe
      refine ⟨hafter, hjust.concat ?_⟩
      intro hlive hended
      -- the flag tracks the hook calls, and is set in the charge loop only
      refine ⟨hafter.tracked.trans ?_, hframe.endsReported hlive hended⟩
      rw [hframe.contactorClosed_of_ended hlive hended]
      exact ⟨fun hclosed => (hinv.charging hclosed).resolve_right hlive, hinv.closed⟩

/-! ### A session that ends in the charge loop -/

/-- A codec that numbers the requests of a session up to the charge loop. -/
def sampleCodec20 : Codec20 where
  decodeCommon
    | [0] => some ⟨Sid.zero.1, .sessionSetupReq []⟩
    | [1] => some ⟨sampleSid.1, .authorizationSetupReq⟩
    | [2] => some ⟨sampleSid.1, .authorizationReq .eim⟩
    | [3] => some ⟨sampleSid.1, .serviceDiscoveryReq none⟩
    | [4] => some ⟨sampleSid.1, .serviceSelectionReq dcServiceId dcParameterSetId 0⟩
    | [5] => some ⟨sampleSid.1, .scheduleExchangeReq false true⟩
    | [6] => some ⟨sampleSid.1, .powerDeliveryReq .start none⟩
    | [7] => some ⟨sampleSid.1, .powerDeliveryReq .stop none⟩
    | _ => none
  decodeDc
    | [0] => some ⟨sampleSid.1, .chargeParameterDiscoveryReq false
        (some ⟨⟨0, 0⟩, ⟨0, 0⟩, ⟨0, 0⟩, ⟨0, 0⟩, ⟨0, 0⟩, ⟨0, 0⟩, none⟩)⟩
    | [1] => some ⟨sampleSid.1, .cableCheckReq⟩
    | [2] => some ⟨sampleSid.1, .preChargeReq ⟨0, 0⟩ ⟨0, 0⟩⟩
    | _ => none
  encode _ _ := some []

/-- A controller that decides on authorization, isolation and the contactor. -/
def sampleConfig20 : Config20 where
  evseId := []
  nowUnixS := false
  callbacks :=
    { onEvccid := false, onAuthRequired := false, onEvLimits := false,
      onCableCheckStarted := false, onPrechargeTarget := false, onChargeLoopStarted := false,
      onChargeTargets := false, onDisplayParameters := false, onChargeLoopFinished := false,
      onEvTermination := false, authStatus := true, getDcLimits := false,
      cableCheckStatus := true, getPresent := false, contactorSet := true, stopRequest := false,
      getMeter := false }

/-- A frame of the sample session. -/
def sampleFrame (payloadType : PayloadType) (number : UInt8) : FrameInput20 :=
  { payloadType, exi := [number], outCap := 4096, env := sampleEnv20 }

/-- The frames of the sample session, up to the PowerDelivery Start. -/
def sampleCharge : List FrameInput20 :=
  [sampleFrame .exi20Mainstream 0, sampleFrame .exi20Mainstream 1,
    sampleFrame .exi20Mainstream 2, sampleFrame .exi20Mainstream 3,
    sampleFrame .exi20Mainstream 4, sampleFrame .exi20Dc 0, sampleFrame .exi20Mainstream 5,
    sampleFrame .exi20Dc 1, sampleFrame .exi20Dc 2, sampleFrame .exi20Mainstream 6]

/-- A session that ends has not left the contactor closed, wherever it ends. -/
def Released (pre : List Event20) : Event20 → Prop
  | .frame f => f.before.state ≠ .ended → f.result.session.state = .ended →
      ¬LeftClosed (pre ++ [.frame f])
  | .reset => True

/-- A ServiceSelectionReq in the charge loop ends the session with the contactor closed. -/
theorem not_released_in_charge_loop :
    ¬∀ (codec : Codec20) (s : Secc20) (nowMs : ℕ) (frames : List FrameInput20),
      (∀ res cap, (codec.encode res cap).isSome = true) →
      Justified Released
        ((secc20Machine codec).run (s.reset nowMs) (frames.map .frame)).2 := by
  intro h
  have hrun := h sampleCodec20 (.init sampleConfig20) 0
    (sampleCharge ++ [sampleFrame .exi20Mainstream 4]) fun _ _ => rfl
  rw [List.map_append, List.map_singleton, Machine.run_concat] at hrun
  refine hrun _ _ [] rfl (by decide) (by decide) ?_
  exact ⟨[.authStatus .granted, .cableCheckStatus .finished], .contactorSet true true, [], rfl, rfl,
    by simp⟩

/-! ## Resets -/

/-- A reset meets an open contactor. -/
def ResetsOpen (_ : List Event20) (s : Secc20) : Input20 → Prop
  | .frame _ => True
  | .reset _ => s.contactorClosed = false

/-- A PowerDelivery Stop answered OK opens a contactor that was closed last. -/
def StopOpens (pre : List Event20) : Event20 → Prop
  | .frame f => ∀ doc tuple, f.request = some doc →
      doc.body = .common (.powerDeliveryReq .stop tuple) →
      f.result.session.lastResponseCode = ResponseCode20.ok.value → LastClosed pre →
      ∃ confirmed, .contactorSet false confirmed ∈ f.result.calls
  | .reset => True

/-- A PowerDelivery Stop answered OK commands the contactor open when it is known to be closed. -/
theorem ContactorInv.stopOpens (h : ContactorInv (fun c => c.isContactor = false) t f.before)
    (hframe : FrameOutcome f) : StopOpens t (.frame f) := by
  intro doc tuple hdoc hbody hok hlast
  have hclosed := h.tracked.mp hlast
  cases hframe with
  | rejected hrequest => simp [hrequest] at hdoc
  | handled hrequest hadmits houtcome hsession hcalls =>
    cases hrequest.symm.trans hdoc
    obtain ⟨-, -, -, -, hcode⟩ := hsession.fields
    rw [hbody] at houtcome
    -- the only other answer to a Stop is a failure
    cases houtcome with
    | powerDeliveryWrongTuple => cases hcode.symm.trans hok
    | stop =>
      obtain ⟨init, hinit⟩ : ∃ init, stopCalls f.env f.before.received =
          init ++ [.contactorSet false f.env.contactorConfirms] :=
        opens_of_stop hclosed (h.installed hclosed)
      exact ⟨f.env.contactorConfirms, by rw [hcalls, hinit]; simp⟩

/-- In every run whose resets all meet an open contactor, the session object knows that the
contactor was closed last, and a PowerDelivery Stop then opens it. -/
theorem contactor_tracked (codec : Codec20) (cfg : Config20) (inputs : List Input20)
    (hopen : (secc20Machine codec).Meets ResetsOpen [] (.init cfg) inputs) :
    (LastClosed ((secc20Machine codec).run (.init cfg) inputs).2 →
      ((secc20Machine codec).run (.init cfg) inputs).1.contactorClosed = true) ∧
      Justified StopOpens ((secc20Machine codec).run (.init cfg) inputs).2 := by
  have hrun := (secc20Machine codec).run_induction_of_meets
    (fun t s => ContactorInv (fun c => c.isContactor = false) t s ∧ Justified StopOpens t)
    ?_ ⟨contactorInv_nil rfl rfl, justified_nil⟩ hopen
  · exact ⟨hrun.1.tracked.mp, hrun.2⟩
  · rintro t s i ⟨hinv, hjust⟩ hreset
    rcases secc20_step_cases codec s i with ⟨nowMs, rfl, heq⟩ | ⟨f, heq, rfl, hframe⟩
    · rw [heq]
      exact ⟨hinv.reset hreset nowMs, hjust.concat trivial⟩
    · rw [heq]
      exact ⟨hinv.frame tracks_isContactor hframe, hjust.concat (hinv.stopOpens hframe)⟩

/-- The sample session, a PowerDelivery Stop, and a reset that meets an open contactor. -/
def sampleStopped : List Input20 :=
  sampleCharge.map .frame ++ [.frame (sampleFrame .exi20Mainstream 7), .reset 0]

theorem sampleStopped_meets :
    (secc20Machine sampleCodec20).Meets ResetsOpen [] (.init sampleConfig20) sampleStopped :=
  ⟨trivial, trivial, trivial, trivial, trivial, trivial, trivial, trivial, trivial, trivial,
    trivial, rfl, trivial⟩

/-- The Stop opens the contactor before the session is reset. -/
theorem contactor_tracked_sample :
    (LastClosed ((secc20Machine sampleCodec20).run (.init sampleConfig20) sampleStopped).2 →
      ((secc20Machine sampleCodec20).run (.init sampleConfig20)
        sampleStopped).1.contactorClosed = true) ∧
      Justified StopOpens
        ((secc20Machine sampleCodec20).run (.init sampleConfig20) sampleStopped).2 :=
  contactor_tracked _ _ _ sampleStopped_meets

/-- A reset in the charge loop forgets that the contactor is closed. -/
theorem not_tracked_after_reset :
    ¬∀ (codec : Codec20) (cfg : Config20) (inputs : List Input20),
      LastClosed ((secc20Machine codec).run (.init cfg) inputs).2 →
      ((secc20Machine codec).run (.init cfg) inputs).1.contactorClosed = true := by
  intro h
  have hrun := h sampleCodec20 sampleConfig20 (sampleCharge.map .frame ++ [.reset 0])
  have hflag := hrun ⟨[.authStatus .granted, .cableCheckStatus .finished],
    .contactorSet true true, [], rfl, rfl, by simp⟩
  exact Bool.noConfusion hflag

end Jpv2g
