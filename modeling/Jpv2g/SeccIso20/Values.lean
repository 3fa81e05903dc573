import Jpv2g.SeccIso20.Invariant

/-!
# The Values and Verdicts of the ISO 15118-20 Module

The module reports the electrical values its controller has delivered and no others, and never
gets past a verdict that no hook has given.

## Main definitions

* `HookReturn`: what a hook that fills a structure did, with its return code.
* `HookEnv20`: the environment of a frame with the hooks as they returned.
* `Carries`: the values of a response are the wire format of given limits and telemetry.
* `FromHooks`: every value of a response has been delivered by a hook of the same call, or is zero.
* `Guarded`: the states a session with a missing hook stays within.

## Main results

* `fromHooks`: so is every value of every response to every frame.
* `never_invents`: over every run, the values of the responses and the states reached.
-/

namespace Jpv2g

/-! ## Hooks that fill a structure -/

/-- What a hook that fills a structure did: its return code and what it has written. -/
structure HookReturn (α : Type) where
  rc : ℤ
  out : α

/-- What the hook delivered: nothing unless it returned zero. -/
def HookReturn.delivered {α : Type} (r : HookReturn α) : Option α :=
  if r.rc = 0 then some r.out else none

/-- The environment of a frame, with the hooks that fill a structure as they return. -/
structure HookEnv20 where
  env : Env20
  getDcLimits : HookReturn DcLimits20
  getPresent : HookReturn Present20
  /-- The meter identifier and reading. -/
  getMeter : HookReturn (List Char × ℕ)

/-- The environment as the module hears it. -/
def HookEnv20.heard (h : HookEnv20) : Env20 :=
  { h.env with
    dcLimits := h.getDcLimits.delivered
    present := h.getPresent.delivered
    meter := h.getMeter.delivered }

/-- The storage of the limits after the hook, cleared again when it fails (`s20_cb_limits`). -/
def s20CbLimitsStorage (s : Secc20) (hook : HookReturn DcLimits20) : DcLimits20 :=
  if s.cfg.callbacks.getDcLimits && hook.rc == 0 then hook.out else zeroLimits

/-- The storage of the telemetry after the hook, cleared again when it fails
(`s20_cb_present`). -/
def s20CbPresentStorage (s : Secc20) (hook : HookReturn Present20) : Present20 :=
  if s.cfg.callbacks.getPresent && hook.rc == 0 then hook.out else zeroPresent

section Storage

variable (s : Secc20) (h : HookEnv20)

/-- The limits the handlers use are those left in the storage. -/
theorem s20CbLimits_heard : s20CbLimits s h.heard = s20CbLimitsStorage s h.getDcLimits := by
  by_cases hrc : h.getDcLimits.rc = 0 <;>
    cases hinstalled : s.cfg.callbacks.getDcLimits <;>
    simp [s20CbLimits, s20CbLimitsStorage, HookEnv20.heard, HookReturn.delivered, hrc, hinstalled]

/-- The telemetry the handlers use is the one left in the storage. -/
theorem s20CbPresent_heard : s20CbPresent s h.heard = s20CbPresentStorage s h.getPresent := by
  by_cases hrc : h.getPresent.rc = 0 <;>
    cases hinstalled : s.cfg.callbacks.getPresent <;>
    simp [s20CbPresent, s20CbPresentStorage, HookEnv20.heard, HookReturn.delivered, hrc,
      hinstalled]

end Storage

/-! ## The values of a response -/

/-- A value that may be absent is the given one when it is there. -/
def OptCarries (sent : Option RationalNumber) (value : ℚ) : Prop :=
  ∀ r, sent = some r → r = ratFromFloat value

/-- The values of a response are the wire format of the limits and the telemetry, each field that of
its own quantity, and its meter reading is the given one. -/
def Carries (lim : DcLimits20) (present : Present20) (meterWh : Option ℕ) : Res20Body → Prop
  | .dcChargeParameterDiscovery mode =>
    mode.evseMaximumChargePower = ratFromFloat lim.maxChargePowerW ∧
      mode.evseMinimumChargePower = ratFromFloat lim.minChargePowerW ∧
      mode.evseMaximumChargeCurrent = ratFromFloat lim.maxChargeCurrentA ∧
      mode.evseMinimumChargeCurrent = ratFromFloat lim.minChargeCurrentA ∧
      mode.evseMaximumVoltage = ratFromFloat lim.maxVoltageV ∧
      mode.evseMinimumVoltage = ratFromFloat lim.minVoltageV
  | .scheduleExchange _ _ _ _ power => power = ratFromFloat lim.maxChargePowerW
  | .dcPreCharge voltage | .dcWeldingDetection voltage => voltage = ratFromFloat present.voltageV
  | .dcChargeLoop res =>
    res.evsePresentCurrent = ratFromFloat present.currentA ∧
      res.evsePresentVoltage = ratFromFloat present.voltageV ∧
      OptCarries res.scheduled.evseMaximumChargePower lim.maxChargePowerW ∧
      OptCarries res.scheduled.evseMinimumChargePower lim.minChargePowerW ∧
      OptCarries res.scheduled.evseMaximumChargeCurrent lim.maxChargeCurrentA ∧
      OptCarries res.scheduled.evseMaximumVoltage lim.maxVoltageV ∧
      ∀ info, res.meterInfo = some info → meterWh = some info.chargedEnergyReadingWh
  | _ => True

/-- The limits are all zero, or those a hook has delivered in the given calls. -/
def LimitsDelivered (h : HookEnv20) (calls : List Call20) (lim : DcLimits20) : Prop :=
  lim = zeroLimits ∨
    h.getDcLimits.rc = 0 ∧ lim = h.getDcLimits.out ∧ .getDcLimits (some lim) ∈ calls

/-- The telemetry is all zero, or the one a hook has delivered in the given calls. -/
def PresentDelivered (h : HookEnv20) (calls : List Call20) (present : Present20) : Prop :=
  present = zeroPresent ∨
    h.getPresent.rc = 0 ∧ present = h.getPresent.out ∧ .getPresent (some present) ∈ calls

/-- There is no meter reading, or it is the one a hook has delivered in the given calls. -/
def MeterDelivered (h : HookEnv20) (calls : List Call20) (meterWh : Option ℕ) : Prop :=
  meterWh = none ∨
    h.getMeter.rc = 0 ∧ meterWh = some h.getMeter.out.2 ∧ .getMeter (some h.getMeter.out) ∈ calls

/-- Every value of the response of a call is the wire format of one that a hook has delivered in the
same call, returning zero, or of zero. -/
def FromHooks (h : HookEnv20) (result : HandlerResult20) : Prop :=
  ∀ res, result.res = some res → ∃ lim present meterWh,
    LimitsDelivered h result.calls lim ∧ PresentDelivered h result.calls present ∧
      MeterDelivered h result.calls meterWh ∧ Carries lim present meterWh res.body

section Sources

variable {s : Secc20} {h : HookEnv20} {calls : List Call20}

/-- The limits used come from the limits hook, invoked in the same call. -/
theorem limitsDelivered_cb (hcalls : ∀ c ∈ limitsCall h.heard s, c ∈ calls) :
    LimitsDelivered h calls (s20CbLimits s h.heard) := by
  rw [s20CbLimits_heard, s20CbLimitsStorage]
  split_ifs with hused
  · obtain ⟨hinstalled, hrc⟩ := Bool.and_eq_true_iff.mp hused
    have hrc : h.getDcLimits.rc = 0 := by simpa using hrc
    refine .inr ⟨hrc, rfl, hcalls _ ?_⟩
    simp [limitsCall, invoke, hinstalled, HookEnv20.heard, HookReturn.delivered, hrc]
  · exact .inl rfl

/-- The telemetry used comes from the telemetry hook, invoked in the same call. -/
theorem presentDelivered_cb (hcalls : ∀ c ∈ presentCall h.heard s, c ∈ calls) :
    PresentDelivered h calls (s20CbPresent s h.heard) := by
  rw [s20CbPresent_heard, s20CbPresentStorage]
  split_ifs with hused
  · obtain ⟨hinstalled, hrc⟩ := Bool.and_eq_true_iff.mp hused
    have hrc : h.getPresent.rc = 0 := by simpa using hrc
    refine .inr ⟨hrc, rfl, hcalls _ ?_⟩
    simp [presentCall, invoke, hinstalled, HookEnv20.heard, HookReturn.delivered, hrc]
  · exact .inl rfl

/-- The reading used comes from the meter hook, invoked in the same call. -/
theorem meterDelivered_cb {requested : Bool}
    (hcalls : ∀ c ∈ invoke (requested && s.cfg.callbacks.getMeter) (.getMeter h.heard.meter),
      c ∈ calls) :
    MeterDelivered h calls
      ((s20MeterInfo h.heard s requested).map MeterInfo20.chargedEnergyReadingWh) := by
  rw [s20MeterInfo]
  split_ifs with hused
  · by_cases hrc : h.getMeter.rc = 0
    · refine .inr ⟨hrc, ?_, hcalls _ ?_⟩
      · simp [HookEnv20.heard, HookReturn.delivered, hrc]
      · simp [invoke, hused, HookEnv20.heard, HookReturn.delivered, hrc]
    · exact .inl (by simp [HookEnv20.heard, HookReturn.delivered, hrc])
  · exact .inl rfl

/-- The minimal responses carry zero. -/
theorem carries_minimal {env : Env20} {kind : Req20} {resBody : Res20Body}
    (hmin : s20MinimalBody env s kind = some resBody) :
    Carries zeroLimits zeroPresent none resBody := by
  cases kind <;> simp only [s20MinimalBody, Option.some.injEq, reduceCtorEq] at hmin <;>
    rw [← hmin]
  case dcCpd => exact ⟨rfl, rfl, rfl, rfl, rfl, rfl⟩
  case dcChargeLoop =>
    refine ⟨rfl, rfl, ?_, ?_, ?_, ?_, ?_⟩ <;> simp [s20MinimalChargeLoopRes, OptCarries]
  case dcPreCharge | dcWelding | scheduleExchange => rfl
  all_goals trivial

/-- The filled responses carry what the hooks of the same call have delivered. -/
theorem fromHooks_filled {body : Body20} {resBody : Res20Body}
    (hfilled : FilledBody s h.heard body calls resBody) :
    ∃ lim present meterWh, LimitsDelivered h calls lim ∧ PresentDelivered h calls present ∧
      MeterDelivered h calls meterWh ∧ Carries lim present meterWh resBody := by
  cases hfilled with
  -- responses without a measured value
  | authorization | serviceDiscovery | dcCableCheck =>
    exact ⟨zeroLimits, zeroPresent, none, .inl rfl, .inl rfl, .inl rfl, trivial⟩
  | scheduleExchange =>
    exact ⟨_, zeroPresent, none, limitsDelivered_cb fun c hc => hc, .inl rfl, .inl rfl, rfl⟩
  | dcCpd =>
    refine ⟨_, zeroPresent, none, limitsDelivered_cb fun c hc => ?_, .inl rfl, .inl rfl,
      ⟨rfl, rfl, rfl, rfl, rfl, rfl⟩⟩
    exact List.mem_append_right _ hc
  | dcPreCharge =>
    refine ⟨zeroLimits, _, none, .inl rfl, presentDelivered_cb ?_, .inl rfl, rfl⟩
    intro c hc
    exact List.mem_append_right _ hc
  | dcWelding =>
    exact ⟨zeroLimits, _, none, .inl rfl, presentDelivered_cb fun c hc => hc, .inl rfl, rfl⟩
  -- the charge loop asks all three hooks
  | @dcChargeLoop req targets =>
    have hlim : LimitsDelivered h (chargeLoopCalls h.heard s req targets)
        (s20CbLimits s h.heard) :=
      limitsDelivered_cb fun c hc => by simp [chargeLoopCalls, hc]
    have hpresent : PresentDelivered h (chargeLoopCalls h.heard s req targets)
        (s20CbPresent s h.heard) :=
      presentDelivered_cb fun c hc => by simp [chargeLoopCalls, hc]
    have hmeter : MeterDelivered h (chargeLoopCalls h.heard s req targets)
        ((s20MeterInfo h.heard s req.meterInfoRequested).map
          MeterInfo20.chargedEnergyReadingWh) :=
      meterDelivered_cb fun c hc => by simp [chargeLoopCalls, hc]
    have hsent (value : ℚ) : OptCarries (some (ratFromFloat value)) value := fun r hr =>
      (Option.some.inj hr).symm
    refine ⟨_, _, _, hlim, hpresent, hmeter, rfl, rfl, hsent _, hsent _, hsent _, hsent _, ?_⟩
    intro info hinfo
    exact congrArg (Option.map MeterInfo20.chargedEnergyReadingWh) hinfo

/-- Whatever a handler answers has been delivered. -/
theorem Replies.delivered {codec : Codec20} {outCap : ℕ} {body : Body20}
    {result : HandlerResult20} (hreplies : Replies codec h.heard outCap s body result) :
    FromHooks h (s20Conclude h.heard result) := by
  intro res hres
  rw [s20Conclude_res] at hres
  rw [s20Conclude_calls]
  rcases hreplies.body_cases res hres with hmin | hfilled
  · exact ⟨zeroLimits, zeroPresent, none, .inl rfl, .inl rfl, .inl rfl, carries_minimal hmin⟩
  · exact fromHooks_filled hfilled

/-- Every response to every frame carries what the hooks have delivered in the same call. -/
theorem fromHooks (codec : Codec20) (s : Secc20) (h : HookEnv20) (outCap : ℕ)
    (payloadType : PayloadType) (exi : List UInt8) :
    FromHooks h (secc20HandleFrame codec h.heard outCap s payloadType exi) := by
  have hframe := receives codec h.heard outCap s payloadType exi
  generalize secc20HandleFrame codec h.heard outCap s payloadType exi = result at hframe
  cases hframe with
  | empty | ended | expired | undecodable =>
    intro res hres
    cases hres
  | unknownSession | outOfSequence =>
    exact (s20BuildRes_replies (s := s.received) rfl).delivered
  | handled => exact (s20Handle_replies ..).delivered

end Sources

/-! ## The verdicts -/

/-- The states of a session that no request has carried past the given state. -/
def Within (limit : State20) (state : State20) : Prop :=
  state = .ended ∨ state.rank ≤ limit.rank

/-- The states a session with a missing hook stays within: without an authorization it does not pass
the Authorization, without an isolation status it does not pass the CableCheck, and without a
contactor it does not enter the charge loop. -/
structure Guarded (callbacks : Callbacks20) (state : State20) : Prop where
  authorization : callbacks.authStatus = false → Within .authorization state
  cable_check : callbacks.cableCheckStatus = false → Within .cableCheck state
  charge_loop : callbacks.contactorSet = false → state ≠ .chargeLoop

/-- A session in its first state is guarded. -/
theorem guarded_sessionSetup (callbacks : Callbacks20) : Guarded callbacks .sessionSetup :=
  ⟨fun _ => .inr (by decide), fun _ => .inr (by decide), fun _ => by simp⟩

/-- An ended session is guarded. -/
theorem guarded_ended (callbacks : Callbacks20) : Guarded callbacks .ended :=
  ⟨fun _ => .inl rfl, fun _ => .inl rfl, fun _ => by simp⟩

section Guards

variable {s session : Secc20} {env : Env20} {body : Body20} {calls : List Call20}
  {code : ResponseCode20} {disposition : Disposition20}

/-- A request that leads on from a known state keeps the guards when it crosses none of them. -/
theorem Guarded.move {callbacks : Callbacks20} {state state' : State20}
    (h : Guarded callbacks state) (hlive : state ≠ .ended)
    (hauthorization : state.rank ≤ State20.authorization.rank →
      state'.rank ≤ State20.authorization.rank)
    (hcable : state.rank ≤ State20.cableCheck.rank → state'.rank ≤ State20.cableCheck.rank)
    (hloop : state' ≠ .chargeLoop) : Guarded callbacks state' :=
  ⟨fun hhook => .inr (hauthorization ((h.authorization hhook).resolve_left hlive)),
    fun hhook => .inr (hcable ((h.cable_check hhook).resolve_left hlive)), fun _ => hloop⟩

/-- Every handled request keeps the guards: the hook behind each of them has given its verdict. -/
theorem Guarded.handles (h : Guarded s.cfg.callbacks s.state)
    (houtcome : Handles s env body session calls code disposition)
    (haccepts : s20StateAccepts s.state body.kind = true) :
    Guarded s.cfg.callbacks session.state := by
  have hstates := mem_acceptingStates haccepts
  cases houtcome with
  -- these states are entered whichever hooks there are
  | sessionSetup | authSetup | serviceDiscovery | serviceSelection | dcCpd | scheduleExchange =>
    have hstate := List.mem_singleton.mp hstates
    rw [hstate] at h
    dsimp only
    exact h.move (by simp) (by decide) (by decide) (by simp)
  -- the states that a hook guards are entered only behind that hook
  | authorizationGranted _ hinstalled =>
    have hstate : s.state = .authorization := List.mem_singleton.mp hstates
    rw [hstate] at h
    dsimp only
    exact ⟨fun hhook => absurd (hhook.symm.trans hinstalled) (by simp),
      fun _ => .inr (by decide), fun _ => by simp⟩
  | cableCheckFinished hinstalled =>
    have hstate : s.state = .cableCheck := List.mem_singleton.mp hstates
    rw [hstate] at h
    refine ⟨fun hhook => ?_, fun hhook => absurd (hhook.symm.trans hinstalled) (by simp),
      fun _ => by simp⟩
    exact absurd ((h.authorization hhook).resolve_left (by simp)) (by decide)
  | start _ hinstalled =>
    -- PowerDelivery comes after the two states that the other hooks guard
    have hlate : s.state ≠ .ended ∧ ¬s.state.rank ≤ State20.cableCheck.rank := by
      rcases List.mem_pair.mp hstates with hstate | hstate <;> rw [hstate] <;> decide
    have hauthorization : ¬s.state.rank ≤ State20.authorization.rank := fun hrank =>
      hlate.2 (hrank.trans (by decide))
    exact ⟨fun hhook => absurd ((h.authorization hhook).resolve_left hlate.1) hauthorization,
      fun hhook => absurd ((h.cable_check hhook).resolve_left hlate.1) hlate.2,
      fun hhook => absurd (hhook.symm.trans hinstalled) (by simp)⟩
  | stop =>
    dsimp only
    rcases List.mem_pair.mp hstates with hstate | hstate <;> rw [hstate] at h <;>
      exact h.move (by simp) (by decide) (by decide) (by simp)
  | preCharge =>
    by_cases hstate : s.state = .preCharge
    · rw [if_pos hstate]
      rw [hstate] at h
      dsimp only
      exact h.move (by simp) (by decide) (by decide) (by simp)
    · rw [if_neg hstate]
      exact h
  | @welding evProcessing =>
    have hstate : s.state = .welding := List.mem_singleton.mp hstates
    by_cases hfinished : evProcessing = .finished
    · rw [if_pos hfinished]
      rw [hstate] at h
      dsimp only
      exact h.move (by simp) (by decide) (by decide) (by simp)
    · rw [if_neg hfinished]
      exact h
  | authorizationSelectionInvalid | authorizationExpired | authorizationRejected
  | authorizationPending =>
    rw [startEimTimer_state]
    exact h
  | scheduleExchangeFailed =>
    rw [startSeTimer_state]
    exact h
  | _ => exact h

/-- Every frame keeps the guards. -/
theorem Guarded.frame {f : Frame20} (h : Guarded f.before.cfg.callbacks f.before.state)
    (hframe : FrameOutcome f) :
    Guarded f.result.session.cfg.callbacks f.result.session.state := by
  cases hframe with
  | rejected _ hsession =>
    obtain ⟨code, state, deadline, rfl | rfl, hafter⟩ := hsession
    · rw [hafter]
      exact h
    · rw [hafter]
      exact guarded_ended _
  | handled _ hadmits houtcome hsession =>
    have hhandled : Guarded f.before.received.cfg.callbacks _ :=
      Guarded.handles h houtcome (s20StateAccepts_of_admits hadmits)
    obtain ⟨state, deadline, rfl | rfl, hafter⟩ := hsession
    · rw [hafter]
      rw [← houtcome.cfg_eq] at hhandled
      exact hhandled
    · rw [hafter]
      exact guarded_ended _

end Guards

/-- After every sequence of frames and resets, with whatever hooks installed, every response carries
what the hooks have delivered in the same call, and the session has not got past a verdict that no
hook has given. -/
theorem never_invents (codec : Codec20) (cfg : Config20) (inputs : List Input20) :
    (∀ (h : HookEnv20) (outCap : ℕ) (payloadType : PayloadType) (exi : List UInt8),
      FromHooks h (secc20HandleFrame codec h.heard outCap
        ((secc20Machine codec).run (.init cfg) inputs).1 payloadType exi)) ∧
    Guarded cfg.callbacks ((secc20Machine codec).run (.init cfg) inputs).1.state := by
  refine ⟨fun h => fromHooks codec _ h, ?_⟩
  -- the hooks are those of the configuration, which no input changes
  have hrun := (secc20Machine codec).run_induction
    (fun _ s => s.cfg = cfg ∧ Guarded s.cfg.callbacks s.state) ?_ (t := [])
    (s := .init cfg) ⟨rfl, guarded_sessionSetup _⟩ inputs
  · obtain ⟨hcfg, hguarded⟩ := hrun
    rwa [hcfg] at hguarded
  · rintro t s i ⟨hcfg, hinv⟩
    rcases secc20_step_cases codec s i with ⟨nowMs, rfl, heq⟩ | ⟨f, heq, rfl, hframe⟩
    · rw [heq]
      exact ⟨hcfg, guarded_sessionSetup _⟩
    · rw [heq]
      refine ⟨?_, hinv.frame hframe⟩
      cases hframe with
      | rejected _ hsession =>
        obtain ⟨code, hsession⟩ := hsession
        exact hsession.fields.1.trans hcfg
      | handled _ _ houtcome hsession =>
        exact (hsession.fields.1.trans houtcome.cfg_eq).trans hcfg

end Jpv2g
