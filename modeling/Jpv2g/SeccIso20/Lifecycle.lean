import Jpv2g.SeccIso20.Contactor
import Jpv2g.SeccIso20.Sessions

/-!
# Lifecycle Reports

The ISO 15118-20 module reports to the controller when a cable check and a charge loop start, the
targets of each charge loop message, and the end of the charge loop. The start of the charge loop is
reported by its first message, its end by the PowerDelivery Stop that leaves it, whether there was a
message or not.

## Main definitions

* `ReportPaired`: a report comes in its place among the calls of its session.
* `LifecyclePaired`: all reports of the session do.
* `LoopReported`: the condition, on the messages of the charge loop and on the stop that ends it.
* `LifecycleInv`: the flags and the state of a session follow the hooks invoked in it.

## Main results

* `lifecycle_paired_iff`: over every run, all reports are paired exactly when every charge loop that
  is stopped has been reported as started.
-/

namespace Jpv2g

open Trace Event20

/-- The call is a report on the cable check or on the charge loop. -/
def Call20.isReport : Call20 → Bool
  | .onCableCheckStarted | .onChargeLoopStarted | .onChargeTargets _ _ _
  | .onChargeLoopFinished => true
  | _ => false

/-- A report comes in its place after the calls of its session: the starts and the end once, the
charge loop after the contactor is confirmed closed, its targets and its end after its start, and
no targets after its end. -/
def ReportPaired (pre : List Call20) : Call20 → Prop
  | .onCableCheckStarted => .onCableCheckStarted ∉ pre
  | .onChargeLoopStarted => .onChargeLoopStarted ∉ pre ∧ .contactorSet true true ∈ pre
  | .onChargeTargets _ _ _ => .onChargeLoopStarted ∈ pre ∧ .onChargeLoopFinished ∉ pre
  | .onChargeLoopFinished => .onChargeLoopFinished ∉ pre ∧ .onChargeLoopStarted ∈ pre
  | _ => True

/-- The hooks invoked in the session so far, oldest first. -/
def sessionCalls (t : List Event20) : List Call20 :=
  hookCalls (thisSession t)

/-- The reports of the session are paired. -/
def LifecyclePaired (pre : List Event20) (e : Event20) : Prop :=
  Justified ReportPaired (sessionCalls (pre ++ [e]))

/-- The request is a PowerDelivery Stop that ends the charge loop: it refers to no other schedule
than the one offered. -/
def Secc20.stopsLoop (s : Secc20) : Body20 → Bool
  | .common (.powerDeliveryReq .stop tuple) =>
    decide (s.state = .chargeLoop) && !tuple.any (· ≠ scheduleTupleId)
  | _ => false

/-- The request is a message of the charge loop in the mode that was negotiated. -/
def Body20.runsLoop : Body20 → Bool
  | .dc (.chargeLoopReq req) => req.scheduled.isSome && !req.otherControlMode
  | _ => false

/-- When the request is to report the end of the charge loop, its start has been reported; when it
is to report targets, the start is reported as well. -/
@[mk_iff]
structure KeepsPaired (s : Secc20) (body : Body20) : Prop where
  stops : s.stopsLoop body = true → s.cfg.callbacks.onChargeLoopFinished = true →
    s.chargeLoopStarted = true ∧ s.cfg.callbacks.onChargeLoopStarted = true
  runs : body.runsLoop = true → s.cfg.callbacks.onChargeTargets = true →
    s.cfg.callbacks.onChargeLoopStarted = true

/-- A request that is handed to its handler keeps the reports of its session paired. -/
def LoopReported (codec : Codec20) (_ : List Event20) (s : Secc20) : Input20 → Prop
  | .frame input => ∀ doc,
      handledRequest codec input.env s input.payloadType input.exi = some doc →
      KeepsPaired s doc.body
  | .reset _ => True

/-! ## What a handler reports -/

/-- A hook that is installed is called once. -/
@[simp]
theorem mem_invoke {installed : Bool} {call c : Call20} :
    c ∈ invoke installed call ↔ installed = true ∧ c = call := by
  cases installed <;> simp [invoke]

section Handlers

variable {codec : Codec20} {env : Env20} {outCap : ℕ} {s session : Secc20} {body : Body20}
  {calls : List Call20} {code : ResponseCode20} {disposition : Disposition20} {c : Call20}

/-- The calls hold no report. -/
def Unreported (calls : List Call20) : Prop :=
  ∀ c ∈ calls, c.isReport = false

/-- The reports of a handler: they come first among the hooks it invokes. -/
inductive Reports (s : Secc20) (body : Body20) (calls : List Call20) : Prop
  | stops {tail : List Call20} (hstops : s.stopsLoop body = true)
      (hstate : s.state = .chargeLoop)
      (hcalls : calls =
        invoke s.cfg.callbacks.onChargeLoopFinished .onChargeLoopFinished ++ tail)
      (htail : Unreported tail)
  | runs {voltage current present : ℚ} {tail : List Call20} (hruns : body.runsLoop = true)
      (hstate : s.state = .chargeLoop)
      (hcalls : calls =
        invoke (!s.chargeLoopStarted && s.cfg.callbacks.onChargeLoopStarted)
            .onChargeLoopStarted ++
          (invoke s.cfg.callbacks.onChargeTargets (.onChargeTargets voltage current present) ++
            tail))
      (htail : Unreported tail)
  | checks {tail : List Call20} (hbody : body = .dc .cableCheckReq)
      (hcalls : calls =
        invoke (!s.cableCheckStarted && s.cfg.callbacks.onCableCheckStarted)
          .onCableCheckStarted ++ tail)
      (htail : Unreported tail)
  | none (hstops : s.stopsLoop body = false) (hruns : body.runsLoop = false)
      (hcalls : Unreported calls)

/-- A hook that is invoked unless a flag is set. -/
theorem invoke_unless {flag installed : Bool} :
    (if flag then [] else invoke installed c) = invoke (!flag && installed) c := by
  cases flag <;> rfl

/-- A call that is no report reports nothing. -/
theorem unreported_invoke {installed : Bool} (hc : c.isReport = false) :
    Unreported (invoke installed c) := by
  intro c' hc'
  rw [(mem_invoke.mp hc').2]
  exact hc

/-- Two lists without a report have none together. -/
theorem Unreported.append {calls' : List Call20} (h : Unreported calls) (h' : Unreported calls') :
    Unreported (calls ++ calls') := by
  intro c hc
  exact (List.mem_append.mp hc).elim (h c) (h' c)

/-- A contactor command is no report. -/
theorem unreported_contactorCall {close : Bool} : Unreported (contactorCall s env close) :=
  unreported_invoke rfl

/-- The command to open the contactor is no report. -/
theorem unreported_open :
    Unreported (if s.contactorClosed then contactorCall s env false else []) := by
  split
  · exact unreported_contactorCall
  · simp [Unreported]

/-- A message of the charge loop reports its start first, and then its targets. -/
theorem chargeLoopCalls_eq {req : DcChargeLoopReq} {targets : ScheduledDcClReqControlMode} :
    ∃ tail, Unreported tail ∧ chargeLoopCalls env s req targets =
      invoke (!s.chargeLoopStarted && s.cfg.callbacks.onChargeLoopStarted) .onChargeLoopStarted ++
        (invoke s.cfg.callbacks.onChargeTargets
          (.onChargeTargets (ratToFloat targets.evTargetVoltage)
            (ratToFloat targets.evTargetCurrent) (ratToFloat req.evPresentVoltage)) ++ tail) := by
  rw [chargeLoopCalls, invoke_unless]
  simp only [List.append_assoc]
  refine ⟨_, ?_, rfl⟩
  refine .append ?_ (.append (unreported_invoke rfl) (.append (unreported_invoke rfl)
    (.append (unreported_invoke rfl) (unreported_invoke rfl))))
  split
  · exact unreported_invoke rfl
  · simp [Unreported]

/-- A stop that refers to another schedule reports nothing. -/
theorem s20HandlePowerDelivery_stop_calls {tuple : Option ℕ} :
    (s20HandlePowerDelivery codec env outCap s .stop tuple).calls =
      if tuple.any (· ≠ scheduleTupleId) then [] else stopCalls env s := by
  rw [s20HandlePowerDelivery]
  split_ifs
  · exact s20BuildRes_calls
  · exact s20BuildRes_calls

/-- A handled PowerDelivery Stop reports the end of the charge loop, or nothing. -/
theorem reports_of_stop {tuple : Option ℕ} :
    Reports s (.common (.powerDeliveryReq .stop tuple))
      (s20HandlePowerDelivery codec env outCap s .stop tuple).calls := by
  rw [s20HandlePowerDelivery_stop_calls]
  split_ifs with htuple
  · refine .none ?_ rfl (by simp [Unreported])
    rw [Secc20.stopsLoop, htuple, Bool.not_true, Bool.and_false]
  · rw [stopCalls]
    by_cases hstate : s.state = .chargeLoop
    · rw [if_pos hstate]
      refine .stops ?_ hstate rfl unreported_open
      rw [Secc20.stopsLoop, Bool.eq_false_of_not_eq_true htuple, decide_eq_true hstate]
      rfl
    · rw [if_neg hstate]
      exact .none (by simp [Secc20.stopsLoop, hstate]) rfl unreported_open

/-- Every other request reports nothing, apart from a CableCheckReq and a message of the charge
loop. -/
theorem Handles.reports (h : Handles s env body session calls code disposition)
    (haccepts : s20StateAccepts s.state body.kind = true)
    (hstop : ∀ tuple, body ≠ .common (.powerDeliveryReq .stop tuple)) :
    Reports s body calls := by
  have hstops : s.stopsLoop body = false := by
    unfold Secc20.stopsLoop
    split
    · exact absurd rfl (hstop _)
    · rfl
  cases h with
  | stop => exact absurd rfl (hstop _)
  -- the hooks that report are asked in the cable check and in the charge loop
  | cableCheckFinished | cableCheckFault | cableCheckOngoing =>
    rw [cableCheckCalls, invoke_unless]
    exact .checks rfl rfl (unreported_invoke rfl)
  | chargeLoop hscheduled hother =>
    have hstate := List.mem_singleton.mp (mem_acceptingStates haccepts)
    obtain ⟨tail, htail, hcalls⟩ := @chargeLoopCalls_eq env s _ _
    exact .runs (by simp [Body20.runsLoop, hscheduled, hother]) hstate hcalls htail
  | chargeLoopFailed hmode =>
    refine .none hstops ?_ (by simp [Unreported])
    rcases hmode with hmode | hmode <;> simp [Body20.runsLoop, hmode]
  | _ =>
    refine .none hstops rfl ?_
    intro c hc
    simp [limitsCall, presentCall, terminationCalls, contactorCall] at hc <;>
      grind [Call20.isReport]

/-- Every handler reports as it does. -/
theorem s20Handle_reports (haccepts : s20StateAccepts s.state body.kind = true) :
    Reports s body (s20Handle codec env outCap s body).calls := by
  by_cases hstop : ∃ tuple, body = .common (.powerDeliveryReq .stop tuple)
  · obtain ⟨tuple, rfl⟩ := hstop
    exact reports_of_stop
  · obtain ⟨session, calls, code, disposition, houtcome, hcarries⟩ :=
      handles_of_accepts codec env outCap s haccepts
    rw [hcarries.calls_eq]
    exact houtcome.reports haccepts (not_exists.mp hstop)

/-- A handled request keeps the flag of the cable check, and a message of the charge loop sets its
own. -/
theorem Handles.flags (h : Handles s env body session calls code disposition) :
    (s.cableCheckStarted = true → session.cableCheckStarted = true) ∧
      session.chargeLoopStarted = (s.chargeLoopStarted || body.runsLoop) := by
  cases h with
  | authorizationSelectionInvalid | authorizationExpired | authorizationRejected
  | authorizationPending =>
    rw [Secc20.startEimTimer]
    split <;> exact ⟨id, (Bool.or_false _).symm⟩
  | scheduleExchangeFailed =>
    rw [Secc20.startSeTimer]
    split <;> exact ⟨id, (Bool.or_false _).symm⟩
  | preCharge | welding => split <;> exact ⟨id, (Bool.or_false _).symm⟩
  | cableCheckFinished | cableCheckFault | cableCheckOngoing =>
    exact ⟨fun _ => rfl, (Bool.or_false _).symm⟩
  | chargeLoop hscheduled hother => exact ⟨id, by simp [Body20.runsLoop, hscheduled, hother]⟩
  | chargeLoopFailed hmode =>
    refine ⟨id, ?_⟩
    rcases hmode with hmode | hmode <;> simp [Body20.runsLoop, hmode]
  | _ => exact ⟨id, (Bool.or_false _).symm⟩

/-- A reported cable check has started. -/
theorem Handles.cableCheckStarted_of (h : Handles s env body session calls code disposition)
    (hreports : Reports s body calls) (hmem : .onCableCheckStarted ∈ calls) :
    session.cableCheckStarted = true := by
  cases hreports with
  | stops _ _ hcalls htail | runs _ _ hcalls htail =>
    simp [hcalls] at hmem
    exact absurd (htail _ hmem) (by decide)
  | checks hbody => cases h <;> first | rfl | cases hbody
  | none _ _ hcalls => exact absurd (hcalls _ hmem) (by decide)

/-- A stop of the charge loop is a PowerDelivery. -/
theorem eq_stop_of_stopsLoop (h : s.stopsLoop body = true) :
    ∃ tuple, body = .common (.powerDeliveryReq .stop tuple) := by
  unfold Secc20.stopsLoop at h
  split at h
  · exact ⟨_, rfl⟩
  · cases h

/-- The start of the charge loop is reported by its first message. -/
theorem Reports.started_iff (h : Reports s body calls) :
    .onChargeLoopStarted ∈ calls ↔
      body.runsLoop = true ∧ s.chargeLoopStarted = false ∧
        s.cfg.callbacks.onChargeLoopStarted = true := by
  have hquiet : ∀ tail, Unreported tail → .onChargeLoopStarted ∉ tail := by
    intro tail htail hmem
    exact absurd (htail _ hmem) (by decide)
  cases h with
  | stops hstops _ hcalls htail =>
    obtain ⟨tuple, rfl⟩ := eq_stop_of_stopsLoop hstops
    simp [hcalls, hquiet _ htail, Body20.runsLoop]
  | runs hruns _ hcalls htail => simp [hcalls, hquiet _ htail, hruns]
  | checks hbody hcalls htail => simp [hcalls, hquiet _ htail, hbody, Body20.runsLoop]
  | none _ hruns hcalls => simp [hquiet _ hcalls, hruns]

/-- The end of the charge loop is reported on the way to the welding detection. -/
theorem Handles.state_of_finished (h : Handles s env body session calls code disposition)
    (hreports : Reports s body calls) (hmem : .onChargeLoopFinished ∈ calls) :
    session.state = .welding := by
  cases hreports with
  | stops hstops =>
    obtain ⟨tuple, rfl⟩ := eq_stop_of_stopsLoop hstops
    cases h with
    | powerDeliveryWrongTuple => cases hmem
    | stop => rfl
  | runs _ _ hcalls htail =>
    simp [hcalls] at hmem
    exact absurd (htail _ hmem) (by decide)
  | checks _ hcalls htail =>
    simp [hcalls] at hmem
    exact absurd (htail _ hmem) (by decide)
  | none _ _ hcalls => exact absurd (hcalls _ hmem) (by decide)

end Handlers

/-! ## The invariant -/

/-- The flags and the state of a session follow the hooks invoked in it. -/
structure ReportInv (invoked : List Call20) (s : Secc20) : Prop where
  cable_check : .onCableCheckStarted ∈ invoked → s.cableCheckStarted = true
  started : .onChargeLoopStarted ∈ invoked ↔
    s.chargeLoopStarted = true ∧ s.cfg.callbacks.onChargeLoopStarted = true
  closed : s.state = .chargeLoop → .contactorSet true true ∈ invoked
  finished : s.state.rank < State20.welding.rank → .onChargeLoopFinished ∉ invoked

section Invariant

variable {invoked calls : List Call20} {s session after : Secc20} {env : Env20} {body : Body20}
  {code : ResponseCode20} {disposition : Disposition20}

/-- A session before its cable check has reported nothing. -/
theorem reportInv_nil (h : SessionInv s) (hrank : s.state.rank < State20.cableCheck.rank) :
    ReportInv [] s := by
  have hstarted := h.charge_loop (lt_trans hrank (by decide))
  refine ⟨by simp, by simp [hstarted], ?_, by simp⟩
  intro hstate
  rw [hstate] at hrank
  exact absurd hrank (by decide)

/-- The bookkeeping of a response keeps the invariant. -/
theorem ReportInv.concludesAs {recorded : ℕ} (h : ReportInv invoked session)
    (hafter : ConcludesAs session recorded after) : ReportInv invoked after := by
  obtain ⟨state, deadline, rfl | rfl, rfl⟩ := hafter
  · exact ⟨h.cable_check, h.started, h.closed, h.finished⟩
  · exact ⟨h.cable_check, h.started, nofun, by simp [State20.rank]⟩

/-- Handling a request keeps the invariant. -/
theorem ReportInv.handles (h : ReportInv invoked s)
    (houtcome : Handles s env body session calls code disposition)
    (haccepts : s20StateAccepts s.state body.kind = true) (hreports : Reports s body calls) :
    ReportInv (invoked ++ calls) session := by
  obtain ⟨hcable, hloop⟩ := houtcome.flags
  refine ⟨?_, ?_, ?_, ?_⟩
  · intro hmem
    rcases List.mem_append.mp hmem with hmem | hmem
    · exact hcable (h.cable_check hmem)
    · exact houtcome.cableCheckStarted_of hreports hmem
  · rw [List.mem_append, h.started, hreports.started_iff, hloop, houtcome.cfg_eq, Bool.or_eq_true]
    -- the flag was set, or is set by a message that reports the start
    cases s.chargeLoopStarted <;> simp
  · intro hstate
    have hcontactor := houtcome.contactorStep haccepts
    cases hcontactor with
    | close _ _ _ hcalls => simp [hcalls]
    | refused _ hnot _ hsession =>
      rw [hsession] at hstate
      exact absurd hstate hnot
    | stop _ _ _ hwelding => cases hstate.symm.trans hwelding
    | other _ _ hsame => exact List.mem_append_left _ (h.closed (hsame.mp hstate))
  · intro hrank hmem
    rcases List.mem_append.mp hmem with hmem | hmem
    · exact h.finished (lt_of_le_of_lt (houtcome.rank_le haccepts) hrank) hmem
    · rw [houtcome.state_of_finished hreports hmem] at hrank
      exact absurd hrank (lt_irrefl _)

end Invariant

/-! ## Paired reports -/

section Paired

variable {invoked tail : List Call20} {s : Secc20} {body : Body20} {calls : List Call20}
  {c : Call20} {installed : Bool}

/-- Calls that hold no report stay paired. -/
theorem justified_unreported_iff (htail : Unreported tail) :
    Justified ReportPaired (invoked ++ tail) ↔ Justified ReportPaired invoked := by
  constructor
  · exact fun h => h.of_append
  · intro h
    refine h.append ?_
    rintro pre c post rfl
    have hc := htail c (by simp)
    cases c <;> trivial

/-- A report is paired when it comes in its place, if it is installed. -/
theorem justified_invoke_iff (h : Justified ReportPaired invoked) :
    Justified ReportPaired (invoked ++ invoke installed c) ↔
      (installed = true → ReportPaired invoked c) := by
  cases installed with
  | false => simpa [invoke] using h
  | true => exact ⟨fun hall _ => hall.last, fun hc => h.concat (hc rfl)⟩

/-- The end of the charge loop is paired exactly when its start has been reported. -/
theorem ReportInv.stops_iff (h : ReportInv invoked s) (hjust : Justified ReportPaired invoked)
    (hstate : s.state = .chargeLoop) (htail : Unreported tail) :
    Justified ReportPaired (invoked ++
        (invoke s.cfg.callbacks.onChargeLoopFinished .onChargeLoopFinished ++ tail)) ↔
      (s.cfg.callbacks.onChargeLoopFinished = true →
        s.chargeLoopStarted = true ∧ s.cfg.callbacks.onChargeLoopStarted = true) := by
  have hfinished : .onChargeLoopFinished ∉ invoked := h.finished (by rw [hstate]; decide)
  rw [← List.append_assoc, justified_unreported_iff htail, justified_invoke_iff hjust, ← h.started]
  exact imp_congr_right fun _ => and_iff_right hfinished

/-- The targets of the charge loop are paired exactly when its start is reported. -/
theorem ReportInv.runs_iff {voltage current present : ℚ} (h : ReportInv invoked s)
    (hjust : Justified ReportPaired invoked) (hstate : s.state = .chargeLoop)
    (htail : Unreported tail) :
    Justified ReportPaired (invoked ++
        (invoke (!s.chargeLoopStarted && s.cfg.callbacks.onChargeLoopStarted)
            .onChargeLoopStarted ++
          (invoke s.cfg.callbacks.onChargeTargets (.onChargeTargets voltage current present) ++
            tail))) ↔
      (s.cfg.callbacks.onChargeTargets = true →
        s.cfg.callbacks.onChargeLoopStarted = true) := by
  have hfinished : .onChargeLoopFinished ∉ invoked := h.finished (by rw [hstate]; decide)
  -- the first message reports the start, which the contactor precedes
  have hstart : Justified ReportPaired (invoked ++
      invoke (!s.chargeLoopStarted && s.cfg.callbacks.onChargeLoopStarted)
        .onChargeLoopStarted) := by
    refine (justified_invoke_iff hjust).mpr ?_
    intro hreports
    refine ⟨?_, h.closed hstate⟩
    rw [h.started]
    rintro ⟨hstarted, -⟩
    simp [hstarted] at hreports
  rw [← List.append_assoc, ← List.append_assoc, justified_unreported_iff htail,
    justified_invoke_iff hstart]
  refine imp_congr_right fun _ => ?_
  rw [ReportPaired, List.mem_append, List.mem_append, h.started]
  cases s.chargeLoopStarted <;> simp [hfinished]

/-- A handled request keeps the reports of its session paired exactly under the condition. -/
theorem ReportInv.paired_iff (h : ReportInv invoked s)
    (hjust : Justified ReportPaired invoked) (hreports : Reports s body calls) :
    Justified ReportPaired (invoked ++ calls) ↔ KeepsPaired s body := by
  -- the requests that report are those that stop or run the loop; the others keep the pairs
  cases hreports with
  | stops hstops hstate hcalls htail =>
    obtain ⟨tuple, rfl⟩ := eq_stop_of_stopsLoop hstops
    rw [hcalls, h.stops_iff hjust hstate htail, keepsPaired_iff]
    simp [hstops, Body20.runsLoop]
  | runs hruns hstate hcalls htail =>
    rw [hcalls, h.runs_iff hjust hstate htail, keepsPaired_iff]
    have hstops : s.stopsLoop body = false := by
      cases body with
      | common body => cases hruns
      | dc body => rfl
    simp [hruns, hstops]
  | checks hbody hcalls htail =>
    refine iff_of_true ?_ ?_
    · rw [hcalls, ← List.append_assoc, justified_unreported_iff htail, justified_invoke_iff hjust]
      intro hfirst hmem
      simp [h.cable_check hmem] at hfirst
    · simp [keepsPaired_iff, hbody, Secc20.stopsLoop, Body20.runsLoop]
  | none hstops hruns hcalls =>
    refine iff_of_true ((justified_unreported_iff hcalls).mpr hjust) ?_
    simp [keepsPaired_iff, hstops, hruns]

end Paired

section Steps

variable {codec : Codec20} {outCap : ℕ} {t : List Event20} {e : Event20} {s : Secc20}
  {f : Frame20}

/-- A session that begins has called no hook. -/
theorem sessionCalls_of_begins (he : e.begins = true) : sessionCalls (t ++ [e]) = [] := by
  rw [sessionCalls, thisSession_of_begins he]
  rfl

/-- Any other event adds its calls. -/
theorem sessionCalls_concat (he : e.begins = false) :
    sessionCalls (t ++ [e]) = sessionCalls t ++ e.calls := by
  rw [sessionCalls, thisSession_concat he, hookCalls_concat]
  rfl

/-- The invariant of a run. -/
def LifecycleInv (t : List Event20) (s : Secc20) : Prop :=
  SessionInv s ∧ (s.state ≠ .ended → ReportInv (sessionCalls t) s)

/-- The session that a request is handed over in follows the hooks invoked in it. -/
theorem LifecycleInv.received {kind : Req20} (h : LifecycleInv t s)
    (haccepts : s20StateAccepts s.state kind = true) :
    ReportInv (sessionCalls t) s.received := by
  have hlive : s.state ≠ .ended := by
    intro hended
    rw [hended] at haccepts
    cases haccepts
  have hinv := h.2 hlive
  exact ⟨hinv.cable_check, hinv.started, hinv.closed, hinv.finished⟩

/-- Every frame keeps the invariant. -/
theorem LifecycleInv.frame (h : LifecycleInv t f.before) (hframe : FrameHands codec outCap f)
    (houtcome : FrameOutcome f) : LifecycleInv (t ++ [.frame f]) f.result.session := by
  have hsession := h.1.frame houtcome
  refine ⟨hsession, ?_⟩
  intro hlive
  cases hframe with
  -- a refusal makes no call, and moves on only to the end
  | refused hrequest hcalls hconcludes =>
    obtain ⟨recorded, hconcludes⟩ := hconcludes
    have hsame : sessionCalls (t ++ [.frame f]) = sessionCalls t := by
      rw [sessionCalls_concat (by simp [begins, hrequest]), Event20.calls, hcalls, List.append_nil]
    rw [hsame]
    refine (h.2 ?_).concludesAs hconcludes
    rw [hconcludes.state_eq rfl hlive]
    exact hlive
  | @handled doc hrequest hadmits hresult =>
    have haccepts : s20StateAccepts f.before.state doc.body.kind = true :=
      s20StateAccepts_of_admits hadmits
    obtain ⟨session, calls, code, disposition, houtcome, hcarries⟩ :=
      handles_of_accepts codec f.env outCap f.before.received haccepts
    obtain ⟨hconcludes, hcalls, -⟩ := s20Conclude_cases f.env hcarries.session_eq
    rw [← hresult] at hconcludes hcalls
    -- a new session has no call behind it, a running one gets those of its handler
    by_cases hsetup : doc.body.kind = .sessionSetup
    · rw [sessionCalls_of_begins (by simp [begins, hrequest, hsetup])]
      refine reportInv_nil hsession ?_
      obtain ⟨sid, body⟩ := doc
      rw [← hconcludes.state_eq rfl hlive]
      cases houtcome <;> first | (cases hsetup; done) | simp [State20.rank]
    · have hreports : Reports f.before.received doc.body calls := by
        rw [← hcarries.calls_eq]
        exact s20Handle_reports haccepts
      rw [sessionCalls_concat (by simp [begins, hrequest, hsetup]), Event20.calls, hcalls,
        hcarries.calls_eq]
      exact ((h.received haccepts).handles houtcome haccepts hreports).concludesAs hconcludes

/-- The reports of the session are paired as long as all reports are. -/
theorem justified_sessionCalls (h : Justified LifecyclePaired t) :
    Justified ReportPaired (sessionCalls t) := by
  rcases List.eq_nil_or_concat t with rfl | ⟨pre, e, rfl⟩
  · exact justified_nil
  · rw [List.concat_eq_append] at h ⊢
    exact h.last

/-- Under the invariant, a frame keeps the reports paired exactly under the condition. -/
theorem LifecycleInv.paired_iff (h : LifecycleInv t s)
    (hjust : Justified ReportPaired (sessionCalls t)) (input : FrameInput20) :
    LifecyclePaired t
        (.frame (secc20Frame codec input.env input.outCap s input.payloadType input.exi)) ↔
      LoopReported codec t s (.frame input) := by
  have hhands := secc20Frame_hands codec input.env input.outCap s input.payloadType input.exi
  cases hhands with
  | refused hrequest hcalls =>
    refine iff_of_true ?_ ?_
    · rw [LifecyclePaired, sessionCalls_concat (by simp [begins, hrequest]), Event20.calls, hcalls,
        List.append_nil]
      exact hjust
    · intro doc hdoc
      cases hrequest.symm.trans hdoc
  | @handled doc hrequest hadmits hresult =>
    have haccepts : s20StateAccepts s.state doc.body.kind = true :=
      s20StateAccepts_of_admits hadmits
    have hcondition : LoopReported codec t s (.frame input) ↔ KeepsPaired s.received doc.body := by
      constructor
      · intro hreported
        obtain ⟨hstops, hruns⟩ := hreported doc hrequest
        exact ⟨hstops, hruns⟩
      · intro hkeeps doc' hdoc'
        cases hrequest.symm.trans hdoc'
        exact ⟨hkeeps.stops, hkeeps.runs⟩
    rw [hcondition, LifecyclePaired]
    by_cases hsetup : doc.body.kind = .sessionSetup
    · rw [sessionCalls_of_begins (by simp [begins, hrequest, hsetup])]
      refine iff_of_true justified_nil ?_
      -- a SessionSetupReq neither stops the loop nor reports its targets
      obtain ⟨sid, body | body⟩ := doc <;> cases body <;> cases hsetup
      constructor
      · intro hstops
        cases hstops
      · intro hruns
        cases hruns
    · have hcalls : (secc20Frame codec input.env input.outCap s input.payloadType
          input.exi).result.calls =
            (s20Handle codec input.env input.outCap s.received doc.body).calls := by
        rw [hresult, s20Conclude_calls]
        rfl
      rw [sessionCalls_concat (by simp [begins, hrequest, hsetup]), Event20.calls, hcalls]
      exact (h.received haccepts).paired_iff hjust (s20Handle_reports haccepts)

end Steps

/-- Over every run, all reports of all sessions are paired exactly when each end of a charge loop
that is reported finds the start reported, and no targets are reported without a start. -/
theorem lifecycle_paired_iff (codec : Codec20) (cfg : Config20) (inputs : List Input20) :
    Justified LifecyclePaired ((secc20Machine codec).run (.init cfg) inputs).2 ↔
      (secc20Machine codec).Meets (LoopReported codec) [] (.init cfg) inputs := by
  refine (secc20Machine codec).justified_run_iff_meets LifecycleInv ?_ ?_ ?_ inputs
  -- every step keeps the invariant
  · intro t s i h
    cases i with
    | reset nowMs =>
      refine ⟨sessionInv_reset nowMs, fun _ => ?_⟩
      show ReportInv (sessionCalls (t ++ [.reset])) (s.reset nowMs)
      rw [sessionCalls_of_begins rfl]
      exact reportInv_nil (sessionInv_reset nowMs) (by simp [Secc20.reset, State20.rank])
    | frame input => exact h.frame (secc20Frame_hands ..) (secc20Frame_outcome ..)
  -- and keeps the reports paired exactly under the condition
  · intro t s i h hjust
    cases i with
    | reset nowMs =>
      refine iff_of_true (hjust.concat ?_) trivial
      rw [LifecyclePaired, sessionCalls_of_begins rfl]
      exact justified_nil
    | frame input =>
      exact hjust.concat_iff.trans (h.paired_iff (justified_sessionCalls hjust) input)
  · refine ⟨sessionInv_init cfg, fun _ => reportInv_nil (sessionInv_init cfg) ?_⟩
    simp [Secc20.init, State20.rank]

/-- A controller that is told about the charge loop. -/
def reportedConfig : Config20 :=
  { sampleConfig20 with
    callbacks :=
      { sampleConfig20.callbacks with
        onChargeLoopStarted := true, onChargeTargets := true, onChargeLoopFinished := true } }

/-- A charge loop that is stopped before its first message ends without having started. -/
theorem not_lifecycle_paired :
    ¬∀ codec cfg inputs,
      Justified LifecyclePaired ((secc20Machine codec).run (.init cfg) inputs).2 := by
  intro h
  have hrun := h sampleCodec20 reportedConfig
    ((sampleCharge ++ [sampleFrame .exi20Mainstream 7]).map .frame)
  rw [List.map_append, List.map_singleton, Machine.run_concat] at hrun
  have hstop := hrun.last
    [.authStatus .granted, .cableCheckStatus .finished, .contactorSet true true]
    .onChargeLoopFinished [.contactorSet false true] (by decide)
  exact absurd hstop.2 (by decide)

end Jpv2g
