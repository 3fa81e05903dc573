import Jpv2g.SeccIso20.Messages
import Jpv2g.Session

/-!
# The ISO 15118-20 Session Record

The session object of the ISO 15118-20 module, the controller's hooks with their safe defaults,
and the requests each state accepts (`secc_iso20.h` and the first part of `secc_iso20.c`).

## Main definitions

* `Secc20`: the session object (`jpv2g_secc20_t`).
* `Env20`: everything a frame reads from outside the session object.
* `Call20`: an invocation of a controller hook, with the answer it gave.
* `s20StateAccepts`: the requests a state accepts.
-/

namespace Jpv2g

/-! ## Controller-facing values -/

/-- `jpv2g_secc20_dc_limits_t`. -/
structure DcLimits20 where
  maxChargePowerW : ℚ
  minChargePowerW : ℚ
  maxChargeCurrentA : ℚ
  minChargeCurrentA : ℚ
  maxVoltageV : ℚ
  minVoltageV : ℚ
deriving DecidableEq

/-- `jpv2g_secc20_ev_limits_t`. -/
structure EvLimits20 where
  evMaxChargePowerW : ℚ
  evMinChargePowerW : ℚ
  evMaxChargeCurrentA : ℚ
  evMinChargeCurrentA : ℚ
  evMaxVoltageV : ℚ
  evMinVoltageV : ℚ
  targetSocPercent : ℤ
deriving DecidableEq

/-- `jpv2g_secc20_present_t`. -/
structure Present20 where
  voltageV : ℚ
  currentA : ℚ
  powerLimitAchieved : Bool
  currentLimitAchieved : Bool
  voltageLimitAchieved : Bool
deriving DecidableEq

/-- `jpv2g_secc20_auth_status_t`. -/
inductive AuthStatus20 where
  | pending | granted | rejected
deriving DecidableEq, Repr

/-- `jpv2g_secc20_cable_check_status_t`. -/
inductive CableCheckStatus20 where
  | ongoing | finished | fault
deriving DecidableEq, Repr

/-- `jpv2g_secc20_stop_request_t`. -/
inductive StopRequest20 where
  | none | terminate | pause
deriving DecidableEq, Repr

/-- What the caller must do with the connection (`jpv2g_secc20_disposition_t`). -/
inductive Disposition20 where
  | continue | doneStopped | donePaused | doneFailed
deriving DecidableEq, Repr

/-- The session states (`jpv2g_secc20_state_t`). -/
inductive State20 where
  | sessionSetup | authSetup | authorization | serviceDiscovery | serviceDetail | dcCpd
  | scheduleExchange | cableCheck | preCharge | powerDelivery | chargeLoop | welding
  | sessionStop | ended
deriving DecidableEq, Repr

/-! ## The session object -/

/-- Which hooks the controller has installed (`jpv2g_secc20_callbacks_t`). -/
structure Callbacks20 where
  onEvccid : Bool
  onAuthRequired : Bool
  onEvLimits : Bool
  onCableCheckStarted : Bool
  onPrechargeTarget : Bool
  onChargeLoopStarted : Bool
  onChargeTargets : Bool
  onDisplayParameters : Bool
  onChargeLoopFinished : Bool
  onEvTermination : Bool
  authStatus : Bool
  getDcLimits : Bool
  cableCheckStatus : Bool
  getPresent : Bool
  contactorSet : Bool
  stopRequest : Bool
  getMeter : Bool
deriving DecidableEq, Repr

/-- The configuration (`jpv2g_secc20_config_t`); both workspaces are present. -/
structure Config20 where
  evseId : List Char
  /-- A wall-clock supplier is installed. -/
  nowUnixS : Bool
  callbacks : Callbacks20
deriving DecidableEq, Repr

/-- The session object (`jpv2g_secc20_t`). -/
structure Secc20 where
  cfg : Config20
  state : State20
  sessionId : Sid
  sessionEstablished : Bool
  contactorClosed : Bool
  cableCheckStarted : Bool
  chargeLoopStarted : Bool
  /-- The most recent ResponseCode value. -/
  lastResponseCode : ℕ
  /-- Deadlines on the monotonic clock; zero is unarmed. -/
  sequenceDeadlineMs : ℕ
  seOngoingDeadlineMs : ℕ
  eimOngoingDeadlineMs : ℕ
deriving DecidableEq, Repr

namespace Secc20

/-- A fresh session object (`jpv2g_secc20_init`). -/
def init (cfg : Config20) : Secc20 :=
  { cfg
    state := .sessionSetup
    sessionId := .zero
    sessionEstablished := false
    contactorClosed := false
    cableCheckStarted := false
    chargeLoopStarted := false
    lastResponseCode := 0
    sequenceDeadlineMs := 0
    seOngoingDeadlineMs := 0
    eimOngoingDeadlineMs := 0 }

/-- `JPV2G_SECC20_SEQUENCE_TIMEOUT_MS`. -/
def sequenceTimeoutMs : ℕ := 60000

/-- `JPV2G_SECC20_SE_ONGOING_TIMEOUT_MS`. -/
def seOngoingTimeoutMs : ℕ := 55000

/-- `JPV2G_SECC20_EIM_ONGOING_TIMEOUT_MS`. -/
def eimOngoingTimeoutMs : ℕ := 180000

/-- Re-arm for a fresh session on the current connection (`jpv2g_secc20_reset`). -/
def reset (s : Secc20) (nowMs : ℕ) : Secc20 :=
  { s with
    state := .sessionSetup
    sessionId := .zero
    sessionEstablished := false
    contactorClosed := false
    cableCheckStarted := false
    chargeLoopStarted := false
    lastResponseCode := 0
    -- the timer starts with the response that selected the protocol
    sequenceDeadlineMs := nowMs + sequenceTimeoutMs
    seOngoingDeadlineMs := 0
    eimOngoingDeadlineMs := 0 }

end Secc20

/-! ## Hooks -/

/-- What a frame reads from outside the session object: the clock at the three points it is
read, the wall clock, the random provider, and the answers of the controller's hooks. -/
structure Env20 where
  /-- The monotonic clock when the frame arrives. -/
  nowArrival : ℕ
  /-- The monotonic clock when the handler reads it. -/
  nowHandler : ℕ
  /-- The monotonic clock when the response has been produced. -/
  nowReply : ℕ
  /-- The wall clock of the response header. -/
  timeStamp : ℕ
  /-- The wall clock of the schedule's time anchor. -/
  timeAnchor : ℕ
  rng : RngCall
  authStatus : AuthStatus20
  /-- The limits, or `none` when the hook returns an error. -/
  dcLimits : Option DcLimits20
  cableCheckStatus : CableCheckStatus20
  /-- The telemetry, or `none` when the hook returns an error. -/
  present : Option Present20
  /-- The contactor confirms the requested position. -/
  contactorConfirms : Bool
  stopRequest : StopRequest20
  /-- The meter identifier and reading, or `none` when the hook returns an error. -/
  meter : Option (List Char × ℕ)

/-- An invocation of a controller hook. -/
inductive Call20 where
  | onEvccid (evccid : List Char)
  | onAuthRequired
  | onEvLimits (limits : EvLimits20)
  | onCableCheckStarted
  | onPrechargeTarget (evTargetVoltageV evPresentVoltageV : ℚ)
  | onChargeLoopStarted
  | onChargeTargets (evTargetVoltageV evTargetCurrentA evPresentVoltageV : ℚ)
  | onDisplayParameters (presentSocPercent : ℤ)
  | onChargeLoopFinished
  | onEvTermination (code explanation : List Char)
  | authStatus (answer : AuthStatus20)
  | getDcLimits (answer : Option DcLimits20)
  | cableCheckStatus (answer : CableCheckStatus20)
  | getPresent (answer : Option Present20)
  /-- The contactor is commanded closed or open; the flag says that it confirmed. -/
  | contactorSet (close confirmed : Bool)
  | stopRequest (answer : StopRequest20)
  | getMeter (answer : Option (List Char × ℕ))
deriving DecidableEq

/-- Invoke a hook when it is installed. -/
def invoke (installed : Bool) (call : Call20) : List Call20 :=
  if installed then [call] else []

section Hooks

variable (s : Secc20) (env : Env20)

/-- The authorization status; pending without a hook (`s20_cb_auth`). -/
def s20CbAuth : AuthStatus20 :=
  if s.cfg.callbacks.authStatus then env.authStatus else .pending

/-- The limits of a controller that reports none. -/
def zeroLimits : DcLimits20 :=
  { maxChargePowerW := 0, minChargePowerW := 0, maxChargeCurrentA := 0,
    minChargeCurrentA := 0, maxVoltageV := 0, minVoltageV := 0 }

/-- The DC limits; zero without a hook or when it fails (`s20_cb_limits`). -/
def s20CbLimits : DcLimits20 :=
  if s.cfg.callbacks.getDcLimits then env.dcLimits.getD zeroLimits else zeroLimits

/-- The isolation status; ongoing without a hook (`s20_cb_cable_check`). -/
def s20CbCableCheck : CableCheckStatus20 :=
  if s.cfg.callbacks.cableCheckStatus then env.cableCheckStatus else .ongoing

/-- The telemetry of a controller that reports none. -/
def zeroPresent : Present20 :=
  { voltageV := 0, currentA := 0, powerLimitAchieved := false, currentLimitAchieved := false,
    voltageLimitAchieved := false }

/-- The telemetry; zero without a hook or when it fails (`s20_cb_present`). -/
def s20CbPresent : Present20 :=
  if s.cfg.callbacks.getPresent then env.present.getD zeroPresent else zeroPresent

/-- The contactor confirms; without a hook it refuses to close and never refuses to open
(`s20_cb_contactor`). -/
def s20CbContactor (close : Bool) : Bool :=
  if s.cfg.callbacks.contactorSet then env.contactorConfirms else !close

/-- The controller's stop request; none without a hook (`s20_cb_stop`). -/
def s20CbStop : StopRequest20 :=
  if s.cfg.callbacks.stopRequest then env.stopRequest else .none

/-- The wall clock of a header, or zero without a supplier (`s20_now_unix`). -/
def s20NowUnix (supplied : ℕ) : ℕ :=
  if s.cfg.nowUnixS then supplied else 0

/-- The invocation of the contactor hook. -/
def contactorCall (close : Bool) : List Call20 :=
  invoke s.cfg.callbacks.contactorSet (.contactorSet close env.contactorConfirms)

end Hooks

/-! ## Accepted requests -/

/-- The requests a state accepts (`s20_state_accepts`). -/
def s20StateAccepts : State20 → Req20 → Bool
  -- before the setup there is nothing to stop
  | .sessionSetup, kind => kind == .sessionSetup
  | .authSetup, kind => kind == .authSetup || kind == .sessionStop
  | .authorization, kind => kind == .authorization || kind == .sessionStop
  | .serviceDiscovery, kind => kind == .serviceDiscovery || kind == .sessionStop
  | .serviceDetail, kind =>
    kind == .serviceDetail || kind == .serviceSelection || kind == .sessionStop
  | .dcCpd, kind => kind == .dcCpd || kind == .sessionStop
  | .scheduleExchange, kind => kind == .scheduleExchange || kind == .sessionStop
  | .cableCheck, kind => kind == .dcCableCheck || kind == .sessionStop
  | .preCharge, kind => kind == .dcPreCharge || kind == .sessionStop
  -- a vehicle may still abort in good order while the contactor is open
  | .powerDelivery, kind =>
    kind == .powerDelivery || kind == .dcPreCharge || kind == .sessionStop
  -- power must be stopped by a PowerDelivery(Stop) first
  | .chargeLoop, kind => kind == .dcChargeLoop || kind == .powerDelivery
  | .welding, kind => kind == .dcWelding || kind == .sessionStop
  | .sessionStop, kind => kind == .sessionStop
  | .ended, _ => false

/-- The header carries the live session (`s20_session_id_matches`). -/
def s20SessionIdMatches (s : Secc20) (sessionId : List UInt8) : Bool :=
  sessionId == s.sessionId.1

end Jpv2g
