import Jpv2g.Messages
import Jpv2g.Session

/-!
# The Charging-Station Record and its Sessions

The record that outlives the connections (`jpv2g_secc_t`), reduced to the fields the request
handling reads and writes, and the session gate of the stream dispatcher.

## Main definitions

* `Secc`: the record.
* `validateRequestSession`: the session gate.
* `resolveSession`: establish, resume or adopt a session before a request is handled.
* `retireSession`: forget the live session of a connection that ended.

## Main results

* `resolveSession_of_resumes`, `resolveSession_of_not_resumes`: a SessionSetupReq joins the paused
  session exactly when it resumes it, and establishes a new one otherwise.
* `resolveSession_of_active`: a request of an active session changes nothing.
-/

namespace Jpv2g

/-- The configuration fields the request handling reads (`jpv2g_secc_config_t`). -/
structure SeccConfig where
  freeCharging : Bool
  /-- The comma-separated energy transfer modes. -/
  supportedEnergyModes : List Char
deriving DecidableEq, Repr

/-- The charging-station record (`jpv2g_secc_t`). -/
structure Secc where
  cfg : SeccConfig
  /-- `backend.authorize_contract` is installed. -/
  authorizeContract : Bool
  /-- `evse_ctl.is_free_charging` is installed. -/
  isFreeCharging : Bool
  /-- The live session, all-zero when there is none. -/
  sessionId : Sid
  /-- The session retained by the most recent pause, all-zero when there is none. -/
  lastSessionId : Sid
  /-- The monotonic time of that pause. -/
  lastSessionEndMs : ℕ
  /-- The paused session had negotiated DC. -/
  lastSessionWasDc : Bool
  /-- A granted resume still has to be applied to the sequence of its stream. -/
  resumeDcPending : Bool
  /-- The EnergyTransferType advertised by DIN ServiceDiscovery, as its numeric value. -/
  dinAdvertisedEnergyTransferType : ℕ
  dinAdvertisedEnergyTransferValid : Bool
  /-- The energy delivered so far. -/
  meterWh : ℤ
  meterId : List Char
  /-- The phase, the type and the protocol of the last request the sequence gate rejected. -/
  lastRejectPhase : ℕ
  lastRejectType : MessageType
  lastRejectProtocol : Protocol
  /-- The response being sent shall be the last one of the stream. -/
  terminateAfterResponse : Bool
deriving DecidableEq, Repr

namespace Secc

/-- A freshly initialised record (`jpv2g_secc_init`) with the given callbacks installed. -/
def init (cfg : SeccConfig) (authorizeContract isFreeCharging : Bool) : Secc :=
  { cfg, authorizeContract, isFreeCharging
    sessionId := .zero
    lastSessionId := .zero
    lastSessionEndMs := 0
    lastSessionWasDc := false
    resumeDcPending := false
    dinAdvertisedEnergyTransferType := 0
    dinAdvertisedEnergyTransferValid := false
    meterWh := 0
    meterId := "METER01".toList
    lastRejectPhase := 0
    lastRejectType := .suppAppProtocolReq
    lastRejectProtocol := .unknown
    terminateAfterResponse := false }

/-- A session is live (`secc_has_active_session`). -/
def hasActiveSession (secc : Secc) : Bool :=
  !secc.sessionId.allZero

end Secc

/-- What a handler call reads from outside the record. -/
structure HandlerEnv where
  /-- The monotonic clock, in milliseconds. -/
  nowMs : ℕ
  /-- The wall clock, in seconds since 1970. -/
  wallClock : ℤ
  /-- The random provider. -/
  rng : RngCall
  /-- The answer of `backend.authorize_contract`. -/
  authorizeContract : Bool
  /-- The answer of `evse_ctl.is_free_charging`. -/
  isFreeCharging : ℕ

/-- The SessionID bytes of the request's header, under the grammar of its protocol. -/
def Request.sessionBytes (request : Request) : Option (List UInt8) :=
  match request.protocol with
  | .iso15118_2 => request.header
  | .din70121 => request.dinHeader
  | .unknown | .iso15118_20_dc => none

/-- Validate the header SessionID before a request is handled
(`jpv2g_secc_validate_request_session`). -/
def validateRequestSession (secc : Secc) (request : Request) : Rc :=
  if request.type = .suppAppProtocolReq then .ok ()
  else
    match request.sessionBytes with
    | none => .error .einval
    | some incoming =>
      -- the handler decides whether the identifier of a SessionSetupReq is worth resuming
      if request.type = .sessionSetupReq then
        if incoming.length ≤ 8 then .ok () else .error .einval
      else if incoming.length ≠ 8 ∨ secc.hasActiveSession = false ∨
          incoming ≠ secc.sessionId.1 then .error .eacces
      else .ok ()

/-- The time a paused session may be resumed in (`SECC_PAUSE_RESUME_WINDOW_MS`). -/
def pauseResumeWindowMs : ℤ := 60 * 60 * 1000

/-- The time since the pause. -/
def Secc.pauseAgeMs (secc : Secc) (nowMs : ℕ) : ℤ :=
  (nowMs : ℤ) - secc.lastSessionEndMs

/-- The identifier is that of the most recent pause, which is still inside the resume window
(`secc_paused_session_resumable`). -/
def pausedSessionResumable (secc : Secc) (nowMs : ℕ) (sid : Sid) : Bool :=
  !secc.lastSessionId.allZero && secc.lastSessionId == sid &&
    decide (0 ≤ secc.pauseAgeMs nowMs) && decide (secc.pauseAgeMs nowMs ≤ pauseResumeWindowMs)

/-- The eight-byte SessionID of the request's header, if it has one. -/
def Request.incomingSid (request : Request) : Option Sid :=
  -- a shorter identifier counts as none, it is not padded
  (request.header.bind Sid.ofBytes?).or (request.dinHeader.bind Sid.ofBytes?)

/-- Draw a new live session identifier; a failing random provider leaves the old one. -/
def Secc.drawSession (secc : Secc) (rng : RngCall) : Secc :=
  match rng.result with
  | .ok sessionId => { secc with sessionId }
  | .error _ => secc

/-- Join the paused session, consuming the pause memory. -/
def Secc.joinPaused (secc : Secc) (sessionId : Sid) : Secc :=
  { secc with
    sessionId
    resumeDcPending := secc.lastSessionWasDc
    -- a pause is resumed at most once
    lastSessionId := .zero
    lastSessionEndMs := 0
    lastSessionWasDc := false }

/-- Establish a new session, which must not inherit a resume grant. -/
def Secc.newSession (secc : Secc) (rng : RngCall) : Secc :=
  { secc with resumeDcPending := false }.drawSession rng

/-- Establish, resume or adopt a session before the request is handled; the flag says that a
paused session was joined (`secc_resolve_session`). -/
def resolveSession (env : HandlerEnv) (secc : Secc) (request : Request) : Secc × Bool :=
  if request.type = .sessionSetupReq then
    match request.incomingSid with
    | some sid =>
      if sid.allZero = false ∧ pausedSessionResumable secc env.nowMs sid = true then
        (secc.joinPaused sid, true)
      else (secc.newSession env.rng, false)
    | none => (secc.newSession env.rng, false)
  else if secc.hasActiveSession then (secc, false)
  -- without a live session the identifier of the request is adopted, or one is drawn
  else
    match request.incomingSid with
    | some sessionId =>
      if sessionId.allZero = false then ({ secc with sessionId }, false)
      else (secc.drawSession env.rng, false)
    | none => (secc.drawSession env.rng, false)

/-- Forget the DIN energy offer of the session. -/
def Secc.clearDinOffer (secc : Secc) : Secc :=
  { secc with dinAdvertisedEnergyTransferValid := false, dinAdvertisedEnergyTransferType := 0 }

/-- Retire the live session of a connection that ended (`jpv2g_secc_retire_session`). -/
def retireSession (secc : Secc) : Secc :=
  { secc with sessionId := .zero }.clearDinOffer

/-- The request presents the identifier of the paused session while it may be resumed. -/
structure Secc.Resumes (secc : Secc) (nowMs : ℕ) (request : Request) (sid : Sid) : Prop where
  presented : request.incomingSid = some sid
  ne_zero : sid ≠ .zero
  retained : secc.lastSessionId = sid
  age_nonneg : 0 ≤ secc.pauseAgeMs nowMs
  age_le : secc.pauseAgeMs nowMs ≤ pauseResumeWindowMs

/-! ## Facts about the session functions -/

section Facts

variable {env : HandlerEnv} {secc : Secc} {request : Request}

/-- What passes the session gate, for a request after the setup. -/
theorem validateRequestSession_ok (h : validateRequestSession secc request = .ok ())
    (happ : request.type ≠ .suppAppProtocolReq) (hsetup : request.type ≠ .sessionSetupReq) :
    request.sessionBytes = some secc.sessionId.1 ∧ secc.sessionId ≠ .zero := by
  unfold validateRequestSession at h
  simp only [happ, hsetup, if_false] at h
  split at h
  · simp at h
  · rename_i incoming hbytes
    split_ifs at h with hbad
    simp only [not_or, not_not] at hbad
    obtain ⟨-, hactive, rfl⟩ := hbad
    refine ⟨hbytes, Sid.allZero_eq_false_iff.mp ?_⟩
    simpa [Secc.hasActiveSession] using hactive

/-- A request that names the live session passes the session gate. -/
theorem validateRequestSession_of_names (hlive : secc.sessionId ≠ .zero)
    (hnames : request.sessionBytes = some secc.sessionId.1) :
    validateRequestSession secc request = .ok () := by
  have hactive : secc.hasActiveSession = true := by
    simpa [Secc.hasActiveSession] using Sid.allZero_eq_false_iff.mpr hlive
  rw [validateRequestSession, hnames]
  simp [hactive, secc.sessionId.2]

/-- A drawn session either replaces the live identifier by a new non-zero one or keeps it. -/
theorem drawSession_cases (secc : Secc) (rng : RngCall) :
    (∃ sid, sid ≠ Sid.zero ∧ secc.drawSession rng = { secc with sessionId := sid }) ∨
      secc.drawSession rng = secc := by
  unfold Secc.drawSession
  split
  · rename_i sid hresult
    exact .inl ⟨sid, RngCall.result_ne_zero hresult, rfl⟩
  · exact .inr rfl

/-- Outside the setup, a live session is used as it is. -/
theorem resolveSession_of_active (htype : request.type ≠ .sessionSetupReq)
    (hactive : secc.sessionId ≠ .zero) : resolveSession env secc request = (secc, false) := by
  have : secc.hasActiveSession = true := by
    simpa [Secc.hasActiveSession] using Sid.allZero_eq_false_iff.mpr hactive
  simp [resolveSession, htype, this]

/-- A SessionSetupReq that resumes the paused session joins it. -/
theorem resolveSession_of_resumes {sid : Sid} (htype : request.type = .sessionSetupReq)
    (h : secc.Resumes env.nowMs request sid) :
    resolveSession env secc request = (secc.joinPaused sid, true) := by
  have hzero : sid.allZero = false := Sid.allZero_eq_false_iff.mpr h.ne_zero
  have hresumable : pausedSessionResumable secc env.nowMs sid = true := by
    simp [pausedSessionResumable, h.retained, hzero, h.age_nonneg, h.age_le]
  simp [resolveSession, htype, h.presented, hzero, hresumable]

/-- Any other SessionSetupReq establishes a new session. -/
theorem resolveSession_of_not_resumes (htype : request.type = .sessionSetupReq)
    (h : ∀ sid, ¬secc.Resumes env.nowMs request sid) :
    resolveSession env secc request = (secc.newSession env.rng, false) := by
  unfold resolveSession
  simp only [htype, if_true]
  split
  · rename_i sid hsid
    refine if_neg ?_
    -- what the code checks for is exactly that the identifier resumes
    rintro ⟨hzero, hresumable⟩
    simp only [pausedSessionResumable, Bool.and_eq_true, beq_iff_eq, decide_eq_true_eq]
      at hresumable
    exact h sid ⟨hsid, Sid.allZero_eq_false_iff.mp hzero, hresumable.1.1.2, hresumable.1.2,
      hresumable.2⟩
  · rfl

/-- Outside the setup, resolving the session changes at most the live identifier, and only when
no session is live. -/
theorem resolveSession_of_ne_sessionSetup (htype : request.type ≠ .sessionSetupReq) :
    ∃ sid, resolveSession env secc request = ({ secc with sessionId := sid }, false) ∧
      (secc.sessionId ≠ .zero → sid = secc.sessionId) := by
  by_cases hactive : secc.sessionId = .zero
  -- no live session: the identifier is adopted or drawn
  · have hinactive : secc.hasActiveSession = false := by
      simp [Secc.hasActiveSession, hactive]
    have hdraw : ∃ sid, secc.drawSession env.rng = { secc with sessionId := sid } := by
      rcases drawSession_cases secc env.rng with ⟨sid, -, heq⟩ | heq
      · exact ⟨sid, heq⟩
      · exact ⟨secc.sessionId, heq⟩
    unfold resolveSession
    simp only [htype, hinactive, if_false, Bool.false_eq_true]
    obtain ⟨sid, hdraw⟩ := hdraw
    split
    · split_ifs
      · exact ⟨_, rfl, fun h => absurd hactive h⟩
      · exact ⟨sid, by rw [hdraw], fun h => absurd hactive h⟩
    · exact ⟨sid, by rw [hdraw], fun h => absurd hactive h⟩
  · exact ⟨secc.sessionId, resolveSession_of_active htype hactive, fun _ => rfl⟩

end Facts

end Jpv2g
