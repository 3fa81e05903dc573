import Jpv2g.Secc.HandlerFacts
import Jpv2g.SeccIso20.Sessions

/-!
# Identifiers of New Sessions

A SessionSetupReq that joins no paused session establishes a new one, under an identifier that the
random provider draws. When the provider fails, the ISO 15118-20 module derives an identifier from
the clock. The legacy handler announces the identifier that an earlier session has left behind.

## Main definitions

* `IssuesSession`: a setup issues an identifier for a new session.
* `LegacyIssues`, `Issues20`: the setups of the two paths do, when they announce a new session.
* `DrawsSession`: the condition, on the random provider.

## Main results

* `session_issued_iff`: the legacy handler issues an identifier exactly when the random provider
  returns one, and the ISO 15118-20 handler always does.
-/

namespace Jpv2g

/-- A setup issues an identifier, where `issue` is the live identifier after it as a function of the
one before it. -/
structure IssuesSession (issue : Sid → Sid) (previous answered : Sid) : Prop where
  /-- The response names the session that is live from now on. -/
  answered_eq : answered = issue previous
  ne_zero : issue previous ≠ .zero
  /-- The previous identifier is not left in place, as the new one does not depend on it. -/
  fresh : ∀ other, issue other = issue previous

/-- A setup that leaves the previous identifier in place issues none. -/
theorem not_issuesSession_id {previous answered : Sid} : ¬IssuesSession id previous answered := by
  intro h
  exact h.ne_zero (h.fresh .zero).symm

/-! ## The legacy handler -/

section Legacy

variable (codec : Codec) (env : HandlerEnv) (secc : Secc) (statics : HandlerStatics)
  (request : Request) (build : Build) (registered : Bool)

/-- A SessionSetupReq that is answered OK_NewSessionEstablished issues an identifier. -/
def LegacyIssues : Prop :=
  ∀ bytes res, request.type = .sessionSetupReq →
    (defaultHandle codec env secc statics request build registered).rc = .ok bytes →
    (defaultHandle codec env secc statics request build registered).res = some res →
    res.setupCode = some .okNewSessionEstablished →
      ∃ answered, res.sid = some answered ∧
        IssuesSession
          (fun sid => (defaultHandle codec env { secc with sessionId := sid } statics request build
            registered).secc.sessionId)
          secc.sessionId answered

/-- The response that announces a new session. -/
def newSessionRes (sid : Sid) : Res :=
  if request.isDin then
    .din sid (.sessionSetup dinEvseId .okNewSessionEstablished (wallclockOrAbsent env))
  else .iso2 sid (.sessionSetup isoEvseId .okNewSessionEstablished)

/-- For a SessionSetupReq that joins no paused session, the random provider returns an identifier,
unless the response could not be encoded without. -/
def DrawsSession : Prop :=
  request.type = .sessionSetupReq → (∀ sid, ¬secc.Resumes env.nowMs request sid) →
    (∃ bytes, codec.encode (newSessionRes env request secc.sessionId) = .ok bytes) →
      ∃ sid, env.rng.result = .ok sid

/-- The identifier that is live after drawing one; a failing provider leaves the previous one. -/
def RngCall.live (rng : RngCall) (previous : Sid) : Sid :=
  match rng.result with
  | .ok sid => sid
  | .error _ => previous

variable {codec env secc statics request build registered}

theorem newSession_sessionId {rng : RngCall} :
    (secc.newSession rng).sessionId = rng.live secc.sessionId := by
  rw [Secc.newSession, Secc.drawSession, RngCall.live]
  cases rng.result <;> rfl

/-- The response to a SessionSetupReq that joins no paused session. -/
theorem handleSessionSetup_new :
    (handleSessionSetup codec env secc statics request false).secc.sessionId = secc.sessionId ∧
      (handleSessionSetup codec env secc statics request false).res =
        some (newSessionRes env request secc.sessionId) ∧
      (handleSessionSetup codec env secc statics request false).rc =
        codec.encode (newSessionRes env request secc.sessionId) := by
  rw [handleSessionSetup, newSessionRes]
  by_cases hdin : request.isDin = true
  · simp only [hdin, if_true]
    exact ⟨rfl, rfl, rfl⟩
  · simp only [hdin, Bool.false_eq_true, if_false]
    exact ⟨rfl, rfl, rfl⟩

theorem newSessionRes_sid {sid : Sid} : (newSessionRes env request sid).sid = some sid := by
  rw [newSessionRes]
  split <;> rfl

theorem newSessionRes_setupCode {sid : Sid} :
    (newSessionRes env request sid).setupCode = some .okNewSessionEstablished := by
  rw [newSessionRes]
  split <;> rfl

/-- Whether a paused session is resumed does not depend on the live one. -/
theorem Secc.Resumes.of_setSession {sid other : Sid}
    (h : { secc with sessionId := other }.Resumes env.nowMs request sid) :
    secc.Resumes env.nowMs request sid :=
  ⟨h.presented, h.ne_zero, h.retained, h.age_nonneg, h.age_le⟩

/-- A SessionSetupReq that joins no paused session is answered in the name of the identifier that is
live after drawing one. -/
theorem defaultHandle_new (htype : request.type = .sessionSetupReq)
    (hresumes : ∀ sid, ¬secc.Resumes env.nowMs request sid) :
    (defaultHandle codec env secc statics request build registered).secc.sessionId =
        env.rng.live secc.sessionId ∧
      (defaultHandle codec env secc statics request build registered).res =
        some (newSessionRes env request (env.rng.live secc.sessionId)) ∧
      (defaultHandle codec env secc statics request build registered).rc =
        codec.encode (newSessionRes env request (env.rng.live secc.sessionId)) := by
  rw [defaultHandle_sessionSetup htype, resolveSession_of_not_resumes htype hresumes,
    ← newSession_sessionId]
  exact handleSessionSetup_new

/-- A SessionSetupReq that joins a paused session announces no new one. -/
theorem defaultHandle_joined {res : Res} {sid : Sid} (htype : request.type = .sessionSetupReq)
    (hresumes : secc.Resumes env.nowMs request sid)
    (hres : (defaultHandle codec env secc statics request build registered).res = some res) :
    res.setupCode ≠ some .okNewSessionEstablished := by
  rw [defaultHandle_sessionSetup htype, resolveSession_of_resumes htype hresumes] at hres
  obtain ⟨-, -, res', hres', hcode⟩ := @handleSessionSetup_spec codec env (secc.joinPaused sid)
    statics request true
  cases hres.symm.trans hres'
  rw [hcode]
  decide

/-- An identifier that was drawn is issued. -/
theorem issuesSession_of_drawn {sid : Sid} {previous : Sid} {rng : RngCall}
    (hdrawn : rng.result = .ok sid) : IssuesSession rng.live previous (rng.live previous) := by
  have hlive : ∀ other, rng.live other = sid := by
    intro other
    rw [RngCall.live, hdrawn]
  refine ⟨rfl, ?_, ?_⟩
  · rw [hlive]
    exact RngCall.result_ne_zero hdrawn
  · intro other
    rw [hlive, hlive]

/-- A SessionSetupReq issues an identifier exactly when the random provider returns one. -/
theorem legacyIssues_iff :
    LegacyIssues codec env secc statics request build registered ↔
      DrawsSession codec env secc request := by
  -- nothing is claimed of other requests
  by_cases htype : request.type = .sessionSetupReq
  swap
  · exact iff_of_true (fun _ _ h => absurd h htype) fun h => absurd h htype
  -- nor of a session that is resumed
  by_cases hresumes : ∀ sid, ¬secc.Resumes env.nowMs request sid
  swap
  · obtain ⟨sid, hresumes⟩ := not_forall_not.mp hresumes
    refine iff_of_true ?_ fun _ h => absurd hresumes (h sid)
    intro bytes res _ _ hres hcode
    exact absurd hcode (defaultHandle_joined htype hresumes hres)
  obtain ⟨-, hres, hrc⟩ := @defaultHandle_new codec env secc statics request build registered htype
    hresumes
  -- the live identifier after the call, as a function of the one before
  have hissue : (fun sid => (defaultHandle codec env { secc with sessionId := sid } statics request
      build registered).secc.sessionId) = env.rng.live := by
    funext other
    exact (defaultHandle_new htype fun sid h => hresumes sid h.of_setSession).1
  rw [LegacyIssues, hissue, hres, hrc]
  constructor
  · rintro hissues - - ⟨bytes, hencodes⟩
    rcases hdrawn : env.rng.result with e | sid
    · -- a failing provider leaves every identifier in place
      have hlive : env.rng.live = id := by
        funext other
        rw [RngCall.live, hdrawn]
        rfl
      rw [hlive] at hissues
      obtain ⟨answered, -, hissue⟩ :=
        hissues bytes _ htype hencodes rfl newSessionRes_setupCode
      exact absurd hissue not_issuesSession_id
    · exact ⟨sid, rfl⟩
  -- a draw that succeeds does not depend on what the identifier was
  · intro hdraws bytes res _ hencodes hres _
    cases hres
    refine ⟨_, newSessionRes_sid, ?_⟩
    rcases hdrawn : env.rng.result with e | sid
    · have hlive : env.rng.live secc.sessionId = secc.sessionId := by rw [RngCall.live, hdrawn]
      rw [hlive] at hencodes
      obtain ⟨sid, hsid⟩ := hdraws htype hresumes ⟨bytes, hencodes⟩
      cases hdrawn.symm.trans hsid
    · exact issuesSession_of_drawn hdrawn

end Legacy

/-! ## The ISO 15118-20 handler -/

section Iso20

variable (codec : Codec20) (env : Env20) (outCap : ℕ) (s : Secc20) (evccId : List Char)

/-- A SessionSetupReq that is answered OK_NewSessionEstablished issues an identifier. -/
def Issues20 : Prop :=
  ∀ res, (s20HandleSessionSetup codec env outCap s evccId).sent = some res →
    res.responseCode = .okNewSessionEstablished →
      IssuesSession
        (fun sid => (s20HandleSessionSetup codec env outCap { s with sessionId := sid }
          evccId).session.sessionId)
        s.sessionId res.sessionId

/-- A failing random provider leaves the identifier that is derived from the clock. -/
theorem s20HandleSessionSetup_sessionId :
    (s20HandleSessionSetup codec env outCap s evccId).session.sessionId =
      env.rng.live (clockSid env.nowHandler) := by
  rcases hdrawn : env.rng.result with e | sid <;>
    simp [s20HandleSessionSetup, s20BuildRes_session, RngCall.live, hdrawn]

/-- The handler issues an identifier whatever the random provider does. -/
theorem issues20 : Issues20 codec env outCap s evccId := by
  intro res hsent _
  refine ⟨?_, ?_, ?_⟩
  · rw [s20HandleSessionSetup_sessionId]
    rw [s20HandleSessionSetup] at hsent
    obtain ⟨⟨body, -, rfl⟩, -⟩ := s20BuildRes_sent_iff.mp hsent
    rfl
  · rw [s20HandleSessionSetup_sessionId, RngCall.live]
    split
    · exact RngCall.result_ne_zero ‹_›
    · exact clockSid_ne_zero _
  · intro other
    rw [s20HandleSessionSetup_sessionId, s20HandleSessionSetup_sessionId]

end Iso20

/-- Whatever the random provider does and whatever session was live before: the legacy handler
issues an identifier for each new session that it announces exactly when the provider returns one,
and the ISO 15118-20 handler issues one for every new session. -/
theorem session_issued_iff (codec : Codec) (env : HandlerEnv) (secc : Secc)
    (statics : HandlerStatics) (request : Request) (build : Build) (registered : Bool)
    (codec20 : Codec20) (env20 : Env20) (outCap : ℕ) (s : Secc20) (evccId : List Char) :
    (LegacyIssues codec env secc statics request build registered ↔
        DrawsSession codec env secc request) ∧
      Issues20 codec20 env20 outCap s evccId :=
  ⟨legacyIssues_iff, issues20 codec20 env20 outCap s evccId⟩

/-- A random provider that fails. -/
def failingRng : RngCall := ⟨[.error .eio], rfl⟩

/-- The identifier that a dropped connection has left behind is announced as that of a new
session. -/
theorem not_session_issued :
    ¬∀ codec env secc statics request build registered,
      LegacyIssues codec env secc statics request build registered := by
  intro h
  have hleft := h sampleCodec { sampleEnv true with rng := failingRng }
    { Secc.init { freeCharging := false, supportedEnergyModes := [] } true false with
      sessionId := sampleSid }
    .init
    { type := .sessionSetupReq
      protocol := .iso15118_2
      header := some Sid.zero.1
      dinHeader := none
      body := some (.iso2 .sessionSetupReq) }
    sampleBuild false
  obtain ⟨answered, -, hissue⟩ := hleft [0] _ rfl rfl rfl rfl
  exact absurd (hissue.fresh .zero) (by decide)

end Jpv2g
