import Jpv2g.Secc.HandlerFacts
import Jpv2g.StateSecc

/-!
# Requests That Leave the Session Alone

A request between the setup and the stop of a session changes neither the live nor the paused
session. The resolver that runs before every handler is an exception for a
supportedAppProtocolReq: without a live session it makes one up, as for any request.

## Main definitions

* `FindsSession`: the resolver has an identifier to make live.

## Main results

* `resolveSession_sameSession_iff`: when resolving leaves the session alone.
* `defaultHandle_sameSession_resolved`: the handlers add nothing to what resolving changes.
* `defaultHandle_sameSession_iff`: when an admitted request leaves the session alone.
-/

namespace Jpv2g

/-- The resolver has an identifier to make live: that of the header, unless it is all-zero, or one
of the random provider. -/
def FindsSession (env : HandlerEnv) (request : Request) : Prop :=
  (∃ sid, request.incomingSid = some sid ∧ sid ≠ .zero) ∨ ∃ sid, env.rng.result = .ok sid

section Handlers

variable {codec : Codec} {env : HandlerEnv} {secc : Secc} {statics : HandlerStatics}
  {request : Request} {build : Build} {registered : Bool}

theorem SameSession.trans {secc₁ secc₂ secc₃ : Secc} (h₁₂ : SameSession secc₁ secc₂)
    (h₂₃ : SameSession secc₂ secc₃) : SameSession secc₁ secc₃ :=
  ⟨h₂₃.sessionId.trans h₁₂.sessionId, h₂₃.lastSessionId.trans h₁₂.lastSessionId,
    h₂₃.lastSessionEndMs.trans h₁₂.lastSessionEndMs,
    h₂₃.lastSessionWasDc.trans h₁₂.lastSessionWasDc,
    h₂₃.resumeDcPending.trans h₁₂.resumeDcPending⟩

theorem SameSession.symm {secc₁ secc₂ : Secc} (h : SameSession secc₁ secc₂) :
    SameSession secc₂ secc₁ :=
  ⟨h.sessionId.symm, h.lastSessionId.symm, h.lastSessionEndMs.symm, h.lastSessionWasDc.symm,
    h.resumeDcPending.symm⟩

/-- A record with another live identifier is of the same session only if it is the same one. -/
theorem sameSession_withSessionId_iff {sid : Sid} :
    SameSession secc { secc with sessionId := sid } ↔ sid = secc.sessionId :=
  ⟨fun h => h.sessionId, fun h => ⟨h, rfl, rfl, rfl, rfl⟩⟩

/-- Drawing an identifier for a station without a session gives it one, unless the random provider
fails. -/
theorem drawSession_sameSession_iff (hidle : secc.sessionId = .zero) (rng : RngCall) :
    SameSession secc (secc.drawSession rng) ↔ ¬∃ sid, rng.result = .ok sid := by
  unfold Secc.drawSession
  split
  · rename_i sid hresult
    rw [sameSession_withSessionId_iff, hidle]
    refine iff_of_false (RngCall.result_ne_zero hresult) ?_
    exact not_not.mpr ⟨sid, hresult⟩
  · rename_i e hresult
    refine iff_of_true (.refl secc) ?_
    rintro ⟨sid, hsid⟩
    cases hresult.symm.trans hsid

/-- Outside the setup, resolving changes the session exactly when there is none and one is found. -/
theorem resolveSession_sameSession_iff (htype : request.type ≠ .sessionSetupReq) :
    SameSession secc (resolveSession env secc request).1 ↔
      ¬(secc.sessionId = .zero ∧ FindsSession env request) := by
  by_cases hidle : secc.sessionId = .zero
  · have hinactive : secc.hasActiveSession = false := by
      simp [Secc.hasActiveSession, hidle]
    -- on an idle station an identifier is adopted or drawn
    have hdraw := drawSession_sameSession_iff hidle env.rng
    unfold resolveSession FindsSession
    simp only [htype, hinactive, if_false, Bool.false_eq_true, hidle, true_and]
    split
    · rename_i sid hsid
      split_ifs with hzero
      · -- the identifier of the header is adopted
        have hne : sid ≠ .zero := Sid.allZero_eq_false_iff.mp hzero
        rw [sameSession_withSessionId_iff, hidle]
        exact iff_of_false hne (not_not.mpr (.inl ⟨sid, hsid, hne⟩))
      · have hnone : ¬∃ sid, request.incomingSid = some sid ∧ sid ≠ .zero := by
          rintro ⟨sid', hsid', hne⟩
          obtain rfl := Option.some.inj (hsid.symm.trans hsid')
          exact hzero (Sid.allZero_eq_false_iff.mpr hne)
        rw [hdraw, or_iff_right hnone]
    · rename_i hsid
      have hnone : ¬∃ sid, request.incomingSid = some sid ∧ sid ≠ .zero := by
        rintro ⟨sid, hsid', -⟩
        cases hsid.symm.trans hsid'
      rw [hdraw, or_iff_right hnone]
  · rw [resolveSession_of_active htype hidle]
    exact iff_of_true (.refl secc) fun h => hidle h.1

/-- Between the setup and the stop, the handlers add nothing to what resolving changes. -/
theorem defaultHandle_sameSession_resolved (hsetup : request.type ≠ .sessionSetupReq)
    (hstop : request.type ≠ .sessionStopReq) :
    SameSession (resolveSession env secc request).1
      (defaultHandle codec env secc statics request build registered).secc := by
  unfold defaultHandle
  by_cases happ : request.type = .suppAppProtocolReq
  · simp only [handleResolved, happ]
    exact .refl _
  · exact (handleResolved_ordinary happ hsetup hstop).same

/-- An admitted request between the setup and the stop leaves the live and the paused session
alone, whether or not its response encodes, unless it is a supportedAppProtocolReq for which the
resolver makes up a session. -/
theorem defaultHandle_sameSession_iff
    (hadmitted : validateRequestSession secc request = .ok ())
    (hsetup : request.type ≠ .sessionSetupReq) (hstop : request.type ≠ .sessionStopReq) :
    SameSession secc (defaultHandle codec env secc statics request build registered).secc ↔
      ¬(request.type = .suppAppProtocolReq ∧ secc.sessionId = .zero ∧
        FindsSession env request) := by
  have hresolved : SameSession (resolveSession env secc request).1
      (defaultHandle codec env secc statics request build registered).secc :=
    defaultHandle_sameSession_resolved hsetup hstop
  have hresolve : SameSession secc (resolveSession env secc request).1 ↔
      ¬(secc.sessionId = .zero ∧ FindsSession env request) :=
    resolveSession_sameSession_iff hsetup
  -- any later request is admitted only in the name of the live session
  have hidle : secc.sessionId = .zero → request.type = .suppAppProtocolReq := by
    intro hzero
    by_contra happ
    exact (validateRequestSession_ok hadmitted happ hsetup).2 hzero
  constructor
  · rintro hsame ⟨-, hfinds⟩
    exact hresolve.mp (hsame.trans hresolved.symm) hfinds
  · intro hnot
    refine (hresolve.mpr fun hfinds => hnot ⟨hidle hfinds.1, hfinds⟩).trans hresolved

end Handlers

/-- A negotiation of ISO 15118-2, as the stream decodes it. -/
def sampleNegotiationReq : Request where
  type := .suppAppProtocolReq
  protocol := .iso15118_2
  header := none
  dinHeader := none
  body := some (.app [sampleOffer])

theorem defaultHandle_sameSession_live :
    SameSession { sampleFreshSecc with sessionId := sampleSid }
      (defaultHandle sampleCodec (sampleEnv true) { sampleFreshSecc with sessionId := sampleSid }
        .init sampleNegotiationReq sampleBuild false).secc :=
  (defaultHandle_sameSession_iff rfl (by decide) (by decide)).mpr (by
    rintro ⟨-, hidle, -⟩
    exact absurd hidle (by decide))

/-- The first request of a connection gives the station a session before any is set up. -/
theorem not_sameSession_suppAppProtocol :
    ¬∀ codec env secc statics request build registered (sequence sequence' : Sequence),
      seccAcceptRequestSequence sequence request = (sequence', .ok ()) →
      validateRequestSession secc request = .ok () →
      request.type ≠ .sessionSetupReq → request.type ≠ .sessionStopReq →
      SameSession secc (defaultHandle codec env secc statics request build registered).secc := by
  intro h
  have hsame := h sampleCodec (sampleEnv true) sampleFreshSecc .init sampleNegotiationReq
    sampleBuild false .init _ rfl rfl (by decide) (by decide)
  exact absurd hsame.sessionId (by decide)

end Jpv2g
