import Jpv2g.Secc.DefaultHandler

/-!
# What the Default Handler Does to the Session

The part of the handler that its callers rely on: which request touches which session field, and
which identifier a response carries.

## Main definitions

* `SameSession`: two records agree on the live and on the paused session.
* `Ordinary`: the outcome of a handler that leaves the session alone and answers in its name.

## Main results

* `handleResolved_ordinary`: every handler but those of negotiation, setup and stop is ordinary.
* `defaultHandle_ordinary`, `defaultHandle_suppAppProtocol`, `defaultHandle_sessionSetup`,
  `defaultHandle_sessionStop`: what the handler does to the session, by the type of the request.
-/

namespace Jpv2g

/-- The records agree on the live and on the paused session. -/
structure SameSession (secc secc' : Secc) : Prop where
  sessionId : secc'.sessionId = secc.sessionId
  lastSessionId : secc'.lastSessionId = secc.lastSessionId
  lastSessionEndMs : secc'.lastSessionEndMs = secc.lastSessionEndMs
  lastSessionWasDc : secc'.lastSessionWasDc = secc.lastSessionWasDc
  resumeDcPending : secc'.resumeDcPending = secc.resumeDcPending

theorem SameSession.refl (secc : Secc) : SameSession secc secc := ⟨rfl, rfl, rfl, rfl, rfl⟩

/-- A successful result encodes a response that carries the given identifier. -/
def AnswersAs (codec : Codec) (sid : Sid) (result : HandlerResult) : Prop :=
  ∀ bytes, result.rc = .ok bytes →
    ∃ res, result.res = some res ∧ codec.encode res = .ok bytes ∧ res.sid = some sid

/-- A reply carries the identifier of its response. -/
theorem reply_answersAs {codec : Codec} {secc : Secc} {statics : HandlerStatics} {res : Res}
    {sid : Sid} (hsid : res.sid = some sid) : AnswersAs codec sid (reply codec secc statics res) :=
  fun _ hrc => ⟨res, rfl, hrc, hsid⟩

/-- The result leaves the session alone and answers in its name. -/
structure Ordinary (codec : Codec) (secc : Secc) (result : HandlerResult) : Prop where
  same : SameSession secc result.secc
  answers : AnswersAs codec secc.sessionId result

section Handlers

variable {codec : Codec} {env : HandlerEnv} {secc : Secc} {statics : HandlerStatics}
  {request : Request} {build : Build} {registered oldSessionJoined : Bool}

/-- A reply in the name of a session that is left alone. -/
theorem ordinary_reply {secc' : Secc} {res : Res} (hsame : SameSession secc secc')
    (hsid : res.sid = some secc.sessionId) : Ordinary codec secc (reply codec secc' statics res) :=
  ⟨hsame, reply_answersAs hsid⟩

/-- The recorded authorization does not matter to the session. -/
theorem Ordinary.authorize {result : HandlerResult} (h : Ordinary codec secc result)
    (authorized : Option Bool) : Ordinary codec secc { result with authorized } :=
  ⟨h.same, h.answers⟩

/-- A ServiceDiscoveryReq leaves the session as it is. -/
theorem handleServiceDiscovery_ordinary :
    Ordinary codec secc (handleServiceDiscovery codec env secc statics request) := by
  unfold handleServiceDiscovery
  split_ifs
  · unfold handleDinServiceDiscovery
    dsimp only
    split
    · exact ⟨⟨rfl, rfl, rfl, rfl, rfl⟩, reply_answersAs rfl⟩
    · exact ordinary_reply ⟨rfl, rfl, rfl, rfl, rfl⟩ rfl
  · exact ordinary_reply (.refl secc) rfl

/-- A ServiceDetailReq leaves the session as it is. -/
theorem handleServiceDetail_ordinary :
    Ordinary codec secc (handleServiceDetail codec secc statics request) := by
  unfold handleServiceDetail
  split_ifs <;> exact ordinary_reply (.refl secc) rfl

/-- A PaymentServiceSelectionReq leaves the session as it is. -/
theorem handlePaymentServiceSelection_ordinary :
    Ordinary codec secc (handlePaymentServiceSelection codec secc statics request) := by
  have hsame : ∀ option, SameSession secc (secc.refusePayment option) := by
    intro option
    unfold Secc.refusePayment
    split <;> exact ⟨rfl, rfl, rfl, rfl, rfl⟩
  unfold handlePaymentServiceSelection
  split_ifs <;> exact ordinary_reply (hsame _) rfl

/-- A PaymentDetailsReq leaves the session as it is. -/
theorem handlePaymentDetails_ordinary :
    Ordinary codec secc (handlePaymentDetails codec env secc statics request) := by
  unfold handlePaymentDetails
  refine Ordinary.authorize ?_ _
  split_ifs <;> exact ordinary_reply (.refl secc) rfl

/-- A AuthorizationReq leaves the session as it is. -/
theorem handleAuthorization_ordinary :
    Ordinary codec secc (handleAuthorization codec env secc statics request) := by
  unfold handleAuthorization
  refine Ordinary.authorize ?_ _
  dsimp only
  split_ifs <;> exact ordinary_reply (.refl secc) rfl

/-- A ChargeParameterDiscoveryReq leaves the session as it is. -/
theorem handleChargeParameterDiscovery_ordinary :
    Ordinary codec secc (handleChargeParameterDiscovery codec secc statics request) := by
  unfold handleChargeParameterDiscovery
  split_ifs <;> exact ordinary_reply (.refl secc) rfl

/-- A CableCheckReq leaves the session as it is. -/
theorem handleCableCheck_ordinary :
    Ordinary codec secc (handleCableCheck codec secc statics request) := by
  unfold handleCableCheck
  split_ifs <;> exact ordinary_reply (.refl secc) rfl

/-- A PreChargeReq leaves the session as it is. -/
theorem handlePreCharge_ordinary :
    Ordinary codec secc (handlePreCharge codec secc statics request) := by
  unfold handlePreCharge
  split_ifs <;> exact ordinary_reply (.refl secc) rfl

/-- A PowerDeliveryReq leaves the session as it is. -/
theorem handlePowerDelivery_ordinary :
    Ordinary codec secc (handlePowerDelivery codec secc statics request) := by
  unfold handlePowerDelivery
  split_ifs <;> exact ordinary_reply (.refl secc) rfl

/-- A ChargingStatusReq leaves the session as it is. -/
theorem handleChargingStatus_ordinary :
    Ordinary codec secc (handleChargingStatus codec secc statics request) := by
  unfold handleChargingStatus
  split_ifs
  · exact ⟨.refl secc, nofun⟩
  · exact ordinary_reply (.refl secc) rfl

/-- A CurrentDemandReq leaves the session as it is. -/
theorem handleCurrentDemand_ordinary :
    Ordinary codec secc (handleCurrentDemand codec secc statics request) := by
  unfold handleCurrentDemand
  dsimp only
  split_ifs <;> exact ordinary_reply ⟨rfl, rfl, rfl, rfl, rfl⟩ rfl

/-- A MeteringReceiptReq leaves the session as it is. -/
theorem handleMeteringReceipt_ordinary :
    Ordinary codec secc (handleMeteringReceipt codec secc statics request) := by
  unfold handleMeteringReceipt
  split_ifs <;> exact ordinary_reply (.refl secc) rfl

/-- A WeldingDetectionReq leaves the session as it is. -/
theorem handleWeldingDetection_ordinary :
    Ordinary codec secc (handleWeldingDetection codec secc statics request) := by
  unfold handleWeldingDetection
  split_ifs <;> exact ordinary_reply (.refl secc) rfl

/-- Every handler but those of negotiation, setup and stop leaves the session alone and answers
in its name. -/
theorem handleResolved_ordinary (happ : request.type ≠ .suppAppProtocolReq)
    (hsetup : request.type ≠ .sessionSetupReq) (hstop : request.type ≠ .sessionStopReq) :
    Ordinary codec secc
      (handleResolved codec env secc statics request build registered oldSessionJoined) := by
  unfold handleResolved
  split
  · contradiction
  · contradiction
  · exact handleServiceDiscovery_ordinary
  · exact handleServiceDetail_ordinary
  · exact handlePaymentServiceSelection_ordinary
  · exact handlePaymentDetails_ordinary
  · exact handleAuthorization_ordinary
  · exact handleChargeParameterDiscovery_ordinary
  · exact handleCableCheck_ordinary
  · exact handlePreCharge_ordinary
  · exact handlePowerDelivery_ordinary
  · exact handleChargingStatus_ordinary
  · exact handleCurrentDemand_ordinary
  · exact handleMeteringReceipt_ordinary
  · exact handleWeldingDetection_ordinary
  · contradiction
  · exact ⟨.refl secc, nofun⟩

/-- The response code of a SessionSetupRes. -/
def Res.setupCode : Res → Option ResponseCode
  | .iso2 _ (.sessionSetup _ code) | .din _ (.sessionSetup _ code _) => some code
  | _ => none

/-- A SessionSetupRes answers in the name of the resolved session and says whether a paused one
was joined. -/
theorem handleSessionSetup_spec :
    SameSession secc (handleSessionSetup codec env secc statics request oldSessionJoined).secc ∧
      AnswersAs codec secc.sessionId
        (handleSessionSetup codec env secc statics request oldSessionJoined) ∧
      ∃ res, (handleSessionSetup codec env secc statics request oldSessionJoined).res = some res ∧
        res.setupCode =
          some (if oldSessionJoined then .okOldSessionJoined else .okNewSessionEstablished) := by
  unfold handleSessionSetup
  dsimp only
  split_ifs <;>
    exact ⟨⟨rfl, rfl, rfl, rfl, rfl⟩, reply_answersAs rfl, _, rfl, rfl⟩

/-- A SessionStopReq closes the session and answers in its name. -/
theorem handleSessionStop_spec :
    (handleSessionStop codec env secc statics request).secc =
        secc.stopSession env.nowMs request.pauses ∧
      AnswersAs codec secc.sessionId (handleSessionStop codec env secc statics request) := by
  unfold handleSessionStop
  dsimp only
  split_ifs <;> exact ⟨rfl, reply_answersAs rfl⟩

/-! ## The handler with its session resolved -/

/-- Outside the setup, the handler answers with at most the live identifier changed. -/
theorem defaultHandle_resolved (htype : request.type ≠ .sessionSetupReq) :
    ∃ sid, (secc.sessionId ≠ .zero → sid = secc.sessionId) ∧
      defaultHandle codec env secc statics request build registered =
        handleResolved codec env { secc with sessionId := sid } statics request build registered
          false := by
  obtain ⟨sid, hresolve, hkeep⟩ : ∃ sid,
      resolveSession env secc request = ({ secc with sessionId := sid }, false) ∧
        (secc.sessionId ≠ .zero → sid = secc.sessionId) :=
    resolveSession_of_ne_sessionSetup htype
  refine ⟨sid, hkeep, ?_⟩
  rw [defaultHandle, hresolve]

/-- A request of a live session is ordinary, negotiation, setup and stop aside. -/
theorem defaultHandle_ordinary (happ : request.type ≠ .suppAppProtocolReq)
    (hsetup : request.type ≠ .sessionSetupReq) (hstop : request.type ≠ .sessionStopReq)
    (hactive : secc.sessionId ≠ .zero) :
    Ordinary codec secc (defaultHandle codec env secc statics request build registered) := by
  unfold defaultHandle
  rw [resolveSession_of_active hsetup hactive]
  exact handleResolved_ordinary happ hsetup hstop

/-- A negotiation touches at most the live identifier, and only when no session is live. -/
theorem defaultHandle_suppAppProtocol (htype : request.type = .suppAppProtocolReq) :
    ∃ sid, (secc.sessionId ≠ .zero → sid = secc.sessionId) ∧
      defaultHandle codec env secc statics request build registered =
        handleSuppAppProtocol codec { secc with sessionId := sid } statics request build
          registered := by
  have hsetup : request.type ≠ .sessionSetupReq := by simp [htype]
  obtain ⟨sid, hkeep, heq⟩ : ∃ sid, (secc.sessionId ≠ .zero → sid = secc.sessionId) ∧
      defaultHandle codec env secc statics request build registered =
        handleResolved codec env { secc with sessionId := sid } statics request build registered
          false := defaultHandle_resolved hsetup
  exact ⟨sid, hkeep, by simp [heq, handleResolved, htype]⟩

/-- A setup answers in the name of the session it resolves. -/
theorem defaultHandle_sessionSetup (htype : request.type = .sessionSetupReq) :
    defaultHandle codec env secc statics request build registered =
      handleSessionSetup codec env (resolveSession env secc request).1 statics request
        (resolveSession env secc request).2 := by
  simp [defaultHandle, handleResolved, htype]

/-- A stop closes the live session and answers in its name. -/
theorem defaultHandle_sessionStop (htype : request.type = .sessionStopReq)
    (hactive : secc.sessionId ≠ .zero) :
    (defaultHandle codec env secc statics request build registered).secc =
        secc.stopSession env.nowMs request.pauses ∧
      AnswersAs codec secc.sessionId
        (defaultHandle codec env secc statics request build registered) := by
  unfold defaultHandle
  rw [resolveSession_of_active (by simp [htype]) hactive]
  simp only [handleResolved, htype]
  exact handleSessionStop_spec

end Handlers

/-! ## A sample station -/

/-- An offer of ISO 15118-2. -/
def sampleOffer : AppProtocol :=
  { protocolNamespace := "urn:iso:15118:2:2013:MsgDef".toList
    versionNumberMajor := 2
    versionNumberMinor := 0
    schemaId := 1
    priority := 1 }

/-- The identifier of a later session. -/
def laterSid : Sid := ⟨[8, 7, 6, 5, 4, 3, 2, 1], rfl⟩

/-- A codec that numbers the requests of an ISO 15118-2 connection, and encodes everything. -/
def sampleCodec : Codec where
  decodeAppHand
    | [0] => some [sampleOffer]
    | [1] => some [{ sampleOffer with versionNumberMajor := 1 }]
    | _ => none
  decodeIso2
    | [2] => some ⟨sampleSid.1, .sessionSetupReq⟩
    | [3] => some ⟨sampleSid.1, .serviceDiscoveryReq⟩
    | [4] => some ⟨sampleSid.1, .paymentServiceSelectionReq .externalPayment⟩
    | [5] => some ⟨sampleSid.1, .authorizationReq⟩
    | [6] => some ⟨sampleSid.1, .chargeParameterDiscoveryReq .dcCore⟩
    | [7] => some ⟨sampleSid.1, .cableCheckReq⟩
    | [8] => some ⟨sampleSid.1, .preChargeReq defaultVoltage⟩
    | [9] => some ⟨sampleSid.1, .powerDeliveryReq .start⟩
    | [10] => some ⟨sampleSid.1, .currentDemandReq defaultVoltage defaultCurrent⟩
    | [11] => some ⟨sampleSid.1, .sessionStopReq .terminate⟩
    | [12] => some ⟨sampleSid.1, .sessionStopReq .pause⟩
    | [13] => some ⟨Sid.zero.1, .sessionSetupReq⟩
    | [14] => some ⟨laterSid.1, .sessionStopReq .terminate⟩
    | _ => none
  decodeDin _ := none
  encode _ := .ok [0]

/-- A station built without ISO 15118-20. -/
def sampleBuild : Build :=
  { iso20 := false, protocolMask := 3 }

/-- The environment of a handler call, with the answer of the backend. -/
def sampleEnv (authorizeContract : Bool) : HandlerEnv where
  nowMs := 0
  wallClock := 0
  rng := sampleRng
  authorizeContract
  isFreeCharging := 0

/-- A record that has just been initialised. -/
def sampleFreshSecc : Secc :=
  Secc.init { freeCharging := false, supportedEnergyModes := [] } true false

end Jpv2g
