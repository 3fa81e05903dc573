import Jpv2g.Secc.Stream.CustomHandler
import Jpv2g.Secc.Stream.FailedResponse
import Jpv2g.Secc.Stream.PauseMode

/-!
# Serving One Request

The course of an iteration that ends well: the request is presented, both gates let it through,
the response of the handler is framed and sent, and the connection stays open.

## Main definitions

* `Serves`: the handler has encoded a response that does not end the stream.
* `StreamEvent.answer`, `Turn.answer`: the payload that has been sent.

## Main results

* `defaultHandle_serves`: the requests that the default handler serves.
* `streamTurn_of_served`: the turn of a request that is served.
* `streamTurn_of_open`: what the station keeps of it when the connection stays open.
-/

namespace Jpv2g

/-! ## The handlers -/

/-- The result is that of encoding a response, which is not the last one of the stream unless the
stream was to end before. -/
structure Serves (codec : Codec) (secc : Secc) (result : HandlerResult) : Prop where
  answers : ∃ res, result.res = some res ∧ result.rc = codec.encode res
  goesOn : result.secc.terminateAfterResponse = secc.terminateAfterResponse

/-- The vehicle selects payment by contract, which the station does not offer. -/
def Request.selectsContract (request : Request) : Bool :=
  request.body == some (.iso2 (.paymentServiceSelectionReq .contract)) ||
    request.body == some (.din (.servicePaymentSelectionReq .contract))

/-- The requests that the default handler has a response to. -/
def Request.hasResponse (request : Request) : Bool :=
  match request.type with
  | .suppAppProtocolReq | .sessionSetupReq | .serviceDiscoveryReq | .serviceDetailReq
  | .paymentServiceSelectionReq | .paymentDetailsReq | .authorizationReq
  | .chargeParameterDiscoveryReq | .cableCheckReq | .preChargeReq | .powerDeliveryReq
  | .currentDemandReq | .meteringReceiptReq | .weldingDetectionReq | .sessionStopReq => true
  -- DIN 70121 has the request without the response
  | .chargingStatusReq => !request.isDin
  | _ => false

section Handlers

variable {codec : Codec} {env : HandlerEnv} {secc : Secc} {statics : HandlerStatics}
  {request : Request} {build : Build} {registered oldSessionJoined : Bool}

theorem reply_serves {secc' : Secc} {res : Res}
    (h : secc'.terminateAfterResponse = secc.terminateAfterResponse) :
    Serves codec secc (reply codec secc' statics res) :=
  ⟨⟨res, rfl, rfl⟩, h⟩

/-- The recorded authorization does not matter to the stream. -/
theorem Serves.authorize {result : HandlerResult} (h : Serves codec secc result)
    (authorized : Option Bool) : Serves codec secc { result with authorized } :=
  ⟨h.answers, h.goesOn⟩

theorem handleServiceDiscovery_serves :
    Serves codec secc (handleServiceDiscovery codec env secc statics request) := by
  unfold handleServiceDiscovery
  split_ifs
  · unfold handleDinServiceDiscovery
    dsimp only
    -- the offer is recorded once it is encoded
    split
    · exact ⟨⟨_, rfl, rfl⟩, rfl⟩
    · exact reply_serves rfl
  · exact reply_serves rfl

/-- Only payment by contract ends the stream. -/
theorem handlePaymentServiceSelection_serves (h : request.selectsContract = false) :
    Serves codec secc (handlePaymentServiceSelection codec secc statics request) := by
  rw [Request.selectsContract, Bool.or_eq_false_iff, beq_eq_false_iff_ne, beq_eq_false_iff_ne] at h
  unfold handlePaymentServiceSelection
  split_ifs
  · refine reply_serves ?_
    -- a DIN selection is served unless it asks for a contract
    rw [Request.dinBody]
    rcases hbody : request.body with _ | _ | _ | body
    · rfl
    · rfl
    · rfl
    · rcases body with _ | _ | _ | option | _ <;> try rfl
      cases option
      · exact absurd hbody h.2
      · rfl
  · refine reply_serves ?_
    -- and so is one of ISO 15118-2
    rw [Request.iso2Body]
    rcases hbody : request.body with _ | _ | body | _
    · rfl
    · rfl
    · rcases body with _ | _ | _ | option | _ <;> try rfl
      cases option
      · exact absurd hbody h.1
      · rfl
    · rfl

/-- The handler serves every request it has a response to, unless it selects payment by
contract. -/
theorem handleResolved_serves (hresponse : request.hasResponse = true)
    (hcontract : request.selectsContract = false) :
    Serves codec secc
      (handleResolved codec env secc statics request build registered oldSessionJoined) := by
  unfold Request.hasResponse at hresponse
  unfold handleResolved
  cases htype : request.type <;> rw [htype] at hresponse <;> try cases hresponse
  case serviceDiscoveryReq => exact handleServiceDiscovery_serves
  case paymentServiceSelectionReq => exact handlePaymentServiceSelection_serves hcontract
  case paymentDetailsReq =>
    dsimp only [handlePaymentDetails]
    refine Serves.authorize ?_ _
    split_ifs <;> exact reply_serves rfl
  case authorizationReq =>
    dsimp only [handleAuthorization]
    refine Serves.authorize ?_ _
    split_ifs <;> exact reply_serves rfl
  case chargingStatusReq =>
    have hdin : request.isDin = false := by simpa using hresponse
    dsimp only [handleChargingStatus]
    rw [hdin]
    exact reply_serves rfl
  case sessionStopReq =>
    have hflag : ∀ nowMs evPaused,
        (secc.stopSession nowMs evPaused).terminateAfterResponse = secc.terminateAfterResponse := by
      intro nowMs evPaused
      unfold Secc.stopSession
      split_ifs <;> rfl
    dsimp only [handleSessionStop]
    split_ifs <;> exact reply_serves (hflag _ _)
  -- the others answer the same way under both grammars
  all_goals
    dsimp only [handleSuppAppProtocol, handleSessionSetup, handleServiceDetail,
      handleChargeParameterDiscovery, handleCableCheck, handlePreCharge, handlePowerDelivery,
      handleCurrentDemand, handleMeteringReceipt, handleWeldingDetection]
    try split_ifs
    all_goals exact reply_serves rfl

/-- The default handler serves every request it has a response to, unless it selects payment by
contract. -/
theorem defaultHandle_serves (hresponse : request.hasResponse = true)
    (hcontract : request.selectsContract = false) :
    Serves codec secc (defaultHandle codec env secc statics request build registered) := by
  have hserves : Serves codec (resolveSession env secc request).1
      (defaultHandle codec env secc statics request build registered) :=
    handleResolved_serves hresponse hcontract
  exact ⟨hserves.answers, hserves.goesOn.trans resolveSession_terminateAfterResponse⟩

end Handlers

/-! ## The turn -/

/-- The payload of the response an exchange has sent. -/
def StreamEvent.answer : StreamEvent → Option (List UInt8)
  | .dispatched x => if x.rc = .ok () then x.result.rc.toOption else none
  | .connected | .rejected _ _ | .refused _ _ | .frame20 _ | .reset20 | .closed _ | .retired =>
    none

/-- The payload a turn of the station has sent. -/
def Turn.answer (turn : Turn) : Option (List UInt8) := turn.events.findSome? StreamEvent.answer

section Serving

variable {build : Build} {codec : Codec} {codec20 : Codec20} {input : FrameInput}
  {station : Station} {stream : Stream} {r : Request} {sequence : Sequence}

/-- The exchange of a request that has passed both gates. -/
def exchangeOf (build : Build) (codec : Codec) (input : FrameInput) (station : Station)
    (sequence : Sequence) (r : Request) : Exchange :=
  (input.served build codec).exchange build station sequence r

theorem exchangeOf_runs :
    (exchangeOf build codec input station sequence r).Runs build codec station :=
  ⟨rfl, rfl, rfl, encoded_of_transmit⟩

/-- The response of the default handler is sent, where the transport delivers it. -/
theorem exchangeOf_serves (hresponse : r.hasResponse = true) (hcontract : r.selectsContract = false)
    (hdeliver : ∀ res, (exchangeOf build codec input station sequence r).result.res = some res →
      Delivered codec (.frame input) res) :
    let x := exchangeOf build codec input station sequence r
    x.rc = .ok () ∧
      x.result.secc.terminateAfterResponse = station.secc.terminateAfterResponse ∧
      ∃ res bytes, x.result.res = some res ∧ x.result.rc = .ok bytes ∧
        codec.encode res = .ok bytes := by
  intro x
  obtain ⟨⟨res, hres, hrc⟩, hgoesOn⟩ : Serves codec station.secc x.result :=
    defaultHandle_serves hresponse hcontract
  have hsent : x.rc = .ok () := (transmit_ok_iff hrc).mpr (hdeliver res hres)
  obtain ⟨bytes, hbytes⟩ := encoded_of_transmit hsent
  exact ⟨hsent, hgoesOn, res, bytes, hres, hbytes, hrc ▸ hbytes⟩

/-- The turn of a request whose response is sent. -/
theorem streamTurn_of_served
    (hdispatched : dispatchedRequest build codec input station stream = some (r, sequence))
    (hsent : (exchangeOf build codec input station sequence r).rc = .ok ()) :
    streamTurn build codec codec20 input station stream =
      let x := exchangeOf build codec input station sequence r
      concludeExchange build input
        { station with secc := x.result.secc, statics := x.result.statics }
        { stream with protocol := r.protocol, sequence, consecutiveUndecodable := 0 } r
        [.dispatched x] := by
  obtain ⟨x, hx⟩ : ∃ x, x = exchangeOf build codec input station sequence r := ⟨_, rfl⟩
  have hdeliver : dispatch build codec input station
      { stream with protocol := r.protocol, sequence, consecutiveUndecodable := 0 } r =
        deliver build input { station with secc := x.result.secc, statics := x.result.statics }
          { stream with protocol := r.protocol, sequence, consecutiveUndecodable := 0 } x := by
    rw [hx]
    rfl
  have hrequest : x.request = r := by rw [hx]; rfl
  rw [← hx] at hsent ⊢
  rw [streamTurn_of_dispatched hdispatched, hdeliver, deliver]
  simp only [hsent, hrequest]

/-- The connection stays open after a response that is neither the last one nor that to a stop. -/
theorem concludeExchange_of_open {events : List StreamEvent}
    (hterminate : station.secc.terminateAfterResponse = false)
    (hstop : stream.sawSessionStop = false) (htype : r.type ≠ .sessionStopReq) :
    concludeExchange build input station stream r events =
      let armed := rearm build input station stream r
      let resumed := applyResume station.secc r stream.sequence
      proceed { station with secc := resumed.1, s20 := armed.1 }
        { stream with sequence := resumed.2, handledAny := true, lastMsg := r.type }
        (events ++ armed.2) := by
  have hstopped : (stream.sawSessionStop || r.type == .sessionStopReq) = false := by
    simp [hstop, htype]
  rw [concludeExchange, if_neg (by simp [hterminate])]
  simp only [hstopped, Secc.recordPauseMode_of_ne_sessionStop htype, Bool.false_eq_true, if_false]
  rw [← hstop]

/-- The connection goes on after a request other than a stop is served. -/
theorem streamTurn_of_open
    (hdispatched : dispatchedRequest build codec input station stream = some (r, sequence))
    (hsent : (exchangeOf build codec input station sequence r).rc = .ok ())
    (hterminate :
      (exchangeOf build codec input station sequence r).result.secc.terminateAfterResponse = false)
    (hstop : stream.sawSessionStop = false) (htype : r.type ≠ .sessionStopReq) :
    ∃ s20 events, (∀ e ∈ events, e.quiet) ∧
      streamTurn build codec codec20 input station stream =
        let x := exchangeOf build codec input station sequence r
        let resumed := applyResume x.result.secc r sequence
        proceed { secc := resumed.1, statics := x.result.statics, s20 }
          { stream with
            protocol := r.protocol
            sequence := resumed.2
            handledAny := true
            consecutiveUndecodable := 0
            lastMsg := r.type }
          (.dispatched x :: events) := by
  rw [streamTurn_of_served hdispatched hsent]
  exact ⟨_, _, rearm_quiet, concludeExchange_of_open hterminate hstop htype⟩

/-- The connection ends in good order after a stop is served. -/
theorem streamTurn_of_sessionStop
    (hdispatched : dispatchedRequest build codec input station stream = some (r, sequence))
    (hsent : (exchangeOf build codec input station sequence r).rc = .ok ())
    (hterminate :
      (exchangeOf build codec input station sequence r).result.secc.terminateAfterResponse = false)
    (htype : r.type = .sessionStopReq) :
    let turn := streamTurn build codec codec20 input station stream
    turn.exit = some (.ok ()) ∧
      turn.events = [.dispatched (exchangeOf build codec input station sequence r)] := by
  intro turn
  have hturn : turn = _ := streamTurn_of_served hdispatched hsent
  rw [hturn, concludeExchange, if_neg (by simp [hterminate])]
  -- no session is re-armed after a stop
  simp [rearm, leave, htype]

/-- What a turn has sent is the response of the request it has served. -/
theorem Turn.answer_of_dispatched {turn : Turn} {x : Exchange} {events : List StreamEvent}
    {bytes : List UInt8} (hevents : turn.events = .dispatched x :: events) (hsent : x.rc = .ok ())
    (hbytes : x.result.rc = .ok bytes) : turn.answer = some bytes := by
  have hpayload : StreamEvent.answer (.dispatched x) = some bytes := by
    rw [StreamEvent.answer, if_pos hsent, hbytes]
    rfl
  rw [Turn.answer, hevents, List.findSome?_cons, hpayload]

end Serving

/-- A frame that is served by a station with the sample environment. -/
def sampleInput (payload : List UInt8) : FrameInput where
  recv := .ok { payloadType := .exi, payload }
  env := sampleEnv true
  env20 := sampleEnv20
  nowReset := 0
  send := .ok ()

end Jpv2g
