import Jpv2g.Secc.Client.Routing
import Jpv2g.Secc.Stream.FailedResponse
import Jpv2g.SeccIso20.Termination

/-!
# Orderly Stops are Reported

A connection should be reported to have been stopped by the vehicle exactly when a SessionStopRes
with the code OK was completely handed to the transport. In plaintext the loop notes a
SessionStopReq whose response was sent, whatever its handler has answered, and on the
ISO 15118-20 path a stop that was granted. Over TLS what the stream has noted is lost, and an
answered stop is reported as an idle timeout.

## Main definitions

* `StreamEvent.sendsStop`: a SessionStopRes with the code OK has been sent.
* `StreamEvent.notesStop`: the loop notes a stop, and ends with it.
* `StopReported`: the report names the stop exactly when one was sent.
* `Client.StopsNoted`: nothing is stopped over TLS, and in plaintext what is noted is what was sent.

## Main results

* `serveTurn_stopTold`, `serveLoop_stopTold`: what an iteration of the loop, and the loop, note.
* `stopReported_iff`: for every handler, when the report is right.
* `Client.stopsNoted_default_iff`: with the default handler, only a stop over TLS is lost.
-/

namespace Jpv2g

/-! ## Responses that grant a stop -/

/-- A SessionStopRes with the code OK. -/
def Res.stops : Res → Bool
  | .iso2 _ (.sessionStop code) | .din _ (.sessionStop code) => code == .ok
  | _ => false

/-- A SessionStopRes of ISO 15118-20 with the code OK. -/
def Res20.stops (res : Res20) : Bool :=
  res.body == .sessionStop && res.responseCode == .ok

/-- A SessionStopRes with the code OK was completely handed to the transport. -/
def StreamEvent.sendsStop (build : Build) (input : FrameInput) : StreamEvent → Prop
  | .dispatched x => x.rc = .ok () ∧ x.result.res.any Res.stops = true
  | .frame20 f => transmit20 build input f = .ok () ∧ f.result.res.any Res20.stops = true
  | .rejected _ answer | .refused _ answer => answer.stops = true
  | .connected | .reset20 | .closed _ | .retired => False

/-- A SessionStopReq has been answered and its handler has not asked for the end of the stream, or
the ISO 15118-20 module has granted a stop and its response has been sent. -/
def StreamEvent.notesStop (build : Build) (input : FrameInput) : StreamEvent → Prop
  | .dispatched x => x.rc = .ok () ∧ x.request.type = .sessionStopReq ∧
      x.result.secc.terminateAfterResponse = false
  | .frame20 f => transmit20 build input f = .ok () ∧ f.result.res.any Res20.stops = true
  | .rejected _ _ | .refused _ _ | .connected | .reset20 | .closed _ | .retired => False

section Loop

variable (build : Build) (codec : Codec) (codec20 : Codec20)

/-- Some iteration of the loop brings about an event of the kind. -/
def serveLoopHas (P : FrameInput → StreamEvent → Prop) (station : Station) (stream : Stream) :
    List ServedFrame → Prop
  | [] => False
  | f :: frames =>
    let turn := serveTurn build codec codec20 f station stream
    (∃ e ∈ turn.events, P f.input e) ∨
      turn.exit = none ∧ serveLoopHas P turn.station turn.stream frames

/-- The connection reaches the receive loop, which brings about an event of the kind. -/
def Client.has (P : FrameInput → StreamEvent → Prop) (station : Station) (client : Client) : Prop :=
  (0 ≤ client.fd ∧ (client.route = some (.ok .plaintext) ∨
    client.route = some (.ok .tls) ∧ client.wrap = .ok ())) ∧
  serveLoopHas build codec codec20 P station.connected .init client.frames

/-- Before the stream of the connection ended, a SessionStopRes with the code OK was completely
handed to the transport. -/
def Client.stops (station : Station) (client : Client) : Prop :=
  client.has build codec codec20 (StreamEvent.sendsStop build) station

/-- Nothing is stopped over TLS, and in plaintext the loop notes a stop exactly when a
SessionStopRes with the code OK is sent. -/
structure Client.StopsNoted (station : Station) (client : Client) : Prop where
  tls : client.route = some (.ok .tls) → ¬client.stops build codec codec20 station
  plaintext : client.route = some (.ok .plaintext) →
    (client.has build codec codec20 (StreamEvent.notesStop build) station ↔
      client.stops build codec codec20 station)

end Loop

/-- The report says that the vehicle stopped the session exactly when it did. -/
structure StopReported (report : ClientReport) (stopped : Prop) : Prop where
  reason : report.reason = .evSessionStop ↔ stopped
  saw : report.sawSessionStop = true ↔ stopped
  not_idle : stopped → report.reason ≠ .idleTimeout

/-! ## The handlers -/

section Handlers

variable {codec : Codec} {env : HandlerEnv} {secc : Secc} {statics : HandlerStatics}
  {request : Request} {build : Build} {registered oldSessionJoined : Bool}

/-- A SessionStopReq is answered with a SessionStopRes. -/
theorem handleSessionStop_stops :
    (handleSessionStop codec env secc statics request).res.any Res.stops = true := by
  unfold handleSessionStop
  dsimp only
  split_ifs <;> rfl

theorem handleServiceDiscovery_stops :
    (handleServiceDiscovery codec env secc statics request).res.any Res.stops = false := by
  unfold handleServiceDiscovery
  split
  · unfold handleDinServiceDiscovery
    dsimp only
    split <;> rfl
  · rfl

/-- The handler grants a stop exactly to a SessionStopReq. -/
theorem handleResolved_stops :
    (handleResolved codec env secc statics request build registered oldSessionJoined).res.any
        Res.stops = (request.type == .sessionStopReq) := by
  unfold handleResolved
  cases request.type
  case sessionStopReq => exact handleSessionStop_stops
  case serviceDiscoveryReq => exact handleServiceDiscovery_stops
  case authorizationReq =>
    dsimp only [handleAuthorization]
    split_ifs <;> rfl
  -- the other answers are of another kind under both grammars, or there is none
  case sessionSetupReq | serviceDetailReq | paymentServiceSelectionReq | paymentDetailsReq
    | chargeParameterDiscoveryReq | cableCheckReq | preChargeReq | powerDeliveryReq
    | chargingStatusReq | currentDemandReq | meteringReceiptReq | weldingDetectionReq =>
    dsimp only [handleSessionSetup, handleServiceDetail, handlePaymentServiceSelection,
      handlePaymentDetails, handleChargeParameterDiscovery, handleCableCheck, handlePreCharge,
      handlePowerDelivery, handleChargingStatus, handleCurrentDemand, handleMeteringReceipt,
      handleWeldingDetection]
    split_ifs <;> rfl
  all_goals rfl

/-- The default handler sends a SessionStopRes to a SessionStopReq, and to nothing else. -/
theorem defaultHandle_stops :
    (defaultHandle codec env secc statics request build registered).res.any Res.stops =
      (request.type == .sessionStopReq) :=
  handleResolved_stops

/-- A stop leaves the flag that ends a stream alone. -/
theorem defaultHandle_sessionStop_terminate (htype : request.type = .sessionStopReq) :
    (defaultHandle codec env secc statics request build registered).secc.terminateAfterResponse =
      secc.terminateAfterResponse := by
  have hresolve : (resolveSession env secc request).1.terminateAfterResponse =
      secc.terminateAfterResponse := resolveSession_terminateAfterResponse
  rw [← hresolve]
  simp only [defaultHandle, handleResolved, htype]
  unfold handleSessionStop
  dsimp only
  split_ifs <;> (unfold Secc.stopSession; split_ifs <;> rfl)

end Handlers

/-! ## The ISO 15118-20 module -/

/-- Only a SessionStopReq is of the kind of a SessionStopRes. -/
theorem Body20.eq_sessionStopReq {body : Body20} (hkind : body.kind = .sessionStop) :
    ∃ action terminationCode explanation,
      body = .common (.sessionStopReq action terminationCode explanation) := by
  rcases body with (_ | _) | (_ | _)
  all_goals first | exact ⟨_, _, _, rfl⟩ | cases hkind

/-- Only a SessionStopRes is of its kind. -/
theorem Res20Body.kind_eq_sessionStop {body : Res20Body} :
    body.kind = .sessionStop ↔ body = .sessionStop := by
  cases body <;> simp [Res20Body.kind]

/-- The disposition reports a stop. -/
def Disposition20.stopped (disposition : Disposition20) : Prop :=
  disposition = .doneStopped ∨ disposition = .donePaused

section Module20

variable {codec : Codec20} {env : Env20} {outCap : ℕ} {s : Secc20} {payloadType : PayloadType}
  {exi bytes : List UInt8}

/-- The caller of an answered request is told to stop exactly with a granted stop. -/
theorem Answers.stopped_iff {session : Secc20} {body : Body20} {code : ResponseCode20}
    {disposition : Disposition20} {result : HandlerResult20}
    (h : Answers codec env outCap body.kind session code disposition bytes result)
    (hdisposition : (disposition = .continue ∧
        ¬(code = .ok ∧ ∃ action terminationCode explanation,
          body = .common (.sessionStopReq action terminationCode explanation))) ∨
      ∃ action terminationCode explanation, code = .ok ∧
        body = .common (.sessionStopReq action terminationCode explanation) ∧
        disposition = if action = .pause then .donePaused else .doneStopped) :
    result.disposition.stopped ↔ result.res.any Res20.stops = true := by
  obtain ⟨res, hres, -, hcode, -, hkind⟩ := h.res_eq
  -- the response grants a stop when it is a SessionStopRes with the code OK
  have hstops : result.res.any Res20.stops = true ↔
      body.kind = .sessionStop ∧ code = .ok := by
    rw [hres, ← hkind, ← hcode, Res20Body.kind_eq_sessionStop]
    simp [Res20.stops]
  rw [hstops, h.disposition_eq, concludeDisposition]
  -- a handler that goes on has not granted one, a handler that is done has
  rcases hdisposition with ⟨rfl, hnot⟩ | ⟨action, _, _, rfl, rfl, rfl⟩
  · refine iff_of_false ?_ ?_
    · rw [Disposition20.stopped]
      split_ifs <;> simp
    · rintro ⟨hstop, hok⟩
      exact hnot ⟨hok, Body20.eq_sessionStopReq hstop⟩
  · refine iff_of_true ?_ ⟨rfl, rfl⟩
    rw [Disposition20.stopped]
    split_ifs <;> simp_all

/-- The caller of an answered frame is told to stop exactly with a granted stop. -/
theorem secc20HandleFrame_stopped_iff
    (hrc : (secc20HandleFrame codec env outCap s payloadType exi).rc = .ok bytes) :
    (secc20HandleFrame codec env outCap s payloadType exi).disposition.stopped ↔
      (secc20HandleFrame codec env outCap s payloadType exi).res.any Res20.stops = true := by
  have hframe := receives codec env outCap s payloadType exi
  generalize secc20HandleFrame codec env outCap s payloadType exi = result at hframe hrc
  cases hframe with
  -- a frame that is not answered cannot have `rc` OK
  | empty | ended | expired | undecodable => cases hrc
  -- a refusal is not answered OK
  | unknownSession hreads hdecode hkind | outOfSequence hreads hdecode hkind =>
    rw [s20Conclude_rc] at hrc
    exact (answers_of_ok env (s20BuildRes_carriesOut hkind)
      (s20BuildRes_replies (s := s.received) rfl) hrc).stopped_iff (.inl ⟨rfl, by simp⟩)
  | @handled doc hreads hdecode hadmits =>
    rw [s20Conclude_rc] at hrc
    have haccepts : s20StateAccepts s.received.state doc.body.kind = true :=
      s20StateAccepts_of_admits hadmits
    obtain ⟨session, calls, code, disposition, houtcome, hcarries⟩ :=
      handles_of_accepts codec env outCap s.received haccepts
    exact (answers_of_ok env hcarries (s20Handle_replies ..) hrc).stopped_iff
      houtcome.disposition_cases

end Module20

/-! ## One iteration of the loop -/

/-- The loop notes the stop it is told of, and exits in good order with it. -/
structure StopTold (turn : Turn) (told : Prop) : Prop where
  saw_iff : turn.stream.sawSessionStop = true ↔ told
  exit_of_saw : turn.stream.sawSessionStop = true → turn.exit = some (.ok ())

section Turns

variable {build : Build} {codec : Codec} {codec20 : Codec20} {input : FrameInput}
  {station : Station} {stream : Stream} {x : Exchange}

/-- A turn that notes no stop. -/
theorem StopTold.of_silent {turn : Turn} {told : Prop} (htold : ¬told)
    (hsaw : turn.stream.sawSessionStop = false) : StopTold turn told :=
  ⟨by simp [hsaw, htold], by simp [hsaw]⟩

/-- Ignoring an undecodable frame notes no stop. -/
theorem undecodable_stopTold {station : Station} {events : List StreamEvent} {told : Prop}
    (htold : ¬told) (hsaw : stream.sawSessionStop = false) :
    StopTold (undecodable station stream events) told := by
  unfold undecodable Stream.ignoreUndecodable
  split
  · rename_i ignored hignored
    split_ifs at hignored
    cases hignored
    exact .of_silent htold hsaw
  · exact .of_silent htold hsaw

/-- An ISO 15118-20 frame. -/
theorem frame20Turn_stopTold {msg : V2gtpMsg} (hrecv : input.recv = .ok msg)
    (hsaw : stream.sawSessionStop = false) :
    StopTold (frame20Turn build codec20 input station stream msg.payloadType msg.payload)
      (∃ e ∈ (frame20Turn build codec20 input station stream msg.payloadType msg.payload).events,
        e.notesStop build input) := by
  -- the event tells a stop exactly when the response has been sent and grants one
  have htold : ∀ f : Frame20, (∃ e ∈ [StreamEvent.frame20 f], e.notesStop build input) ↔
      f.Sent build input msg.payloadType ∧ f.result.res.any Res20.stops = true := by
    intro f
    simp [StreamEvent.notesStop, transmit20_ok_iff hrecv]
  have hunsent : ∀ f : Frame20, ¬f.Sent build input msg.payloadType →
      ¬∃ e ∈ [StreamEvent.frame20 f], e.notesStop build input :=
    fun f hsent h => hsent ((htold f).mp h).1
  have hfate := frame20Turn_fate build codec20 input station stream msg.payloadType msg.payload
  generalize frame20Turn build codec20 input station stream msg.payloadType msg.payload = turn
    at hfate ⊢
  cases hfate with
  | unasked => exact .of_silent (by simp [leave]) hsaw
  | @undecoded s20 f hs20 hf hrc =>
    have hsent : ¬f.Sent build input msg.payloadType := by simp [Frame20.Sent, hrc]
    have hevents : (undecodable { station with s20 := some f.result.session } stream
        [.frame20 f]).events = [.frame20 f] := by
      unfold undecodable
      split <;> rfl
    rw [hevents]
    exact undecodable_stopTold (hunsent f hsent) hsaw
  | @unsent s20 f e ignored hs20 hf hsent => exact .of_silent (hunsent f hsent) hsaw
  | @sent s20 f hs20 hf hsent =>
    have hstopped : f.result.disposition.stopped ↔ f.result.res.any Res20.stops = true := by
      obtain ⟨bytes, _, hrc, -⟩ := hsent
      subst hf
      exact secc20HandleFrame_stopped_iff hrc
    have hiff : (∃ e ∈ [StreamEvent.frame20 f], e.notesStop build input) ↔
        f.result.disposition.stopped := by
      rw [htold, hstopped]
      exact and_iff_right hsent
    unfold concludeFrame20
    cases hdisposition : f.result.disposition with
    | «continue» | doneFailed =>
      refine .of_silent (fun h => ?_) hsaw
      have hstop : f.result.disposition.stopped := hiff.mp h
      rw [hdisposition] at hstop
      simp [Disposition20.stopped] at hstop
    | doneStopped => exact ⟨iff_of_true rfl (hiff.mpr (.inl hdisposition)), fun _ => rfl⟩
    | donePaused => exact ⟨iff_of_true rfl (hiff.mpr (.inr hdisposition)), fun _ => rfl⟩

/-- Beside the exchange itself, the loop tells at most that it re-arms the session. -/
theorem deliver_has {P : StreamEvent → Prop} (hreset : ¬P .reset20) :
    (∃ e ∈ (deliver build input station stream x).events, P e) ↔ P (.dispatched x) := by
  have harmed : ¬∃ e ∈ (rearm build input station stream x.request).2, P e := by
    rintro ⟨e, he, hP⟩
    rw [rearm_events e he] at hP
    exact hreset hP
  rw [deliver]
  split
  · simp [leave]
  · rw [concludeExchange]
    dsimp only
    split_ifs
    · simp [leave]
    all_goals
      show (∃ e ∈ .dispatched x :: (rearm build input station stream x.request).2, P e) ↔ _
      rw [List.exists_mem_cons_iff, or_iff_left harmed]

/-- A response that is delivered, or is not. -/
theorem deliver_stopTold (hsecc : station.secc = x.result.secc)
    (hsaw : stream.sawSessionStop = false) :
    StopTold (deliver build input station stream x)
      (StreamEvent.notesStop build input (.dispatched x)) := by
  rw [deliver]
  split
  · rename_i e hrc
    refine .of_silent ?_ hsaw
    rintro ⟨hsent, -⟩
    cases hrc.symm.trans hsent
  · rename_i hrc
    rw [concludeExchange, hsecc]
    dsimp only
    -- terminated by the handler, stopped by the request, or going on
    split_ifs with hterminate hstopped
    · refine .of_silent ?_ hsaw
      rintro ⟨-, -, hflag⟩
      cases hterminate.symm.trans hflag
    · have htype : x.request.type = .sessionStopReq := by simpa [hsaw] using hstopped
      exact ⟨iff_of_true hstopped ⟨hrc, htype, Bool.eq_false_of_not_eq_true hterminate⟩,
        fun _ => rfl⟩
    · refine .of_silent ?_ (Bool.eq_false_of_not_eq_true hstopped)
      rintro ⟨-, htype, -⟩
      simp [htype] at hstopped

/-- One iteration of the loop notes the stop it is told of. -/
theorem serveTurn_stopTold (build : Build) (codec : Codec) (codec20 : Codec20) (f : ServedFrame)
    (station : Station) (hsaw : stream.sawSessionStop = false) :
    StopTold (serveTurn build codec codec20 f station stream)
      (∃ e ∈ (serveTurn build codec codec20 f station stream).events,
        e.notesStop build f.input) := by
  have hfate := serveTurn_fate build codec codec20 f station stream
  generalize serveTurn build codec codec20 f station stream = turn at hfate ⊢
  cases hfate with
  | unread => exact .of_silent (by simp [leave]) hsaw
  | frame20 hrecv => exact frame20Turn_stopTold hrecv hsaw
  | undecoded =>
    refine undecodable_stopTold ?_ hsaw
    unfold undecodable
    split <;> simp [leave, proceed]
  -- a request that is turned away is no stop
  | rejected | refused => exact .of_silent (by simp [leave, StreamEvent.notesStop]) hsaw
  | dispatched =>
    rw [serve, deliver_has id]
    exact deliver_stopTold rfl hsaw

/-- The loop notes the stop it is told of before it ends. -/
theorem serveLoop_stopTold (frames : List ServedFrame) (hsaw : stream.sawSessionStop = false) :
    StopTold (serveLoop build codec codec20 station stream frames)
      (serveLoopHas build codec codec20 (StreamEvent.notesStop build) station stream frames) := by
  -- along the frames: while the loop goes on, no stop has been noted
  induction frames generalizing station stream with
  | nil => exact .of_silent id hsaw
  | cons f frames ih =>
    have hturn := serveTurn_stopTold build codec codec20 f station hsaw
    rw [serveLoop, serveLoopHas]
    cases hexit : (serveTurn build codec codec20 f station stream).exit with
    | some rc =>
      -- the loop ends with this frame, so no later one tells a stop
      refine ⟨?_, hturn.exit_of_saw⟩
      simpa [hexit] using hturn.saw_iff
    | none =>
      -- the loop goes on, so this frame has told none
      have hlive : (serveTurn build codec codec20 f station stream).stream.sawSessionStop =
          false := by
        apply Bool.eq_false_of_not_eq_true
        intro h
        cases hexit.symm.trans (hturn.exit_of_saw h)
      have hrest := @ih (serveTurn build codec codec20 f station stream).station _ hlive
      have htold := mt hturn.saw_iff.mpr (ne_of_eq_of_ne hlive Bool.false_ne_true)
      refine ⟨?_, hrest.exit_of_saw⟩
      rw [or_iff_right htold, and_iff_right rfl]
      exact hrest.saw_iff

end Turns

/-! ## The default handler -/

section Default

variable {build : Build} {codec : Codec} {codec20 : Codec20} {input : FrameInput}
  {station : Station} {stream : Stream}

/-- An event that judges no request tells a stop exactly when it sends one. -/
theorem sendsStop_iff_notesStop_of_quiet {e : StreamEvent} (h : e.quiet) :
    e.sendsStop build input ↔ e.notesStop build input := by
  cases e with
  | frame20 | reset20 | closed => exact Iff.rfl
  | connected | rejected | refused | dispatched | retired => exact h.elim

/-- The default handler answers a SessionStopReq with a stop, nothing else, and leaves the stream
to end by itself. -/
theorem serve_default_stops (hflag : station.secc.terminateAfterResponse = false) (r : Request) :
    StreamEvent.sendsStop build input
        (.dispatched ((input.served build codec).exchange build station stream.sequence r)) ↔
      StreamEvent.notesStop build input
        (.dispatched ((input.served build codec).exchange build station stream.sequence r)) := by
  refine and_congr_right fun _ => ?_
  show (defaultHandle codec input.env station.secc station.statics r build
    station.s20.isSome).res.any Res.stops = true ↔ _
  rw [defaultHandle_stops, beq_iff_eq]
  constructor
  · intro htype
    exact ⟨htype, (defaultHandle_sessionStop_terminate htype).trans hflag⟩
  · exact And.left

/-- With the default handler, an iteration of the loop notes a stop exactly when it sends one. -/
theorem serveTurn_default_stops (hflag : station.secc.terminateAfterResponse = false) :
    (∃ e ∈ (serveTurn build codec codec20 (input.served build codec) station stream).events,
        e.sendsStop build input) ↔
      ∃ e ∈ (serveTurn build codec codec20 (input.served build codec) station stream).events,
        e.notesStop build input := by
  have hfate := serveTurn_fate build codec codec20 (input.served build codec) station stream
  generalize serveTurn build codec codec20 (input.served build codec) station stream = turn
    at hfate ⊢
  have hquiet : (∀ e ∈ turn.events, e.quiet) →
      ((∃ e ∈ turn.events, e.sendsStop build input) ↔
        ∃ e ∈ turn.events, e.notesStop build input) := fun hevents =>
    exists_congr fun e => and_congr_right fun he => sendsStop_iff_notesStop_of_quiet (hevents e he)
  cases hfate with
  | unread => exact hquiet (by simp [leave])
  | frame20 hrecv hprotocol => exact hquiet (frame20Turn_quiet hrecv hprotocol).events
  | undecoded =>
    have hundecoded : (undecodable station stream []).Quiet (fun _ => True) station stream :=
      undecodable_quiet rfl rfl (by simp) (.inl (by simp))
    exact hquiet hundecoded.events
  | rejected | refused =>
    simp [leave, StreamEvent.sendsStop, StreamEvent.notesStop, minFailed, Res.stops]
  | dispatched =>
    rw [serve, deliver_has id, deliver_has id]
    exact serve_default_stops hflag _

/-- While the loop goes on, the flag that ends a stream stays lowered. -/
theorem serveTurn_terminate {f : ServedFrame}
    (hflag : station.secc.terminateAfterResponse = false)
    (hexit : (serveTurn build codec codec20 f station stream).exit = none) :
    (serveTurn build codec codec20 f station stream).station.secc.terminateAfterResponse =
      false := by
  have hfate := serveTurn_fate build codec codec20 f station stream
  generalize serveTurn build codec codec20 f station stream = turn at hfate hexit ⊢
  cases hfate with
  | unread | rejected | refused => cases hexit
  | frame20 hrecv hprotocol =>
    rw [(frame20Turn_quiet hrecv hprotocol).secc_eq]
    exact hflag
  | undecoded =>
    have hundecoded : (undecodable station stream []).Quiet (fun _ => True) station stream :=
      undecodable_quiet rfl rfl (by simp) (.inl (by simp))
    rw [hundecoded.secc_eq]
    exact hflag
  | dispatched =>
    rw [serve, deliver] at hexit ⊢
    -- a response that was sent with the flag raised would have ended the stream
    split at hexit
    · cases hexit
    · rw [concludeExchange] at hexit ⊢
      dsimp only at hexit ⊢
      split_ifs at hexit ⊢ with hterminate hstopped
      · cases hexit
      · cases hexit
      · exact concluded_terminateAfterResponse.trans (Bool.eq_false_of_not_eq_true hterminate)

/-- With the default handler, the loop notes a stop exactly when it sends one. -/
theorem serveLoop_default_stops (inputs : List FrameInput)
    (hflag : station.secc.terminateAfterResponse = false) :
    serveLoopHas build codec codec20 (StreamEvent.sendsStop build) station stream
        (inputs.map (·.served build codec)) ↔
      serveLoopHas build codec codec20 (StreamEvent.notesStop build) station stream
        (inputs.map (·.served build codec)) := by
  -- along the frames, over which the flag stays lowered
  induction inputs generalizing station stream with
  | nil => exact Iff.rfl
  | cons input inputs ih =>
    rw [List.map_cons, serveLoopHas, serveLoopHas]
    refine or_congr (serveTurn_default_stops hflag) (and_congr_right fun hexit => ?_)
    exact ih (serveTurn_terminate hflag hexit)

/-- With the default handler, nothing but a stop over TLS is lost. -/
theorem Client.stopsNoted_default_iff {client : Client} {inputs : List FrameInput}
    (hframes : client.frames = inputs.map (·.served build codec)) :
    client.StopsNoted build codec codec20 station ↔
      ¬(client.route = some (.ok .tls) ∧ client.stops build codec codec20 station) := by
  constructor
  · rintro h ⟨hroute, hstops⟩
    exact h.tls hroute hstops
  · intro h
    refine ⟨fun hroute hstops => h ⟨hroute, hstops⟩, fun _ => and_congr_right fun _ => ?_⟩
    rw [hframes]
    exact (serveLoop_default_stops inputs rfl).symm

end Default

/-! ## The report -/

/-- The classifier reports a stop exactly for a stream that ended in good order after one. -/
theorem classifyDisconnect_eq_evSessionStop {rc : Rc} {handledAny saw : Bool} :
    classifyDisconnect rc handledAny saw = .evSessionStop ↔ rc = .ok () ∧ saw = true := by
  rcases rc with e | -
  · cases e <;> cases handledAny <;> simp [classifyDisconnect]
  · cases saw <;> simp [classifyDisconnect]

theorem peekFailure_ne_evSessionStop (e : Errno) : peekFailure e ≠ .evSessionStop := by
  cases e <;> simp [peekFailure]

section Report

variable {build : Build} {codec : Codec} {codec20 : Codec20} {station : Station}
  {client : Client} {report : ClientReport} {stopped : Prop}

/-- A report of no stop is right exactly when there was none. -/
theorem StopReported.iff_of_not (hreason : report.reason ≠ .evSessionStop)
    (hsaw : report.sawSessionStop = false) : StopReported report stopped ↔ ¬stopped := by
  constructor
  · intro h hstopped
    exact hreason (h.reason.mpr hstopped)
  · intro hstopped
    exact ⟨iff_of_false hreason hstopped, iff_of_false (by simp [hsaw]) hstopped,
      fun h => absurd h hstopped⟩

/-- The report of a plaintext stream is right exactly when the stop that is noted is the one that
was sent. -/
theorem stopReported_plaintext {rc : Rc} {frames : List ServedFrame}
    (hexit : (handleServed build codec codec20 station frames).exit = some rc)
    (hreason : report.reason = classifyDisconnect rc
      (handleServed build codec codec20 station frames).stream.handledAny
      (handleServed build codec codec20 station frames).stream.sawSessionStop)
    (hsaw : report.sawSessionStop =
      (handleServed build codec codec20 station frames).stream.sawSessionStop) :
    StopReported report stopped ↔
      (serveLoopHas build codec codec20 (StreamEvent.notesStop build) station.connected .init
        frames ↔ stopped) := by
  have htold : StopTold (handleServed build codec codec20 station frames)
      (serveLoopHas build codec codec20 (StreamEvent.notesStop build) station.connected .init
        frames) := serveLoop_stopTold frames rfl
  -- a noted stop ends the stream in good order
  have hrc : (handleServed build codec codec20 station frames).stream.sawSessionStop = true →
      rc = .ok () := by
    intro h
    exact Option.some.inj (hexit.symm.trans (htold.exit_of_saw h))
  -- so that the classifier tells it from an idle timeout
  have hstop : report.reason = .evSessionStop ↔
      serveLoopHas build codec codec20 (StreamEvent.notesStop build) station.connected .init
        frames := by
    rw [hreason, classifyDisconnect_eq_evSessionStop, ← htold.saw_iff]
    exact and_iff_right_of_imp hrc
  constructor
  · intro h
    exact hstop.symm.trans h.reason
  · intro hnoted
    refine ⟨hstop.trans hnoted, ?_, ?_⟩
    · rw [hsaw, htold.saw_iff]
      exact hnoted
    · intro hstopped
      rw [hstop.mpr (hnoted.mpr hstopped)]
      simp

end Report

/-- For every connection that has ended, whatever its handler has answered: the report names an
orderly stop exactly when there was one, if and only if none was sent over TLS and a plaintext
stream notes a stop exactly when one was sent. -/
theorem stopReported_iff (build : Build) (codec : Codec) (codec20 : Codec20) (station : Station)
    (client : Client) (report : ClientReport)
    (hreport : handleClientDetectEx build codec codec20 station client = some report) :
    StopReported report (client.stops build codec codec20 station) ↔
      client.StopsNoted build codec codec20 station := by
  -- a connection that was not served has nothing to report but its failure
  have hunserved : (∀ P, ¬client.has build codec codec20 P station) →
      report.reason ≠ .evSessionStop → report.sawSessionStop = false →
      (StopReported report (client.stops build codec codec20 station) ↔
        client.StopsNoted build codec codec20 station) := by
    intro hserved hreason hsaw
    rw [StopReported.iff_of_not hreason hsaw]
    exact iff_of_true (hserved _) ⟨fun _ => hserved _,
      fun _ => iff_of_false (hserved _) (hserved _)⟩
  unfold handleClientDetectEx at hreport
  split_ifs at hreport with hfd
  · cases hreport
    exact hunserved (fun _ h => by have := h.1.1; omega) (by simp) rfl
  have hfd : 0 ≤ client.fd := by omega
  split at hreport
  · cases hreport
  -- nothing was received
  · rename_i e hroute
    cases hreport
    refine hunserved ?_ (peekFailure_ne_evSessionStop e) rfl
    rintro P ⟨⟨-, h | ⟨h, -⟩⟩, -⟩ <;> cases hroute.symm.trans h
  · rename_i hroute
    -- over TLS the loop runs without the observer that would note the stop
    obtain ⟨⟨rc, after⟩, hserve, rfl⟩ := Option.map_eq_some_iff.mp hreport
    have hreason : classifyDisconnect rc false false ≠ .evSessionStop := by
      rw [Ne, classifyDisconnect_eq_evSessionStop]
      simp
    rw [StopReported.iff_of_not hreason rfl]
    constructor
    · intro hstops
      refine ⟨fun _ => hstops, fun h => ?_⟩
      cases hroute.symm.trans h
    · intro h
      exact h.tls hroute
  · rename_i hroute
    -- a plaintext stream is run with the observer
    obtain ⟨rc, hexit, rfl⟩ := Option.map_eq_some_iff.mp hreport
    have hserved : client.has build codec codec20 (StreamEvent.notesStop build) station ↔
        serveLoopHas build codec codec20 (StreamEvent.notesStop build) station.connected .init
          client.frames := and_iff_right ⟨hfd, .inl hroute⟩
    rw [stopReported_plaintext hexit rfl rfl, ← hserved]
    constructor
    · intro hnoted
      refine ⟨fun h => ?_, fun _ => hnoted⟩
      cases hroute.symm.trans h
    · intro h
      exact h.plaintext hroute

/-- A negotiation, the setup of a session, and its stop. -/
def sampleStopFrames : List FrameInput :=
  [0, 2, 11].map fun number =>
    { recv := .ok { payloadType := .exi, payload := [number] }
      env := sampleEnv true
      env20 := sampleEnv20
      nowReset := 0
      send := .ok () }

/-- A connection that starts with the given bytes, over which a session is set up and stopped. -/
def sampleStop (first : List UInt8) : Client :=
  sampleClient first (.ok ()) (sampleStopFrames.map (·.served sampleBuild sampleCodec))

/-- The stop of a plaintext stream. -/
theorem stopReported_iff_sample :
    ∃ report, handleClientDetectEx sampleBuild sampleCodec emptyCodec20 sampleStation
        (sampleStop [0x01, 0xFE]) = some report ∧
      (StopReported report
          ((sampleStop [0x01, 0xFE]).stops sampleBuild sampleCodec emptyCodec20 sampleStation) ↔
        (sampleStop [0x01, 0xFE]).StopsNoted sampleBuild sampleCodec emptyCodec20
          sampleStation) := by
  obtain ⟨report, hreport⟩ := Option.isSome_iff_exists.mp
    (show (handleClientDetectEx sampleBuild sampleCodec emptyCodec20 sampleStation
      (sampleStop [0x01, 0xFE])).isSome = true by decide)
  exact ⟨report, hreport, stopReported_iff _ _ _ _ _ _ hreport⟩

/-- The stop of a stream over TLS is reported as an idle timeout. -/
theorem stop_over_tls_unreported :
    ¬∀ (build : Build) (codec : Codec) (codec20 : Codec20) (station : Station) (client : Client)
      (report : ClientReport),
      handleClientDetectEx build codec codec20 station client = some report →
        StopReported report (client.stops build codec codec20 station) := by
  intro h
  have hnoted : serveLoopHas sampleBuild sampleCodec emptyCodec20
      (StreamEvent.notesStop sampleBuild) sampleStation.connected .init
      (sampleStop [0x16, 0x03, 0x01]).frames :=
    (serveLoop_stopTold _ rfl).saw_iff.mp (by decide)
  have hstops : (sampleStop [0x16, 0x03, 0x01]).stops sampleBuild sampleCodec emptyCodec20
      sampleStation :=
    ⟨⟨by decide, .inr ⟨by decide, rfl⟩⟩, (serveLoop_default_stops sampleStopFrames rfl).mpr hnoted⟩
  have hidle : (handleClientDetectEx sampleBuild sampleCodec emptyCodec20 sampleStation
      (sampleStop [0x16, 0x03, 0x01])).map ClientReport.reason = some .idleTimeout := by
    decide
  obtain ⟨report, hreport, hreason⟩ := Option.map_eq_some_iff.mp hidle
  exact (h _ _ _ _ _ report hreport).not_idle hstops hreason

end Jpv2g
