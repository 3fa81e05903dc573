import Jpv2g.Secc.HandlerFacts
import Jpv2g.Secc.Stream.Loop

/-!
# What One Input Can Do to the Station

The inversion of the stream dispatcher: every input of the station starts or ends a connection,
touches ISO 15118-20 only, is rejected by one of the two gates, or dispatches one request.

## Main definitions

* `Charger.presented`: the request an input presents to the gates.
* `Decoded`: the requests the three decoders produce.
* `Fate`: what becomes of the record and of the connection after a dispatched request.
* `Frame20Fate`, `StreamFate`: what becomes of a frame on the ISO 15118-20 path, and of what is
  received in one iteration of the loop.
* `StationMove`: everything one input can do, whatever the request handler is.
* `ChargerMove`: everything one input can do with the default handler.

## Main results

* `charger_move`: one input of the station is one of these moves.
-/

namespace Jpv2g

/-- The requests decoded on a stream, by the three grammars. -/
inductive Decoded (build : Build) (registered : Bool) (stream : Stream) : Request → Prop
  | app {offers : List AppProtocol} {protocol : Protocol}
      (hprotocol : protocol =
        if (selectAppProtocol build registered (some offers)).protocol ≠ .unknown then
          (selectAppProtocol build registered (some offers)).protocol
        else stream.protocol) :
      Decoded build registered stream
        { type := .suppAppProtocolReq, protocol, header := none, dinHeader := none
          body := some (.app offers) }
  | iso2 {doc : V2gDoc Iso2Body} (hstream : stream.protocol ≠ .din70121)
      (hknown : doc.body.messageType ≠ .unknownMessage) :
      Decoded build registered stream
        { type := doc.body.messageType, protocol := .iso15118_2, header := some doc.sessionId
          dinHeader := none, body := some (.iso2 doc.body) }
  | din {doc : V2gDoc DinBody} (hknown : doc.body.messageType ≠ .unknownMessage) :
      Decoded build registered stream
        { type := doc.body.messageType, protocol := .din70121, header := none
          dinHeader := some doc.sessionId, body := some (.din doc.body) }

/-- An event that leaves the legacy session alone. -/
def StreamEvent.quiet : StreamEvent → Prop
  | .frame20 _ | .reset20 | .closed _ => True
  | .connected | .rejected _ _ | .refused _ _ | .dispatched _ | .retired => False

/-- A decoded request reached the gates. -/
def StreamEvent.judges : StreamEvent → Prop
  | .rejected _ _ | .refused _ _ | .dispatched _ => True
  | .connected | .frame20 _ | .reset20 | .closed _ | .retired => False

theorem StreamEvent.quiet.not_judges {e : StreamEvent} (h : e.quiet) : ¬e.judges := by
  cases e <;> simp_all [StreamEvent.quiet, StreamEvent.judges]

/-- The request a received frame presents to the gates. -/
def presentedRequest (build : Build) (codec : Codec) (station : Station) (stream : Stream)
    (input : FrameInput) : Option Request :=
  match input.recv with
  | .ok msg =>
    if msg.payloadType = .exi ∧ msg.payload ≠ [] then
      decodeRequest build codec station stream msg.payload
    else none
  | .error _ => none

/-- The request an input presents to the gates of the connection, when there is one. -/
def Charger.presented (build : Build) (codec : Codec) (c : Charger) : ChargerInput → Option Request
  | .frame input => c.stream.bind fun stream => presentedRequest build codec c.station stream input
  | .connect | .retire => none

/-- What the ISO 15118-20 module makes of a received frame, when the stream asks it. -/
def FrameInput.frame20 (codec20 : Codec20) (input : FrameInput) (station : Station)
    (stream : Stream) : Option Frame20 :=
  if stream.protocol = .iso15118_20_dc then
    input.recv.toOption.bind fun msg =>
      station.s20.map fun s20 =>
        secc20Frame codec20 input.env20 maxExiSize s20 msg.payloadType msg.payload
  else none

/-- A frame on the ISO 15118-20 path is the first event, and is one of the given ones. -/
def FramesFirst (Framed : Frame20 → Prop) (es : List StreamEvent) : Prop :=
  (∀ f, .frame20 f ∉ es) ∨
    ∃ f tail, es = .frame20 f :: tail ∧ (∀ f, .frame20 f ∉ tail) ∧ Framed f

/-- The exchange was carried out on the record by the default handler. -/
structure Exchange.Runs (build : Build) (codec : Codec) (station : Station) (x : Exchange) :
    Prop where
  secc_eq : x.secc = station.secc
  registered_eq : x.registered = station.s20.isSome
  result_eq : x.result =
    defaultHandle codec x.env station.secc station.statics x.request build x.registered
  encoded : x.rc = .ok () → ∃ bytes, x.result.rc = .ok bytes

/-- The exchange is a session setup that joined the paused session. -/
def Exchange.joins (x : Exchange) : Prop :=
  x.request.type = .sessionSetupReq ∧
    x.result.res.bind Res.setupCode = some .okOldSessionJoined

instance (x : Exchange) : Decidable x.joins :=
  inferInstanceAs (Decidable (_ ∧ _))

/-- Only a stop records the mode of a pause. -/
theorem Secc.recordPauseMode_of_ne_sessionStop {secc : Secc} {r : Request} {sequence : Sequence}
    (htype : r.type ≠ .sessionStopReq) : secc.recordPauseMode r sequence = secc :=
  if_neg fun h => htype h.1

/-- Only a setup applies a resume. -/
theorem applyResume_of_ne_sessionSetup {secc : Secc} {r : Request} {sequence : Sequence}
    (htype : r.type ≠ .sessionSetupReq) : applyResume secc r sequence = (secc, sequence) :=
  if_neg fun h => htype h.1

/-- A resume keeps the phase. -/
theorem applyResume_phase {secc : Secc} {r : Request} {sequence : Sequence} :
    (applyResume secc r sequence).2.phase = sequence.phase := by
  unfold applyResume
  split_ifs <;> rfl

/-- A resume keeps the protocol. -/
theorem applyResume_protocol {secc : Secc} {r : Request} {sequence : Sequence} :
    (applyResume secc r sequence).2.protocol = sequence.protocol := by
  unfold applyResume
  split_ifs <;> rfl

/-- The bookkeeping after a response keeps the live and the paused identifier. -/
theorem concluded_keeps {secc : Secc} {r : Request} {sequence : Sequence} :
    (applyResume (secc.recordPauseMode r sequence) r sequence).1.sessionId = secc.sessionId ∧
      (applyResume (secc.recordPauseMode r sequence) r sequence).1.lastSessionId =
        secc.lastSessionId ∧
      (applyResume (secc.recordPauseMode r sequence) r sequence).1.lastSessionEndMs =
        secc.lastSessionEndMs := by
  unfold applyResume Secc.recordPauseMode
  split_ifs <;> exact ⟨rfl, rfl, rfl⟩

section Exchanges

variable {build : Build} {codec : Codec} {station : Station} {x : Exchange}

/-- A setup that resumes the paused session joins it. -/
theorem Exchange.Runs.joined (hruns : x.Runs build codec station)
    (htype : x.request.type = .sessionSetupReq) {sid : Sid}
    (hresumes : station.secc.Resumes x.env.nowMs x.request sid) :
    x.joins ∧ SameSession (station.secc.joinPaused sid) x.result.secc ∧
      AnswersAs codec sid x.result := by
  rw [Exchange.joins, hruns.result_eq, defaultHandle_sessionSetup htype,
    resolveSession_of_resumes htype hresumes]
  obtain ⟨hsame, hanswers, res, hres, hcode⟩ := @handleSessionSetup_spec codec x.env
    (station.secc.joinPaused sid) station.statics x.request true
  exact ⟨⟨htype, by rw [hres]; exact hcode⟩, hsame, hanswers⟩

/-- Any other setup establishes a new session. -/
theorem Exchange.Runs.established (hruns : x.Runs build codec station)
    (htype : x.request.type = .sessionSetupReq)
    (hresumes : ∀ sid, ¬station.secc.Resumes x.env.nowMs x.request sid) :
    x.result.res.bind Res.setupCode = some .okNewSessionEstablished ∧
      SameSession (station.secc.newSession x.env.rng) x.result.secc ∧
      AnswersAs codec (station.secc.newSession x.env.rng).sessionId x.result := by
  rw [hruns.result_eq, defaultHandle_sessionSetup htype,
    resolveSession_of_not_resumes htype hresumes]
  obtain ⟨hsame, hanswers, res, hres, hcode⟩ := @handleSessionSetup_spec codec x.env
    (station.secc.newSession x.env.rng) station.statics x.request false
  exact ⟨by rw [hres]; exact hcode, hsame, hanswers⟩

/-- A negotiation touches at most the live identifier, and only when no session is live. -/
theorem Exchange.Runs.negotiates (hruns : x.Runs build codec station)
    (htype : x.request.type = .suppAppProtocolReq) :
    ∃ sid, (station.secc.sessionId ≠ .zero → sid = station.secc.sessionId) ∧
      x.result = handleSuppAppProtocol codec { station.secc with sessionId := sid }
        station.statics x.request build x.registered := by
  rw [hruns.result_eq]
  exact defaultHandle_suppAppProtocol htype

/-- A stop closes the live session and answers in its name. -/
theorem Exchange.Runs.stopped (hruns : x.Runs build codec station)
    (hsession : validateRequestSession station.secc x.request = .ok ())
    (htype : x.request.type = .sessionStopReq) :
    x.result.secc = station.secc.stopSession x.env.nowMs x.request.pauses ∧
      AnswersAs codec station.secc.sessionId x.result := by
  rw [hruns.result_eq]
  exact defaultHandle_sessionStop htype
    (validateRequestSession_ok hsession (by simp [htype]) (by simp [htype])).2

/-- Any other request leaves the session alone and is answered in its name. -/
theorem Exchange.Runs.ordinary (hruns : x.Runs build codec station)
    (hsession : validateRequestSession station.secc x.request = .ok ())
    (happ : x.request.type ≠ .suppAppProtocolReq) (hsetup : x.request.type ≠ .sessionSetupReq)
    (hstop : x.request.type ≠ .sessionStopReq) : Ordinary codec station.secc x.result := by
  rw [hruns.result_eq]
  exact defaultHandle_ordinary happ hsetup hstop
    (validateRequestSession_ok hsession happ hsetup).2

/-- A setup answers in the name of the session it leaves live. -/
theorem Exchange.Runs.setup_answers (hruns : x.Runs build codec station)
    (htype : x.request.type = .sessionSetupReq) :
    AnswersAs codec x.result.secc.sessionId x.result := by
  rw [hruns.result_eq, defaultHandle_sessionSetup htype, handleSessionSetup_spec.1.sessionId]
  exact handleSessionSetup_spec.2.1

/-- Every request after the setup is answered in the name of the live session. -/
theorem Exchange.Runs.answers (hruns : x.Runs build codec station)
    (hsession : validateRequestSession station.secc x.request = .ok ())
    (happ : x.request.type ≠ .suppAppProtocolReq) (hsetup : x.request.type ≠ .sessionSetupReq) :
    AnswersAs codec station.secc.sessionId x.result := by
  by_cases hstop : x.request.type = .sessionStopReq
  · exact (hruns.stopped hsession hstop).2
  · exact (hruns.ordinary hsession happ hsetup hstop).answers

/-- Only a setup that resumes the paused session leaves a resume to be granted. -/
theorem Exchange.Runs.resumes_of_pending (hruns : x.Runs build codec station)
    (htype : x.request.type = .sessionSetupReq)
    (hpending : x.result.secc.resumeDcPending = true) :
    ∃ sid, station.secc.Resumes x.env.nowMs x.request sid := by
  by_contra hresumes
  -- a new session clears the flag before anything else
  have hnew := (hruns.established htype (not_exists.mp hresumes)).2.1.resumeDcPending
  rcases drawSession_cases { station.secc with resumeDcPending := false } x.env.rng with
    ⟨sid, -, heq⟩ | heq <;> simp [Secc.newSession, heq, hpending] at hnew

/-- Only a setup that joined the paused session leaves a resume to be granted. -/
theorem Exchange.Runs.joins_of_pending (hruns : x.Runs build codec station)
    (htype : x.request.type = .sessionSetupReq)
    (hpending : x.result.secc.resumeDcPending = true) : x.joins := by
  obtain ⟨sid, hresumes⟩ := hruns.resumes_of_pending htype hpending
  exact (hruns.joined htype hresumes).1

end Exchanges

/-- The record and the connection after a dispatched request. -/
inductive Fate (x : Exchange) : Secc → Option Stream → Prop
  /-- The handler, the framing or the send failed. -/
  | unsent {e : Errno} (hrc : x.rc = .error e) : Fate x x.result.secc none
  /-- The response was the last one of the stream. -/
  | terminated (hrc : x.rc = .ok ()) (hterminate : x.result.secc.terminateAfterResponse = true) :
      Fate x { x.result.secc with terminateAfterResponse := false } none
  /-- The stream goes on, unless the session was stopped. -/
  | sent {next : Option Stream} (hrc : x.rc = .ok ())
      (hterminate : x.result.secc.terminateAfterResponse = false)
      (hnext : ∀ stream, next = some stream → x.request.type ≠ .sessionStopReq ∧
        stream.protocol = x.request.protocol ∧
        stream.sequence = (applyResume (x.result.secc.recordPauseMode x.request x.sequence)
          x.request x.sequence).2)
      (hstop : x.request.type = .sessionStopReq → next = none) :
      Fate x (applyResume (x.result.secc.recordPauseMode x.request x.sequence) x.request
        x.sequence).1 next

/-- When the connection goes on, the response was sent and the session was not stopped. -/
theorem Fate.of_some {x : Exchange} {secc : Secc} {next : Option Stream} {stream : Stream}
    (h : Fate x secc next) (hnext : next = some stream) :
    x.rc = .ok () ∧ x.request.type ≠ .sessionStopReq ∧ stream.protocol = x.request.protocol ∧
      stream.sequence = (applyResume (x.result.secc.recordPauseMode x.request x.sequence)
        x.request x.sequence).2 ∧
      secc = (applyResume (x.result.secc.recordPauseMode x.request x.sequence) x.request
        x.sequence).1 := by
  cases h with
  | unsent | terminated => cases hnext
  | sent hrc _ hstream =>
    obtain ⟨htype, hprotocol, hsequence⟩ := hstream stream hnext
    exact ⟨hrc, htype, hprotocol, hsequence, rfl⟩

/-- When the connection goes on, the handler did not ask for its end. -/
theorem Fate.terminate_of_some {x : Exchange} {secc : Secc} {next : Option Stream}
    {stream : Stream} (h : Fate x secc next) (hnext : next = some stream) :
    x.result.secc.terminateAfterResponse = false := by
  cases h with
  | unsent | terminated => cases hnext
  | sent _ hterminate => exact hterminate

/-- Whatever the fate, the live and the paused identifier are those the handler left. -/
theorem Fate.keeps {x : Exchange} {secc : Secc} {next : Option Stream} (h : Fate x secc next) :
    secc.sessionId = x.result.secc.sessionId ∧
      secc.lastSessionId = x.result.secc.lastSessionId ∧
      secc.lastSessionEndMs = x.result.secc.lastSessionEndMs := by
  cases h with
  | unsent | terminated => exact ⟨rfl, rfl, rfl⟩
  | sent => exact concluded_keeps

/-- A stop ends the connection. -/
theorem Fate.of_sessionStop {x : Exchange} {secc : Secc} {next : Option Stream}
    (h : Fate x secc next) (htype : x.request.type = .sessionStopReq) : next = none := by
  cases h with
  | unsent | terminated => rfl
  | sent _ _ _ hstop => exact hstop htype

/-- Everything one input can do to the station. The exchanges that its handler may carry out are the
given ones, and so are the frames on the ISO 15118-20 path. -/
inductive StationMove (build : Build) (codec : Codec) (Handled : Exchange → Prop)
    (Framed : Frame20 → Prop) (c : Charger) (i : ChargerInput) :
    Charger → List StreamEvent → Prop
  /-- The input does not apply. -/
  | idle : StationMove build codec Handled Framed c i c []
  | connect (hstream : c.stream = none) :
      StationMove build codec Handled Framed c i
        { station :=
            { c.station with secc := { c.station.secc with terminateAfterResponse := false } }
          stream := some .init }
        [.connected]
  | retire (hstream : c.stream = none) :
      StationMove build codec Handled Framed c i
        { c with station := { c.station with secc := retireSession c.station.secc } } [.retired]
  /-- Nothing reaches the legacy gates. -/
  | quiet {stream : Stream} {c' : Charger} {es : List StreamEvent}
      (hstream : c.stream = some stream) (hsecc : c'.station.secc = c.station.secc)
      (hstatics : c'.station.statics = c.station.statics)
      (hnext : ∀ stream', c'.stream = some stream' →
        stream'.sequence = stream.sequence ∧ stream'.protocol = stream.protocol)
      (hes : ∀ e ∈ es, e.quiet) (hframes : FramesFirst Framed es) :
      StationMove build codec Handled Framed c i c' es
  | rejected {stream : Stream} {r : Request} {sequence : Sequence} {e : Errno}
      (hstream : c.stream = some stream) (hpresented : c.presented build codec i = some r)
      (hdecoded : Decoded build c.station.s20.isSome stream r)
      (hgate : seccAcceptRequestSequence stream.sequence r = (sequence, .error e)) :
      StationMove build codec Handled Framed c i
        { station := { c.station with secc := c.station.secc.recordReject sequence r }
          stream := none }
        [.rejected r (minFailed c.station r .sequenceError), .closed (.error e)]
  | refused {stream : Stream} {r : Request} {sequence : Sequence} {e : Errno}
      (hstream : c.stream = some stream) (hpresented : c.presented build codec i = some r)
      (hdecoded : Decoded build c.station.s20.isSome stream r)
      (hgate : seccAcceptRequestSequence stream.sequence r = (sequence, .ok ()))
      (hsession : validateRequestSession c.station.secc r = .error e) :
      StationMove build codec Handled Framed c i { station := c.station, stream := none }
        [.refused r (minFailed c.station r .unknownSession), .closed (.error e)]
  | dispatched {stream : Stream} {x : Exchange} {c' : Charger} {tail : List StreamEvent}
      (hstream : c.stream = some stream) (hpresented : c.presented build codec i = some x.request)
      (hdecoded : Decoded build c.station.s20.isSome stream x.request)
      (hgate : seccAcceptRequestSequence stream.sequence x.request = (x.sequence, .ok ()))
      (hsession : validateRequestSession c.station.secc x.request = .ok ())
      (hhandled : Handled x)
      (hinput : ∃ input, i = .frame input ∧ x.env = input.env ∧
        x.rc = transmit build input x.result)
      (hstatics : c'.station.statics = x.result.statics)
      (hfate : Fate x c'.station.secc c'.stream) (htail : ∀ e ∈ tail, e.quiet)
      (hlegacy : ∀ f, .frame20 f ∉ tail) :
      StationMove build codec Handled Framed c i c' (.dispatched x :: tail)

/-- Everything one input can do to the station with the default handler. -/
abbrev ChargerMove (build : Build) (codec : Codec) (c : Charger) (i : ChargerInput) :
    Charger → List StreamEvent → Prop :=
  StationMove build codec (Exchange.Runs build codec c.station) (fun _ => True) c i

section Inversion

variable {build : Build} {codec : Codec} {codec20 : Codec20} {input : FrameInput}
  {station : Station} {stream : Stream}

/-- What the decoders produce. -/
theorem decoded_of_decodeRequest {payload : List UInt8} {r : Request}
    (h : decodeRequest build codec station stream payload = some r) :
    Decoded build station.s20.isSome stream r := by
  unfold decodeRequest at h
  simp only [Option.or_eq_some_iff, Option.or_eq_none_iff] at h
  rcases h with (happ | ⟨-, hiso⟩) | ⟨-, hdin⟩
  · obtain ⟨offers, -, rfl⟩ := Option.map_eq_some_iff.mp happ
    exact .app rfl
  · unfold decodeIso2 at hiso
    split_ifs at hiso with hstream
    obtain ⟨doc, -, hdoc⟩ := Option.bind_eq_some_iff.mp hiso
    split_ifs at hdoc with hknown
    cases hdoc
    exact .iso2 hstream hknown
  · obtain ⟨doc, -, hdoc⟩ := Option.bind_eq_some_iff.mp hdin
    split_ifs at hdoc with hknown
    cases hdoc
    exact .din hknown

/-- What is presented to the gates was decoded. -/
theorem decoded_of_presented {r : Request}
    (h : presentedRequest build codec station stream input = some r) :
    Decoded build station.s20.isSome stream r := by
  rw [presentedRequest] at h
  split at h
  · split_ifs at h
    exact decoded_of_decodeRequest h
  · cases h

/-- A request of ISO 15118-20 is a negotiation that selected it, or one on a stream that has. -/
theorem Decoded.of_iso20 {registered : Bool} {r : Request} (h : Decoded build registered stream r)
    (hprotocol : r.protocol = .iso15118_20_dc) : r.type = .suppAppProtocolReq ∧
      ((build.iso20 && registered) = true ∨ stream.protocol = .iso15118_20_dc) := by
  cases h with
  | @app offers protocol heq =>
    refine ⟨rfl, ?_⟩
    -- otherwise the selection would be a legacy protocol
    by_contra hneither
    obtain ⟨hbuild, hstream⟩ := not_or.mp hneither
    have hselected := selectAppProtocol_ne_iso20 (Bool.eq_false_of_not_eq_true hbuild)
      (some offers)
    have hproto : protocol = .iso15118_20_dc := hprotocol
    rw [heq] at hproto
    split_ifs at hproto
    · exact hselected hproto
    · exact hstream hproto
  | iso2 | din => cases hprotocol

/-- Events other than frames may follow. -/
theorem FramesFirst.append {Framed : Frame20 → Prop} {es tail : List StreamEvent}
    (h : FramesFirst Framed es) (htail : ∀ f, .frame20 f ∉ tail) :
    FramesFirst Framed (es ++ tail) := by
  rcases h with h | ⟨f, rest, rfl, hrest, hf⟩
  · refine .inl fun f hf => ?_
    rcases List.mem_append.mp hf with hf | hf
    · exact h f hf
    · exact htail f hf
  · refine .inr ⟨f, rest ++ tail, rfl, fun f' hf' => ?_, hf⟩
    rcases List.mem_append.mp hf' with hf' | hf'
    · exact hrest f' hf'
    · exact htail f' hf'

/-- What is known of the exchange and of the frame of a move may be put in another way. -/
theorem StationMove.imp {Handled Handled' : Exchange → Prop} {Framed Framed' : Frame20 → Prop}
    {c c' : Charger} {i : ChargerInput} {es : List StreamEvent}
    (h : StationMove build codec Handled Framed c i c' es)
    (hhandled : ∀ {stream : Stream} {x : Exchange}, c.stream = some stream →
      c.presented build codec i = some x.request →
      seccAcceptRequestSequence stream.sequence x.request = (x.sequence, .ok ()) →
      validateRequestSession c.station.secc x.request = .ok () → Handled x → Handled' x)
    (hframed : ∀ f, Framed f → Framed' f) : StationMove build codec Handled' Framed' c i c' es := by
  cases h with
  | idle => exact .idle
  | connect hstream => exact .connect hstream
  | retire hstream => exact .retire hstream
  | quiet hstream hsecc hstatics hnext hes hframes =>
    refine .quiet hstream hsecc hstatics hnext hes (hframes.imp_right ?_)
    rintro ⟨f, tail, heq, htail, hf⟩
    exact ⟨f, tail, heq, htail, hframed f hf⟩
  | rejected hstream hpresented hdecoded hgate =>
    exact .rejected hstream hpresented hdecoded hgate
  | refused hstream hpresented hdecoded hgate hsession =>
    exact .refused hstream hpresented hdecoded hgate hsession
  | dispatched hstream hpresented hdecoded hgate hsession hruns hinput hstatics hfate htail
      hlegacy =>
    exact .dispatched hstream hpresented hdecoded hgate hsession
      (hhandled hstream hpresented hgate hsession hruns) hinput hstatics hfate htail hlegacy

/-- The turn leaves the legacy session alone. -/
structure Turn.Quiet (Framed : Frame20 → Prop) (station : Station) (stream : Stream)
    (turn : Turn) : Prop where
  secc_eq : turn.station.secc = station.secc
  statics_eq : turn.station.statics = station.statics
  sequence_eq : turn.stream.sequence = stream.sequence
  protocol_eq : turn.stream.protocol = stream.protocol
  events : ∀ e ∈ turn.events, e.quiet
  frames : FramesFirst Framed turn.events

variable {Handled : Exchange → Prop} {Framed : Frame20 → Prop}

/-- A quiet turn is a quiet move. -/
theorem Turn.Quiet.move {turn : Turn} {i : ChargerInput} (h : turn.Quiet Framed station stream) :
    StationMove build codec Handled Framed { station, stream := some stream } i turn.finish.1
      turn.finish.2 := by
  unfold Turn.finish
  cases hexit : turn.exit with
  | none =>
    refine .quiet rfl h.secc_eq h.statics_eq ?_ h.events h.frames
    intro stream' hstream'
    cases hstream'
    exact ⟨h.sequence_eq, h.protocol_eq⟩
  | some rc =>
    refine .quiet rfl h.secc_eq h.statics_eq (fun stream' hstream' => ?_) (fun e he => ?_)
      (h.frames.append (by simp))
    · cases hstream'
    rcases List.mem_append.mp he with he | he
    · exact h.events e he
    · rw [List.mem_singleton.mp he]
      trivial

theorem undecodable_quiet {station' : Station} {events : List StreamEvent}
    (hsecc : station'.secc = station.secc) (hstatics : station'.statics = station.statics)
    (hevents : ∀ e ∈ events, e.quiet) (hframes : FramesFirst Framed events) :
    (undecodable station' stream events).Quiet Framed station stream := by
  unfold undecodable Stream.ignoreUndecodable
  split
  · rename_i stream' hstream'
    split_ifs at hstream'
    cases hstream'
    exact ⟨hsecc, hstatics, rfl, rfl, hevents, hframes⟩
  · exact ⟨hsecc, hstatics, rfl, rfl, hevents, hframes⟩

/-- What becomes of a frame on the ISO 15118-20 path. -/
inductive Frame20Fate (build : Build) (codec20 : Codec20) (input : FrameInput) (station : Station)
    (stream : Stream) (payloadType : PayloadType) (payload : List UInt8) : Turn → Prop
  /-- The module is not asked. -/
  | unasked {e : Errno} :
      Frame20Fate build codec20 input station stream payloadType payload
        (leave station stream (.error e) [])
  /-- The module has not decoded the frame. -/
  | undecoded {s20 : Secc20} {f : Frame20} (hs20 : station.s20 = some s20)
      (hf : secc20Frame codec20 input.env20 maxExiSize s20 payloadType payload = f)
      (hrc : f.result.rc = .error .ebadmsg) :
      Frame20Fate build codec20 input station stream payloadType payload
        (undecodable { station with s20 := some f.result.session } stream [.frame20 f])
  /-- There is no response, or it has not been sent. -/
  | unsent {s20 : Secc20} {f : Frame20} {e : Errno} {ignored : ℕ} (hs20 : station.s20 = some s20)
      (hf : secc20Frame codec20 input.env20 maxExiSize s20 payloadType payload = f)
      (hsent : ¬f.Sent build input payloadType) :
      Frame20Fate build codec20 input station stream payloadType payload
        (leave { station with s20 := some f.result.session }
          { stream with consecutiveUndecodable := ignored } (.error e) [.frame20 f])
  | sent {s20 : Secc20} {f : Frame20} (hs20 : station.s20 = some s20)
      (hf : secc20Frame codec20 input.env20 maxExiSize s20 payloadType payload = f)
      (hsent : f.Sent build input payloadType) :
      Frame20Fate build codec20 input station stream payloadType payload
        (concludeFrame20 { station with s20 := some f.result.session }
          { stream with consecutiveUndecodable := 0 } f.result.disposition [.frame20 f])

variable (build codec20 input station stream) in
/-- Every frame on the ISO 15118-20 path meets one of these fates. -/
theorem frame20Turn_fate (payloadType : PayloadType) (payload : List UInt8) :
    Frame20Fate build codec20 input station stream payloadType payload
      (frame20Turn build codec20 input station stream payloadType payload) := by
  unfold frame20Turn
  cases hs20 : station.s20 with
  | none => exact .unasked
  | some s20 =>
    dsimp only
    split_ifs
    · exact .unasked
    · generalize hf : secc20Frame codec20 input.env20 maxExiSize s20 payloadType payload = f
      cases hrc : f.result.rc with
      | error e =>
        have hunsent : ¬f.Sent build input payloadType := by simp [Frame20.Sent, hrc]
        -- only -EBADMSG is tolerated; any other error ends the stream
        by_cases hbad : e = .ebadmsg
        · subst hbad
          exact .undecoded hs20 hf hrc
        · have hleave : Frame20Fate build codec20 input station stream payloadType payload
              (leave { station with s20 := some f.result.session } stream (.error e)
                [.frame20 f]) := .unsent hs20 hf hunsent
          cases e <;> first | exact absurd rfl hbad | exact hleave
      | ok bytes =>
        dsimp only
        -- the response is framed and then sent, and either may fail
        cases hframed : v2gtpBuild build.iso20 payloadType bytes maxV2gtpSize with
        | error e => exact .unsent hs20 hf (by simp [Frame20.Sent, hrc, hframed])
        | ok out =>
          cases hsend : input.send with
          | error e => exact .unsent hs20 hf (by simp [Frame20.Sent, hsend])
          | ok => exact .sent hs20 hf ⟨bytes, out, hrc, hframed, hsend⟩

/-- An ISO 15118-20 frame leaves the legacy session alone. -/
theorem frame20Turn_quiet {msg : V2gtpMsg} (hrecv : input.recv = .ok msg)
    (hprotocol : stream.protocol = .iso15118_20_dc) :
    (frame20Turn build codec20 input station stream msg.payloadType msg.payload).Quiet
      (input.frame20 codec20 station stream = some ·) station stream := by
  have hevents : ∀ f : Frame20, ∀ e ∈ [StreamEvent.frame20 f], e.quiet := by
    intro f e he
    rw [List.mem_singleton.mp he]
    trivial
  have hframes : ∀ {s20 : Secc20} {f : Frame20}, station.s20 = some s20 →
      secc20Frame codec20 input.env20 maxExiSize s20 msg.payloadType msg.payload = f →
      FramesFirst (input.frame20 codec20 station stream = some ·) [.frame20 f] := fun hs20 hf =>
    .inr ⟨_, [], rfl, by simp, by simp [FrameInput.frame20, hprotocol, hrecv, hs20, hf,
      Except.toOption]⟩
  have hfate := frame20Turn_fate build codec20 input station stream msg.payloadType msg.payload
  generalize frame20Turn build codec20 input station stream msg.payloadType msg.payload = turn
    at hfate ⊢
  -- whatever the module answers, only its own session changes
  cases hfate with
  | unasked => exact ⟨rfl, rfl, rfl, rfl, by simp [leave], .inl (by simp [leave])⟩
  | undecoded hs20 hf hrc => exact undecodable_quiet rfl rfl (hevents _) (hframes hs20 hf)
  | unsent hs20 hf hsent => exact ⟨rfl, rfl, rfl, rfl, hevents _, hframes hs20 hf⟩
  | sent hs20 hf hsent =>
    unfold concludeFrame20
    split <;> exact ⟨rfl, rfl, rfl, rfl, hevents _, hframes hs20 hf⟩

/-- A response that has been sent was encoded. -/
theorem encoded_of_transmit {result : HandlerResult} (h : transmit build input result = .ok ()) :
    ∃ bytes, result.rc = .ok bytes := by
  unfold transmit at h
  split at h
  · cases h
  · exact ⟨_, ‹_›⟩

/-- Re-arming the ISO 15118-20 session emits at most that. -/
theorem rearm_events {r : Request} :
    ∀ e ∈ (rearm build input station stream r).2, e = .reset20 := by
  intro e he
  unfold rearm at he
  split_ifs at he
  · split at he
    · exact List.mem_singleton.mp he
    · cases he
  · cases he

/-- Re-arming the ISO 15118-20 session leaves the legacy session alone. -/
theorem rearm_quiet {r : Request} : ∀ e ∈ (rearm build input station stream r).2, e.quiet := by
  intro e he
  rw [rearm_events e he]
  trivial

/-- What becomes of the record and of the connection when an exchange is carried through. -/
theorem deliver_fate {x : Exchange} (hsecc : station.secc = x.result.secc)
    (hsequence : stream.sequence = x.sequence) (hprotocol : stream.protocol = x.request.protocol) :
    ∃ tail, (deliver build input station stream x).finish.2 = .dispatched x :: tail ∧
      (∀ e ∈ tail, e.quiet) ∧ (∀ f, .frame20 f ∉ tail) ∧
      (deliver build input station stream x).finish.1.station.statics = station.statics ∧
      Fate x (deliver build input station stream x).finish.1.station.secc
        (deliver build input station stream x).finish.1.stream := by
  have hclosed : ∀ rc : Rc, (∀ e ∈ [StreamEvent.closed rc], e.quiet) ∧
      ∀ f, StreamEvent.frame20 f ∉ [.closed rc] := by simp [StreamEvent.quiet]
  have hunframed : ∀ f, .frame20 f ∉ (rearm build input station stream x.request).2 :=
    fun f hf => StreamEvent.noConfusion (rearm_events _ hf)
  unfold deliver
  split
  -- the handler, the framing or the send failed: the record keeps what the handler did
  · rename_i e hrc
    refine ⟨_, rfl, (hclosed _).1, (hclosed _).2, rfl, ?_⟩
    rw [Turn.finish, leave, hsecc]
    exact .unsent hrc
  · rename_i hrc
    unfold concludeExchange
    rw [hsecc, hsequence]
    dsimp only
    -- the response was the last one, the session was stopped, or the stream goes on
    split_ifs with hterminate hstopped
    · exact ⟨_, rfl, (hclosed _).1, (hclosed _).2, rfl, .terminated hrc hterminate⟩
    · refine ⟨_ ++ [.closed (.ok ())], rfl, fun e he => ?_, fun f hf => ?_, rfl,
        .sent hrc (by simpa using hterminate) (fun stream' hstream' => ?_) fun _ => rfl⟩
      · rcases List.mem_append.mp he with he | he
        · exact rearm_quiet e he
        · exact (hclosed _).1 e he
      · rcases List.mem_append.mp hf with hf | hf
        · exact hunframed f hf
        · exact (hclosed _).2 f hf
      · cases hstream'
    · have hne : x.request.type ≠ .sessionStopReq := by
        simp only [Bool.or_eq_true, beq_iff_eq, not_or] at hstopped
        exact hstopped.2
      refine ⟨_, rfl, rearm_quiet, hunframed, rfl,
        .sent hrc (by simpa using hterminate) (fun stream' hstream' => ?_)
          fun htype => absurd htype hne⟩
      cases hstream'
      exact ⟨hne, hprotocol, rfl⟩

/-- An exchange that is carried through is a dispatched move. -/
theorem deliver_move {x : Exchange} {before : Stream} {handled : Station}
    (hpresented : presentedRequest build codec station before input = some x.request)
    (hgate : seccAcceptRequestSequence before.sequence x.request = (x.sequence, .ok ()))
    (hsession : validateRequestSession station.secc x.request = .ok ()) (hhandled : Handled x)
    (hinput : x.env = input.env ∧ x.rc = transmit build input x.result)
    (hsecc : handled.secc = x.result.secc) (hstatics : handled.statics = x.result.statics)
    (hsequence : stream.sequence = x.sequence) (hprotocol : stream.protocol = x.request.protocol) :
    StationMove build codec Handled Framed { station, stream := some before } (.frame input)
      (deliver build input handled stream x).finish.1
      (deliver build input handled stream x).finish.2 := by
  obtain ⟨tail, hevents, htail, hlegacy, hkeeps, hfate⟩ :=
    @deliver_fate build input handled stream x hsecc hsequence hprotocol
  rw [hevents]
  exact .dispatched rfl hpresented (decoded_of_presented hpresented) hgate hsession hhandled
    ⟨input, rfl, hinput⟩ (hkeeps.trans hstatics) hfate htail hlegacy

/-- A decoded request is rejected, refused or dispatched. -/
theorem requestTurn_move {r : Request}
    (hpresented : presentedRequest build codec station stream input = some r)
    (hdecoded : Decoded build station.s20.isSome stream r) :
    StationMove build codec (Exchange.Runs build codec station) Framed
      { station, stream := some stream } (.frame input)
      (requestTurn build codec input station stream r).finish.1
      (requestTurn build codec input station stream r).finish.2 := by
  unfold requestTurn
  dsimp only
  split
  · rename_i sequence e hgate
    exact .rejected rfl hpresented hdecoded hgate
  · rename_i sequence hgate
    split
    · rename_i e hsession
      exact .refused rfl hpresented hdecoded hgate hsession
    · rename_i hsession
      exact deliver_move hpresented hgate hsession ⟨rfl, rfl, rfl, encoded_of_transmit⟩
        ⟨rfl, rfl⟩ rfl rfl rfl rfl

/-- What becomes of what is received in one iteration of the loop. -/
inductive StreamFate (build : Build) (codec : Codec) (codec20 : Codec20) (input : FrameInput)
    (station : Station) (stream : Stream) : Turn → Prop
  /-- No frame has been received, or none that the stream takes. -/
  | unread {rc : Rc} :
      StreamFate build codec codec20 input station stream (leave station stream rc [])
  | frame20 {msg : V2gtpMsg} (hrecv : input.recv = .ok msg)
      (hprotocol : stream.protocol = .iso15118_20_dc) :
      StreamFate build codec codec20 input station stream
        (frame20Turn build codec20 input station stream msg.payloadType msg.payload)
  /-- No decoder of the legacy path knows the payload. -/
  | undecoded :
      StreamFate build codec codec20 input station stream (undecodable station stream [])
  | request {r : Request} (hpresented : presentedRequest build codec station stream input = some r)
      (hdecoded : Decoded build station.s20.isSome stream r) :
      StreamFate build codec codec20 input station stream
        (requestTurn build codec input station stream r)

variable (build codec codec20 input station stream) in
/-- Every iteration of the loop meets one of these fates. -/
theorem streamTurn_fate :
    StreamFate build codec codec20 input station stream
      (streamTurn build codec codec20 input station stream) := by
  unfold streamTurn
  cases hrecv : input.recv with
  | error e => cases e <;> exact .unread
  | ok msg =>
    dsimp only
    -- only an EXI frame reaches the legacy decoders, on every stream
    by_cases hexi : msg.payloadType = .exi
    · rw [if_neg (by simp [hexi]), if_neg (by simp [hexi])]
      unfold legacyTurn
      split_ifs with hempty
      · exact .unread
      cases hdecode : decodeRequest build codec station stream msg.payload with
      | none => exact .undecoded
      | some r =>
        exact .request (by simp [presentedRequest, hrecv, hexi, hempty, hdecode])
          (decoded_of_decodeRequest hdecode)
    · rw [if_pos hexi]
      split
      · rename_i hiso20
        exact .frame20 hrecv hiso20.2.1
      · exact .unread

/-- One iteration of the loop is one of the moves. -/
theorem streamTurn_move :
    StationMove build codec (Exchange.Runs build codec station)
      (input.frame20 codec20 station stream = some ·) { station, stream := some stream }
      (.frame input) (streamTurn build codec codec20 input station stream).finish.1
      (streamTurn build codec codec20 input station stream).finish.2 := by
  have hfate := streamTurn_fate build codec codec20 input station stream
  generalize streamTurn build codec codec20 input station stream = turn at hfate ⊢
  cases hfate with
  | unread =>
    have hquiet : ∀ rc, (leave station stream rc []).Quiet
        (input.frame20 codec20 station stream = some ·) station stream := fun rc =>
      ⟨rfl, rfl, rfl, rfl, by simp [leave], .inl (by simp [leave])⟩
    exact (hquiet _).move
  | frame20 hrecv hprotocol => exact (frame20Turn_quiet hrecv hprotocol).move
  | undecoded => exact (undecodable_quiet rfl rfl (by simp) (.inl (by simp))).move
  | request hpresented hdecoded => exact requestTurn_move hpresented hdecoded

/-- One input of the station is one of the moves. -/
theorem charger_move (c : Charger) (i : ChargerInput) :
    ChargerMove build codec c i
      ((charger build codec codec20).step c i).1 ((charger build codec codec20).step c i).2 := by
  obtain ⟨station, stream⟩ := c
  cases i with
  | connect =>
    cases stream with
    | none => exact .connect rfl
    | some stream => exact .idle
  | retire =>
    cases stream with
    | none => exact .retire rfl
    | some stream => exact .idle
  | frame input =>
    cases stream with
    | none => exact .idle
    | some stream => exact streamTurn_move.imp (fun _ _ _ _ h => h) fun _ _ => trivial

/-- A turn that is finished keeps its events. -/
theorem Turn.mem_finish {turn : Turn} {e : StreamEvent} (h : e ∈ turn.events) :
    e ∈ turn.finish.2 := by
  unfold Turn.finish
  split
  · exact h
  · exact List.mem_append_left _ h

/-- A decoded request is judged. -/
theorem requestTurn_judges {r : Request} :
    ∃ e ∈ (requestTurn build codec input station stream r).events, e.judges := by
  unfold requestTurn
  dsimp only
  split
  · exact ⟨_, List.mem_singleton_self _, trivial⟩
  · split
    · exact ⟨_, List.mem_singleton_self _, trivial⟩
    · unfold dispatch deliver concludeExchange
      dsimp only
      -- whatever the fate of the response, the exchange is the first event
      split
      · exact ⟨_, List.mem_singleton_self _, trivial⟩
      · split_ifs <;> exact ⟨_, List.mem_cons_self, trivial⟩

/-- The turn of a presented request is that of the gates. -/
theorem streamTurn_of_presented {r : Request}
    (hpresented : presentedRequest build codec station stream input = some r) :
    streamTurn build codec codec20 input station stream =
      requestTurn build codec input station stream r := by
  rw [presentedRequest] at hpresented
  split at hpresented
  · rename_i msg hrecv
    split_ifs at hpresented with hexi
    simp [streamTurn, hrecv, hexi, legacyTurn, hpresented]
  · cases hpresented

/-- A request that is presented to the gates is judged. -/
theorem judges_of_presented {c : Charger} {i : ChargerInput} {r : Request}
    (hpresented : c.presented build codec i = some r) :
    ∃ e ∈ ((charger build codec codec20).step c i).2, e.judges := by
  obtain ⟨station, stream⟩ := c
  cases i with
  | connect | retire => cases hpresented
  | frame input =>
    obtain ⟨stream, rfl, hpresented⟩ := Option.bind_eq_some_iff.mp hpresented
    obtain ⟨e, he, hjudges⟩ := @requestTurn_judges build codec input station stream r
    refine ⟨e, Turn.mem_finish ?_, hjudges⟩
    rw [streamTurn_of_presented hpresented]
    exact he

end Inversion

end Jpv2g
