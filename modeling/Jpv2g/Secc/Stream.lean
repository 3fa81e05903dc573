import Jpv2g.Secc.DefaultHandler
import Jpv2g.SeccIso20.Runs
import Jpv2g.StateSecc.Gate

/-!
# The Stream Dispatcher

The receive loop of one connection (`jpv2g_secc_handle_stream_obs` of `secc.c`) with the default
handler, one frame at a time, and the connections that follow each other on one station. The
transport is the list of what each receive and each send returned.

## Main definitions

* `Stream`: the local variables of the loop.
* `Station`: the state that outlives a connection.
* `streamTurn`: one iteration of the loop.
* `charger`: the machine of connections, frames and retirements.
-/

namespace Jpv2g

/-- The local variables of the receive loop. -/
structure Stream where
  protocol : Protocol
  sequence : Sequence
  /-- A frame has been answered. -/
  handledAny : Bool
  sawSessionStop : Bool
  consecutiveUndecodable : ℕ
  lastMsg : MessageType
deriving DecidableEq, Repr

/-- The local variables at the start of the loop. -/
def Stream.init : Stream :=
  { protocol := .unknown
    sequence := .init
    handledAny := false
    sawSessionStop := false
    consecutiveUndecodable := 0
    lastMsg := .unknownMessage }

/-- The state that outlives a connection. -/
structure Station where
  secc : Secc
  /-- The function-local variables of the default handler. -/
  statics : HandlerStatics
  /-- The registered ISO 15118-20 session object (`jpv2g_secc20_stream_session`). -/
  s20 : Option Secc20

/-- What one iteration of the loop reads from outside: the frame received, the environment of
the handlers, and the outcome of the send. -/
structure FrameInput where
  recv : Except Errno V2gtpMsg
  env : HandlerEnv
  env20 : Env20
  /-- The monotonic clock when the ISO 15118-20 session is re-armed. -/
  nowReset : ℕ
  send : Rc

/-- A request that was dispatched to the default handler. -/
structure Exchange where
  request : Request
  env : HandlerEnv
  /-- The record when the handler was called. -/
  secc : Secc
  /-- The sequence after it accepted the request. -/
  sequence : Sequence
  registered : Bool
  result : HandlerResult
  /-- The return code of the handler, the framing and the send. -/
  rc : Rc

/-- The events of a run. -/
inductive StreamEvent where
  /-- A connection starts. -/
  | connected
  /-- The sequence gate rejected the request, which is answered FAILED_SequenceError. -/
  | rejected (request : Request) (answer : Res)
  /-- The session gate rejected the request, which is answered FAILED_UnknownSession. -/
  | refused (request : Request) (answer : Res)
  | dispatched (x : Exchange)
  | frame20 (f : Frame20)
  /-- The ISO 15118-20 session was re-armed. -/
  | reset20
  /-- The connection ends with a return code. -/
  | closed (rc : Rc)
  /-- The live session was retired between two connections. -/
  | retired

/-- The outcome of one iteration: the loop exits with a return code, or continues. -/
structure Turn where
  station : Station
  stream : Stream
  exit : Option Rc
  events : List StreamEvent

/-- The loop ignores up to six consecutive undecodable frames, once one has been answered. -/
def Stream.ignoreUndecodable (stream : Stream) : Option Stream :=
  if stream.handledAny ∧ stream.consecutiveUndecodable < 6 then
    some { stream with consecutiveUndecodable := stream.consecutiveUndecodable + 1 }
  else none

/-- `JPV2G_MAX_EXI_SIZE`. -/
def maxExiSize : ℕ := 4096

/-- The size of an output frame buffer. -/
def maxV2gtpSize : ℕ := 8 + maxExiSize

section Turns

variable (build : Build) (codec : Codec) (codec20 : Codec20) (input : FrameInput)
  (station : Station) (stream : Stream)

/-- Leave the loop. -/
def leave (rc : Rc) (events : List StreamEvent) : Turn :=
  { station, stream, exit := some rc, events }

/-- Wait for the next frame. -/
def proceed (events : List StreamEvent) : Turn :=
  { station, stream, exit := none, events }

/-- Ignore an undecodable frame, or leave the loop. -/
def undecodable (events : List StreamEvent) : Turn :=
  match stream.ignoreUndecodable with
  | some stream => proceed station stream events
  | none => leave station stream (.error .ebadmsg) events

/-! ## ISO 15118-20 frames -/

/-- Act on the disposition of a frame whose response has been sent. -/
def concludeFrame20 (disposition : Disposition20) (events : List StreamEvent) : Turn :=
  let stream := { stream with handledAny := true }
  match disposition with
  | .continue => proceed station stream events
  | .doneStopped | .donePaused =>
    leave station { stream with sawSessionStop := true, lastMsg := .sessionStopReq } (.ok ()) events
  -- the FAILED response is on the wire, the return code classifies the drop
  | .doneFailed => leave station stream (.error .eproto) events

/-- A frame of a stream that has selected ISO 15118-20. -/
def frame20Turn (payloadType : PayloadType) (payload : List UInt8) : Turn :=
  match station.s20 with
  -- not reached: the selection requires a registered session
  | none => leave station stream (.error .enotsup) []
  | some s20 =>
    if payloadType ≠ .exi20Mainstream ∧ payloadType ≠ .exi20Dc then
      leave station stream (.error .ebadmsg) []
    else
      let f := secc20Frame codec20 input.env20 maxExiSize s20 payloadType payload
      let station := { station with s20 := some f.result.session }
      match f.result.rc with
      -- one undecodable frame must not end a live charge
      | .error .ebadmsg => undecodable station stream [.frame20 f]
      | .error e => leave station stream (.error e) [.frame20 f]
      | .ok bytes =>
        let stream := { stream with consecutiveUndecodable := 0 }
        match v2gtpBuild build.iso20 payloadType bytes maxV2gtpSize, input.send with
        | .error e, _ => leave station stream (.error e) [.frame20 f]
        | .ok _, .error e => leave station stream (.error e) [.frame20 f]
        | .ok _, .ok () => concludeFrame20 station stream f.result.disposition [.frame20 f]

/-! ## Legacy frames -/

/-- Decode a frame as a supportedAppProtocolReq. -/
def decodeAppHand (payload : List UInt8) : Option Request :=
  (codec.decodeAppHand payload).map fun offers =>
    let detected := (selectAppProtocol build station.s20.isSome (some offers)).protocol
    -- a failed negotiation leaves the protocol of the stream as it was
    { type := .suppAppProtocolReq
      protocol := if detected ≠ .unknown then detected else stream.protocol
      header := none
      dinHeader := none
      body := some (.app offers) }

/-- Decode a frame as a known ISO 15118-2 request, unless the stream speaks DIN 70121. -/
def decodeIso2 (payload : List UInt8) : Option Request :=
  if stream.protocol = .din70121 then none
  else
    (codec.decodeIso2 payload).bind fun doc =>
      if doc.body.messageType = .unknownMessage then none
      else some
        { type := doc.body.messageType
          protocol := .iso15118_2
          header := some doc.sessionId
          dinHeader := none
          body := some (.iso2 doc.body) }

/-- Decode a frame as a known DIN 70121 request. -/
def decodeDin (payload : List UInt8) : Option Request :=
  (codec.decodeDin payload).bind fun doc =>
    if doc.body.messageType = .unknownMessage then none
    else some
      { type := doc.body.messageType
        protocol := .din70121
        header := none
        dinHeader := some doc.sessionId
        body := some (.din doc.body) }

/-- Decode a frame by the first grammar that accepts it. -/
def decodeRequest (payload : List UInt8) : Option Request :=
  ((decodeAppHand build codec station stream payload).or (decodeIso2 codec stream payload)).or
    (decodeDin codec payload)

/-- The return code of sending what the handler produced. -/
def transmit (result : HandlerResult) : Rc :=
  match result.rc with
  | .error e => .error e
  | .ok bytes =>
    if bytes = [] then .error .eio
    else
      match v2gtpBuild build.iso20 .exi bytes maxV2gtpSize with
      | .error e => .error e
      | .ok _ => input.send

/-- Re-arm the ISO 15118-20 session after the supportedAppProtocolRes that selected it. -/
def rearm (request : Request) : Option Secc20 × List StreamEvent :=
  if build.iso20 ∧ request.type = .suppAppProtocolReq ∧ stream.protocol = .iso15118_20_dc then
    match station.s20 with
    | some s20 => (some (s20.reset input.nowReset), [.reset20])
    | none => (none, [])
  else (station.s20, [])

/-- Record whether the paused session had negotiated DC. -/
def Secc.recordPauseMode (secc : Secc) (request : Request) (sequence : Sequence) : Secc :=
  -- a retained identifier is taken for a pause of this very session
  if request.type = .sessionStopReq ∧ secc.lastSessionId.allZero = false then
    { secc with lastSessionWasDc := sequence.isDc }
  else secc

/-- Apply a granted resume to the sequence of the stream. -/
def applyResume (secc : Secc) (request : Request) (sequence : Sequence) : Secc × Sequence :=
  if request.type = .sessionSetupReq ∧ secc.resumeDcPending then
    ({ secc with resumeDcPending := false }, sequence.grantResume)
  else (secc, sequence)

/-- The bookkeeping after a response has been sent. -/
def concludeExchange (request : Request) (events : List StreamEvent) : Turn :=
  -- the handler asked for the stream to end once its response is sent
  if station.secc.terminateAfterResponse then
    leave { station with secc := { station.secc with terminateAfterResponse := false } } stream
      (.error .eshutdown) events
  else
    let armed := rearm build input station stream request
    let recorded := station.secc.recordPauseMode request stream.sequence
    let resumed := applyResume recorded request stream.sequence
    let station := { station with secc := resumed.1, s20 := armed.1 }
    -- after a SessionStopRes the loop does not wait for the vehicle to close
    let stopped := stream.sawSessionStop || request.type == .sessionStopReq
    let stream :=
      { stream with
        sequence := resumed.2
        handledAny := true
        sawSessionStop := stopped
        lastMsg := request.type }
    if stopped then leave station stream (.ok ()) (events ++ armed.2)
    else proceed station stream (events ++ armed.2)

/-- Go on from what has become of the response of the handler. -/
def deliver (x : Exchange) : Turn :=
  match x.rc with
  | .error e => leave station stream (.error e) [.dispatched x]
  | .ok () => concludeExchange build input station stream x.request [.dispatched x]

/-- Dispatch a request that has passed both gates. -/
def dispatch (request : Request) : Turn :=
  let registered := station.s20.isSome
  let result :=
    defaultHandle codec input.env station.secc station.statics request build registered
  let rc := transmit build input result
  -- what the handler did to the record stays when its response is not delivered
  deliver build input { station with secc := result.secc, statics := result.statics } stream
    { request, env := input.env, secc := station.secc, sequence := stream.sequence, registered,
      result, rc }

/-- Record the request the sequence gate rejected. -/
def Secc.recordReject (secc : Secc) (sequence : Sequence) (request : Request) : Secc :=
  { secc with
    lastRejectPhase := sequence.phase.rank
    lastRejectType := request.type
    lastRejectProtocol := request.protocol }

/-- The minimal FAILED response to a rejected request (`secc_send_min_failed`). -/
def minFailed (request : Request) (kind : MinFailedKind) : Res :=
  .minFailed request.protocol request.type kind station.secc.sessionId

/-- Judge a decoded request by the sequence gate and the session gate. -/
def requestTurn (request : Request) : Turn :=
  let stream := { stream with protocol := request.protocol, consecutiveUndecodable := 0 }
  match seccAcceptRequestSequence stream.sequence request with
  | (sequence, .error e) =>
    leave { station with secc := station.secc.recordReject sequence request }
      { stream with sequence } (.error e)
      [.rejected request (minFailed station request .sequenceError)]
  | (sequence, .ok ()) =>
    match validateRequestSession station.secc request with
    | .error e =>
      leave station { stream with sequence } (.error e)
        [.refused request (minFailed station request .unknownSession)]
    | .ok () => dispatch build codec input station { stream with sequence } request

/-- A frame of the legacy path. -/
def legacyTurn (payload : List UInt8) : Turn :=
  -- the payload of such a frame is a null pointer, which the first decoder reads from
  if payload = [] then leave station stream (.error .efault) []
  else
    match decodeRequest build codec station stream payload with
    | none => undecodable station stream []
    | some request => requestTurn build codec input station stream request

/-- One iteration of the loop (`jpv2g_secc_handle_stream_obs`). -/
def streamTurn : Turn :=
  match input.recv with
  -- an idle connection that has been answered ends in good order
  | .error .etimedout =>
    leave station stream (if stream.handledAny then .ok () else .error .etimedout) []
  | .error .eagain => leave station stream (.ok ()) []
  | .error e => leave station stream (.error e) []
  | .ok msg =>
    -- a legacy frame still reaches the legacy path, for a retry of the negotiation
    if build.iso20 ∧ stream.protocol = .iso15118_20_dc ∧ msg.payloadType ≠ .exi then
      frame20Turn build codec20 input station stream msg.payloadType msg.payload
    else if msg.payloadType ≠ .exi then leave station stream (.error .ebadmsg) []
    else legacyTurn build codec input station stream msg.payload

end Turns

/-! ## The station and its connections -/

/-- The station, and its connection when there is one. A process that is killed serves no further
connection; the model lets it, so that it has more runs than the code. -/
structure Charger where
  station : Station
  stream : Option Stream

/-- The inputs of a station: a connection starts, a frame arrives on it, or the live session is
retired between two connections. -/
inductive ChargerInput where
  | connect
  | frame (input : FrameInput)
  | retire

/-- The station after a turn of its connection. -/
def Turn.finish (turn : Turn) : Charger × List StreamEvent :=
  match turn.exit with
  | none => ({ station := turn.station, stream := some turn.stream }, turn.events)
  | some rc => ({ station := turn.station, stream := none }, turn.events ++ [.closed rc])

/-- One input of the station. One connection is served at a time. -/
def chargerStep (build : Build) (codec : Codec) (codec20 : Codec20) (c : Charger) :
    ChargerInput → Charger × List StreamEvent
  | .connect =>
    match c.stream with
    | some _ => (c, [])
    | none =>
      -- a stale request to terminate must not end this connection
      let secc := { c.station.secc with terminateAfterResponse := false }
      ({ station := { c.station with secc }, stream := some .init }, [.connected])
  | .frame input =>
    match c.stream with
    | none => (c, [])
    | some stream => (streamTurn build codec codec20 input c.station stream).finish
  | .retire =>
    match c.stream with
    | some _ => (c, [])
    | none =>
      ({ c with station := { c.station with secc := retireSession c.station.secc } }, [.retired])

/-- The station as a machine. -/
def charger (build : Build) (codec : Codec) (codec20 : Codec20) :
    Machine Charger ChargerInput StreamEvent :=
  ⟨chargerStep build codec codec20⟩

end Jpv2g
