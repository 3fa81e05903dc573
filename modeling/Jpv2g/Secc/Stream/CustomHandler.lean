import Jpv2g.Secc.Stream.Live
import Jpv2g.Secc.Stream.Loop

/-!
# Streams with a Custom Handler

A controller may install a request handler of its own, which is called in place of the default one
for every request that passes both gates, and may change anything the station holds. What the
handler does is an input of each iteration, so that a handler with a state of its own is covered.

## Main definitions

* `Handling`: what a call of the handler does.
* `ServedFrame`: what one iteration reads from outside, the handler included.
* `serveTurn`, `serveLoop`, `handleServed`: the receive loop with custom handlers.
* `server`: the machine of connections, frames and retirements.

## Main results

* `serveTurn_fate`: what becomes of a frame.
* `serveLoop_default`: with the default handler the loop is the receive loop.
* `serveLoop_append`: the loop over more frames goes on from where it was waiting.
* `server_run_default`: with the default handler the machine is the station without a custom one.
* `server_move`: every step is one of the moves of the station.
-/

namespace Jpv2g

/-- What a call of the request handler does. -/
structure Handling where
  /-- The record it leaves, and its return code with the output; any code but `0` is an error,
  which the loop passes on without looking at it. -/
  result : HandlerResult
  /-- The ISO 15118-20 session object that is registered when it returns. -/
  s20 : Option Secc20

/-- What one iteration of the loop reads from outside, and what the handler does if called. -/
structure ServedFrame where
  input : FrameInput
  handle : Request → Station → Handling

section Serve

variable (build : Build) (codec : Codec) (codec20 : Codec20)

/-- What the default handler does. -/
def defaultHandling (env : HandlerEnv) (request : Request) (station : Station) : Handling :=
  { result :=
      defaultHandle codec env station.secc station.statics request build station.s20.isSome
    s20 := station.s20 }

/-- What one iteration reads, with the default handler. -/
def FrameInput.served (input : FrameInput) : ServedFrame :=
  ⟨input, defaultHandling build codec input.env⟩

/-- The request of the frame, and the sequence that has accepted it, when it passes both gates. -/
def dispatchedRequest (input : FrameInput) (station : Station) (stream : Stream) :
    Option (Request × Sequence) :=
  (presentedRequest build codec station stream input).bind fun request =>
    match seccAcceptRequestSequence stream.sequence request with
    | (sequence, .ok ()) =>
      if validateRequestSession station.secc request = .ok () then some (request, sequence)
      else none
    | (_, .error _) => none

/-- Call the handler for a request that has passed both gates, and send what it produced. -/
def ServedFrame.exchange (f : ServedFrame) (station : Station) (sequence : Sequence)
    (request : Request) : Exchange :=
  let result := (f.handle request station).result
  { request, env := f.input.env, secc := station.secc, sequence
    registered := station.s20.isSome, result, rc := transmit build f.input result }

/-- Dispatch a request that has passed both gates. -/
def serve (f : ServedFrame) (station : Station) (stream : Stream) (request : Request) : Turn :=
  let x := f.exchange build station stream.sequence request
  -- what the handler did stays when its response is not delivered
  deliver build f.input
    { secc := x.result.secc, statics := x.result.statics, s20 := (f.handle request station).s20 }
    stream x

/-- One iteration of the loop. -/
def serveTurn (f : ServedFrame) (station : Station) (stream : Stream) : Turn :=
  match dispatchedRequest build codec f.input station stream with
  | some (request, sequence) =>
    serve build f station
      { stream with protocol := request.protocol, sequence, consecutiveUndecodable := 0 } request
  -- no handler is called
  | none => streamTurn build codec codec20 f.input station stream

/-- The receive loop, until it exits or nothing more is received. -/
def serveLoop (station : Station) (stream : Stream) : List ServedFrame → Turn
  | [] => proceed station stream []
  | f :: frames =>
    let turn := serveTurn build codec codec20 f station stream
    match turn.exit with
    | some _ => turn
    | none =>
      let rest := serveLoop turn.station turn.stream frames
      { rest with events := turn.events ++ rest.events }

/-- Serve a stream from its start (`jpv2g_secc_handle_stream_obs`). -/
def handleServed (station : Station) (frames : List ServedFrame) : Turn :=
  serveLoop build codec codec20 station.connected .init frames

end Serve

/-! ## The default handler -/

section Default

variable {build : Build} {codec : Codec} {codec20 : Codec20} {input : FrameInput}
  {station : Station} {stream : Stream}

/-- A request that passes both gates is dispatched by its turn. -/
theorem streamTurn_of_dispatched {r : Request} {sequence : Sequence}
    (h : dispatchedRequest build codec input station stream = some (r, sequence)) :
    streamTurn build codec codec20 input station stream =
      dispatch build codec input station
        { stream with protocol := r.protocol, sequence, consecutiveUndecodable := 0 } r := by
  obtain ⟨r', hpresented, hgates⟩ := Option.bind_eq_some_iff.mp h
  rw [streamTurn_of_presented hpresented]
  split at hgates
  · rename_i sequence' hgate
    split_ifs at hgates with hsession
    cases hgates
    rw [requestTurn]
    simp only [hgate, hsession]
  · cases hgates

/-- A request that passes both gates was presented to them. -/
theorem presented_of_dispatched {r : Request} {sequence : Sequence}
    (h : dispatchedRequest build codec input station stream = some (r, sequence)) :
    presentedRequest build codec station stream input = some r ∧
      seccAcceptRequestSequence stream.sequence r = (sequence, .ok ()) ∧
      validateRequestSession station.secc r = .ok () := by
  obtain ⟨r', hpresented, hgates⟩ := Option.bind_eq_some_iff.mp h
  split at hgates
  · rename_i sequence' hgate
    split_ifs at hgates with hsession
    cases hgates
    exact ⟨hpresented, hgate, hsession⟩
  · cases hgates

/-- A presented request that passes both gates is dispatched. -/
theorem dispatchedRequest_of_accepted {r : Request} {sequence : Sequence}
    (hpresented : presentedRequest build codec station stream input = some r)
    (hgate : seccAcceptRequestSequence stream.sequence r = (sequence, .ok ()))
    (hsession : validateRequestSession station.secc r = .ok ()) :
    dispatchedRequest build codec input station stream = some (r, sequence) := by
  rw [dispatchedRequest, hpresented, Option.bind_some, hgate]
  exact if_pos hsession

/-- A request that does not pass both gates ends the stream. -/
theorem requestTurn_of_not_dispatched {r : Request}
    (hpresented : presentedRequest build codec station stream input = some r)
    (h : dispatchedRequest build codec input station stream = none) :
    ∃ e, (requestTurn build codec input station stream r).exit = some (.error e) := by
  rw [dispatchedRequest, hpresented, Option.bind_some] at h
  rw [requestTurn]
  dsimp only
  split at h
  · rename_i sequence hgate
    rw [hgate]
    dsimp only
    split
    · exact ⟨_, rfl⟩
    · rename_i hsession
      simp [hsession] at h
  · rename_i sequence e hgate
    rw [hgate]
    exact ⟨_, rfl⟩

/-- What becomes of the frame in one iteration of the loop. -/
inductive ServeFate (build : Build) (codec : Codec) (codec20 : Codec20) (f : ServedFrame)
    (station : Station) (stream : Stream) : Turn → Prop
  /-- No frame has been received, or none that the stream takes. -/
  | unread {rc : Rc} : ServeFate build codec codec20 f station stream (leave station stream rc [])
  | frame20 {msg : V2gtpMsg} (hrecv : f.input.recv = .ok msg)
      (hprotocol : stream.protocol = .iso15118_20_dc) :
      ServeFate build codec codec20 f station stream
        (frame20Turn build codec20 f.input station stream msg.payloadType msg.payload)
  /-- No decoder of the legacy path knows the payload. -/
  | undecoded : ServeFate build codec codec20 f station stream (undecodable station stream [])
  | rejected {r : Request} {sequence : Sequence} {e : Errno} :
      ServeFate build codec codec20 f station stream
        (leave { station with secc := station.secc.recordReject sequence r }
          { stream with protocol := r.protocol, sequence, consecutiveUndecodable := 0 } (.error e)
          [.rejected r (minFailed station r .sequenceError)])
  | refused {r : Request} {sequence : Sequence} {e : Errno} :
      ServeFate build codec codec20 f station stream
        (leave station
          { stream with protocol := r.protocol, sequence, consecutiveUndecodable := 0 } (.error e)
          [.refused r (minFailed station r .unknownSession)])
  | dispatched {r : Request} {sequence : Sequence}
      (hdispatched : dispatchedRequest build codec f.input station stream = some (r, sequence)) :
      ServeFate build codec codec20 f station stream
        (serve build f station
          { stream with protocol := r.protocol, sequence, consecutiveUndecodable := 0 } r)

/-- Every iteration of the loop meets one of these fates. -/
theorem serveTurn_fate (build : Build) (codec : Codec) (codec20 : Codec20) (f : ServedFrame)
    (station : Station) (stream : Stream) :
    ServeFate build codec codec20 f station stream
      (serveTurn build codec codec20 f station stream) := by
  rw [serveTurn]
  split
  · rename_i r sequence hdispatched
    exact .dispatched hdispatched
  · rename_i hdispatched
    have hfate := streamTurn_fate build codec codec20 f.input station stream
    generalize streamTurn build codec codec20 f.input station stream = turn at hfate ⊢
    cases hfate with
    | unread => exact .unread
    | frame20 hrecv hprotocol => exact .frame20 hrecv hprotocol
    | undecoded => exact .undecoded
    | request hpresented hdecoded =>
      rw [dispatchedRequest, hpresented, Option.bind_some] at hdispatched
      rw [requestTurn]
      dsimp only
      -- a request that both gates accept is dispatched
      split at hdispatched
      · rename_i sequence hgate
        rw [hgate]
        dsimp only
        split
        · exact .refused
        · rename_i hsession
          simp [hsession] at hdispatched
      · rename_i sequence e hgate
        rw [hgate]
        exact .rejected

/-- With the default handler, an iteration is one of the receive loop. -/
theorem serveTurn_default :
    serveTurn build codec codec20 (input.served build codec) station stream =
      streamTurn build codec codec20 input station stream := by
  rw [serveTurn]
  split
  · rename_i r sequence hdispatched
    exact (streamTurn_of_dispatched hdispatched).symm
  · rfl

/-- With the default handler, the loop is the receive loop. -/
theorem serveLoop_default (inputs : List FrameInput) :
    serveLoop build codec codec20 station stream
        (inputs.map (·.served build codec)) =
      streamLoop build codec codec20 station stream inputs := by
  induction inputs generalizing station stream with
  | nil => rfl
  | cons input inputs ih =>
    rw [List.map_cons, serveLoop, streamLoop, serveTurn_default]
    cases (streamTurn build codec codec20 input station stream).exit <;> simp only [ih]

end Default

/-! ## The loop -/

section Loop

variable {build : Build} {codec : Codec} {codec20 : Codec20} {station : Station}
  {stream : Stream} {read : List ServedFrame}

/-- The loop over more frames goes on from where it was waiting. -/
theorem serveLoop_append (hopen : (serveLoop build codec codec20 station stream read).exit = none)
    (frames : List ServedFrame) :
    serveLoop build codec codec20 station stream (read ++ frames) =
      let before := serveLoop build codec codec20 station stream read
      let rest := serveLoop build codec codec20 before.station before.stream frames
      { rest with events := before.events ++ rest.events } := by
  induction read generalizing station stream with
  | nil => simp [serveLoop, proceed]
  | cons f read ih =>
    rw [List.cons_append, serveLoop, serveLoop]
    rw [serveLoop] at hopen
    cases hexit : (serveTurn build codec codec20 f station stream).exit with
    | some rc =>
      simp only [hexit, reduceCtorEq] at hopen
    | none =>
      simp only [hexit] at hopen ⊢
      rw [ih hopen]
      simp [List.append_assoc]

/-- The frame with which the loop exits is the last one it reads. -/
theorem serveLoop_of_exit {f : ServedFrame} {rc : Rc}
    (hexit : (serveTurn build codec codec20 f station stream).exit = some rc)
    (frames : List ServedFrame) :
    serveLoop build codec codec20 station stream (f :: frames) =
      serveTurn build codec codec20 f station stream := by
  rw [serveLoop]
  simp only [hexit]

end Loop

/-! ## The station and its connections -/

/-- The inputs of a station with custom handlers. -/
inductive ServerInput where
  | connect
  | frame (f : ServedFrame)
  | retire

/-- One input of the station. One connection is served at a time. -/
def serverStep (build : Build) (codec : Codec) (codec20 : Codec20) (c : Charger) :
    ServerInput → Charger × List StreamEvent
  | .connect => chargerStep build codec codec20 c .connect
  | .frame f =>
    match c.stream with
    | none => (c, [])
    | some stream => (serveTurn build codec codec20 f c.station stream).finish
  | .retire => chargerStep build codec codec20 c .retire

/-- The station as a machine. -/
def server (build : Build) (codec : Codec) (codec20 : Codec20) :
    Machine Charger ServerInput StreamEvent :=
  ⟨serverStep build codec codec20⟩

/-- One step of a station with custom handlers. -/
abbrev ServerStep := Machine.Step Charger ServerInput StreamEvent

/-- The input without its handler. -/
def ServerInput.plain : ServerInput → ChargerInput
  | .connect => .connect
  | .frame f => .frame f.input
  | .retire => .retire

/-- The input with the default handler. -/
def ChargerInput.served (build : Build) (codec : Codec) : ChargerInput → ServerInput
  | .connect => .connect
  | .frame input => .frame (input.served build codec)
  | .retire => .retire

/-- The exchange that an input brings about: the call of its handler for a request that passes both
gates. -/
def ServerInput.exchange (build : Build) (codec : Codec) (c : Charger) :
    ServerInput → Option Exchange
  | .frame f =>
    c.stream.bind fun stream =>
      (dispatchedRequest build codec f.input c.station stream).map fun dispatched =>
        f.exchange build c.station dispatched.2 dispatched.1
  | .connect | .retire => none

/-- What the ISO 15118-20 module makes of an input. -/
def ServerInput.frame20 (codec20 : Codec20) (c : Charger) : ServerInput → Option Frame20
  | .frame f => c.stream.bind (f.input.frame20 codec20 c.station)
  | .connect | .retire => none

/-- The module is asked on a stream that speaks ISO 15118-20. -/
theorem ServerInput.protocol_of_frame20 {codec20 : Codec20} {c : Charger} {i : ServerInput}
    {stream : Stream} {f : Frame20} (hstream : c.stream = some stream)
    (h : i.frame20 codec20 c = some f) : stream.protocol = .iso15118_20_dc := by
  cases i with
  | connect | retire => cases h
  | frame served =>
    rw [ServerInput.frame20, hstream, Option.bind_some, FrameInput.frame20] at h
    split_ifs at h with hprotocol
    exact hprotocol

/-- The handler is called while the session object is registered as it was for the decoders. -/
theorem ServerInput.registered_of_exchange {build : Build} {codec : Codec} {c : Charger}
    {i : ServerInput} {x : Exchange} (h : i.exchange build codec c = some x) :
    x.registered = c.station.s20.isSome := by
  cases i with
  | connect | retire => cases h
  | frame f =>
    obtain ⟨stream, -, h⟩ := Option.bind_eq_some_iff.mp h
    obtain ⟨dispatched, -, rfl⟩ := Option.map_eq_some_iff.mp h
    rfl

/-- An invariant of the live connection of the station with custom handlers. -/
abbrev ServedInvariant (build : Build) (codec : Codec) (codec20 : Codec20)
    (C : List StreamEvent → Charger → ServerInput → Prop)
    (Inv : List StreamEvent → Secc → Sequence → Protocol → Prop)
    (R : List StreamEvent → StreamEvent → Prop) : Prop :=
  StreamInvariant build codec ServerInput.plain (fun c i x => i.exchange build codec c = some x)
    (fun c i f => i.frame20 codec20 c = some f) C Inv R

section Server

variable {build : Build} {codec : Codec} {codec20 : Codec20} {r : Request}

/-- What becomes of the record and of the connection when a request is served. -/
theorem serve_fate {f : ServedFrame} {station : Station} {stream : Stream}
    (hprotocol : stream.protocol = r.protocol) :
    ∃ tail, (serve build f station stream r).finish.2 =
        .dispatched (f.exchange build station stream.sequence r) :: tail ∧
      (∀ e ∈ tail, e.quiet) ∧ (∀ f, .frame20 f ∉ tail) ∧
      (serve build f station stream r).finish.1.station.statics =
        (f.exchange build station stream.sequence r).result.statics ∧
      Fate (f.exchange build station stream.sequence r)
        (serve build f station stream r).finish.1.station.secc
        (serve build f station stream r).finish.1.stream :=
  deliver_fate rfl rfl hprotocol

/-- With the default handler, a step is one of the station without a custom one. -/
theorem server_step_default (c : Charger) (i : ChargerInput) :
    (server build codec codec20).step c (i.served build codec) =
      (charger build codec codec20).step c i := by
  cases i with
  | connect | retire => rfl
  | frame input =>
    obtain ⟨station, _ | stream⟩ := c
    · rfl
    · exact congrArg Turn.finish serveTurn_default

/-- With the default handler, a run is one of the station without a custom one. -/
theorem server_run_default (c : Charger) (inputs : List ChargerInput) :
    (server build codec codec20).run c (inputs.map (·.served build codec)) =
      (charger build codec codec20).run c inputs := by
  induction inputs generalizing c with
  | nil => rfl
  | cons i inputs ih =>
    rw [List.map_cons, Machine.run_cons, Machine.run_cons, server_step_default, ih]

/-- One input of the station is one of its moves. -/
theorem server_move (c : Charger) (i : ServerInput) :
    StationMove build codec (i.exchange build codec c = some ·) (i.frame20 codec20 c = some ·) c
      i.plain
      ((server build codec codec20).step c i).1 ((server build codec codec20).step c i).2 := by
  obtain ⟨station, stream⟩ := c
  cases i with
  | connect =>
    cases stream with
    | none => exact .connect rfl
    | some stream => exact .idle
  | retire =>
    cases stream with
    | none => exact .retire rfl
    | some stream => exact .idle
  | frame f =>
    cases stream with
    | none => exact .idle
    | some stream =>
      show StationMove build codec _ _ _ (.frame f.input)
        (serveTurn build codec codec20 f station stream).finish.1
        (serveTurn build codec codec20 f station stream).finish.2
      rw [serveTurn]
      rcases hdispatched : dispatchedRequest build codec f.input station stream with
        _ | ⟨r, sequence⟩
      -- nothing that the default handler would have been called for
      · refine streamTurn_move.imp ?_ fun _ hframe => hframe
        intro stream' x hstream hpresented hgate hsession _
        cases hstream
        have hpresented : presentedRequest build codec station stream f.input = some x.request :=
          hpresented
        cases hdispatched.symm.trans (dispatchedRequest_of_accepted hpresented hgate hsession)
      · obtain ⟨hpresented, hgate, hsession⟩ := presented_of_dispatched hdispatched
        refine deliver_move hpresented hgate hsession ?_ ⟨rfl, rfl⟩ rfl rfl rfl rfl
        simp only [ServerInput.exchange, Option.bind_some, hdispatched, Option.map_some]

/-- A request that is presented to the gates is judged, whatever the handler is. -/
theorem served_judges_of_presented {c : Charger} {i : ServerInput}
    (hpresented : c.presented build codec i.plain = some r) :
    ∃ e ∈ ((server build codec codec20).step c i).2, e.judges := by
  obtain ⟨station, stream⟩ := c
  cases i with
  | connect | retire => cases hpresented
  | frame f =>
    obtain ⟨stream, rfl, hpresented⟩ := Option.bind_eq_some_iff.mp hpresented
    show ∃ e ∈ (serveTurn build codec codec20 f station stream).finish.2, e.judges
    rw [serveTurn]
    rcases hdispatched : dispatchedRequest build codec f.input station stream with
      _ | ⟨r', sequence⟩
    · rw [streamTurn_of_presented hpresented]
      obtain ⟨e, he, hjudges⟩ := @requestTurn_judges build codec f.input station stream r
      exact ⟨e, Turn.mem_finish he, hjudges⟩
    · obtain ⟨tail, hevents, -⟩ := @serve_fate build r' f station
        { stream with protocol := r'.protocol, sequence, consecutiveUndecodable := 0 } rfl
      show ∃ e ∈ (serve build f station _ r').finish.2, e.judges
      rw [hevents]
      exact ⟨_, List.mem_cons_self, trivial⟩

/-- The induction rule for the station with custom handlers. -/
theorem ServedInvariant.run {C : List StreamEvent → Charger → ServerInput → Prop}
    {Inv : List StreamEvent → Secc → Sequence → Protocol → Prop}
    {R : List StreamEvent → StreamEvent → Prop} (h : ServedInvariant build codec codec20 C Inv R)
    (station : Station) {inputs : List ServerInput}
    (hmeets : (server build codec codec20).Meets C [] { station, stream := none } inputs) :
    HoldsLive Inv ((server build codec codec20).run { station, stream := none } inputs).2
        ((server build codec codec20).run { station, stream := none } inputs).1 ∧
      JustifiedInStream R
        ((server build codec codec20).run { station, stream := none } inputs).2 :=
  StreamInvariant.run h server_move station hmeets

end Server

end Jpv2g
