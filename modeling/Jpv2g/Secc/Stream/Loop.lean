import Jpv2g.Secc.Stream

/-!
# The Receive Loop

The whole of a stream: the loop runs until one of its iterations exits. The frames it is given are
all that the transport delivers to it.

## Main definitions

* `streamLoop`: the loop.
* `handleStreamObs`: the loop from the start of a stream.
* `transmit20`: what became of a response of the ISO 15118-20 module.
* `Turn.answers`: a frame has been answered.

## Main results

* `charger_run_connection`: serving a stream is a run of the station over one connection.
-/

namespace Jpv2g

section Serve

variable (build : Build) (codec : Codec) (codec20 : Codec20)

/-- The receive loop, until it exits or nothing more is received. -/
def streamLoop (station : Station) (stream : Stream) : List FrameInput → Turn
  | [] => proceed station stream []
  | input :: inputs =>
    let turn := streamTurn build codec codec20 input station stream
    match turn.exit with
    | some _ => turn
    | none =>
      let rest := streamLoop turn.station turn.stream inputs
      { rest with events := turn.events ++ rest.events }

/-- The station when a connection starts on it. -/
def Station.connected (station : Station) : Station :=
  -- a stale request to terminate must not end this connection
  { station with secc := { station.secc with terminateAfterResponse := false } }

/-- Serve a stream from its start (`jpv2g_secc_handle_stream_obs`). -/
def handleStreamObs (station : Station) (frames : List FrameInput) : Turn :=
  streamLoop build codec codec20 station.connected .init frames

end Serve

/-! ## Answers -/

/-- The return code of sending what the ISO 15118-20 module produced for a frame. -/
def transmit20 (build : Build) (input : FrameInput) (f : Frame20) : Rc :=
  match input.recv, f.result.rc with
  | .error e, _ => .error e
  | .ok _, .error e => .error e
  | .ok msg, .ok bytes =>
    match v2gtpBuild build.iso20 msg.payloadType bytes maxV2gtpSize with
    | .error e => .error e
    | .ok _ => input.send

/-- What the ISO 15118-20 module produced for a frame was framed and handed to the transport. -/
def Frame20.Sent (build : Build) (input : FrameInput) (payloadType : PayloadType) (f : Frame20) :
    Prop :=
  ∃ bytes out, f.result.rc = .ok bytes ∧
    v2gtpBuild build.iso20 payloadType bytes maxV2gtpSize = .ok out ∧ input.send = .ok ()

theorem transmit20_ok_iff {build : Build} {input : FrameInput} {msg : V2gtpMsg}
    (hrecv : input.recv = .ok msg) (f : Frame20) :
    transmit20 build input f = .ok () ↔ f.Sent build input msg.payloadType := by
  unfold transmit20
  rw [hrecv]
  cases hrc : f.result.rc with
  | error e => simp [Frame20.Sent, hrc]
  | ok bytes =>
    cases hframed : v2gtpBuild build.iso20 msg.payloadType bytes maxV2gtpSize <;>
      simp [Frame20.Sent, hrc, hframed]

/-- A request was decoded, and its response was completely handed to the transport. -/
def StreamEvent.answered (build : Build) (input : FrameInput) : StreamEvent → Bool
  | .dispatched x => decide (x.rc = .ok ())
  | .frame20 f => decide (transmit20 build input f = .ok ())
  | .connected | .rejected _ _ | .refused _ _ | .reset20 | .closed _ | .retired => false

/-- The turn of the loop has answered its frame. -/
def Turn.answers (build : Build) (input : FrameInput) (turn : Turn) : Bool :=
  turn.events.any (StreamEvent.answered build input)

/-! ## The receive loop as a run of the station -/

section Loop

variable {build : Build} {codec : Codec} {codec20 : Codec20}

/-- The loop exits with its first frame. -/
theorem streamLoop_of_exit {station : Station} {stream : Stream} {input : FrameInput} {rc : Rc}
    (hexit : (streamTurn build codec codec20 input station stream).exit = some rc)
    (inputs : List FrameInput) :
    streamLoop build codec codec20 station stream (input :: inputs) =
      streamTurn build codec codec20 input station stream := by
  rw [streamLoop]
  simp only [hexit]

/-- The loop goes on after its first frame. -/
theorem streamLoop_of_open {station : Station} {stream : Stream} {input : FrameInput}
    (hexit : (streamTurn build codec codec20 input station stream).exit = none)
    (inputs : List FrameInput) :
    streamLoop build codec codec20 station stream (input :: inputs) =
      let turn := streamTurn build codec codec20 input station stream
      let rest := streamLoop build codec codec20 turn.station turn.stream inputs
      { rest with events := turn.events ++ rest.events } := by
  rw [streamLoop]
  simp only [hexit]

/-- Without a connection, frames do nothing. -/
theorem charger_run_frames_of_none {c : Charger} (hstream : c.stream = none)
    (frames : List FrameInput) :
    (charger build codec codec20).run c (frames.map .frame) = (c, []) := by
  induction frames with
  | nil => rfl
  | cons input frames ih =>
    have hstep : (charger build codec codec20).step c (.frame input) = (c, []) := by
      show chargerStep build codec codec20 c (.frame input) = (c, [])
      rw [chargerStep, hstream]
    rw [List.map_cons, Machine.run_cons, hstep, ih]
    rfl

/-- The receive loop is a run of the station over the frames of one connection. -/
theorem charger_run_frames (station : Station) (stream : Stream) (frames : List FrameInput) :
    (charger build codec codec20).run { station, stream := some stream } (frames.map .frame) =
      (streamLoop build codec codec20 station stream frames).finish := by
  -- along the frames, from wherever the loop has got to
  induction frames generalizing station stream with
  | nil => rfl
  | cons input frames ih =>
    have hstep : (charger build codec codec20).step { station, stream := some stream }
        (.frame input) = (streamTurn build codec codec20 input station stream).finish := rfl
    rw [List.map_cons, Machine.run_cons, hstep, streamLoop]
    cases hexit : (streamTurn build codec codec20 input station stream).exit with
    | none =>
      simp only [Turn.finish, hexit, ih]
      split <;> simp
    -- the connection is closed, and the frames left over meet no stream
    | some rc =>
      simp only [Turn.finish, hexit]
      rw [charger_run_frames_of_none rfl]
      simp

/-- Serving a stream is a run of the station over one connection. -/
theorem charger_run_connection (station : Station) (frames : List FrameInput) :
    (charger build codec codec20).run { station, stream := none }
        (.connect :: frames.map .frame) =
      ((handleStreamObs build codec codec20 station frames).finish.1,
        .connected :: (handleStreamObs build codec codec20 station frames).finish.2) := by
  have hstep : (charger build codec codec20).step { station, stream := none } .connect =
      ({ station := station.connected, stream := some .init }, [.connected]) := rfl
  rw [Machine.run_cons, hstep, charger_run_frames]
  rfl

end Loop

end Jpv2g
