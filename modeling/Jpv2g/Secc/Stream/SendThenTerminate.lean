import Jpv2g.Secc.Client
import Jpv2g.Secc.Stream.CustomHandler
import Jpv2g.Secc.Stream.Live

/-!
# Sending a Last Response

A handler may ask for the stream to end once its response is sent, by a flag in the record that
outlives the connection. Whatever the handler is, the request is honoured after the response it was
raised for, before any other bookkeeping, and is not seen by another stream.

## Main definitions

* `Dispatches`: the iteration after the given frames calls the handler.
* `EndsStream`: the stream ends with that call, and nothing is sent or received after it.

## Main results

* `send_then_terminate`: what becomes of a stream whose handler raises the flag, or fails.
-/

namespace Jpv2g

section

variable (build : Build) (codec : Codec) (codec20 : Codec20) (station : Station)

/-- The stream is open after the frames it has read, and the request of the next one passes both
gates, so that the handler is called. -/
structure Dispatches (read : List ServedFrame) (f : ServedFrame) (x : Exchange) : Prop where
  reading : (handleServed build codec codec20 station read).exit = none
  passed :
    let before := handleServed build codec codec20 station read
    dispatchedRequest build codec f.input before.station before.stream =
      some (x.request, x.sequence)
  called :
    x = f.exchange build (handleServed build codec codec20 station read).station x.sequence
      x.request

/-- The call of the handler is the last thing the stream does: it exits with the return code, sends
nothing more, and does not read the frames after it. -/
structure EndsStream (read : List ServedFrame) (f : ServedFrame) (x : Exchange) (rc : Rc) :
    Prop where
  exit : (handleServed build codec codec20 station (read ++ [f])).exit = some rc
  events : (handleServed build codec codec20 station (read ++ [f])).events =
    (handleServed build codec codec20 station read).events ++ [.dispatched x]
  unread : ∀ frames, handleServed build codec codec20 station (read ++ f :: frames) =
    handleServed build codec codec20 station (read ++ [f])

end

/-- The station with the flag as an earlier connection may have left it. -/
def Station.setTerminate (station : Station) (flag : Bool) : Station :=
  { station with secc := { station.secc with terminateAfterResponse := flag } }

section Turns

variable {build : Build} {codec : Codec} {codec20 : Codec20} {station : Station}
  {stream : Stream} {read : List ServedFrame} {f : ServedFrame} {x : Exchange} {rc : Rc}
  {r : Request} {e : Errno}

/-- A response that is not delivered ends the stream. -/
theorem serve_of_error
    (h : (f.exchange build station stream.sequence r).rc = .error e) :
    (serve build f station stream r).exit = some (.error e) ∧
      (serve build f station stream r).events =
        [.dispatched (f.exchange build station stream.sequence r)] := by
  rw [serve, deliver]
  simp only [h]
  exact ⟨rfl, rfl⟩

/-- A response whose handler raised the flag ends the stream once it is sent, whatever the request
was. -/
theorem serve_of_terminate
    (h : (f.exchange build station stream.sequence r).rc = .ok ())
    (hflag : (f.exchange build station stream.sequence r).result.secc.terminateAfterResponse =
      true) :
    (serve build f station stream r).exit = some (.error .eshutdown) ∧
      (serve build f station stream r).events =
        [.dispatched (f.exchange build station stream.sequence r)] ∧
      (serve build f station stream r).station.secc.terminateAfterResponse = false := by
  rw [serve, deliver]
  -- the flag is looked at before the SessionStop and the resume
  simp only [h, concludeExchange, hflag, if_true]
  exact ⟨rfl, rfl, rfl⟩

/-- A stream whose next iteration exits reads nothing more. -/
theorem handleServed_of_exit
    (hopen : (handleServed build codec codec20 station read).exit = none)
    (hexit : (serveTurn build codec codec20 f
      (handleServed build codec codec20 station read).station
      (handleServed build codec codec20 station read).stream).exit = some rc)
    (frames : List ServedFrame) :
    handleServed build codec codec20 station (read ++ f :: frames) =
      let before := handleServed build codec codec20 station read
      let turn := serveTurn build codec codec20 f before.station before.stream
      { turn with events := before.events ++ turn.events } := by
  have hloop := serveLoop_append hopen (f :: frames)
  rw [handleServed, hloop]
  exact congrArg (fun rest : Turn =>
    { rest with events := (handleServed build codec codec20 station read).events ++ rest.events })
    (serveLoop_of_exit hexit frames)

/-- A stream whose next iteration exits ends with what that iteration did. -/
theorem endsStream_of_exit
    (hopen : (handleServed build codec codec20 station read).exit = none)
    (hexit : (serveTurn build codec codec20 f
      (handleServed build codec codec20 station read).station
      (handleServed build codec codec20 station read).stream).exit = some rc)
    (hevents : (serveTurn build codec codec20 f
      (handleServed build codec codec20 station read).station
      (handleServed build codec codec20 station read).stream).events = [.dispatched x]) :
    EndsStream build codec codec20 station read f x rc := by
  have hserved := handleServed_of_exit hopen hexit
  refine ⟨?_, ?_, ?_⟩
  · rw [hserved]
    exact hexit
  · rw [hserved]
    exact congrArg _ hevents
  · intro frames
    rw [hserved, hserved]

/-- The iteration that calls the handler serves the request. -/
theorem Dispatches.serveTurn_eq (h : Dispatches build codec codec20 station read f x) :
    ∃ stream, stream.sequence = x.sequence ∧
      serveTurn build codec codec20 f (handleServed build codec codec20 station read).station
          (handleServed build codec codec20 station read).stream =
        serve build f (handleServed build codec codec20 station read).station stream
          x.request := by
  have hpassed := h.passed
  refine ⟨{ (handleServed build codec codec20 station read).stream with
    protocol := x.request.protocol, sequence := x.sequence, consecutiveUndecodable := 0 }, rfl, ?_⟩
  rw [serveTurn, hpassed]

/-- A delivered response whose handler raised the flag is the last one of the stream. -/
theorem Dispatches.terminates (h : Dispatches build codec codec20 station read f x)
    (hrc : x.rc = .ok ()) (hflag : x.result.secc.terminateAfterResponse = true) :
    EndsStream build codec codec20 station read f x (.error .eshutdown) ∧
      (handleServed build codec codec20 station
        (read ++ [f])).station.secc.terminateAfterResponse = false := by
  obtain ⟨stream, hsequence, hturn⟩ := h.serveTurn_eq
  have hx := h.called
  rw [← hsequence] at hx
  rw [hx] at hrc hflag
  obtain ⟨hexit, hevents, hcleared⟩ := serve_of_terminate hrc hflag
  rw [← hx, ← hturn] at hevents
  rw [← hturn] at hexit hcleared
  refine ⟨endsStream_of_exit h.reading hexit hevents, ?_⟩
  rw [handleServed_of_exit h.reading hexit]
  exact hcleared

/-- A response that is not delivered ends the stream as well. -/
theorem Dispatches.fails (h : Dispatches build codec codec20 station read f x)
    (hrc : x.rc = .error e) : EndsStream build codec codec20 station read f x (.error e) := by
  obtain ⟨stream, hsequence, hturn⟩ := h.serveTurn_eq
  have hx := h.called
  rw [← hsequence] at hx
  rw [hx] at hrc
  obtain ⟨hexit, hevents⟩ := serve_of_error hrc
  rw [← hx, ← hturn] at hevents
  rw [← hturn] at hexit
  exact endsStream_of_exit h.reading hexit hevents

end Turns

/-- On every stream and for every handler: a response that is sent after its handler raised the flag
is the last one of the stream, which reads nothing more, returns `-ESHUTDOWN`, reported as an
application reject, and leaves the flag lowered; a handler or a send that fails ends the stream as
well; and the stream does not depend on how the flag was left before it. -/
theorem send_then_terminate (build : Build) (codec : Codec) (codec20 : Codec20)
    (station : Station) :
    (∀ read f x, Dispatches build codec codec20 station read f x → x.rc = .ok () →
        x.result.secc.terminateAfterResponse = true →
      EndsStream build codec codec20 station read f x (.error .eshutdown) ∧
        (handleServed build codec codec20 station
          (read ++ [f])).station.secc.terminateAfterResponse = false ∧
        ∀ handledAny sawSessionStop,
          classifyDisconnect (.error .eshutdown) handledAny sawSessionStop = .appRejected) ∧
      (∀ read f x e, Dispatches build codec codec20 station read f x → x.rc = .error e →
        EndsStream build codec codec20 station read f x (.error e)) ∧
      ∀ flag frames, handleServed build codec codec20 (station.setTerminate flag) frames =
        handleServed build codec codec20 station frames := by
  refine ⟨?_, ?_, ?_⟩
  · intro read f x h hrc hflag
    obtain ⟨hends, hcleared⟩ := h.terminates hrc hflag
    exact ⟨hends, hcleared, fun _ _ => rfl⟩
  · intro read f x e h hrc
    exact h.fails hrc
  · -- the flag is lowered before the first frame is read
    intro flag frames
    rfl

/-- A negotiation whose handler answers one byte and raises the flag. -/
def raisingFrame : ServedFrame where
  input :=
    { recv := .ok { payloadType := .exi, payload := [0] }
      env := sampleEnv true
      env20 := sampleEnv20
      nowReset := 0
      send := .ok () }
  handle _ station :=
    { result :=
        { secc := { station.secc with terminateAfterResponse := true }
          statics := station.statics
          rc := .ok [1]
          res := none
          authorized := none }
      s20 := station.s20 }

/-- The exchange of the negotiation. -/
def raisedExchange : Exchange :=
  raisingFrame.exchange sampleBuild sampleStation.connected { Sequence.init with
      phase := .sessionSetup
      protocol := .iso15118_2 }
    { type := .suppAppProtocolReq
      protocol := .iso15118_2
      header := none
      dinHeader := none
      body := some (.app [sampleOffer]) }

/-- The negotiation is the last exchange of the stream. -/
theorem send_then_terminate_sample :
    EndsStream sampleBuild sampleCodec emptyCodec20 sampleStation [] raisingFrame raisedExchange
      (.error .eshutdown) :=
  have hdispatches : Dispatches sampleBuild sampleCodec emptyCodec20 sampleStation [] raisingFrame
      raisedExchange := ⟨rfl, by decide, rfl⟩
  ((send_then_terminate sampleBuild sampleCodec emptyCodec20 sampleStation).1 [] raisingFrame
    raisedExchange hdispatches rfl rfl).1

end Jpv2g
