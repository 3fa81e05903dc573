import Jpv2g.Secc.Stream.CustomHandler
import Jpv2g.Secc.Stream.Live
import Jpv2g.SeccIso20.Contactor

/-!
# The Tolerance for Undecodable Frames

A stream that has answered a request ignores up to six frames in a row that it cannot decode, and
ends with the seventh, whatever its request handler is. The legacy and the ISO 15118-20 path share
one count, which an answer resets. On the ISO 15118-20 path the sequence timer comes first. Frames
without a payload, which either path mishandles, are left aside.

## Main definitions

* `Undecodable`: the payload of an admissible frame is not a known request.
* `sinceAnswer`: the number of frames since the last answered one.
* `UndecodableRun`: consecutive frames that cannot be decoded.
* `Tolerated`: what becomes of such a run.

## Main results

* `serveTurn_ignores`, `serveTurn_ends`: one undecodable frame is ignored or ends the stream.
* `serveLoop_tallied`: the count of the loop is the number of frames since the last answer.
* `undecodable_tolerated`: every run of undecodable frames is tolerated in this way.
-/

namespace Jpv2g

section Definitions

variable (build : Build) (codec : Codec) (codec20 : Codec20)

/-- The stream admits the payload type of the frame, and the payload does not decode to a known
request. ISO 15118-20 frames are admitted once it has been negotiated, with the session object that
the negotiation required still registered. -/
def Undecodable (station : Station) (stream : Stream) (msg : V2gtpMsg) : Prop :=
  (msg.payloadType = .exi ∧ decodeRequest build codec station stream msg.payload = none) ∨
    (stream.protocol = .iso15118_20_dc ∧ station.s20.isSome = true ∧
      (msg.payloadType = .exi20Mainstream ∨ msg.payloadType = .exi20Dc) ∧
      ∀ doc, s20Decode codec20 msg.payloadType msg.payload = some doc → doc.body.kind = .none)

/-- A frame on the ISO 15118-20 path finds the sequence timer expired. -/
def Late (input : FrameInput) (station : Station) (msg : V2gtpMsg) : Prop :=
  msg.payloadType ≠ .exi ∧ ∃ s20 ∈ station.s20, s20SequenceExpired input.env20 s20 = true

/-- The frame is undecodable, and there is a payload to look at. -/
structure ReadsUndecodable (input : FrameInput) (station : Station) (stream : Stream)
    (msg : V2gtpMsg) : Prop where
  recv_eq : input.recv = .ok msg
  undecodable : Undecodable build codec codec20 station stream msg
  payload_ne : msg.payload ≠ []

/-- Consecutive frames that are undecodable and in time, as long as the loop reads them. -/
def UndecodableRun (station : Station) (stream : Stream) : List ServedFrame → Prop
  | [] => True
  | f :: frames =>
    let turn := serveTurn build codec codec20 f station stream
    (∃ msg, ReadsUndecodable build codec codec20 f.input station stream msg ∧
        ¬Late f.input station msg) ∧
      (turn.exit = none → UndecodableRun turn.station turn.stream frames)

/-- The number of frames since the last answered one, after one more turn of the loop. -/
def Turn.tally (input : FrameInput) (turn : Turn) (n : Option ℕ) : Option ℕ :=
  if turn.answers build input then some 0 else n.map (· + 1)

/-- The number of frames since the last answered one; there is none before the first answer. -/
def sinceAnswer (station : Station) (stream : Stream) (n : Option ℕ) :
    List ServedFrame → Option ℕ
  | [] => n
  | f :: frames =>
    let turn := serveTurn build codec codec20 f station stream
    sinceAnswer turn.station turn.stream (turn.tally build f.input n) frames

/-- Nothing was handed to the transport, and no hook was invoked. -/
def StreamEvent.silent : StreamEvent → Prop
  | .frame20 f => f.result.res = none ∧ f.result.calls = []
  | _ => False

/-- The loop goes on, with nothing changed but its count and the sequence timer. -/
structure Ignores (station : Station) (stream : Stream) (turn : Turn) (k : ℕ) : Prop where
  exit_eq : turn.exit = none
  secc_eq : turn.station.secc = station.secc
  statics_eq : turn.station.statics = station.statics
  s20_eq : turn.station.s20.map Secc20.received = station.s20.map Secc20.received
  stream_eq : turn.stream =
    { stream with consecutiveUndecodable := stream.consecutiveUndecodable + k }

/-- What becomes of a run of undecodable frames, when `n` frames have not been answered. -/
structure Tolerated (station : Station) (stream : Stream) (n : Option ℕ)
    (run : List ServedFrame) : Prop where
  /-- Up to six frames since the last answer are ignored. -/
  ignored : ∀ k, n = some k → k + run.length ≤ 6 →
    Ignores station stream (serveLoop build codec codec20 station stream run) run.length
  /-- The seventh ends the stream, and so does the very first before any answer. -/
  ended : run ≠ [] → (∀ k, n = some k → 6 < k + run.length) →
    (serveLoop build codec codec20 station stream run).exit = some (.error .ebadmsg)
  silent : ∀ e ∈ (serveLoop build codec codec20 station stream run).events, e.silent
  /-- A frame that comes after the sequence timer has expired ends the stream instead. -/
  late : ∀ f msg, (serveLoop build codec codec20 station stream run).exit = none →
    ReadsUndecodable build codec codec20 f.input
      (serveLoop build codec codec20 station stream run).station
      (serveLoop build codec codec20 station stream run).stream msg →
    Late f.input (serveLoop build codec codec20 station stream run).station msg →
    (serveTurn build codec codec20 f
      (serveLoop build codec codec20 station stream run).station
      (serveLoop build codec codec20 station stream run).stream).exit = some (.error .etimedout)

/-- The invariant of the loop: its count is the number of frames since the last answer, and an
ISO 15118-20 stream has answered a request and has no session object that has ended. -/
structure Tallied (station : Station) (stream : Stream) (n : Option ℕ) : Prop where
  tally_eq : n = if stream.handledAny then some stream.consecutiveUndecodable else none
  live20 : stream.protocol = .iso15118_20_dc → build.iso20 = true ∧ stream.handledAny = true ∧
    ∀ s20 ∈ station.s20, s20.state ≠ .ended

end Definitions

/-! ## One frame -/

section Frame

variable {build : Build} {codec : Codec} {codec20 : Codec20} {input : FrameInput}
  {station : Station} {stream : Stream} {msg : V2gtpMsg} {n : Option ℕ} {f : ServedFrame}

/-- An undecodable frame of a live session is received and not answered. -/
theorem secc20HandleFrame_of_undecodable {env : Env20} {outCap : ℕ} {s : Secc20}
    {payloadType : PayloadType} {exi : List UInt8} (hreads : Reads env s exi)
    (hdecode : ∀ doc, s20Decode codec20 payloadType exi = some doc → doc.body.kind = .none) :
    secc20HandleFrame codec20 env outCap s payloadType exi = unanswered s.received .ebadmsg := by
  have hframe := receives codec20 env outCap s payloadType exi
  generalize secc20HandleFrame codec20 env outCap s payloadType exi = result at hframe
  cases hframe with
  | empty hexi => exact absurd hexi hreads.exi_ne
  | ended _ hended => exact absurd hended hreads.live
  | expired _ _ hexpired => cases hreads.in_time.symm.trans hexpired
  | undecodable => rfl
  | unknownSession _ hdoc hkind | outOfSequence _ hdoc hkind =>
    exact absurd (hdecode _ hdoc) hkind
  | handled _ hdoc hadmits =>
    -- no state accepts a document without a request
    have haccepts := s20StateAccepts_of_admits hadmits
    rw [hdecode _ hdoc, s20StateAccepts_none] at haccepts
    cases haccepts

/-- The tolerance applied to a frame: ignored while the count allows it. -/
theorem undecodable_ignores {station' : Station} {events : List StreamEvent}
    (hsecc : station'.secc = station.secc) (hstatics : station'.statics = station.statics)
    (hs20 : station'.s20.map Secc20.received = station.s20.map Secc20.received)
    (hhandled : stream.handledAny = true) (hcount : stream.consecutiveUndecodable < 6) :
    Ignores station stream (undecodable station' stream events) 1 := by
  have hignore : stream.ignoreUndecodable =
      some { stream with consecutiveUndecodable := stream.consecutiveUndecodable + 1 } :=
    if_pos ⟨hhandled, hcount⟩
  rw [undecodable, hignore]
  exact ⟨rfl, hsecc, hstatics, hs20, rfl⟩

/-- The tolerance applied to a frame: the end of the stream. -/
theorem undecodable_ends {station' : Station} {events : List StreamEvent}
    (hends : ¬(stream.handledAny = true ∧ stream.consecutiveUndecodable < 6)) :
    (undecodable station' stream events).exit = some (.error .ebadmsg) := by
  have hignore : stream.ignoreUndecodable = none := if_neg hends
  rw [undecodable, hignore]
  rfl

theorem undecodable_events {station' : Station} {events : List StreamEvent} :
    (undecodable station' stream events).events = events := by
  unfold undecodable
  split <;> rfl

/-- A frame with an ISO 15118-20 payload type takes the ISO 15118-20 path of such a stream. -/
theorem streamTurn_iso20 (hrecv : input.recv = .ok msg) (hbuild : build.iso20 = true)
    (hprotocol : stream.protocol = .iso15118_20_dc)
    (htype : msg.payloadType = .exi20Mainstream ∨ msg.payloadType = .exi20Dc) :
    streamTurn build codec codec20 input station stream =
      frame20Turn build codec20 input station stream msg.payloadType msg.payload := by
  have hne : msg.payloadType ≠ .exi := by
    rcases htype with htype | htype <;> simp [htype]
  simp [streamTurn, hrecv, hbuild, hprotocol, hne]

/-- What the ISO 15118-20 path makes of a frame that is not answered. -/
theorem frame20Turn_of_error {s20 : Secc20} {e : Errno} (hs20 : station.s20 = some s20)
    (htype : msg.payloadType = .exi20Mainstream ∨ msg.payloadType = .exi20Dc)
    (hrc : (secc20Frame codec20 input.env20 maxExiSize s20 msg.payloadType
      msg.payload).result.rc = .error e) :
    frame20Turn build codec20 input station stream msg.payloadType msg.payload =
      let f := secc20Frame codec20 input.env20 maxExiSize s20 msg.payloadType msg.payload
      let station := { station with s20 := some f.result.session }
      if e = .ebadmsg then undecodable station stream [.frame20 f]
      else leave station stream (.error e) [.frame20 f] := by
  have hadmitted : ¬(msg.payloadType ≠ .exi20Mainstream ∧ msg.payloadType ≠ .exi20Dc) := by
    rintro ⟨hmainstream, hdc⟩
    exact htype.elim hmainstream hdc
  rw [frame20Turn, hs20]
  dsimp only
  rw [if_neg hadmitted, hrc]
  cases e <;> rfl

/-- No request of an undecodable frame reaches the handler. -/
theorem serveTurn_eq_streamTurn
    (h : ReadsUndecodable build codec codec20 f.input station stream msg) :
    serveTurn build codec codec20 f station stream =
      streamTurn build codec codec20 f.input station stream := by
  have hpresented : presentedRequest build codec station stream f.input = none := by
    rcases h.undecodable with ⟨hexi, hdecode⟩ | ⟨-, -, htype, -⟩
    · simp [presentedRequest, h.recv_eq, hexi, hdecode]
    · rcases htype with htype | htype <;> simp [presentedRequest, h.recv_eq, htype]
  rw [serveTurn, dispatchedRequest, hpresented, Option.bind_none]

/-- On either path, an undecodable frame in time is left to the tolerance. -/
theorem serveTurn_of_undecodable
    (h : ReadsUndecodable build codec codec20 f.input station stream msg)
    (hlate : ¬Late f.input station msg) (htally : Tallied build station stream n) :
    ∃ station' events, serveTurn build codec codec20 f station stream =
        undecodable station' stream events ∧
      station'.secc = station.secc ∧ station'.statics = station.statics ∧
      station'.s20.map Secc20.received = station.s20.map Secc20.received ∧
      ∀ e ∈ events, e.silent := by
  rw [serveTurn_eq_streamTurn h]
  rcases h.undecodable with ⟨hexi, hdecode⟩ | ⟨hprotocol, hregistered, htype, hdecode⟩
  -- a legacy frame goes to the tolerance with nothing changed
  · refine ⟨station, [], ?_, rfl, rfl, rfl, by simp⟩
    simp [streamTurn, h.recv_eq, hexi, legacyTurn, h.payload_ne, hdecode]
  -- an ISO 15118-20 frame is handed to the session first, which only notes that it came
  · obtain ⟨hbuild, -, hlive⟩ := htally.live20 hprotocol
    obtain ⟨s20, hs20⟩ := Option.isSome_iff_exists.mp hregistered
    have hne : msg.payloadType ≠ .exi := by
      rcases htype with htype | htype <;> simp [htype]
    have hreads : Reads f.input.env20 s20 msg.payload := by
      refine ⟨h.payload_ne, hlive s20 hs20, ?_⟩
      apply Bool.eq_false_of_not_eq_true
      intro hexpired
      exact hlate ⟨hne, s20, hs20, hexpired⟩
    have hresult : (secc20Frame codec20 f.input.env20 maxExiSize s20 msg.payloadType
        msg.payload).result = unanswered s20.received .ebadmsg :=
      secc20HandleFrame_of_undecodable hreads hdecode
    refine ⟨{ station with s20 := some s20.received },
      [.frame20 (secc20Frame codec20 f.input.env20 maxExiSize s20 msg.payloadType msg.payload)],
      ?_, rfl, rfl, ?_, ?_⟩
    · have hrc : (secc20Frame codec20 f.input.env20 maxExiSize s20 msg.payloadType
          msg.payload).result.rc = .error .ebadmsg := by
        rw [hresult]
        rfl
      rw [streamTurn_iso20 h.recv_eq hbuild hprotocol htype, frame20Turn_of_error hs20 htype hrc]
      dsimp only
      rw [if_pos rfl, hresult]
      rfl
    · rw [hs20]
      rfl
    · intro e he
      rw [List.mem_singleton.mp he, StreamEvent.silent, hresult]
      exact ⟨rfl, rfl⟩

/-- An undecodable frame in time is ignored when fewer than six have been since the last
answer. -/
theorem serveTurn_ignores (h : ReadsUndecodable build codec codec20 f.input station stream msg)
    (hlate : ¬Late f.input station msg) {k : ℕ} (htally : Tallied build station stream (some k))
    (hcount : k < 6) :
    Ignores station stream (serveTurn build codec codec20 f station stream) 1 := by
  obtain ⟨station', events, heq, hsecc, hstatics, hs20, -⟩ :=
    serveTurn_of_undecodable h hlate htally
  have hcounted := htally.tally_eq
  split_ifs at hcounted with hhandled
  cases hcounted
  rw [heq]
  exact undecodable_ignores hsecc hstatics hs20 hhandled hcount

/-- An undecodable frame in time ends the stream before the first answer, and when six have been
ignored since the last one. -/
theorem serveTurn_ends (h : ReadsUndecodable build codec codec20 f.input station stream msg)
    (hlate : ¬Late f.input station msg) (htally : Tallied build station stream n)
    (hcount : ∀ k, n = some k → 6 ≤ k) :
    (serveTurn build codec codec20 f station stream).exit = some (.error .ebadmsg) := by
  obtain ⟨station', events, heq, -⟩ := serveTurn_of_undecodable h hlate htally
  rw [heq]
  apply undecodable_ends
  -- the count is defined once a request was answered, and then it is at least six
  rintro ⟨hhandled, hfew⟩
  have hcounted := htally.tally_eq
  rw [if_pos hhandled] at hcounted
  have := hcount _ hcounted
  omega

/-- An undecodable frame in time after which the loop goes on has been ignored. -/
theorem serveTurn_ignored_of_open
    (h : ReadsUndecodable build codec codec20 f.input station stream msg)
    (hlate : ¬Late f.input station msg) (htally : Tallied build station stream n)
    (hexit : (serveTurn build codec codec20 f station stream).exit = none) :
    ∃ k, n = some k ∧
      Ignores station stream (serveTurn build codec codec20 f station stream) 1 := by
  by_cases hfew : ∃ k, n = some k ∧ k < 6
  · obtain ⟨k, rfl, hfew⟩ := hfew
    exact ⟨k, rfl, serveTurn_ignores h hlate htally hfew⟩
  · have hends := serveTurn_ends h hlate htally fun k hk =>
      Nat.le_of_not_lt fun hlt => hfew ⟨k, hk, hlt⟩
    cases hends.symm.trans hexit

/-- An undecodable frame in time is not answered. -/
theorem serveTurn_silent (h : ReadsUndecodable build codec codec20 f.input station stream msg)
    (hlate : ¬Late f.input station msg) (htally : Tallied build station stream n) :
    ∀ e ∈ (serveTurn build codec codec20 f station stream).events, e.silent := by
  obtain ⟨station', events, heq, -, -, -, hsilent⟩ := serveTurn_of_undecodable h hlate htally
  rw [heq, undecodable_events]
  exact hsilent

/-- A late frame ends the stream with a timeout. -/
theorem serveTurn_late (h : ReadsUndecodable build codec codec20 f.input station stream msg)
    (hlate : Late f.input station msg) (htally : Tallied build station stream n) :
    (serveTurn build codec codec20 f station stream).exit = some (.error .etimedout) := by
  rw [serveTurn_eq_streamTurn h]
  obtain ⟨hne, s20, hs20, hexpired⟩ := hlate
  rcases h.undecodable with ⟨hexi, -⟩ | ⟨hprotocol, -, htype, -⟩
  · exact absurd hexi hne
  obtain ⟨hbuild, -, hlive⟩ := htally.live20 hprotocol
  have hrc : (secc20Frame codec20 f.input.env20 maxExiSize s20 msg.payloadType
      msg.payload).result.rc = .error .etimedout := by
    simp [secc20Frame, secc20HandleFrame, h.payload_ne, hlive s20 hs20, hexpired]
  rw [streamTurn_iso20 h.recv_eq hbuild hprotocol htype, frame20Turn_of_error hs20 htype hrc]
  rfl

end Frame

/-! ## The count -/

section Count

variable {build : Build} {codec : Codec} {codec20 : Codec20} {input : FrameInput}
  {station : Station} {stream : Stream} {n : Option ℕ}

/-- Ignoring a frame that was not answered counts it. -/
theorem undecodable_tallied {station' : Station} {events : List StreamEvent}
    (htally : Tallied build station stream n)
    (hlive : stream.protocol = .iso15118_20_dc → ∀ s20 ∈ station'.s20, s20.state ≠ .ended)
    (hevents : ∀ e ∈ events, e.answered build input = false)
    (hexit : (undecodable station' stream events).exit = none) :
    Tallied build (undecodable station' stream events).station
      (undecodable station' stream events).stream
      ((undecodable station' stream events).tally build input n) := by
  have hunanswered : (undecodable station' stream events).answers build input = false := by
    rw [Turn.answers, undecodable_events, List.any_eq_false]
    intro e he
    simp [hevents e he]
  rw [Turn.tally, if_neg (by simp [hunanswered])]
  unfold undecodable Stream.ignoreUndecodable at hexit ⊢
  -- an ignored frame is the only one after which the loop goes on
  by_cases hignores : stream.handledAny = true ∧ stream.consecutiveUndecodable < 6
  · rw [if_pos hignores] at hexit ⊢
    refine ⟨?_, ?_⟩
    · rw [htally.tally_eq, if_pos hignores.1]
      simp [proceed, hignores.1]
    · intro hprotocol
      obtain ⟨hbuild, hhandled, -⟩ := htally.live20 hprotocol
      exact ⟨hbuild, hhandled, hlive hprotocol⟩
  · rw [if_neg hignores] at hexit
    cases hexit

/-- An answer resets the count. -/
theorem Tallied.of_answers {turn : Turn} (hanswers : turn.answers build input = true)
    (hhandled : turn.stream.handledAny = true)
    (hcount : turn.stream.consecutiveUndecodable = 0)
    (hlive : turn.stream.protocol = .iso15118_20_dc → build.iso20 = true ∧
      ∀ s20 ∈ turn.station.s20, s20.state ≠ .ended) :
    Tallied build turn.station turn.stream (turn.tally build input n) := by
  rw [Turn.tally, if_pos hanswers]
  refine ⟨by rw [if_pos hhandled, hcount], ?_⟩
  intro hprotocol
  obtain ⟨hbuild, hsession⟩ := hlive hprotocol
  exact ⟨hbuild, hhandled, hsession⟩

/-- An ISO 15118-20 frame after which the loop goes on. -/
theorem frame20Turn_tallied {msg : V2gtpMsg} (hrecv : input.recv = .ok msg)
    (hprotocol : stream.protocol = .iso15118_20_dc) (htally : Tallied build station stream n)
    (hexit : (frame20Turn build codec20 input station stream msg.payloadType msg.payload).exit =
      none) :
    Tallied build
      (frame20Turn build codec20 input station stream msg.payloadType msg.payload).station
      (frame20Turn build codec20 input station stream msg.payloadType msg.payload).stream
      ((frame20Turn build codec20 input station stream msg.payloadType msg.payload).tally build
        input n) := by
  obtain ⟨hbuild, -, hlive⟩ := htally.live20 hprotocol
  -- the session that goes on has not ended, since that would have been reported
  have hreported : ∀ {s20 : Secc20} {f : Frame20}, station.s20 = some s20 →
      secc20Frame codec20 input.env20 maxExiSize s20 msg.payloadType msg.payload = f →
      f.result.session.state = .ended → EndsReported f.result := by
    rintro s20 f hs20 rfl
    exact (secc20Frame_outcome codec20 input.env20 maxExiSize s20 msg.payloadType
      msg.payload).endsReported (hlive s20 hs20)
  have hfate := frame20Turn_fate build codec20 input station stream msg.payloadType msg.payload
  generalize frame20Turn build codec20 input station stream msg.payloadType msg.payload = turn
    at hfate hexit ⊢
  -- unanswered frames go on only through the tolerance, answered ones unless the session is done
  cases hfate with
  | unasked | unsent => cases hexit
  | @undecoded s20 f hs20 hf hrc =>
    refine undecodable_tallied htally (fun _ session hsession hended => ?_) ?_ hexit
    · cases hsession
      rcases hreported hs20 hf hended with htimed | ⟨⟨bytes, hok⟩, -⟩
      · cases hrc.symm.trans htimed
      · cases hrc.symm.trans hok
    · intro e he
      rw [List.mem_singleton.mp he, StreamEvent.answered]
      simp [transmit20, hrecv, hrc]
  | @sent s20 f hs20 hf hsent =>
    have hanswered : StreamEvent.answered build input (.frame20 f) = true :=
      decide_eq_true ((transmit20_ok_iff hrecv f).mpr hsent)
    obtain ⟨bytes, _, hrc, -⟩ := hsent
    cases hdisposition : f.result.disposition with
    | «continue» =>
      refine .of_answers (by simp [Turn.answers, concludeFrame20, proceed, hanswered]) rfl rfl
        fun _ => ⟨hbuild, fun session hsession hended => ?_⟩
      cases hsession
      rcases hreported hs20 hf hended with htimed | ⟨-, hnot⟩
      · cases hrc.symm.trans htimed
      · exact hnot hdisposition
    | doneStopped | donePaused | doneFailed =>
      rw [hdisposition] at hexit
      cases hexit

/-- The session that is registered after a negotiation on an ISO 15118-20 stream is live. -/
theorem rearm_live {r : Request} (hbuild : build.iso20 = true)
    (htype : r.type = .suppAppProtocolReq) (hprotocol : stream.protocol = .iso15118_20_dc) :
    ∀ s20 ∈ (rearm build input station stream r).1, s20.state ≠ .ended := by
  intro s20 hs20
  rw [rearm, if_pos ⟨hbuild, htype, hprotocol⟩] at hs20
  split at hs20
  · cases hs20
    simp [Secc20.reset]
  · cases hs20

/-- A request after whose response the loop goes on has been answered. -/
theorem serve_tallied {f : ServedFrame} {served : Stream} {r : Request}
    (hdecoded : Decoded build station.s20.isSome stream r) (htally : Tallied build station stream n)
    (hprotocol : served.protocol = r.protocol)
    (hcount : served.consecutiveUndecodable = 0)
    (hexit : (serve build f station served r).exit = none) :
    Tallied build (serve build f station served r).station (serve build f station served r).stream
      ((serve build f station served r).tally build f.input n) := by
  unfold serve deliver at hexit ⊢
  dsimp only at hexit ⊢
  -- an unsent response ends the loop
  cases hrc : (f.exchange build station served.sequence r).rc with
  | error e =>
    simp only [hrc, leave, reduceCtorEq] at hexit
  | ok =>
  simp only [hrc] at hexit ⊢
  unfold concludeExchange at hexit ⊢
  dsimp only at hexit ⊢
  split_ifs at hexit ⊢ with hterminate hstopped
  · cases hexit
  · cases hexit
  refine .of_answers (by simp [Turn.answers, proceed, StreamEvent.answered, hrc]) rfl hcount
    fun hserved => ?_
  have hrequest : r.protocol = .iso15118_20_dc := hprotocol.symm.trans hserved
  obtain ⟨htype, hnegotiated⟩ := hdecoded.of_iso20 hrequest
  have hbuild : build.iso20 = true := by
    rcases hnegotiated with hselected | hstream
    · exact (Bool.and_eq_true_iff.mp hselected).1
    · exact (htally.live20 hstream).1
  exact ⟨hbuild, rearm_live hbuild htype hserved⟩

/-- The loop goes on with its count. -/
theorem serveTurn_tallied {f : ServedFrame} (htally : Tallied build station stream n)
    (hexit : (serveTurn build codec codec20 f station stream).exit = none) :
    Tallied build (serveTurn build codec codec20 f station stream).station
      (serveTurn build codec codec20 f station stream).stream
      ((serveTurn build codec codec20 f station stream).tally build f.input n) := by
  rw [serveTurn] at hexit ⊢
  cases hdispatched : dispatchedRequest build codec f.input station stream with
  | some dispatched =>
    obtain ⟨r, sequence⟩ := dispatched
    simp only [hdispatched] at hexit ⊢
    exact serve_tallied (decoded_of_presented (presented_of_dispatched hdispatched).1) htally
      rfl rfl hexit
  | none =>
    simp only [hdispatched] at hexit ⊢
    have hfate := streamTurn_fate build codec codec20 f.input station stream
    generalize streamTurn build codec codec20 f.input station stream = turn at hfate hexit ⊢
    cases hfate with
    | unread => cases hexit
    | frame20 hrecv hprotocol => exact frame20Turn_tallied hrecv hprotocol htally hexit
    | undecoded =>
      exact undecodable_tallied htally (fun hprotocol => (htally.live20 hprotocol).2.2) (by simp)
        hexit
    | request hpresented =>
      -- a request that is not dispatched ends the loop
      obtain ⟨e, hclosed⟩ := requestTurn_of_not_dispatched hpresented hdispatched
      cases hclosed.symm.trans hexit

end Count

/-! ## Runs -/

section Runs

variable {build : Build} {codec : Codec} {codec20 : Codec20} {station : Station}
  {stream : Stream} {n : Option ℕ}

/-- The loop goes on after its first frame. -/
theorem serveLoop_of_open {f : ServedFrame}
    (hexit : (serveTurn build codec codec20 f station stream).exit = none)
    (frames : List ServedFrame) :
    serveLoop build codec codec20 station stream (f :: frames) =
      let turn := serveTurn build codec codec20 f station stream
      let rest := serveLoop build codec codec20 turn.station turn.stream frames
      { rest with events := turn.events ++ rest.events } := by
  rw [serveLoop]
  simp only [hexit]

/-- A loop that has not exited has the count of the frames since the last answer. -/
theorem serveLoop_tallied (frames : List ServedFrame) (htally : Tallied build station stream n)
    (hopen : (serveLoop build codec codec20 station stream frames).exit = none) :
    Tallied build (serveLoop build codec codec20 station stream frames).station
      (serveLoop build codec codec20 station stream frames).stream
      (sinceAnswer build codec codec20 station stream n frames) := by
  -- along the frames, each of which the loop goes on after
  induction frames generalizing station stream n with
  | nil => exact htally
  | cons f frames ih =>
    cases hexit : (serveTurn build codec codec20 f station stream).exit with
    | some rc =>
      rw [serveLoop_of_exit hexit, hexit] at hopen
      cases hopen
    | none =>
      rw [serveLoop_of_open hexit] at hopen ⊢
      exact ih (serveTurn_tallied htally hexit) hopen

/-- Ignoring frames one after the other. -/
theorem Ignores.trans {first rest : Turn} {j k : ℕ} (hfirst : Ignores station stream first j)
    (hrest : Ignores first.station first.stream rest k) (events : List StreamEvent) :
    Ignores station stream { rest with events } (j + k) := by
  refine ⟨hrest.exit_eq, hrest.secc_eq.trans hfirst.secc_eq,
    hrest.statics_eq.trans hfirst.statics_eq, hrest.s20_eq.trans hfirst.s20_eq, ?_⟩
  rw [hrest.stream_eq, hfirst.stream_eq, Nat.add_assoc]

/-- An ignored frame leaves an ISO 15118-20 session as live as it was, and is counted. -/
theorem Ignores.tallied {turn : Turn} {k : ℕ} (h : Ignores station stream turn 1)
    (htally : Tallied build station stream (some k)) :
    Tallied build turn.station turn.stream (some (k + 1)) := by
  have hcounted := htally.tally_eq
  split_ifs at hcounted with hhandled
  cases hcounted
  refine ⟨?_, ?_⟩
  · rw [h.stream_eq, if_pos hhandled]
  · intro hprotocol
    rw [h.stream_eq] at hprotocol ⊢
    obtain ⟨hbuild, -, hlive⟩ := htally.live20 hprotocol
    refine ⟨hbuild, hhandled, fun s20 hs20 => ?_⟩
    have hreceived := h.s20_eq
    rw [hs20, Option.map_some] at hreceived
    obtain ⟨before, hbefore, heq⟩ := Option.map_eq_some_iff.mp hreceived.symm
    -- receipt does not touch the state
    have hstate : before.received.state = s20.received.state := congrArg Secc20.state heq
    exact fun hended => hlive before hbefore (hstate.trans hended)

variable {run : List ServedFrame}

/-- Up to six undecodable frames since the last answer are ignored. -/
theorem UndecodableRun.ignored (hrun : UndecodableRun build codec codec20 station stream run)
    {k : ℕ} (htally : Tallied build station stream (some k)) (hfew : k + run.length ≤ 6) :
    Ignores station stream (serveLoop build codec codec20 station stream run) run.length := by
  -- along the run, with one more frame counted each time
  induction run generalizing station stream k with
  | nil => exact ⟨rfl, rfl, rfl, rfl, rfl⟩
  | cons f run ih =>
    rw [List.length_cons] at hfew ⊢
    obtain ⟨⟨msg, hreads, hlate⟩, hrest⟩ := hrun
    have hignores : Ignores station stream (serveTurn build codec codec20 f station stream) 1 :=
      serveTurn_ignores hreads hlate htally (by omega)
    rw [serveLoop_of_open hignores.exit_eq, Nat.add_comm run.length 1]
    exact hignores.trans (ih (hrest hignores.exit_eq) (hignores.tallied htally) (by omega)) _

/-- The seventh undecodable frame since the last answer ends the stream. -/
theorem UndecodableRun.ended (hrun : UndecodableRun build codec codec20 station stream run)
    (htally : Tallied build station stream n) (hne : run ≠ [])
    (hmany : ∀ k, n = some k → 6 < k + run.length) :
    (serveLoop build codec codec20 station stream run).exit = some (.error .ebadmsg) := by
  -- along the run, until six frames have been ignored
  induction run generalizing station stream n with
  | nil => exact absurd rfl hne
  | cons f run ih =>
    obtain ⟨⟨msg, hreads, hlate⟩, hrest⟩ := hrun
    by_cases hfew : ∃ k, n = some k ∧ k < 6
    -- the frame is ignored, and there is a later one
    · obtain ⟨k, rfl, hfew⟩ := hfew
      have hignores : Ignores station stream (serveTurn build codec codec20 f station stream) 1 :=
        serveTurn_ignores hreads hlate htally hfew
      have hlength := hmany k rfl
      rw [List.length_cons] at hlength
      rw [serveLoop_of_open hignores.exit_eq]
      apply ih (hrest hignores.exit_eq) (hignores.tallied htally)
      · intro hnil
        rw [hnil, List.length_nil] at hlength
        omega
      · intro j hj
        cases hj
        omega
    · have hends : (serveTurn build codec codec20 f station stream).exit =
          some (.error .ebadmsg) := by
        apply serveTurn_ends hreads hlate htally
        intro k hk
        have : ¬k < 6 := fun hlt => hfew ⟨k, hk, hlt⟩
        omega
      rw [serveLoop_of_exit hends, hends]

/-- No frame of the run is answered. -/
theorem UndecodableRun.silent (hrun : UndecodableRun build codec codec20 station stream run)
    (htally : Tallied build station stream n) :
    ∀ e ∈ (serveLoop build codec codec20 station stream run).events, e.silent := by
  -- along the run, as far as the loop goes
  induction run generalizing station stream n with
  | nil => simp [serveLoop, proceed]
  | cons f run ih =>
    obtain ⟨⟨msg, hreads, hlate⟩, hrest⟩ := hrun
    have hfirst := serveTurn_silent hreads hlate htally
    cases hexit : (serveTurn build codec codec20 f station stream).exit with
    | some rc =>
      rw [serveLoop_of_exit hexit]
      exact hfirst
    | none =>
      obtain ⟨k, rfl, hignores⟩ := serveTurn_ignored_of_open hreads hlate htally hexit
      rw [serveLoop_of_open hexit]
      intro e he
      rcases List.mem_append.mp he with he | he
      · exact hfirst e he
      · exact ih (hrest hexit) (hignores.tallied htally) e he

/-- The invariant holds at the start of a stream. -/
theorem tallied_init : Tallied build station .init none := by
  refine ⟨rfl, ?_⟩
  intro hprotocol
  cases hprotocol

end Runs

/-- On every stream, whatever it has read so far and whatever its handler does, every run of
undecodable frames is tolerated up to six frames since the last answer, on either path; a frame
that comes too late for the ISO 15118-20 session ends the stream. -/
theorem undecodable_tolerated (build : Build) (codec : Codec) (codec20 : Codec20)
    (station : Station) (frames run : List ServedFrame) (now : Turn)
    (hnow : handleServed build codec codec20 station frames = now) (hopen : now.exit = none)
    (hrun : UndecodableRun build codec codec20 now.station now.stream run) :
    Tolerated build codec codec20 now.station now.stream
      (sinceAnswer build codec codec20 station.connected .init none frames) run := by
  have htally : Tallied build now.station now.stream
      (sinceAnswer build codec codec20 station.connected .init none frames) := by
    subst hnow
    exact serveLoop_tallied frames tallied_init hopen
  -- the run meets the count that the frames before it have left
  refine ⟨?_, hrun.ended htally, hrun.silent htally, ?_⟩
  · intro k hk hfew
    rw [hk] at htally
    exact hrun.ignored htally hfew
  · intro f msg hexit hreads hlate
    exact serveTurn_late hreads hlate (serveLoop_tallied run htally hexit)

/-! ## A sample ISO 15118-20 stream -/

/-- The same frame, served by the default handler. -/
def sampleServed (payloadType : PayloadType) (payload : List UInt8) (nowArrival : ℕ) :
    ServedFrame :=
  (sampleArrival payloadType payload nowArrival).served sampleBuild20 sampleNegotiation20

/-- A stream that has just selected ISO 15118-20. -/
def sampleNegotiated20 : Turn :=
  handleServed sampleBuild20 sampleNegotiation20 sampleCodec20 sampleStation20
    [sampleServed .exi [0] 0]

/-- An ISO 15118-20 frame and a legacy frame in a row that cannot be decoded. -/
theorem sampleNegotiated20_run :
    UndecodableRun sampleBuild20 sampleNegotiation20 sampleCodec20 sampleNegotiated20.station
      sampleNegotiated20.stream
      [sampleServed .exi20Mainstream [99] 1, sampleServed .exi [99] 2] := by
  refine ⟨⟨⟨.exi20Mainstream, [99]⟩, ⟨rfl, .inr ⟨by decide, by decide, .inl rfl, ?_⟩, by simp⟩, ?_⟩,
    fun _ => ⟨⟨⟨.exi, [99]⟩, ⟨rfl, .inl ⟨rfl, by decide⟩, by simp⟩, fun h => h.1 rfl⟩, fun _ =>
      trivial⟩⟩
  · intro doc hdoc
    cases hdoc
  · rintro ⟨-, s20, hs20, hexpired⟩
    cases hs20
    revert hexpired
    decide

/-- Two frames that cannot be decoded, after the negotiation of ISO 15118-20. -/
theorem undecodable_tolerated_sample :
    sampleNegotiated20.exit = none ∧
      Tolerated sampleBuild20 sampleNegotiation20 sampleCodec20 sampleNegotiated20.station
        sampleNegotiated20.stream
        (sinceAnswer sampleBuild20 sampleNegotiation20 sampleCodec20 sampleStation20.connected
          .init none [sampleServed .exi [0] 0])
        [sampleServed .exi20Mainstream [99] 1, sampleServed .exi [99] 2] :=
  ⟨by decide, undecodable_tolerated _ _ _ _ _ _ sampleNegotiated20 rfl (by decide)
    sampleNegotiated20_run⟩

/-- Right after an answer, an undecodable frame of an ISO 15118-20 stream is not ignored when the
sequence timer has expired. -/
theorem undecodable_not_ignored :
    sinceAnswer sampleBuild20 sampleNegotiation20 sampleCodec20 sampleStation20.connected .init
        none [sampleServed .exi [0] 0] = some 0 ∧
      ReadsUndecodable sampleBuild20 sampleNegotiation20 sampleCodec20
        (sampleArrival .exi20Mainstream [99] 60001) sampleNegotiated20.station
        sampleNegotiated20.stream ⟨.exi20Mainstream, [99]⟩ ∧
      (serveTurn sampleBuild20 sampleNegotiation20 sampleCodec20
        (sampleServed .exi20Mainstream [99] 60001) sampleNegotiated20.station
        sampleNegotiated20.stream).exit = some (.error .etimedout) := by
  refine ⟨by decide, ⟨rfl, .inr ⟨by decide, by decide, .inl rfl, ?_⟩, by simp⟩, by decide⟩
  intro doc hdoc
  cases hdoc

end Jpv2g
