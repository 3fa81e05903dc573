import Jpv2g.Secc.Stream.Pause

/-!
# The Mode of a Paused Session

The station remembers whether the paused session had negotiated DC, and the mode is recorded apart
from the identifier: after the SessionStopRes has been sent, and for every stop while a pause is
retained. It is the mode of the retained pause as long as no stop separates the two.

## Main definitions

* `ModeRecorded`: a pausing stop is answered, and another one does not touch a retained pause,
  unless the recorded mode is already that of the connection.

## Main results

* `pause_mode_coherent`: under this condition, the recorded mode is that of the retained pause.
-/

namespace Jpv2g

open Trace

/-- Whenever a session is remembered, it is that of the retained pause, and the recorded mode is
that of the connection whose stop retained it. -/
def PauseCoherent (run : Charger × List StreamEvent) : Prop :=
  run.1.station.secc.lastSessionId ≠ .zero →
    ∃ pause, retainedPause run.2 = some pause ∧
      run.1.station.secc.lastSessionId = pause.sid ∧
      run.1.station.secc.lastSessionWasDc = pause.wasDc

/-! ## Sending the response to a stop -/

/-- The response to a stop. -/
def Request.stopRes (request : Request) (sid : Sid) : Res :=
  if request.isDin then .din sid (.sessionStop .ok) else .iso2 sid (.sessionStop .ok)

/-- The response is encoded, fits into a frame, and is sent. -/
def Delivered (codec : Codec) (i : ChargerInput) (res : Res) : Prop :=
  match i, codec.encode res with
  | .frame input, .ok bytes =>
    bytes ≠ [] ∧ bytes.length ≤ maxPayloadLength ∧ input.send = .ok ()
  | _, _ => False

instance (codec : Codec) (i : ChargerInput) (res : Res) : Decidable (Delivered codec i res) := by
  unfold Delivered
  split <;> infer_instance

/-- A SessionStopReq passes both gates of a connection whose mode is not the recorded one. -/
def Request.changesMode (r : Request) (secc : Secc) (stream : Stream) : Prop :=
  r.type = .sessionStopReq ∧ (seccAcceptRequestSequence stream.sequence r).2 = .ok () ∧
    validateRequestSession secc r = .ok () ∧ secc.lastSessionWasDc ≠ stream.sequence.isDc

instance (r : Request) (secc : Secc) (stream : Stream) : Decidable (r.changesMode secc stream) :=
  inferInstanceAs (Decidable (_ ∧ _ ∧ _ ∧ _))

/-- A stop that changes the recorded mode is answered when it asks for a pause; when it does not,
it is not answered, or no pause is retained. -/
def ModeRecorded (build : Build) (codec : Codec) (_ : List StreamEvent) (c : Charger)
    (i : ChargerInput) : Prop :=
  ∀ stream ∈ c.stream, ∀ r ∈ c.presented build codec i, r.changesMode c.station.secc stream →
    if r.pauses then Delivered codec i (r.stopRes c.station.secc.sessionId)
    else c.station.secc.lastSessionId = .zero ∨
      ¬Delivered codec i (r.stopRes c.station.secc.sessionId)

instance (build : Build) (codec : Codec) (t : List StreamEvent) (c : Charger) (i : ChargerInput) :
    Decidable (ModeRecorded build codec t c i) :=
  inferInstanceAs (Decidable (∀ stream ∈ c.stream, ∀ r ∈ c.presented build codec i,
    r.changesMode c.station.secc stream →
    if r.pauses then Delivered codec i (r.stopRes c.station.secc.sessionId)
    else c.station.secc.lastSessionId = .zero ∨
      ¬Delivered codec i (r.stopRes c.station.secc.sessionId)))

section Stops

variable {build : Build} {codec : Codec} {station : Station} {x : Exchange}

/-- Exactly the delivered responses are transmitted. -/
theorem transmit_ok_iff {input : FrameInput} {result : HandlerResult} {res : Res}
    (hrc : result.rc = codec.encode res) :
    transmit build input result = .ok () ↔ Delivered codec (.frame input) res := by
  unfold transmit Delivered
  rw [hrc]
  cases codec.encode res with
  | error e => simp
  | ok bytes =>
    by_cases hbytes : bytes = []
    · simp [hbytes]
    by_cases hlength : bytes.length ≤ maxPayloadLength
    · have hframe : v2gtpBuild build.iso20 .exi bytes maxV2gtpSize =
          .ok (v2gtpHeader .exi bytes.length ++ bytes) := v2gtpBuild_ok rfl hlength
      simp [hbytes, hlength, hframe]
    · have hframe : v2gtpBuild build.iso20 .exi bytes maxV2gtpSize = .error .e2big := by
        simp [v2gtpBuild, payloadTypeSupported, Nat.lt_of_not_le hlength]
      simp [hbytes, hlength, hframe]

/-- A stop is answered with its response. -/
theorem Exchange.Runs.stop_rc (hruns : x.Runs build codec station)
    (hsession : validateRequestSession station.secc x.request = .ok ())
    (htype : x.request.type = .sessionStopReq) :
    x.result.rc = codec.encode (x.request.stopRes station.secc.sessionId) := by
  have hactive := (validateRequestSession_ok hsession (by simp [htype]) (by simp [htype])).2
  rw [hruns.result_eq, defaultHandle, resolveSession_of_active (by simp [htype]) hactive]
  simp only [handleResolved, htype, handleSessionStop, Request.stopRes]
  split_ifs <;> rfl

/-- A stop keeps the mode of the sequence. -/
theorem Accepts.isDc_of_sessionStop {r : Request} {s s' : Sequence} (hacc : Accepts r s s')
    (hr : r.type = .sessionStopReq) : s'.isDc = s.isDc := by
  cases hacc with
  | directSetup | negotiate => rfl
  | move _ _ hmove => cases hmove <;> grind [Sequence.isDc, Request.type_of_powerDelivery]

end Stops

/-! ## The recorded mode -/

/-- The record remembers the retained pause and its mode, and the connection is not about to be
terminated. -/
structure RemembersMode (t : List StreamEvent) (c : Charger) : Prop where
  retains : c.station.secc.Retains (retainedPause t)
  coherent : ∀ pause ∈ retainedPause t, c.station.secc.lastSessionWasDc = pause.wasDc
  armed : ∀ stream, c.stream = some stream → c.station.secc.terminateAfterResponse = false

section Record

variable {build : Build} {codec : Codec} {station : Station} {x : Exchange} {secc : Secc}
  {next : Option Stream} {t es : List StreamEvent} {c c' : Charger} {i : ChargerInput}

/-- A connection that goes on is not about to be terminated. -/
theorem Fate.armed {stream : Stream} (h : Fate x secc next) (hnext : next = some stream) :
    secc.terminateAfterResponse = false := by
  cases h with
  | unsent | terminated => cases hnext
  | sent _ hterminate =>
    unfold applyResume Secc.recordPauseMode
    split_ifs <;> exact hterminate

/-- Only a stop records a mode. -/
theorem Fate.wasDc_of_ne (h : Fate x secc next) (htype : x.request.type ≠ .sessionStopReq) :
    secc.lastSessionWasDc = x.result.secc.lastSessionWasDc := by
  cases h with
  | unsent | terminated => rfl
  | sent =>
    rw [Secc.recordPauseMode_of_ne_sessionStop htype]
    unfold applyResume
    split_ifs <;> rfl

/-- A stop records the mode of its connection when it is answered while a pause is retained. -/
theorem Fate.wasDc_of_sessionStop (h : Fate x secc next)
    (htype : x.request.type = .sessionStopReq)
    (harmed : x.result.secc.terminateAfterResponse = false) :
    secc.lastSessionWasDc =
      if x.rc = .ok () ∧ x.result.secc.lastSessionId ≠ .zero then x.sequence.isDc
      else x.result.secc.lastSessionWasDc := by
  cases h with
  | unsent hrc => simp [hrc]
  | terminated _ hterminate => simp [harmed] at hterminate
  -- a stop applies no resume, so that the recorded mode is what remains
  | sent hrc =>
    rw [applyResume_of_ne_sessionSetup (by simp [htype])]
    unfold Secc.recordPauseMode
    simp only [htype, hrc, Sid.allZero_eq_false_iff, true_and]
    split_ifs <;> rfl

/-- A request that neither stops nor joins a session leaves the recorded mode alone. -/
theorem Exchange.Runs.wasDc_of_ne (hruns : x.Runs build codec station)
    (hsession : validateRequestSession station.secc x.request = .ok ())
    (hstop : x.request.type ≠ .sessionStopReq) (hjoins : ¬x.joins) :
    x.result.secc.lastSessionWasDc = station.secc.lastSessionWasDc := by
  by_cases happ : x.request.type = .suppAppProtocolReq
  · obtain ⟨sid, -, heq⟩ := hruns.negotiates happ
    rw [heq]
    rfl
  by_cases hsetup : x.request.type = .sessionSetupReq
  · have hresumes : ∀ sid, ¬station.secc.Resumes x.env.nowMs x.request sid :=
      fun sid h => hjoins (hruns.joined hsetup h).1
    rw [(hruns.established hsetup hresumes).2.1.lastSessionWasDc]
    exact (newSession_keeps station.secc x.env.rng).2.2
  · exact (hruns.ordinary hsession happ hsetup hstop).same.lastSessionWasDc

/-- Closing the session leaves the recorded mode alone. -/
theorem stopSession_keeps {nowMs : ℕ} {evPaused : Bool} :
    (secc.stopSession nowMs evPaused).lastSessionWasDc = secc.lastSessionWasDc ∧
      (secc.stopSession nowMs evPaused).terminateAfterResponse =
        secc.terminateAfterResponse := by
  unfold Secc.stopSession
  split_ifs <;> exact ⟨rfl, rfl⟩

/-- A stop replaces the retained pause when it asks for one. -/
theorem retainedPause_of_sessionStop (htype : x.request.type = .sessionStopReq) :
    retainedPause (t ++ [.dispatched x]) = x.pause.or (retainedPause t) := by
  have hjoins : ¬x.joins := fun hjoins => by simp [hjoins.1] at htype
  rw [retainedPause_concat]
  simp only [StreamEvent.pauseChange, hjoins, if_false]
  cases x.pause <;> rfl

/-- The mode a stop leaves behind is that of the retained pause, when the condition is met. -/
theorem RemembersMode.stop {stream : Stream} {pause : Pause} (h : RemembersMode t c)
    (hstream : c.stream = some stream) (hpresented : c.presented build codec i = some x.request)
    (hgate : seccAcceptRequestSequence stream.sequence x.request = (x.sequence, .ok ()))
    (hsession : validateRequestSession c.station.secc x.request = .ok ())
    (hruns : x.Runs build codec c.station)
    (hinput : ∃ input, i = .frame input ∧ x.env = input.env ∧
      x.rc = transmit build input x.result)
    (hfate : Fate x secc next) (hC : ModeRecorded build codec t c i)
    (htype : x.request.type = .sessionStopReq)
    (hpause : retainedPause (t ++ [.dispatched x]) = some pause) :
    secc.lastSessionWasDc = pause.wasDc := by
  have hdc : x.sequence.isDc = stream.sequence.isDc :=
    (accepts_of_ok hgate).isDc_of_sessionStop htype
  have hstop := (hruns.stopped hsession htype).1
  have hsent : x.rc = .ok () ↔
      Delivered codec i (x.request.stopRes c.station.secc.sessionId) := by
    obtain ⟨input, rfl, -, hrc⟩ := hinput
    rw [hrc]
    exact transmit_ok_iff (hruns.stop_rc hsession htype)
  -- the loop rewrites the mode exactly when the response is out and a pause is retained
  have hmode : secc.lastSessionWasDc =
      if x.rc = .ok () ∧ x.result.secc.lastSessionId ≠ .zero then stream.sequence.isDc
      else c.station.secc.lastSessionWasDc := by
    have harmed : x.result.secc.terminateAfterResponse = false := by
      rw [hstop, stopSession_keeps.2]
      exact h.armed stream hstream
    rw [hfate.wasDc_of_sessionStop htype harmed, hdc]
    congr 1
    rw [hstop, stopSession_keeps.1]
  have hretains : x.result.secc.Retains (some pause) := by
    rw [← hpause, retainedPause_concat]
    exact hruns.retains hsession h.retains
  have hretained : x.result.secc.lastSessionId ≠ .zero := hretains.2.1 ▸ hretains.1
  rw [retainedPause_of_sessionStop htype] at hpause
  have hC : c.station.secc.lastSessionWasDc ≠ stream.sequence.isDc → _ := fun hne =>
    hC stream hstream x.request hpresented ⟨htype, by rw [hgate], hsession, hne⟩
  by_cases hpauses : x.request.pauses = true
  · -- the pause is the one this stop asks for
    rw [Exchange.pause, if_pos ⟨htype, hpauses⟩, Option.some_or] at hpause
    cases hpause
    rw [hmode, hdc]
    split_ifs with hrc
    · rfl
    · by_contra hne
      have hdelivered := hC hne
      rw [if_pos hpauses] at hdelivered
      exact hrc ⟨hsent.mpr hdelivered, hretained⟩
  · -- the pause was retained before
    rw [Exchange.pause, if_neg fun hstop => hpauses hstop.2, Option.none_or] at hpause
    have hcoherent := h.coherent pause hpause
    rw [hmode]
    split_ifs with hrc
    · by_contra hne
      have hdelivered := hC fun heq => hne (heq.symm.trans hcoherent)
      rw [if_neg hpauses] at hdelivered
      have hbefore := h.retains
      rw [hpause] at hbefore
      rcases hdelivered with hzero | hdelivered
      · exact hbefore.1 (hbefore.2.1.symm.trans hzero)
      · exact hdelivered (hsent.mp hrc.1)
    · exact hcoherent

/-- Every move that meets the condition remembers the mode of the retained pause. -/
theorem RemembersMode.move (h : RemembersMode t c) (hmove : ChargerMove build codec c i c' es)
    (hC : ModeRecorded build codec t c i) : RemembersMode (t ++ es) c' := by
  refine ⟨hmove.retains h.retains, ?_, ?_⟩
  · cases hmove with
    | idle => simpa using h.coherent
    | connect | retire | rejected | refused =>
      rw [retainedPause_append (by simp [StreamEvent.pauseChange])]
      exact h.coherent
    | quiet _ hsecc _ _ hes =>
      rw [retainedPause_append fun e he => (hes e he).pauseChange_eq, hsecc]
      exact h.coherent
    | @dispatched stream x _ tail hstream hpresented _ hgate hsession hruns hinput _ hfate htail =>
      rw [← List.singleton_append, ← List.append_assoc,
        retainedPause_append fun e he => (htail e he).pauseChange_eq]
      intro pause hpause
      by_cases hstop : x.request.type = .sessionStopReq
      · exact h.stop hstream hpresented hgate hsession hruns hinput hfate hC hstop hpause
      -- a join leaves no pause to be coherent with
      by_cases hjoins : x.joins
      · rw [retainedPause_concat] at hpause
        simp [StreamEvent.pauseChange, hjoins] at hpause
      · have hkept : retainedPause t = some pause := by
          rw [← hpause, retainedPause_concat]
          simp [StreamEvent.pauseChange, hjoins, Exchange.pause, hstop]
        rw [hfate.wasDc_of_ne hstop, hruns.wasDc_of_ne hsession hstop hjoins]
        exact h.coherent pause hkept
  · intro stream hnext
    cases hmove with
    | idle => exact h.armed stream hnext
    | connect => rfl
    | retire hstream => cases hstream.symm.trans hnext
    | quiet hstream hsecc =>
      rw [hsecc]
      exact h.armed _ hstream
    | rejected | refused => cases hnext
    | dispatched _ _ _ _ _ _ _ _ hfate => exact hfate.armed hnext

end Record

/-- A fresh record remembers nothing. -/
theorem remembersMode_init (cfg : SeccConfig) (authorizeContract isFreeCharging : Bool)
    (statics : HandlerStatics) (s20 : Option Secc20) :
    RemembersMode []
      { station := { secc := .init cfg authorizeContract isFreeCharging, statics, s20 }
        stream := none } :=
  ⟨rfl, by simp [retainedPause], fun _ hstream => by cases hstream⟩

/-- A station that remembers its mode is coherent. -/
theorem RemembersMode.pauseCoherent {run : Charger × List StreamEvent}
    (h : RemembersMode run.2 run.1) : PauseCoherent run := by
  intro hzero
  have hretains := h.retains
  cases hpause : retainedPause run.2 with
  | none =>
    rw [hpause] at hretains
    exact absurd hretains hzero
  | some pause =>
    rw [hpause] at hretains
    exact ⟨pause, rfl, hretains.2.1, h.coherent pause hpause⟩

/-- Over every history of connections from a fresh record whose stops all meet the condition, the
recorded mode is that of the connection whose stop retained the pause. -/
theorem pause_mode_coherent (build : Build) (codec : Codec) (codec20 : Codec20) (cfg : SeccConfig)
    (authorizeContract isFreeCharging : Bool) (statics : HandlerStatics) (s20 : Option Secc20)
    (inputs : List ChargerInput)
    (hrecorded : (charger build codec codec20).Meets (ModeRecorded build codec) []
      { station := { secc := .init cfg authorizeContract isFreeCharging, statics, s20 }
        stream := none } inputs) :
    PauseCoherent ((charger build codec codec20).run
      { station := { secc := .init cfg authorizeContract isFreeCharging, statics, s20 }
        stream := none } inputs) := by
  have hrun := (charger build codec codec20).run_induction_of_meets RemembersMode
    (fun t c i h hC => h.move (charger_move c i) hC) (remembersMode_init _ _ _ _ _) hrecorded
  exact hrun.pauseCoherent

/-- A connection that pauses a DC session. -/
def samplePause : List ChargerInput :=
  sampleDiscovery true ++ [sampleRequest 7 true true, sampleRequest 12 true true]

/-- A connection that terminates a new session before its mode is known. -/
def sampleTerminate : List ChargerInput :=
  .connect :: [0, 13, 14].map fun number =>
    sampleRequestIn { sampleEnv true with rng := ⟨[.ok laterSid], rfl⟩ } number true

/-- A paused DC session. -/
theorem pause_mode_coherent_sample :
    PauseCoherent ((charger sampleBuild sampleCodec emptyCodec20).run
      { station := sampleStation, stream := none } samplePause) :=
  pause_mode_coherent _ _ _ _ _ _ _ _ _ (by decide)

/-- A later session that terminates overwrites the mode of a retained pause. -/
theorem not_coherent_after_terminate :
    ¬∀ (build : Build) (codec : Codec) (codec20 : Codec20) (cfg : SeccConfig)
      (authorizeContract isFreeCharging : Bool) (statics : HandlerStatics)
      (s20 : Option Secc20) (inputs : List ChargerInput),
      ((charger build codec codec20).run
        { station := { secc := .init cfg authorizeContract isFreeCharging, statics, s20 }
          stream := none } inputs).1.stream = none →
      PauseCoherent ((charger build codec codec20).run
        { station := { secc := .init cfg authorizeContract isFreeCharging, statics, s20 }
          stream := none } inputs) := by
  intro h
  have hrun := h sampleBuild sampleCodec emptyCodec20
    { freeCharging := false, supportedEnergyModes := "DC_core".toList } true false .init none
    (samplePause ++ sampleTerminate) rfl
  obtain ⟨pause, hpause, -, hmode⟩ := hrun (by decide)
  have hdc : some true = some pause.wasDc := congrArg (Option.map Pause.wasDc) hpause
  have hmode : false = pause.wasDc := hmode
  rw [← hmode] at hdc
  cases hdc

end Jpv2g
