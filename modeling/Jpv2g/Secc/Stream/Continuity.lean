import Jpv2g.Secc.Stream.Live

/-!
# Session Continuity

A connection serves one session. Its identifier is the one the SessionSetupRes returned, whether
the session was established, joined or left over; every later request presents it and is answered
in its name, and nothing follows a SessionStopReq.

## Main definitions

* `setupSid`: the identifier the SessionSetupRes of a connection returned.
* `Continuous`: a request belongs to the session that was set up.

## Main results

* `session_continuity`: every dispatched request belongs to the session that was set up, and a
  SessionStopReq ends the connection and the session.
-/

namespace Jpv2g

open Trace

/-- The identifier in the header of a SessionSetupRes. -/
def StreamEvent.setupSid : StreamEvent → Option Sid
  | .dispatched x =>
    if x.request.type = .sessionSetupReq then x.result.res.bind Res.sid else none
  | _ => none

/-- The identifier the last SessionSetupRes returned. -/
def setupSid (seg : List StreamEvent) : Option Sid :=
  lastSome StreamEvent.setupSid seg

/-- A SessionStopReq was dispatched. -/
def StreamEvent.stops : StreamEvent → Prop
  | .dispatched x => x.request.type = .sessionStopReq
  | _ => False

/-- A dispatched request follows no SessionStopReq; after the setup it presents the identifier that
the setup returned, and is answered with it. -/
def Continuous (codec : Codec) (seg : List StreamEvent) : StreamEvent → Prop
  | .dispatched x =>
    (∀ e ∈ seg, ¬e.stops) ∧
      (x.request.type ≠ .suppAppProtocolReq → x.request.type ≠ .sessionSetupReq →
        ∃ sid, setupSid seg = some sid ∧ x.request.sessionBytes = some sid.1 ∧
          AnswersAs codec sid x.result)
  | _ => True

/-- The invariant: past the setup the live identifier is the one the setup returned, and no session
has been stopped. -/
def SetUp (seg : List StreamEvent) (secc : Secc) (sequence : Sequence) (_ : Protocol) : Prop :=
  (sequence.phase ≠ .appProtocol → sequence.phase ≠ .sessionSetup →
    setupSid seg = some secc.sessionId) ∧ ∀ e ∈ seg, ¬e.stops

theorem StreamEvent.quiet.setupSid_eq {e : StreamEvent} (h : e.quiet) : e.setupSid = none := by
  cases e with
  | frame20 | reset20 | closed => rfl
  | _ => exact h.elim

theorem StreamEvent.quiet.not_stops {e : StreamEvent} (h : e.quiet) : ¬e.stops := by
  cases e with
  | frame20 | reset20 | closed => exact id
  | _ => exact h.elim

theorem setUp_live (build : Build) (codec : Codec) :
    LiveInvariant build codec (fun _ _ _ => True) SetUp (Continuous codec) where
  init := fun _ => ⟨fun happ => absurd rfl happ, by simp⟩
  quiet := fun {seg secc sequence hint e} hinv hquiet => by
    refine ⟨fun happ hsetup => ?_, fun e' he' => ?_⟩
    · rw [setupSid, lastSome_concat, hquiet.setupSid_eq]
      exact hinv.1 happ hsetup
    · rcases List.mem_append.mp he' with he' | he'
      · exact hinv.2 e' he'
      · exact List.mem_singleton.mp he' ▸ hquiet.not_stops
  unconstrained := fun {_ e} hnone _ => by
    cases e with
    | dispatched x => cases hnone
    | _ => trivial
  framed := fun _ _ _ _ => trivial
  refused := fun _ _ _ => trivial
  dispatched := fun {t c i stream x} hpasses _ hinv hsession hruns => by
    have hacc := accepts_of_ok hpasses.gate
    have hlive : x.request.type ≠ .suppAppProtocolReq → x.request.type ≠ .sessionSetupReq →
        setupSid (thisStream t) = some c.station.secc.sessionId := by
      intro happ hsetup
      obtain ⟨hpast, hpast'⟩ := hacc.past_setup happ hsetup
      exact hinv.1 hpast hpast'
    refine ⟨⟨hinv.2, fun happ hsetup => ⟨_, hlive happ hsetup, ?_, ?_⟩⟩, fun hrc hstop => ?_⟩
    · exact (validateRequestSession_ok hsession happ hsetup).1
    · exact hruns.answers hsession happ hsetup
    · refine ⟨fun happ' hsetup' => ?_, fun e he => ?_⟩
      · rw [applyResume_phase] at happ' hsetup'
        rw [concluded_keeps.1, setupSid, lastSome_concat]
        by_cases hsetup : x.request.type = .sessionSetupReq
        -- the setup returns the identifier it leaves live
        · obtain ⟨bytes, hbytes⟩ := hruns.encoded hrc
          obtain ⟨res, hres, -, hsid⟩ := hruns.setup_answers hsetup bytes hbytes
          simp [StreamEvent.setupSid, hsetup, hres, hsid]
        -- any other request past the setup leaves it alone
        · have happ : x.request.type ≠ .suppAppProtocolReq :=
            fun happ => hsetup' (hacc.of_suppAppProtocol happ).1
          rw [(hruns.ordinary hsession happ hsetup hstop).same.sessionId]
          have hlast := hlive happ hsetup
          rw [setupSid] at hlast
          simp [StreamEvent.setupSid, hsetup, hlast]
      · rcases List.mem_append.mp he with he | he
        · exact hinv.2 e he
        · exact List.mem_singleton.mp he ▸ hstop

/-! ## The end of a session -/

/-- A connection whose session was stopped is over, and so is the session. -/
def StopEnds (t : List StreamEvent) (c : Charger) : Prop :=
  (∃ e ∈ thisStream t, e.stops) → c.stream = none ∧ c.station.secc.sessionId = .zero

section StopEnds

variable {build : Build} {codec : Codec} {t es : List StreamEvent} {c : Charger}

/-- While a connection is open, only a new event can have stopped its session. -/
theorem StopEnds.of_open {c' : Charger} {stream : Stream} (h : StopEnds t c)
    (hstream : c.stream = some stream) (hes : ∀ e ∈ es, e.connects = false)
    (hnew : (∃ e ∈ es, e.stops) → c'.stream = none ∧ c'.station.secc.sessionId = .zero) :
    StopEnds (t ++ es) c' := by
  rintro ⟨e, he, hstops⟩
  rw [thisStream_append hes] at he
  rcases List.mem_append.mp he with he | he
  · cases hstream.symm.trans (h ⟨e, he, hstops⟩).1
  · exact hnew ⟨e, he, hstops⟩

/-- Quiet events stop no session. -/
theorem not_stops_of_quiet (hes : ∀ e ∈ es, e.quiet) : ¬∃ e ∈ es, e.stops := by
  rintro ⟨e, he, hstops⟩
  exact (hes e he).not_stops hstops

/-- Every move of the station keeps it so. -/
theorem StopEnds.move {c' : Charger} {i : ChargerInput} (h : StopEnds t c)
    (hmove : ChargerMove build codec c i c' es) : StopEnds (t ++ es) c' := by
  cases hmove with
  | idle => simpa using h
  | connect => simp [StopEnds, thisStream, StreamEvent.connects]
  | retire hstream => exact fun _ => ⟨hstream, rfl⟩
  | quiet hstream _ _ _ hes =>
    exact h.of_open hstream (fun e he => (hes e he).connects_eq) fun hstops =>
      absurd hstops (not_stops_of_quiet hes)
  | rejected hstream | refused hstream =>
    exact h.of_open hstream (by simp [StreamEvent.connects]) (by simp [StreamEvent.stops])
  | @dispatched _ x _ tail hstream _ _ _ hsession hruns _ _ hfate htail =>
    refine h.of_open hstream ?_ ?_
    · rintro e he
      rcases List.mem_cons.mp he with rfl | he
      · rfl
      · exact (htail e he).connects_eq
    -- the handler of the stop clears the identifier, whatever becomes of its response
    · rintro ⟨e, he, hstops⟩
      rcases List.mem_cons.mp he with rfl | he
      · have hzero : x.result.secc.sessionId = .zero := by
          rw [(hruns.stopped hsession hstops).1]
          rfl
        exact ⟨hfate.of_sessionStop hstops, hfate.keeps.1.trans hzero⟩
      · exact absurd ⟨e, he, hstops⟩ (not_stops_of_quiet htail)

end StopEnds

/-- On every connection of every run, each dispatched request after the setup presents the
identifier that the setup returned and is answered with it, no request is dispatched after a
SessionStopReq, and once one was dispatched no session is live. -/
theorem session_continuity (build : Build) (codec : Codec) (codec20 : Codec20) (station : Station)
    (inputs : List ChargerInput) :
    JustifiedInStream (Continuous codec)
        ((charger build codec codec20).run { station, stream := none } inputs).2 ∧
      ((∃ e ∈ thisStream ((charger build codec codec20).run { station, stream := none } inputs).2,
        e.stops) →
        ((charger build codec codec20).run { station, stream := none }
          inputs).1.station.secc.sessionId = .zero) := by
  refine ⟨((setUp_live build codec).run station (Machine.meets_of_forall _ fun _ _ => trivial)).2,
    fun hstops => ?_⟩
  have hends := (charger build codec codec20).run_induction StopEnds
    (t := []) (s := { station, stream := none }) (fun t c i h => h.move (charger_move c i))
    (by simp [StopEnds, thisStream]) inputs
  exact (hends (by simpa using hstops)).2

end Jpv2g
