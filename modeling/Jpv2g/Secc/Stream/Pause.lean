import Jpv2g.Secc.Stream.Live

/-!
# The Pause Memory

The station remembers one paused session across connections. What it remembers is a function of
the history: the most recent SessionStopReq that asked for a pause, unless a SessionSetupReq has
resumed it since. A setup joins a paused session exactly when it resumes what is remembered.

## Main definitions

* `retainedPause`: the most recent pause, unless it has been resumed.
* `Secc.Retains`: the record remembers a pause.
* `ResumeExact`: a setup joins exactly the retained pause.

## Main results

* `retains_run`: the record remembers the retained pause.
* `resume_exact`: on every connection, a setup joins exactly the retained pause.
-/

namespace Jpv2g

open Trace

/-! ## The pauses of a history -/

/-- A pause: the session, the time of its stop, and whether its sequence was DC. -/
structure Pause where
  sid : Sid
  endMs : ℕ
  wasDc : Bool
deriving DecidableEq

/-- The pause a dispatched request asks for. -/
def Exchange.pause (x : Exchange) : Option Pause :=
  if x.request.type = .sessionStopReq ∧ x.request.pauses = true then
    some { sid := x.secc.sessionId, endMs := x.env.nowMs, wasDc := x.sequence.isDc }
  else none

/-- What an event does to the pause memory: a pause replaces it, a resume clears it. -/
def StreamEvent.pauseChange : StreamEvent → Option (Option Pause)
  -- the resume is consumed even if its response is lost
  | .dispatched x => if x.joins then some none else x.pause.map some
  | _ => none

/-- The most recent pause, unless it has been resumed. -/
def retainedPause (t : List StreamEvent) : Option Pause :=
  (lastSome StreamEvent.pauseChange t).join

/-- The record remembers the pause. -/
def Secc.Retains (secc : Secc) : Option Pause → Prop
  | some pause => pause.sid ≠ .zero ∧ secc.lastSessionId = pause.sid ∧
      secc.lastSessionEndMs = pause.endMs
  | none => secc.lastSessionId = .zero

section Memory

variable {build : Build} {codec : Codec} {station : Station} {x : Exchange}
  {t es : List StreamEvent} {e : StreamEvent} {secc secc' : Secc} {pause : Option Pause}

theorem retainedPause_concat :
    retainedPause (t ++ [e]) = e.pauseChange.getD (retainedPause t) := by
  unfold retainedPause
  cases h : e.pauseChange <;> simp [h]

theorem StreamEvent.quiet.pauseChange_eq (h : e.quiet) : e.pauseChange = none := by
  cases e with
  | frame20 | reset20 | closed => rfl
  | _ => exact h.elim

/-- Events that leave the pause memory alone keep the retained pause. -/
theorem retainedPause_append (hes : ∀ e ∈ es, e.pauseChange = none) :
    retainedPause (t ++ es) = retainedPause t := by
  induction es using List.reverseRecOn with
  | nil => simp
  | append_singleton es e ih =>
    rw [← List.append_assoc, retainedPause_concat, hes e (by simp)]
    exact ih fun x hx => hes x (by simp [hx])

/-- The record remembers what it remembered. -/
theorem Secc.Retains.congr (h : secc.Retains pause)
    (hid : secc'.lastSessionId = secc.lastSessionId)
    (hend : secc'.lastSessionEndMs = secc.lastSessionEndMs) : secc'.Retains pause := by
  unfold Secc.Retains at h ⊢
  rw [hid, hend]
  exact h

/-- Establishing a new session keeps the pause memory. -/
theorem newSession_keeps (secc : Secc) (rng : RngCall) :
    (secc.newSession rng).lastSessionId = secc.lastSessionId ∧
      (secc.newSession rng).lastSessionEndMs = secc.lastSessionEndMs ∧
      (secc.newSession rng).lastSessionWasDc = secc.lastSessionWasDc := by
  rcases drawSession_cases { secc with resumeDcPending := false } rng with ⟨sid, -, heq⟩ | heq <;>
    rw [Secc.newSession, heq] <;> exact ⟨rfl, rfl, rfl⟩

/-- A dispatched request changes the pause memory as its event says. -/
theorem Exchange.Runs.retains (hruns : x.Runs build codec station)
    (hsession : validateRequestSession station.secc x.request = .ok ())
    (h : station.secc.Retains pause) :
    x.result.secc.Retains ((StreamEvent.dispatched x).pauseChange.getD pause) := by
  by_cases hsetup : x.request.type = .sessionSetupReq
  -- a setup clears the memory when it resumes, and keeps it otherwise
  · have hpause : x.pause = none := if_neg fun hstop => by simp [hsetup] at hstop
    by_cases hresumes : ∃ sid, station.secc.Resumes x.env.nowMs x.request sid
    · obtain ⟨sid, hresumes⟩ := hresumes
      obtain ⟨hjoins, hsame, -⟩ := hruns.joined hsetup hresumes
      rw [StreamEvent.pauseChange, if_pos hjoins]
      exact hsame.lastSessionId
    · obtain ⟨hcode, hsame, -⟩ := hruns.established hsetup (not_exists.mp hresumes)
      have hjoins : ¬x.joins := fun hjoins => absurd hjoins.2 (by simp [hcode])
      obtain ⟨hid, hend, -⟩ := newSession_keeps station.secc x.env.rng
      simp only [StreamEvent.pauseChange, hjoins, if_false, hpause]
      exact h.congr (hsame.lastSessionId.trans hid) (hsame.lastSessionEndMs.trans hend)
  have hjoins : ¬x.joins := fun hjoins => hsetup hjoins.1
  simp only [StreamEvent.pauseChange, hjoins, if_false]
  by_cases hstop : x.request.type = .sessionStopReq
  -- a stop passes the session gate with a live session only, so that a pause is never zero
  · have hactive := (validateRequestSession_ok hsession (by simp [hstop]) (by simp [hstop])).2
    rw [(hruns.stopped hsession hstop).1, Exchange.pause, Secc.stopSession]
    by_cases hpauses : x.request.pauses = true
    · rw [if_pos ⟨hpauses, Sid.allZero_eq_false_iff.mpr hactive⟩, if_pos ⟨hstop, hpauses⟩,
        hruns.secc_eq]
      exact ⟨hactive, rfl, rfl⟩
    · rw [if_neg fun h => hpauses h.1, if_neg fun h => hpauses h.2]
      exact h.congr rfl rfl
  -- nothing else changes the memory
  have hpause : x.pause = none := if_neg fun h => hstop h.1
  simp only [hpause, Option.map_none, Option.getD_none]
  by_cases happ : x.request.type = .suppAppProtocolReq
  · obtain ⟨sid, -, heq⟩ := hruns.negotiates happ
    rw [heq]
    exact h.congr rfl rfl
  · have hsame := (hruns.ordinary hsession happ hsetup hstop).same
    exact h.congr hsame.lastSessionId hsame.lastSessionEndMs

/-- Every move of the station remembers the retained pause. -/
theorem ChargerMove.retains {c c' : Charger} {i : ChargerInput}
    (hmove : ChargerMove build codec c i c' es) (h : c.station.secc.Retains (retainedPause t)) :
    c'.station.secc.Retains (retainedPause (t ++ es)) := by
  cases hmove with
  | idle => simpa using h
  | connect | retire | rejected | refused =>
    rw [retainedPause_append (by simp [StreamEvent.pauseChange])]
    exact h.congr rfl rfl
  | quiet _ hsecc _ _ hes =>
    rw [retainedPause_append fun e he => (hes e he).pauseChange_eq, hsecc]
    exact h
  | @dispatched _ x _ tail _ _ _ _ hsession hruns _ _ hfate htail =>
    rw [← List.singleton_append, ← List.append_assoc,
      retainedPause_append fun e he => (htail e he).pauseChange_eq, retainedPause_concat]
    exact (hruns.retains hsession h).congr hfate.keeps.2.1 hfate.keeps.2.2

end Memory

/-! ## Resuming a paused session -/

/-- The setup presents the identifier of the retained pause within an hour of it. -/
structure ResumesPause (t : List StreamEvent) (x : Exchange) (pause : Pause) : Prop where
  retained : retainedPause t = some pause
  presented : x.request.sessionBytes = some pause.sid.1
  ne_zero : pause.sid ≠ .zero
  age_nonneg : 0 ≤ (x.env.nowMs : ℤ) - pause.endMs
  age_le : (x.env.nowMs : ℤ) - pause.endMs ≤ 60 * 60 * 1000

/-- The response code of the setup. -/
def Exchange.setupCode (x : Exchange) : Option ResponseCode :=
  x.result.res.bind Res.setupCode

/-- A setup is answered OK_OldSessionJoined exactly when it resumes the retained pause, whose
session is then live; any other setup is answered OK_NewSessionEstablished. -/
def ResumeExact (t : List StreamEvent) : StreamEvent → Prop
  | .dispatched x => x.request.type = .sessionSetupReq →
      (x.setupCode = some .okOldSessionJoined ↔ ∃ pause, ResumesPause t x pause) ∧
        (∀ pause, ResumesPause t x pause → x.result.secc.sessionId = pause.sid) ∧
        ((¬∃ pause, ResumesPause t x pause) → x.setupCode = some .okNewSessionEstablished)
  | _ => True

section Resume

variable {build : Build} {codec : Codec} {station : Station} {x : Exchange}
  {t es : List StreamEvent} {r : Request}

/-- The identifier the handler reads is the one in the header of the request's protocol. -/
theorem Decoded.incomingSid {registered : Bool} {stream : Stream}
    (h : Decoded build registered stream r) (htype : r.type ≠ .suppAppProtocolReq) {sid : Sid} :
    r.incomingSid = some sid ↔ r.sessionBytes = some sid.1 := by
  cases h with
  | app => exact absurd rfl htype
  | iso2 | din => simp [Request.incomingSid, Request.sessionBytes, Sid.ofBytes?_eq_some]

/-- A setup resumes what the record remembers exactly when it resumes the retained pause. -/
theorem resumes_iff {secc : Secc} (hincoming : ∀ {sid : Sid},
      x.request.incomingSid = some sid ↔ x.request.sessionBytes = some sid.1)
    (h : secc.Retains (retainedPause t)) {sid : Sid} :
    secc.Resumes x.env.nowMs x.request sid ↔
      ∃ pause, ResumesPause t x pause ∧ pause.sid = sid := by
  constructor
  · intro hresumes
    -- what the station retains is the last pause of the history
    cases hpause : retainedPause t with
    | none =>
      rw [hpause] at h
      exact absurd (hresumes.retained.symm.trans h) hresumes.ne_zero
    | some pause =>
      rw [hpause] at h
      obtain ⟨hzero, hid, hend⟩ := h
      have hsid : pause.sid = sid := hid.symm.trans hresumes.retained
      refine ⟨pause, ⟨hpause, ?_, hzero, ?_, ?_⟩, hsid⟩
      · rw [hsid]
        exact hincoming.mp hresumes.presented
      · simpa [Secc.pauseAgeMs, hend] using hresumes.age_nonneg
      · simpa [Secc.pauseAgeMs, pauseResumeWindowMs, hend] using hresumes.age_le
  · rintro ⟨pause, hresumes, rfl⟩
    rw [hresumes.retained] at h
    obtain ⟨hzero, hid, hend⟩ := h
    refine ⟨hincoming.mpr hresumes.presented, hzero, hid, ?_, ?_⟩
    · simpa [Secc.pauseAgeMs, hend] using hresumes.age_nonneg
    · simpa [Secc.pauseAgeMs, pauseResumeWindowMs, hend] using hresumes.age_le

/-- A dispatched setup joins exactly the retained pause. -/
theorem Exchange.Runs.resumeExact (hruns : x.Runs build codec station)
    (hincoming : ∀ {sid : Sid},
      x.request.incomingSid = some sid ↔ x.request.sessionBytes = some sid.1)
    (h : station.secc.Retains (retainedPause t)) (hsetup : x.request.type = .sessionSetupReq) :
    ResumeExact t (.dispatched x) := by
  intro _
  -- both sides of the equivalence hold, or neither does
  by_cases hresumes : ∃ pause, ResumesPause t x pause
  · obtain ⟨pause, hpause⟩ := hresumes
    obtain ⟨hjoins, hsame, -⟩ :=
      hruns.joined hsetup ((resumes_iff hincoming h).mpr ⟨pause, hpause, rfl⟩)
    refine ⟨iff_of_true hjoins.2 ⟨pause, hpause⟩, fun pause' hpause' => ?_,
      fun hnone => absurd ⟨pause, hpause⟩ hnone⟩
    rw [Option.some.inj (hpause'.retained.symm.trans hpause.retained)]
    exact hsame.sessionId
  · have hnone : ∀ sid, ¬station.secc.Resumes x.env.nowMs x.request sid := by
      intro sid hsid
      obtain ⟨pause, hpause, -⟩ := (resumes_iff hincoming h).mp hsid
      exact hresumes ⟨pause, hpause⟩
    have hcode : x.setupCode = some .okNewSessionEstablished :=
      (hruns.established hsetup hnone).1
    exact ⟨iff_of_false (by simp [hcode]) hresumes,
      fun pause hpause => absurd ⟨pause, hpause⟩ hresumes, fun _ => hcode⟩

/-- The events of every move are exact about resumes. -/
theorem ChargerMove.resumeExact {c c' : Charger} {i : ChargerInput}
    (hmove : ChargerMove build codec c i c' es) (h : c.station.secc.Retains (retainedPause t))
    (hjust : Justified ResumeExact t) : Justified ResumeExact (t ++ es) := by
  -- only an exchange is constrained
  have hother : ∀ {t es}, Justified ResumeExact t → (∀ e ∈ es, ∀ x, e ≠ .dispatched x) →
      Justified ResumeExact (t ++ es) := by
    intro t es hjust hes
    apply hjust.append
    intro pre e post heq
    have he := hes e (by simp [heq])
    cases e with
    | dispatched x => exact absurd rfl (he x)
    | _ => trivial
  have hquiet : ∀ {es : List StreamEvent}, (∀ e ∈ es, e.quiet) →
      ∀ e ∈ es, ∀ x, e ≠ .dispatched x := by
    rintro es hes e he x rfl
    exact hes _ he
  cases hmove with
  | idle => simpa using hjust
  | connect | retire | rejected | refused => exact hother hjust (by simp)
  | quiet _ _ _ _ hes => exact hother hjust (hquiet hes)
  | @dispatched _ x _ tail _ _ hdecoded _ _ hruns _ _ _ htail =>
    rw [← List.singleton_append, ← List.append_assoc]
    refine hother (hjust.concat ?_) (hquiet htail)
    intro hsetup
    have hincoming : ∀ {sid : Sid},
        x.request.incomingSid = some sid ↔ x.request.sessionBytes = some sid.1 :=
      hdecoded.incomingSid (by simp [hsetup])
    exact hruns.resumeExact hincoming h hsetup hsetup

end Resume

/-- Over every history of connections from a fresh record, a SessionSetupReq is answered
OK_OldSessionJoined exactly when it presents the identifier of the most recent pause, which has not
been resumed, within an hour of it; the paused session is then live. -/
theorem resume_exact (build : Build) (codec : Codec) (codec20 : Codec20) (cfg : SeccConfig)
    (authorizeContract isFreeCharging : Bool) (statics : HandlerStatics) (s20 : Option Secc20)
    (inputs : List ChargerInput) :
    Justified ResumeExact ((charger build codec codec20).run
      { station := { secc := .init cfg authorizeContract isFreeCharging, statics, s20 }
        stream := none } inputs).2 := by
  have hrun := (charger build codec codec20).run_induction
    (fun t c => c.station.secc.Retains (retainedPause t) ∧ Justified ResumeExact t) (t := [])
    (s := { station := { secc := .init cfg authorizeContract isFreeCharging, statics, s20 }
            stream := none }) ?_ ?_ inputs
  · exact hrun.2
  · rintro t c i ⟨hretains, hjust⟩
    have hmove : ChargerMove build codec c i _ ((charger build codec codec20).step c i).2 :=
      charger_move c i
    exact ⟨hmove.retains hretains, hmove.resumeExact hretains hjust⟩
  · exact ⟨rfl, justified_nil⟩

end Jpv2g
