import Jpv2g.Secc.Stream.Live

/-!
# The Resume Grant

A setup that joins a paused DC session grants the DC mode to the sequence of its connection. The
grant waits in the record until the response is sent, through every failure in between. It reaches
no other connection: the mode is preset only by the exchange that joined the session itself.

## Main definitions

* `gateAlone`: the sequence the gate leaves after an input.
* `presetsMode`: the dispatcher leaves another one.
* `Exchange.Granted`: a setup that joined a paused DC session, with its response sent.
* `ModePreset`: the sequence has its mode although no request of the connection told it.

## Main results

* `resume_never_leaks`: every preset is the work of its own granted exchange, a new session gets
  none, and there are at most as many presets as grants.
-/

namespace Jpv2g

open Trace

/-! ## Grants and presets -/

/-- A setup that joined a paused DC session, with its response sent. -/
def Exchange.Granted (x : Exchange) : Prop :=
  x.joins ∧ x.rc = .ok () ∧ x.secc.lastSessionWasDc = true

instance (x : Exchange) : Decidable x.Granted :=
  inferInstanceAs (Decidable (_ ∧ _))

/-- A setup that established a new session. -/
def Exchange.establishes (x : Exchange) : Prop :=
  x.request.type = .sessionSetupReq ∧
    x.result.res.bind Res.setupCode = some .okNewSessionEstablished

/-- A resume was granted. -/
def StreamEvent.granted : StreamEvent → Bool
  | .dispatched x => decide x.Granted
  | _ => false

/-- The sequence of the connection after an input, as the sequence gate alone leaves it. -/
def gateAlone (build : Build) (codec : Codec) (c : Charger) (i : ChargerInput) : Sequence :=
  match c.stream with
  | none => .init
  | some stream =>
    match c.presented build codec i with
    | none => stream.sequence
    | some r => (seccAcceptRequestSequence stream.sequence r).1

/-- The connection goes on with another sequence than the gate has left. -/
def presetsMode (build : Build) (codec : Codec) (codec20 : Codec20) (c : Charger)
    (i : ChargerInput) : Bool :=
  ((charger build codec codec20).step c i).1.stream.any fun stream =>
    stream.sequence != gateAlone build codec c i

/-- What a step does with the resume grants: a preset is the work of a granted exchange, which
consumes the flag, and a new session gets none, whatever was pending before. -/
structure GrantsOwn (build : Build) (codec : Codec) (codec20 : Codec20) (_ : List StreamEvent)
    (c : Charger) (i : ChargerInput) : Prop where
  own : presetsMode build codec codec20 c i = true →
    ∃ x, .dispatched x ∈ ((charger build codec codec20).step c i).2 ∧ x.Granted ∧
      ((charger build codec codec20).step c i).1.station.secc.resumeDcPending = false
  established : ∀ x, .dispatched x ∈ ((charger build codec codec20).step c i).2 →
    x.establishes → presetsMode build codec codec20 c i = false ∧
      ((charger build codec codec20).step c i).1.station.secc.resumeDcPending = false

section Steps

variable {build : Build} {codec : Codec} {codec20 : Codec20} {station : Station} {x : Exchange}
  {secc : Secc} {next : Option Stream} {stream : Stream}

/-- A setup leaves a resume to be granted only when it joined a session paused in DC mode. -/
theorem Exchange.Runs.grants_of_pending (hruns : x.Runs build codec station)
    (htype : x.request.type = .sessionSetupReq)
    (hpending : x.result.secc.resumeDcPending = true) :
    x.joins ∧ x.secc.lastSessionWasDc = true := by
  obtain ⟨sid, hresumes⟩ := hruns.resumes_of_pending htype hpending
  obtain ⟨hjoins, hsame, -⟩ := hruns.joined htype hresumes
  refine ⟨hjoins, ?_⟩
  rw [hruns.secc_eq, ← hpending, hsame.resumeDcPending]
  rfl

/-- A new session leaves no resume to be granted. -/
theorem Exchange.Runs.not_pending_of_establishes (hruns : x.Runs build codec station)
    (h : x.establishes) : x.result.secc.resumeDcPending = false := by
  apply Bool.eq_false_of_not_eq_true
  intro hpending
  have hcode := (hruns.joins_of_pending h.1 hpending).2
  cases h.2.symm.trans hcode

/-- Without a pending resume, the sequence stays as the gate has left it. -/
theorem applyResume_of_not_pending {r : Request} {sequence : Sequence}
    (hpending : ¬(r.type = .sessionSetupReq ∧ secc.resumeDcPending = true)) :
    applyResume secc r sequence = (secc, sequence) :=
  if_neg hpending

/-- The mode of a pause is no resume to be granted. -/
theorem Secc.recordPauseMode_resumeDcPending {r : Request} {sequence : Sequence} :
    (secc.recordPauseMode r sequence).resumeDcPending = secc.resumeDcPending := by
  unfold Secc.recordPauseMode
  split_ifs <;> rfl

/-- Whatever the fate, a resume that is not pending does not become so. -/
theorem Fate.not_pending (h : Fate x secc next) (hpending : x.result.secc.resumeDcPending = false) :
    secc.resumeDcPending = false := by
  cases h with
  | unsent | terminated => exact hpending
  | sent =>
    rw [applyResume_of_not_pending]
    · exact Secc.recordPauseMode_resumeDcPending.trans hpending
    · rw [Secc.recordPauseMode_resumeDcPending, hpending]
      simp

/-- A connection that goes on with another sequence than the gate has left is that of a granted
exchange, which has consumed the flag. -/
theorem Fate.granted (h : Fate x secc next) (hnext : next = some stream)
    (hruns : x.Runs build codec station) (hne : stream.sequence ≠ x.sequence) :
    x.Granted ∧ secc.resumeDcPending = false := by
  obtain ⟨hrc, hstop, -, hsequence, hsecc⟩ := h.of_some hnext
  rw [Secc.recordPauseMode_of_ne_sessionStop hstop] at hsequence hsecc
  by_cases hpending : x.request.type = .sessionSetupReq ∧ x.result.secc.resumeDcPending = true
  · obtain ⟨hjoins, hdc⟩ := hruns.grants_of_pending hpending.1 hpending.2
    refine ⟨⟨hjoins, hrc, hdc⟩, ?_⟩
    rw [hsecc, applyResume, if_pos hpending]
  · rw [applyResume_of_not_pending hpending] at hsequence
    exact absurd hsequence hne

end Steps

section Moves

variable {build : Build} {codec : Codec} {codec20 : Codec20} {c c' : Charger} {i : ChargerInput}
  {es tail : List StreamEvent} {x y : Exchange} {stream : Stream} {sequence : Sequence}

/-- Quiet events dispatch nothing. -/
theorem eq_of_mem_dispatched (htail : ∀ e ∈ tail, e.quiet)
    (h : .dispatched x ∈ StreamEvent.dispatched y :: tail) : x = y := by
  rcases List.mem_cons.mp h with heq | hmem
  · cases heq
    rfl
  · exact (htail _ hmem).elim

/-- Without a live connection the gate starts afresh. -/
theorem gateAlone_of_none (hstream : c.stream = none) : gateAlone build codec c i = .init := by
  simp [gateAlone, hstream]

/-- Without a decoded request the gate stays as it is. -/
theorem gateAlone_of_not_presented (hstream : c.stream = some stream)
    (hpresented : c.presented build codec i = none) :
    gateAlone build codec c i = stream.sequence := by
  simp [gateAlone, hstream, hpresented]

/-- A presented request is judged by the gate. -/
theorem gateAlone_of_presented {r : Request} {rc : Rc} (hstream : c.stream = some stream)
    (hpresented : c.presented build codec i = some r)
    (hgate : seccAcceptRequestSequence stream.sequence r = (sequence, rc)) :
    gateAlone build codec c i = sequence := by
  simp [gateAlone, hstream, hpresented, hgate]

/-- A connection that goes on with another sequence than the gate has left is that of a granted
exchange. -/
theorem ChargerMove.granted (h : ChargerMove build codec c i c' es)
    (hjudges : ∀ r, c.presented build codec i = some r → ∃ e ∈ es, e.judges)
    (hstream' : c'.stream = some stream) (hne : stream.sequence ≠ gateAlone build codec c i) :
    ∃ x, .dispatched x ∈ es ∧ x.Granted ∧ c'.station.secc.resumeDcPending = false := by
  -- nothing was presented to the gate when no event judges a request
  have hquiet : (∀ e ∈ es, e.quiet) → c.presented build codec i = none := by
    intro hes
    apply Option.eq_none_iff_forall_not_mem.mpr
    intro r hr
    obtain ⟨e, he, hjudge⟩ := hjudges r hr
    exact (hes e he).not_judges hjudge
  cases h with
  | idle => exact absurd (gateAlone_of_not_presented hstream' (hquiet (by simp))).symm hne
  | connect hstream =>
    cases hstream'
    exact absurd (gateAlone_of_none hstream).symm hne
  | retire hstream => cases hstream.symm.trans hstream'
  | quiet hstream _ _ hnext hes =>
    rw [gateAlone_of_not_presented hstream (hquiet hes)] at hne
    exact absurd (hnext stream hstream').1 hne
  | rejected | refused => cases hstream'
  | @dispatched _ x _ _ hstream hpresented _ hgate _ hruns _ _ hfate =>
    rw [gateAlone_of_presented hstream hpresented hgate] at hne
    exact ⟨x, List.mem_cons_self, hfate.granted hstream' hruns hne⟩

/-- A new session leaves no resume to be granted, and is granted none itself. -/
theorem ChargerMove.established (h : ChargerMove build codec c i c' es)
    (hmem : .dispatched x ∈ es) (hx : x.establishes) :
    c'.station.secc.resumeDcPending = false ∧ ∀ y, .dispatched y ∈ es → ¬y.Granted := by
  cases h with
  | quiet _ _ _ _ hes => exact (hes _ hmem).elim
  | @dispatched _ x' _ tail _ _ _ _ _ hruns _ _ hfate htail =>
    cases eq_of_mem_dispatched htail hmem
    refine ⟨hfate.not_pending (hruns.not_pending_of_establishes hx), ?_⟩
    intro y hy hgranted
    cases eq_of_mem_dispatched htail hy
    cases hx.2.symm.trans hgranted.1.2
  | _ => simp at hmem

/-- Every step treats the grants so. -/
theorem grantsOwn_step (t : List StreamEvent) (c : Charger) (i : ChargerInput) :
    GrantsOwn build codec codec20 t c i := by
  have hmove : ChargerMove build codec c i
      ((charger build codec codec20).step c i).1 ((charger build codec codec20).step c i).2 :=
    charger_move c i
  -- a preset of the mode comes from a join that was granted in the same step
  have hown : presetsMode build codec codec20 c i = true →
      ∃ x, .dispatched x ∈ ((charger build codec codec20).step c i).2 ∧ x.Granted ∧
        ((charger build codec codec20).step c i).1.station.secc.resumeDcPending = false := by
    intro hpresets
    obtain ⟨stream, hstream, hne⟩ := (Option.any_eq_true _ _).mp hpresets
    exact hmove.granted (fun r => judges_of_presented) hstream (bne_iff_ne.mp hne)
  refine ⟨hown, ?_⟩
  intro x hmem hx
  obtain ⟨hpending, hnone⟩ := hmove.established hmem hx
  refine ⟨Bool.eq_false_of_not_eq_true ?_, hpending⟩
  intro hpresets
  -- two exchanges of one step would be needed otherwise
  obtain ⟨y, hy, hgranted, -⟩ := hown hpresets
  exact hnone y hy hgranted

end Moves

/-! ## The mode of a connection -/

/-- A SessionSetupReq was dispatched or refused. -/
def StreamEvent.setsUp (e : StreamEvent) : Prop :=
  ∃ r ∈ e.passed, r.type = .sessionSetupReq

/-- The request makes the energy transfer mode known: an isolation test, or a start of power. -/
def StreamEvent.tellsMode (e : StreamEvent) : Prop :=
  ∃ r ∈ e.passed, r.type = .cableCheckReq ∨ r.powerDelivery = some .start

/-- A setup joined the paused session, and its response was sent. -/
def StreamEvent.joinedSent : StreamEvent → Prop
  | .dispatched x => x.joins ∧ x.rc = .ok ()
  | _ => False

/-- The sequence has its mode, or knows that it is not DC, although no request of the connection
told it. -/
def ModePreset (seg : List StreamEvent) (sequence : Sequence) : Prop :=
  (sequence.dcMode = true ∨ sequence.modeKnown = true) ∧ ∀ e ∈ seg, ¬e.tellsMode

/-- The connection is that of a joined session: its setup was answered OK_OldSessionJoined. -/
def JoinedSetup (seg : List StreamEvent) : Prop :=
  (∃ e ∈ seg, e.joinedSent) ∧ ∀ e ∈ seg, e.setsUp → e.joinedSent

/-- The phases before the session setup. -/
def Phase.early (phase : Phase) : Prop :=
  phase = .appProtocol ∨ phase = .sessionSetup

section Mode

variable {r : Request} {s s' : Sequence}

/-- A setup is accepted before the session setup, and leaves the mode alone. -/
theorem Accepts.of_sessionSetup (hacc : Accepts r s s') (hr : r.type = .sessionSetupReq) :
    s.phase.early ∧ ¬s'.phase.early := by
  cases hacc with
  | directSetup hphase => simp [Phase.early, hphase]
  | negotiate _ htype => simp [hr] at htype
  | move _ _ hmove => cases hmove <;> grind [Phase.early, Request.type_of_powerDelivery]

/-- Only a negotiation stays before the session setup. -/
theorem Accepts.early (hacc : Accepts r s s') (h : s'.phase.early) :
    s.phase.early ∧ r.type ≠ .sessionSetupReq := by
  refine ⟨?_, fun hr => (hacc.of_sessionSetup hr).2 h⟩
  cases hacc with
  | directSetup hphase | negotiate hphase => exact .inl hphase
  | move _ _ hmove => cases hmove <;> grind [Phase.early]

/-- Only the isolation test and a start of power make the mode known. -/
theorem Accepts.mode_eq (hacc : Accepts r s s') (hcheck : r.type ≠ .cableCheckReq)
    (hstart : r.powerDelivery ≠ some .start) :
    s'.dcMode = s.dcMode ∧ s'.modeKnown = s.modeKnown := by
  cases hacc with
  | directSetup | negotiate => exact ⟨rfl, rfl⟩
  | move _ _ hmove => cases hmove <;> grind

end Mode

/-- The invariant: no setup before the session setup, and a preset mode only after a joined one. -/
structure ModeInv (seg : List StreamEvent) (_ : Secc) (sequence : Sequence) (_ : Protocol) :
    Prop where
  early : sequence.phase.early → ∀ e ∈ seg, ¬e.setsUp
  preset : ModePreset seg sequence → JoinedSetup seg

/-- A joined setup is a setup. -/
theorem StreamEvent.joinedSent.setsUp {e : StreamEvent} (h : e.joinedSent) : e.setsUp := by
  cases e with
  | dispatched x => exact ⟨x.request, rfl, h.1.1⟩
  | _ => exact h.elim

section Extend

variable {seg : List StreamEvent} {e : StreamEvent} {secc secc' : Secc}
  {sequence sequence' : Sequence} {protocol protocol' : Protocol} {x : Exchange}

/-- Further events of other kinds leave a joined setup the only one. -/
theorem JoinedSetup.concat (h : JoinedSetup seg) (he : ¬e.setsUp) : JoinedSetup (seg ++ [e]) := by
  obtain ⟨⟨e', he', hjoined⟩, hall⟩ := h
  refine ⟨⟨e', List.mem_append_left _ he', hjoined⟩, ?_⟩
  intro e'' he'' hsetsUp
  rw [List.mem_append, List.mem_singleton] at he''
  rcases he'' with he'' | rfl
  · exact hall e'' he'' hsetsUp
  · exact absurd hsetsUp he

/-- An event that is no setup, and leaves the mode alone or tells it, keeps the invariant. -/
theorem ModeInv.concat (h : ModeInv seg secc sequence protocol) (he : ¬e.setsUp)
    (hearly : sequence'.phase.early → sequence.phase.early)
    (hmode : ¬e.tellsMode →
      sequence'.dcMode = sequence.dcMode ∧ sequence'.modeKnown = sequence.modeKnown) :
    ModeInv (seg ++ [e]) secc' sequence' protocol' where
  early := by
    intro hphase e' he'
    rw [List.mem_append, List.mem_singleton] at he'
    rcases he' with he' | rfl
    · exact h.early (hearly hphase) e' he'
    · exact he
  preset := by
    rintro ⟨hknown, htold⟩
    obtain ⟨hdc, hmodeKnown⟩ := hmode (htold e (by simp))
    rw [hdc, hmodeKnown] at hknown
    refine (h.preset ⟨hknown, fun e' he' => htold e' (by simp [he'])⟩).concat he

/-- A setup presets the mode only when it joined the paused session. -/
theorem ModeInv.setup (h : ModeInv seg secc sequence protocol) (hphase : sequence.phase.early)
    (hphase' : ¬sequence'.phase.early)
    (hmode : (StreamEvent.dispatched x).joinedSent ∨
      sequence'.dcMode = sequence.dcMode ∧ sequence'.modeKnown = sequence.modeKnown) :
    ModeInv (seg ++ [.dispatched x]) secc' sequence' protocol' where
  early := fun hearly => absurd hearly hphase'
  preset := by
    rintro ⟨hknown, htold⟩
    -- before the setup there is no other one, so that the mode cannot have been preset
    have hnone := h.early hphase
    rcases hmode with hjoined | ⟨hdc, hmodeKnown⟩
    · refine ⟨⟨_, by simp, hjoined⟩, ?_⟩
      intro e he hsetsUp
      rw [List.mem_append, List.mem_singleton] at he
      rcases he with he | rfl
      · exact absurd hsetsUp (hnone e he)
      · exact hjoined
    · rw [hdc, hmodeKnown] at hknown
      obtain ⟨⟨e, he, hjoined⟩, -⟩ := h.preset ⟨hknown, fun e he => htold e (by simp [he])⟩
      exact absurd hjoined.setsUp (hnone e he)

end Extend

theorem modeInv_live (build : Build) (codec : Codec) :
    LiveInvariant build codec (fun _ _ _ => True) ModeInv (fun _ _ => True) where
  init := fun _ => ⟨by simp, fun h => by simp [ModePreset, Sequence.init] at h⟩
  quiet := fun {_ _ _ _ e} hinv hquiet => by
    have hnone : ∀ r, r ∉ e.passed := by simp [hquiet.passed_eq]
    refine hinv.concat ?_ id fun _ => ⟨rfl, rfl⟩
    rintro ⟨r, hr, -⟩
    exact hnone r hr
  unconstrained := fun _ _ => trivial
  framed := fun _ _ _ _ => trivial
  refused := fun _ _ _ => trivial
  dispatched := fun {t c i stream x} hpasses _ hinv _ hruns => by
    refine ⟨trivial, ?_⟩
    intro hrc hstop
    have hacc := accepts_of_ok hpasses.gate
    rw [Secc.recordPauseMode_of_ne_sessionStop hstop]
    -- only a SessionSetupReq may preset the mode
    by_cases htype : x.request.type = .sessionSetupReq
    · obtain ⟨hearly, hpast⟩ := hacc.of_sessionSetup htype
      refine hinv.setup hearly (by rwa [applyResume_phase]) ?_
      -- with a grant pending the setup joins a session, without one it keeps the mode
      by_cases hpending : x.result.secc.resumeDcPending = true
      · exact .inl ⟨hruns.joins_of_pending htype hpending, hrc⟩
      · right
        rw [applyResume_of_not_pending fun h => hpending h.2]
        apply hacc.mode_eq (by simp [htype])
        intro hstart
        cases htype.symm.trans (Request.type_of_powerDelivery hstart)
    · rw [applyResume_of_ne_sessionSetup htype]
      refine hinv.concat ?_ (fun h => (hacc.early h).1) fun htold => ?_
      · rintro ⟨r, hr, hsetup⟩
        cases hr
        exact htype hsetup
      · exact hacc.mode_eq (fun h => htold ⟨_, rfl, .inl h⟩) fun h => htold ⟨_, rfl, .inr h⟩

/-- Over every run of the station, from any record and with any failures of the handler, the
encoder and the transport: the mode of a sequence is preset only by an exchange of its own
connection that joined a paused DC session and was sent, which consumes the grant; a new session
is never granted one that was left over. A connection whose mode is known before its requests tell
it is that of a joined session, and there are at most as many presets as grants. -/
theorem resume_never_leaks (build : Build) (codec : Codec) (codec20 : Codec20) (station : Station)
    (inputs : List ChargerInput) :
    (charger build codec codec20).Meets (GrantsOwn build codec codec20) []
        { station, stream := none } inputs ∧
      (∀ stream,
        ((charger build codec codec20).run { station, stream := none } inputs).1.stream =
          some stream →
        ModePreset
          (thisStream ((charger build codec codec20).run { station, stream := none } inputs).2)
          stream.sequence →
        JoinedSetup
          (thisStream ((charger build codec codec20).run { station, stream := none } inputs).2)) ∧
      (charger build codec codec20).count (presetsMode build codec codec20)
          { station, stream := none } inputs ≤
        ((charger build codec codec20).run { station, stream := none } inputs).2.countP
          StreamEvent.granted := by
  refine ⟨Machine.meets_of_step _ grantsOwn_step, fun stream hstream hpreset => ?_, ?_⟩
  -- the invariant needs no condition on the inputs
  · have hlive : HoldsLive ModeInv
        ((charger build codec codec20).run { station, stream := none } inputs).2
        ((charger build codec codec20).run { station, stream := none } inputs).1 :=
      ((modeInv_live build codec).run station (Machine.meets_of_forall _ fun _ _ => trivial)).1
    exact (hlive stream hstream).preset hpreset
  -- each preset is paid for by a grant of the same step
  · refine Machine.count_le_countP _ ?_ _ inputs
    intro c i hpresets
    obtain ⟨x, hmem, hgranted, -⟩ := (grantsOwn_step [] c i).own hpresets
    exact ⟨_, hmem, decide_eq_true hgranted⟩

end Jpv2g
