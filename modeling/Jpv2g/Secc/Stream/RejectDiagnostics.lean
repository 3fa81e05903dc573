import Jpv2g.Secc.Stream.CustomHandler

/-!
# The Record of the Last Rejected Request

The record of the station keeps the type, the protocol and the phase of a rejected request, for the
controller to show. Only the sequence gate writes it. When the session gate rejects a request, the
triple stays that of an earlier rejection, perhaps of another stream.

## Main definitions

* `Secc.NamesReject`: the record names a request and a phase.
* `JudgedIn`: the two phases in which the session gate may be said to judge.
* `RejectNamed`: a request that a gate rejects is named when its stream returns.
* `AlreadyNamed`: the record happens to name the request that the session gate rejects.

## Main results

* `reject_named_iff`: all rejections of a run are named exactly when those of the session gate
  already were.
-/

namespace Jpv2g

open Trace

/-- The record names the request, judged in the phase. -/
structure Secc.NamesReject (secc : Secc) (r : Request) (phase : Phase) : Prop where
  type : secc.lastRejectType = r.type
  protocol : secc.lastRejectProtocol = r.protocol
  phase : secc.lastRejectPhase = phase.rank

/-- The phase in which a rejected request was judged: that in which it arrived, or that which the
sequence gate left. They differ when the sequence gate accepts it before the session gate. -/
inductive JudgedIn where
  | arrival
  | sequenced

/-- The phase in which the request is judged. -/
def JudgedIn.phase (judged : JudgedIn) (s : Sequence) (r : Request) : Phase :=
  match judged with
  | .arrival => s.phase
  | .sequenced => (seccAcceptRequestSequence s r).1.phase

/-- One of the gates rejects the request. -/
def StreamEvent.rejects (r : Request) : StreamEvent → Prop
  | .rejected r' _ | .refused r' _ => r' = r
  | .connected | .dispatched _ | .frame20 _ | .reset20 | .closed _ | .retired => False

/-- A request that a gate rejects ends its stream, on whose return the record names it. -/
def RejectNamed (judged : JudgedIn) (_ : List ServerStep) (x : ServerStep) : Prop :=
  ∀ stream r, x.before.stream = some stream → (∃ e ∈ x.events, e.rejects r) →
    x.after.stream = none ∧
      x.after.station.secc.NamesReject r (judged.phase stream.sequence r)

/-- If the input presents a request that the session gate rejects, the record already names it. -/
def AlreadyNamed (build : Build) (codec : Codec) (judged : JudgedIn) (_ : List ServerStep)
    (c : Charger) (i : ServerInput) : Prop :=
  ∀ stream r, c.stream = some stream → c.presented build codec i.plain = some r →
    (seccAcceptRequestSequence stream.sequence r).2 = .ok () →
    validateRequestSession c.station.secc r ≠ .ok () →
      c.station.secc.NamesReject r (judged.phase stream.sequence r)

section

variable {build : Build} {codec : Codec} {codec20 : Codec20} {judged : JudgedIn}
  {c c' : Charger} {i : ServerInput} {es : List StreamEvent} {r : Request} {s s' : Sequence}
  {e : Errno}

theorem StreamEvent.quiet.not_rejects {e : StreamEvent} (h : e.quiet) : ¬e.rejects r := by
  cases e <;> simp_all [StreamEvent.quiet, StreamEvent.rejects]

/-- The return of the stream rejects nothing. -/
theorem StreamEvent.rejects_of_closed {e₀ : StreamEvent} {rc : Rc}
    (h : ∃ e ∈ [e₀, .closed rc], e.rejects r) : e₀.rejects r := by
  obtain ⟨e, he, hrejects⟩ := h
  rcases List.mem_cons.mp he with rfl | he
  · exact hrejects
  · rw [List.mem_singleton.mp he] at hrejects
    exact hrejects.elim

/-- A request that the sequence gate rejects does not change the phase. -/
theorem JudgedIn.phase_of_error (h : seccAcceptRequestSequence s r = (s', .error e)) :
    judged.phase s r = s'.phase := by
  have hphase : s'.phase = s.phase := by
    rcases commits_of_error h with rfl | ⟨-, hcommits⟩
    · rfl
    · rw [hcommits]
  cases judged with
  | arrival => exact hphase.symm
  | sequenced => rw [JudgedIn.phase, h]

/-- Recording a request names it. -/
theorem namesReject_recordReject (secc : Secc) (s : Sequence) (r : Request) :
    (secc.recordReject s r).NamesReject r s.phase :=
  ⟨rfl, rfl, rfl⟩

/-- A move of the station names what it rejects exactly when the record already named what the
session gate rejects. -/
theorem StationMove.named_iff {Handled : Exchange → Prop} {Framed : Frame20 → Prop}
    {t : List ServerStep} (h : StationMove build codec Handled Framed c i.plain c' es)
    (hjudges : ∀ r, c.presented build codec i.plain = some r → ∃ e ∈ es, e.judges) :
    RejectNamed judged t ⟨c, i, es, c'⟩ ↔ AlreadyNamed build codec judged t c i := by
  cases h with
  | idle =>
    refine iff_of_true ?_ ?_
    · rintro stream r - ⟨e, he, -⟩
      cases he
    · intro stream r _ hpresented
      obtain ⟨e, he, -⟩ := hjudges r hpresented
      cases he
  | connect hnone | retire hnone =>
    refine iff_of_true ?_ ?_
    · intro stream r hstream
      cases hnone.symm.trans hstream
    · intro stream r hstream
      cases hnone.symm.trans hstream
  | quiet _ _ _ _ hes =>
    refine iff_of_true ?_ ?_
    · rintro stream r - ⟨e, he, hrejects⟩
      exact absurd hrejects (hes e he).not_rejects
    · intro stream r _ hpresented
      obtain ⟨e, he, hjudge⟩ := hjudges r hpresented
      exact absurd hjudge (hes e he).not_judges
  | @rejected stream r sequence e hstream hpresented _ hgate =>
    refine iff_of_true ?_ ?_
    · intro stream' r' hstream' hrejects
      cases hstream.symm.trans hstream'
      have hr : r = r' := StreamEvent.rejects_of_closed hrejects
      refine ⟨rfl, ?_⟩
      rw [← hr, JudgedIn.phase_of_error hgate]
      exact namesReject_recordReject _ _ _
    · intro stream' r' hstream' hpresented' hpassed
      cases hstream.symm.trans hstream'
      cases hpresented.symm.trans hpresented'
      rw [hgate] at hpassed
      cases hpassed
  | @refused stream r sequence e hstream hpresented _ hgate hsession =>
    -- the record is left as it was, so both say the same of it
    constructor
    · intro hnamed stream' r' hstream' hpresented' _ _
      cases hpresented.symm.trans hpresented'
      exact (hnamed stream' r hstream' ⟨_, List.mem_cons_self, rfl⟩).2
    · intro halready stream' r' hstream' hrejects
      cases hstream.symm.trans hstream'
      have hr : r = r' := StreamEvent.rejects_of_closed hrejects
      rw [← hr]
      exact ⟨rfl, halready stream r hstream hpresented (by rw [hgate]) (by simp [hsession])⟩
  | dispatched hstream hpresented _ _ hsession _ _ _ _ htail =>
    refine iff_of_true ?_ ?_
    · rintro stream' r' - ⟨e', he', hrejects⟩
      rcases List.mem_cons.mp he' with rfl | he'
      · exact hrejects.elim
      · exact absurd hrejects (htail e' he').not_rejects
    · intro stream' r' _ hpresented' _ hrefused
      cases hpresented.symm.trans hpresented'
      exact absurd hsession hrefused

end

/-- Over every history of connections, frames and custom handlers, under either reading of the phase
in which the session gate judges: every request that a gate rejects is named by the record when its
stream returns exactly when the record already named each request that the session gate rejects. -/
theorem reject_named_iff (build : Build) (codec : Codec) (codec20 : Codec20) (judged : JudgedIn)
    (c : Charger) (inputs : List ServerInput) :
    Justified (RejectNamed judged) ((server build codec codec20).logged.run c inputs).2 ↔
      (server build codec codec20).logged.Meets (AlreadyNamed build codec judged) [] c inputs := by
  refine (server build codec codec20).logged.justified_run_iff_meets (fun _ _ => True)
    (fun _ _ _ h => h) ?_ trivial inputs
  intro t s i _ hjust
  rw [Machine.logged_step, hjust.concat_iff]
  exact (server_move s i).named_iff fun r hpresented => served_judges_of_presented hpresented

/-- A stream that is rejected for a SessionSetupReq before the negotiation, and a stream whose
SessionStopReq is in the name of another session. -/
def staleReject : List ServerInput :=
  [.connect, sampleRequest 2 true true, .connect, sampleRequest 0 true true,
    sampleRequest 2 true true, sampleRequest 14 true true].map (·.served sampleBuild sampleCodec)

/-- The second stream is ended by its session gate, and returns with the triple of the first. -/
theorem not_reject_named :
    ¬∃ judged, ∀ build codec codec20 c inputs,
      Justified (RejectNamed judged) ((server build codec codec20).logged.run c inputs).2 := by
  rintro ⟨judged, h⟩
  have hall := h sampleBuild sampleCodec emptyCodec20 ⟨sampleStation, none⟩ staleReject
  have hlast := hall.last (t := [_, _, _, _, _])
  obtain ⟨-, hnamed⟩ := hlast _ _ rfl ⟨_, List.mem_cons_self, rfl⟩
  exact absurd hnamed.type (by decide)

end Jpv2g
