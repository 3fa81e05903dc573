import Jpv2g.Secc.Stream.Negotiation

/-!
# Re-arming the ISO 15118-20 Session

When a SupportedAppProtocolRes has been sent on a stream that speaks ISO 15118-20, the registered
ISO 15118-20 session is reset, for the session that is about to be set up. The loop does not look at
the response: the stream keeps its protocol when a negotiation fails, so that a retry that selects
nothing resets the session as well, and a custom handler may answer something else than what the
loop has taken the request for.

## Main definitions

* `Exchange.selects20`: the response that was sent selected ISO 15118-20.
* `RearmsSelected`: the session is reset after such a response and at no other time.
* `SelectionRearms`: no failed negotiation is answered on a stream that speaks ISO 15118-20, and the
  handler selects ISO 15118-20 when the station does.

## Main results

* `rearm_selected_iff`: over every run and for every handler, the session is reset as it should be
  exactly under this condition.
-/

namespace Jpv2g

open Trace

/-- The response is one that selected ISO 15118-20, and has been sent. -/
def Exchange.selects20 (build : Build) (x : Exchange) : Prop :=
  x.rc = .ok () ∧ x.selected build = .iso15118_20_dc

/-- The negotiation is answered Failed_NoNegotiation. -/
def Exchange.failsNegotiation (x : Exchange) : Prop :=
  ∃ schemaId, x.negotiation = some (schemaId, .failedNoNegotiation)

/-- The session is where it was, under its identifier, with the contactor as it was. -/
structure Secc20.KeepsSession (s s' : Secc20) : Prop where
  state : s'.state = s.state
  sessionId : s'.sessionId = s.sessionId
  contactorClosed : s'.contactorClosed = s.contactorClosed

/-- The ISO 15118-20 session object that is registered when the handler of the input returns. -/
def ServerInput.leftS20 (c : Charger) (i : ServerInput) (r : Request) : Option Secc20 :=
  match i with
  | .frame f => (f.handle r c.station).s20
  | .connect | .retire => c.station.s20

/-- The ISO 15118-20 session that the handler has left registered is reset right after the response
that selected ISO 15118-20, and only then; after a negotiation that failed it stays as it is. -/
structure RearmsSelected (build : Build) (_ : List ServerStep) (step : ServerStep) : Prop where
  of_reset : ∀ pre post, step.events = pre ++ .reset20 :: post →
    ∃ x s20 nowMs, pre = [.dispatched x] ∧ x.selects20 build ∧
      step.input.leftS20 step.before x.request = some s20 ∧
      step.after.station.s20 = some (s20.reset nowMs)
  of_selected : ∀ pre x post, step.events = pre ++ .dispatched x :: post → x.selects20 build →
    post.head? = some .reset20
  of_failed : ∀ x s20, .dispatched x ∈ step.events → x.failsNegotiation →
    step.input.leftS20 step.before x.request = some s20 →
      ∃ s20', step.after.station.s20 = some s20' ∧ s20.KeepsSession s20'

/-- The response has been sent, and the stream goes on with a session object registered. -/
structure Exchange.GoesOn (x : Exchange) (left : Option Secc20) : Prop where
  sent : x.rc = .ok ()
  unterminated : x.result.secc.terminateAfterResponse = false
  registered : left.isSome = true

/-- What the station selects among the offers of the request. -/
def Exchange.selection (build : Build) (x : Exchange) : Protocol :=
  (selectAppProtocol build x.registered x.request.appOffers).protocol

/-- What the re-arming needs of a call of the handler. -/
structure SelectionRearms (build : Build) (codec : Codec) (_ : List ServerStep) (c : Charger)
    (i : ServerInput) : Prop where
  /-- A negotiation in which the station selects nothing is not answered on a stream that speaks
  ISO 15118-20. -/
  retry : ∀ stream x, c.stream = some stream → i.exchange build codec c = some x →
    stream.protocol = .iso15118_20_dc → x.request.type = .suppAppProtocolReq →
    x.selection build = .unknown → ¬x.GoesOn (i.leftS20 c x.request)
  /-- A response that is sent selects ISO 15118-20 exactly when it answers a negotiation in which
  the station selects it, with a session object registered and without ending the stream. -/
  answer : ∀ x, i.exchange build codec c = some x → x.rc = .ok () →
    (x.selected build = .iso15118_20_dc ↔ x.request.type = .suppAppProtocolReq ∧
      x.selection build = .iso15118_20_dc ∧ x.GoesOn (i.leftS20 c x.request))

/-! ## One step -/

/-- The conditions under which the loop re-arms the session after an exchange. -/
structure Exchange.Rearms (build : Build) (x : Exchange) (left : Option Secc20) : Prop extends
    x.GoesOn left where
  iso20 : build.iso20 = true
  negotiates : x.request.type = .suppAppProtocolReq
  protocol : x.request.protocol = .iso15118_20_dc

/-- What an exchange does to the session that its handler has left, with the events of its step. -/
inductive Rearming (build : Build) (x : Exchange) (left : Option Secc20) :
    Option Secc20 → List StreamEvent → Prop
  | kept {tail : List StreamEvent} (hnot : ¬x.Rearms build left)
      (htail : ∀ e ∈ tail, ∃ rc, e = .closed rc) :
      Rearming build x left left (.dispatched x :: tail)
  | rearmed {s : Secc20} {nowMs : ℕ} {tail : List StreamEvent} (hrearms : x.Rearms build left)
      (hleft : left = some s) (htail : ∀ e ∈ tail, ∃ rc, e = .closed rc) :
      Rearming build x left (some (s.reset nowMs)) (.dispatched x :: .reset20 :: tail)

section Turns

variable {build : Build} {codec : Codec} {codec20 : Codec20} {input : FrameInput}
  {station : Station} {stream : Stream} {x : Exchange}

/-- After a response that was sent, the loop re-arms the session or leaves it alone. -/
theorem rearm_rearming {tail : List StreamEvent} (hsent : x.rc = .ok ())
    (hgoes_on : x.result.secc.terminateAfterResponse = false)
    (hprotocol : stream.protocol = x.request.protocol)
    (htail : ∀ e ∈ tail, ∃ rc, e = .closed rc) :
    Rearming build x station.s20 (rearm build input station stream x.request).1
      (.dispatched x :: ((rearm build input station stream x.request).2 ++ tail)) := by
  rw [rearm]
  split_ifs with hrearms
  · obtain ⟨hbuild, htype, hstream⟩ := hrearms
    rw [hprotocol] at hstream
    rcases hs20 : station.s20 with _ | s20
    · refine .kept ?_ htail
      intro h
      cases h.registered
    · exact .rearmed ⟨⟨hsent, hgoes_on, rfl⟩, hbuild, htype, hstream⟩ rfl htail
  · refine .kept ?_ htail
    intro h
    exact hrearms ⟨h.iso20, h.negotiates, hprotocol.trans h.protocol⟩

/-- An exchange that is carried through re-arms the session, or leaves it alone. -/
theorem deliver_rearming (hsecc : station.secc = x.result.secc)
    (hprotocol : stream.protocol = x.request.protocol) :
    Rearming build x station.s20 (deliver build input station stream x).finish.1.station.s20
      (deliver build input station stream x).finish.2 := by
  rw [deliver]
  split
  · rename_i e hrc
    refine .kept ?_ (by simp)
    intro h
    cases hrc.symm.trans h.sent
  · rename_i hrc
    rw [concludeExchange, hsecc]
    dsimp only
    split_ifs with hterminate hstopped
    · refine .kept ?_ (by simp)
      intro h
      cases hterminate.symm.trans h.unterminated
    all_goals
      -- the session is registered all along
      have hrearming : ∀ tail : List StreamEvent, (∀ e ∈ tail, ∃ rc, e = .closed rc) →
          Rearming build x station.s20 (rearm build input station stream x.request).1
            (.dispatched x :: ((rearm build input station stream x.request).2 ++ tail)) :=
        fun tail htail => rearm_rearming hrc (Bool.eq_false_of_not_eq_true hterminate)
          hprotocol htail
    · exact hrearming [.closed (.ok ())] (by simp)
    · have hopen := hrearming [] (by simp)
      rwa [List.append_nil] at hopen

/-- A request that is served re-arms the session that its handler has left, or leaves it alone. -/
theorem serve_rearming {f : ServedFrame} {r : Request} (hprotocol : stream.protocol = r.protocol) :
    Rearming build (f.exchange build station stream.sequence r) (f.handle r station).s20
      (serve build f station stream r).finish.1.station.s20
      (serve build f station stream r).finish.2 := by
  let x := f.exchange build station stream.sequence r
  exact @deliver_rearming build f.input
    { secc := x.result.secc, statics := x.result.statics, s20 := (f.handle r station).s20 }
    stream x rfl hprotocol

/-- The turn neither dispatches a request nor re-arms the session. -/
def Turn.Unarmed (turn : Turn) : Prop :=
  .reset20 ∉ turn.events ∧ ∀ x, .dispatched x ∉ turn.events

theorem undecodable_unarmed {station' : Station} {events : List StreamEvent}
    (hreset : .reset20 ∉ events) (hdispatched : ∀ x, .dispatched x ∉ events) :
    (undecodable station' stream events).Unarmed := by
  unfold undecodable
  split <;> exact ⟨hreset, hdispatched⟩

/-- A turn on the ISO 15118-20 path may change the session, but does not re-arm it. -/
theorem frame20Turn_unarmed {payloadType : PayloadType} {payload : List UInt8} :
    (frame20Turn build codec20 input station stream payloadType payload).Unarmed := by
  have hfate := frame20Turn_fate build codec20 input station stream payloadType payload
  generalize frame20Turn build codec20 input station stream payloadType payload = turn at hfate ⊢
  cases hfate with
  | unasked | unsent => exact ⟨by simp [leave], by simp [leave]⟩
  | undecoded => exact undecodable_unarmed (by simp) (by simp)
  | sent =>
    unfold concludeFrame20
    split <;> exact ⟨by simp [leave, proceed], by simp [leave, proceed]⟩

/-- An iteration that calls no handler does not re-arm the session. -/
theorem serveTurn_unarmed {f : ServedFrame}
    (hnone : dispatchedRequest build codec f.input station stream = none) :
    (serveTurn build codec codec20 f station stream).Unarmed := by
  have hfate := serveTurn_fate build codec codec20 f station stream
  generalize serveTurn build codec codec20 f station stream = turn at hfate ⊢
  cases hfate with
  | unread | rejected | refused => exact ⟨by simp [leave], by simp [leave]⟩
  | frame20 => exact frame20Turn_unarmed
  | undecoded => exact undecodable_unarmed (by simp) (by simp)
  | dispatched hdispatched => cases hnone.symm.trans hdispatched

end Turns

/-! ## Steps -/

section Steps

/-- The turn that ends or goes on neither dispatches nor re-arms more than it did. -/
theorem Turn.Unarmed.finish {turn : Turn} (h : turn.Unarmed) :
    .reset20 ∉ turn.finish.2 ∧ ∀ x, .dispatched x ∉ turn.finish.2 := by
  unfold Turn.finish
  split <;> simp [h.1, h.2]

/-- A step re-arms the session after the exchange of its handler, or not at all. -/
theorem server_step_rearm_cases (build : Build) (codec : Codec) (codec20 : Codec20) (c : Charger)
    (i : ServerInput) :
    (∃ stream x, c.stream = some stream ∧ i.exchange build codec c = some x ∧
        Decoded build x.registered stream x.request ∧
        Rearming build x (i.leftS20 c x.request)
          ((server build codec codec20).step c i).1.station.s20
          ((server build codec codec20).step c i).2) ∨
      i.exchange build codec c = none ∧ .reset20 ∉ ((server build codec codec20).step c i).2 ∧
        ∀ x, .dispatched x ∉ ((server build codec codec20).step c i).2 := by
  obtain ⟨station, _ | stream⟩ := c
  · right
    cases i <;> exact ⟨rfl, by simp [server, serverStep, chargerStep],
      by simp [server, serverStep, chargerStep]⟩
  cases i with
  | connect | retire =>
    exact .inr ⟨rfl, by simp [server, serverStep, chargerStep],
      by simp [server, serverStep, chargerStep]⟩
  | frame f =>
    have hstep : (server build codec codec20).step ⟨station, some stream⟩ (.frame f) =
        (serveTurn build codec codec20 f station stream).finish := rfl
    rw [hstep, ServerInput.exchange, Option.bind_some]
    -- without a request for the handler nothing is re-armed
    rcases hdispatched : dispatchedRequest build codec f.input station stream with
      _ | ⟨r, sequence⟩
    · exact .inr ⟨rfl, (serveTurn_unarmed hdispatched).finish⟩
    · left
      rw [serveTurn, hdispatched]
      refine ⟨stream, _, rfl, rfl, ?_, ?_⟩
      · exact decoded_of_presented (presented_of_dispatched hdispatched).1
      · exact @serve_rearming build station
          { stream with protocol := r.protocol, sequence, consecutiveUndecodable := 0 } f r rfl

end Steps

/-! ## The condition -/

section Condition

variable {build : Build} {codec : Codec} {c c' : Charger} {i : ServerInput} {x : Exchange}
  {es : List StreamEvent} {stream : Stream} {left : Option Secc20}

/-- What a response selects is among the offers of which the station selects one. -/
theorem Exchange.selection_ne_unknown (h : x.selected build ≠ .unknown) :
    x.selection build ≠ .unknown := by
  unfold Exchange.selected at h
  split at h
  · split_ifs at h with hfailed
    · exact absurd rfl h
    · exact selectAppProtocol_of_filter h
  · exact absurd rfl h

/-- A negotiation is decoded with what the station selects, or else with the protocol of the
stream. -/
theorem Decoded.protocol_of_negotiation (h : Decoded build x.registered stream x.request)
    (htype : x.request.type = .suppAppProtocolReq) :
    x.request.protocol =
      if x.selection build ≠ .unknown then x.selection build else stream.protocol := by
  rw [Exchange.selection]
  generalize x.request = r at h htype ⊢
  cases h with
  | app hprotocol => exact hprotocol
  | @iso2 doc _ _ => cases hbody : doc.body <;> simp [hbody, Iso2Body.messageType] at htype
  | @din doc _ => cases hbody : doc.body <;> simp [hbody, DinBody.messageType] at htype

/-- The loop re-arms the session after a negotiation that goes on when the station has selected
ISO 15118-20, or has selected nothing on a stream that speaks it. -/
theorem Exchange.rearms_iff (hdecoded : Decoded build x.registered stream x.request)
    (hbuild : stream.protocol = .iso15118_20_dc → build.iso20 = true) :
    x.Rearms build left ↔ x.GoesOn left ∧ x.request.type = .suppAppProtocolReq ∧
      (x.selection build = .iso15118_20_dc ∨
        x.selection build = .unknown ∧ stream.protocol = .iso15118_20_dc) := by
  constructor
  · intro h
    refine ⟨h.toGoesOn, h.negotiates, ?_⟩
    have hprotocol := hdecoded.protocol_of_negotiation h.negotiates
    rw [h.protocol] at hprotocol
    split_ifs at hprotocol with hknown
    · exact .inl hprotocol.symm
    · exact .inr ⟨not_not.mp hknown, hprotocol.symm⟩
  · rintro ⟨hgoes, htype, hselection⟩
    have hprotocol := hdecoded.protocol_of_negotiation htype
    rcases hselection with hselection | ⟨hnone, hstream⟩
    · rw [hselection] at hprotocol
      refine ⟨hgoes, ?_, htype, hprotocol⟩
      -- only such a build selects ISO 15118-20
      by_contra hnot
      exact selectAppProtocol_ne_iso20 (by simp [hnot]) x.request.appOffers hselection
    · rw [hnone] at hprotocol
      exact ⟨hgoes, hbuild hstream, htype, hprotocol.trans hstream⟩

/-- The condition says that the loop re-arms the session exactly after the responses that selected
ISO 15118-20. -/
theorem selectionRearms_iff {t : List ServerStep} (hstream : c.stream = some stream)
    (hx : i.exchange build codec c = some x)
    (hdecoded : Decoded build x.registered stream x.request)
    (hbuild : stream.protocol = .iso15118_20_dc → build.iso20 = true) :
    SelectionRearms build codec t c i ↔
      (x.selects20 build ↔ x.Rearms build (i.leftS20 c x.request)) := by
  rw [Exchange.rearms_iff hdecoded hbuild]
  constructor
  · intro h
    constructor
    · rintro ⟨hrc, hselected⟩
      obtain ⟨htype, hselection, hgoes⟩ := (h.answer x hx hrc).mp hselected
      exact ⟨hgoes, htype, .inl hselection⟩
    · rintro ⟨hgoes, htype, hselection | ⟨hnone, hspeaks⟩⟩
      · exact ⟨hgoes.sent, (h.answer x hx hgoes.sent).mpr ⟨htype, hselection, hgoes⟩⟩
      · exact absurd hgoes (h.retry stream x hstream hx hspeaks htype hnone)
  · intro h
    -- a response selects something only where the station does
    have hknown : x.selects20 build → x.selection build ≠ .unknown := fun hselects =>
      Exchange.selection_ne_unknown (by simp [hselects.2])
    refine ⟨fun stream' x' hstream' hx' hspeaks htype hnone hgoes => ?_, fun x' hx' hrc => ?_⟩
    · cases hstream.symm.trans hstream'
      cases hx.symm.trans hx'
      exact hknown (h.mpr ⟨hgoes, htype, .inr ⟨hnone, hspeaks⟩⟩) hnone
    · cases hx.symm.trans hx'
      constructor
      · intro hselected
        obtain ⟨hgoes, htype, hselection | ⟨hnone, -⟩⟩ := h.mp ⟨hrc, hselected⟩
        · exact ⟨htype, hselection, hgoes⟩
        · exact absurd hnone (hknown ⟨hrc, hselected⟩)
      · rintro ⟨htype, hselection, hgoes⟩
        exact (h.mpr ⟨hgoes, htype, .inl hselection⟩).2

/-- A step without an exchange is as it should be. -/
theorem rearmsSelected_of_not_mem {t : List ServerStep} (hreset : .reset20 ∉ es)
    (hdispatched : ∀ x, .dispatched x ∉ es) : RearmsSelected build t ⟨c, i, es, c'⟩ := by
  refine ⟨?_, ?_, ?_⟩
  · rintro pre post rfl
    simp at hreset
  · rintro pre x post rfl
    exact absurd (hdispatched x) (by simp)
  · intro x s20 hx
    exact absurd hx (hdispatched x)

/-- An exchange that re-arms the session does so as it should exactly when it selected
ISO 15118-20. -/
theorem rearmsSelected_iff_selects20 {t : List ServerStep} {s20 : Secc20} {nowMs : ℕ}
    {tail : List StreamEvent} (hleft : i.leftS20 c x.request = some s20)
    (hafter : c'.station.s20 = some (s20.reset nowMs))
    (htail : ∀ e ∈ tail, ∃ rc, e = .closed rc) :
    RearmsSelected build t ⟨c, i, .dispatched x :: .reset20 :: tail, c'⟩ ↔ x.selects20 build := by
  constructor
  · intro h
    obtain ⟨x', _, _, hpre, hselects, -⟩ := h.of_reset [.dispatched x] tail rfl
    cases hpre
    exact hselects
  · intro hselects
    have hclosed : ∀ e ∈ tail, e ≠ .reset20 ∧ ∀ x', e ≠ .dispatched x' := by
      intro e he
      obtain ⟨rc, rfl⟩ := htail e he
      simp
    refine ⟨?_, ?_, ?_⟩
    · intro pre post hevents
      refine ⟨x, s20, nowMs, ?_, hselects, hleft, hafter⟩
      rcases pre with _ | ⟨e, _ | ⟨e', pre⟩⟩ <;>
        simp only [List.nil_append, List.cons_append, List.cons.injEq, reduceCtorEq,
          false_and] at hevents
      · rw [hevents.1]
      -- a second reset would stand in the tail
      · exact absurd rfl (hclosed .reset20 (by simp [hevents.2.2])).1
    · intro pre x' post hevents _
      rcases pre with _ | ⟨e, _ | ⟨e', pre⟩⟩ <;>
        simp only [List.nil_append, List.cons_append, List.cons.injEq, reduceCtorEq,
          false_and, and_false] at hevents
      · rw [← hevents.2]
        rfl
      · exact absurd rfl ((hclosed (.dispatched x') (by simp [hevents.2.2])).2 x')
    · intro x' _ hx' hfails _
      have hx : x' = x := by
        rcases List.mem_cons.mp hx' with heq | hmem
        · exact StreamEvent.dispatched.inj heq
        · rcases List.mem_cons.mp hmem with heq | hmem
          · cases heq
          · exact absurd rfl ((hclosed _ hmem).2 x')
      -- a negotiation that failed has selected nothing
      obtain ⟨schemaId, hfailed⟩ := hfails
      have hselected := hselects.2
      rw [← hx, Exchange.selected, hfailed] at hselected
      cases hselected

/-- An exchange that leaves the session alone does so as it should exactly when it did not select
ISO 15118-20. -/
theorem rearmsSelected_iff_of_kept {t : List ServerStep} {tail : List StreamEvent}
    (hsame : c'.station.s20 = i.leftS20 c x.request)
    (htail : ∀ e ∈ tail, ∃ rc, e = .closed rc) :
    RearmsSelected build t ⟨c, i, .dispatched x :: tail, c'⟩ ↔ ¬x.selects20 build := by
  have hmem : ∀ e ∈ .dispatched x :: tail, e = .dispatched x ∨ ∃ rc, e = .closed rc := by
    intro e he
    exact (List.mem_cons.mp he).imp_right (htail e)
  constructor
  -- a response that selects ISO 15118-20 would have to be followed by a reset
  · intro h hselects
    have hhead := h.of_selected [] x tail rfl hselects
    obtain ⟨rc, hclosed⟩ := htail _ (List.mem_of_mem_head? hhead)
    cases hclosed
  · intro hselects
    refine ⟨?_, ?_, ?_⟩
    · intro pre post hevents
      -- the events hold no reset, and no other exchange
      have hreset : .reset20 ∈ .dispatched x :: tail := by
        rw [show .dispatched x :: tail = pre ++ .reset20 :: post from hevents]
        simp
      rcases hmem _ hreset with heq | ⟨rc, heq⟩ <;> cases heq
    · intro pre x' post hevents hselects'
      have hdispatched : .dispatched x' ∈ .dispatched x :: tail := by
        rw [show .dispatched x :: tail = pre ++ .dispatched x' :: post from hevents]
        simp
      rcases hmem _ hdispatched with heq | ⟨rc, heq⟩
      · cases heq
        exact absurd hselects' hselects
      · cases heq
    · intro x' s20 hx' _ hs20
      have hx : x' = x := by
        rcases hmem _ hx' with heq | ⟨rc, heq⟩
        · exact StreamEvent.dispatched.inj heq
        · cases heq
      rw [hx] at hs20
      exact ⟨s20, hsame.trans hs20, rfl, rfl, rfl⟩

/-- A stream that speaks ISO 15118-20 is one of an ISO 15118-20 build. -/
def SpeaksBuilt (build : Build) (c : Charger) : Prop :=
  ∀ stream, c.stream = some stream → stream.protocol = .iso15118_20_dc → build.iso20 = true

/-- A step keeps the invariant. -/
theorem SpeaksBuilt.move {Handled : Exchange → Prop} {Framed : Frame20 → Prop} {i : ChargerInput}
    (h : SpeaksBuilt build c) (hmove : StationMove build codec Handled Framed c i c' es) :
    SpeaksBuilt build c' := by
  cases hmove with
  | idle => exact h
  | connect =>
    rintro stream hstream hprotocol
    cases hstream
    cases hprotocol
  | retire hnone =>
    intro stream hstream
    cases hnone.symm.trans hstream
  | quiet hstream _ _ hnext =>
    intro stream' hstream' hprotocol
    exact h _ hstream ((hnext stream' hstream').2.symm.trans hprotocol)
  | rejected | refused =>
    intro stream hstream
    cases hstream
  | dispatched hstream _ hdecoded _ _ _ _ _ hfate =>
    intro stream' hstream' hprotocol
    obtain ⟨-, -, hrequest, -⟩ := hfate.of_some hstream'
    -- ISO 15118-20 has just been selected, which the build allows, or was spoken before
    rcases (hdecoded.of_iso20 (hrequest ▸ hprotocol)).2 with hselected | hspeaks
    · exact (Bool.and_eq_true_iff.mp hselected).1
    · exact h _ hstream hspeaks

/-- A step resets the session as it should exactly under the condition. -/
theorem SpeaksBuilt.step_iff (codec20 : Codec20) (h : SpeaksBuilt build c) (t : List ServerStep)
    (i : ServerInput) :
    RearmsSelected build t ⟨c, i, ((server build codec codec20).step c i).2,
        ((server build codec codec20).step c i).1⟩ ↔ SelectionRearms build codec t c i := by
  rcases server_step_rearm_cases build codec codec20 c i with
    ⟨stream, x, hstream, hx, hdecoded, hrearming⟩ | ⟨hnone, hreset, hdispatched⟩
  -- a call of the handler re-arms the session or leaves it
  · rw [selectionRearms_iff hstream hx hdecoded (h stream hstream)]
    generalize (server build codec codec20).step c i = next at hrearming ⊢
    obtain ⟨c', es⟩ := next
    dsimp only at hrearming ⊢
    generalize hafter : c'.station.s20 = after at hrearming
    cases hrearming with
    | kept hnot htail =>
      rw [rearmsSelected_iff_of_kept hafter htail, iff_false_right hnot]
    | rearmed hrearms hleft htail =>
      rw [rearmsSelected_iff_selects20 hleft hafter htail, iff_true_right hrearms]
  -- a step without one does neither
  · refine iff_of_true (rearmsSelected_of_not_mem hreset hdispatched) ⟨?_, ?_⟩
    · intro stream x _ hx
      cases hnone.symm.trans hx
    · intro x hx
      cases hnone.symm.trans hx

end Condition

/-- Over every run and for every handler, the ISO 15118-20 session is reset after the responses that
selected ISO 15118-20, and at no other time, exactly when no negotiation in which the station
selects nothing is answered on a stream that speaks ISO 15118-20, and the handler answers a
negotiation by selecting ISO 15118-20 when the station does. -/
theorem rearm_selected_iff (build : Build) (codec : Codec) (codec20 : Codec20) (station : Station)
    (inputs : List ServerInput) :
    Justified (RearmsSelected build)
        ((server build codec codec20).logged.run { station, stream := none } inputs).2 ↔
      (server build codec codec20).logged.Meets (SelectionRearms build codec) []
        { station, stream := none } inputs := by
  refine (server build codec codec20).logged.justified_run_iff_meets
    (fun _ c => SpeaksBuilt build c) ?_ ?_ ?_ inputs
  · intro t c i h
    exact h.move (server_move c i)
  · intro t c i h hjust
    rw [Machine.logged_step, hjust.concat_iff]
    exact h.step_iff codec20 t i
  · intro stream hstream
    cases hstream

/-- A vehicle that selects ISO 15118-20, and negotiates again in the charge loop. -/
def retryInChargeLoop : List ServerInput :=
  (.connect :: .frame (sampleArrival .exi [0] 0) ::
    sampleCharge.map fun input => .frame (sampleArrival input.payloadType input.exi 0)).map
      (ChargerInput.served sampleBuild20 sampleNegotiation20)

/-- The negotiation of an offer that is not supported resets the session, and forgets that the
contactor is closed. -/
theorem not_rearm_selected :
    ¬∀ build codec codec20 station inputs, build.iso20 = true →
      Justified (RearmsSelected build)
        ((server build codec codec20).logged.run { station, stream := none } inputs).2 := by
  intro h
  have hall := h sampleBuild20 sampleNegotiation20 sampleCodec20 sampleStation20
    (retryInChargeLoop ++
      [(ChargerInput.frame (sampleArrival .exi [1] 0)).served sampleBuild20 sampleNegotiation20])
    rfl
  rw [Machine.run_concat] at hall
  obtain ⟨s20', hs20', hkeeps⟩ := hall.last.of_failed _ _ List.mem_cons_self ⟨_, rfl⟩ rfl
  cases hs20'
  exact absurd hkeeps.contactorClosed (by decide)

end Jpv2g
