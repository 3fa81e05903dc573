import Jpv2g.SeccIso20.SequenceTimer
import Jpv2g.SeccIso20.Sessions

/-!
# The Bound on Authorization

The first AuthorizationReq of an ISO 15118-20 session starts a timer of 180 s. An AuthorizationReq
that selects EIM is answered FAILED once it has expired, and never before. One that selects another
service is answered with a warning and EVSEProcessing Ongoing at any time. Times are those the
handler of the AuthorizationReq reads.

## Main definitions

* `Overdue`: more than 180 s after the first AuthorizationReq of the session.
* `AuthorizationBounded`: the bound.
* `OtherSelectedInTime`: the condition, on the AuthorizationReqs that do not select EIM.

## Main results

* `authorization_bounded_iff`: over every run, the bound is kept exactly when no AuthorizationReq
  selects another service too late.
-/

namespace Jpv2g

open Trace Event20

/-- The time is more than 180 s after the first AuthorizationReq of the session. -/
def Overdue (t : List Event20) (now : ℕ) : Prop :=
  ∃ first, FirstSat (handledKind .authorization) first (thisSession t) ∧
    first.time + Secc20.eimOngoingTimeoutMs < now

/-- The bound on the authorization of a session, for the answer to one frame. -/
structure AnswersInTime (pre : List Event20) (f : Frame20) : Prop where
  /-- No AuthorizationRes keeps the vehicle waiting too late. -/
  ongoing : ∀ res processing, f.result.sent = some res → res.body = .authorization processing →
    processing ≠ .finished → ¬Overdue pre f.env.nowHandler
  /-- Whatever answers a late AuthorizationReq is a failure, and ends the session. -/
  ends : ∀ res, f.result.sent = some res → res.body.kind = .authorization →
    Overdue pre f.env.nowHandler →
      rcFailed ≤ res.responseCode.value ∧ f.result.session.state = .ended
  /-- A late AuthorizationReq in its place is answered FAILED, unless the response does not
  encode. -/
  failed : ∀ doc, f.request = some doc → doc.body.kind = .authorization →
    Overdue pre f.env.nowHandler →
      (∃ res, f.result.sent = some res ∧ res.responseCode = .failed) ∨
        f.result.rc = .error .ebadmsg
  /-- No AuthorizationReq fails for expiry before. -/
  early : ∀ res, f.result.sent = some res → res.body.kind = .authorization →
    res.responseCode = .failed → Overdue pre f.env.nowHandler

/-- The authorization of every session is bounded. -/
def AuthorizationBounded (pre : List Event20) : Event20 → Prop
  | .frame f => AnswersInTime pre f
  | .reset => True

/-- An AuthorizationReq that does not select EIM, and whose response encodes, is in time. -/
def OtherSelectedInTime (codec : Codec20) (t : List Event20) (s : Secc20) : Input20 → Prop
  | .frame input => ∀ sid selected,
      handledRequest codec input.env s input.payloadType input.exi =
        some ⟨sid, .common (.authorizationReq selected)⟩ → selected ≠ .eim →
      (∀ processing, processing = .finished ∨ processing = .ongoingWaitingForCustomerInteraction →
        (s20FillHeader input.env s .warningAuthorizationSelectionInvalid
          (.authorization processing)).encodes codec input.outCap = true) →
        ¬Overdue t input.env.nowHandler
  | .reset _ => True

section Timer

variable {t : List Event20} {s : Secc20} {env : Env20} {now : ℕ}

/-- The timer of the session has expired exactly when it is overdue. -/
theorem TimedFrom.overdue_iff (h : TimedFrom s (thisSession t)) :
    Overdue t now ↔ (s.startEimTimer now).eimOngoingDeadlineMs < now := by
  rw [Secc20.startEimTimer]
  rcases h with ⟨hunarmed, hnone⟩ | ⟨first, hfirst, hdeadline⟩
  · rw [if_pos hunarmed]
    refine iff_of_false ?_ (by simp)
    rintro ⟨first, hfirst, -⟩
    exact hnone first hfirst.mem hfirst.1
  · have harmed : s.eimOngoingDeadlineMs ≠ 0 := by
      rw [hdeadline]
      exact Nat.add_one_ne_zero _
    rw [if_neg harmed, hdeadline]
    constructor
    · rintro ⟨first', hfirst', hlate⟩
      rwa [hfirst.unique hfirst']
    · exact fun hlate => ⟨first, hfirst, hlate⟩

/-- The timer is not part of a response. -/
theorem s20FillHeader_startEimTimer {code : ResponseCode20} {body : Res20Body} :
    s20FillHeader env (s.startEimTimer now) code body = s20FillHeader env s code body := by
  simp [s20FillHeader, s20NowUnix]

end Timer

/-! ## The answers to an AuthorizationReq -/

/-- The answers to an AuthorizationReq. -/
inductive AuthorizationAnswer (s : Secc20) (env : Env20) (selected : Authorization20)
    (res : Res20) : Prop
  | other (hselected : selected ≠ .eim)
      (hcode : res.responseCode = .warningAuthorizationSelectionInvalid)
      (hbody : res.body = .authorization .ongoingWaitingForCustomerInteraction)
  | expired (hselected : selected = .eim)
      (hexpired : (s.startEimTimer env.nowHandler).eimOngoingDeadlineMs < env.nowHandler)
      (hcode : res.responseCode = .failed) (hbody : res.body = .authorization .finished)
  | inTime (hselected : selected = .eim)
      (hintime : env.nowHandler ≤ (s.startEimTimer env.nowHandler).eimOngoingDeadlineMs)
      (hcode : res.responseCode ≠ .failed)

/-- Only an AuthorizationReq is of its kind. -/
theorem Body20.eq_authorizationReq {body : Body20} (h : body.kind = .authorization) :
    ∃ selected, body = .common (.authorizationReq selected) := by
  rcases body with (_ | _) | (_ | _)
  all_goals first | exact ⟨_, rfl⟩ | cases h

section Answers

variable {codec : Codec20} {env : Env20} {outCap : ℕ} {s : Secc20} {selected : Authorization20}
  {res : Res20}

/-- The response to an AuthorizationReq is one of the answers. -/
theorem s20HandleAuthorization_sent
    (h : (s20HandleAuthorization codec env outCap s selected).sent = some res) :
    AuthorizationAnswer s env selected res := by
  rw [s20HandleAuthorization] at h
  dsimp only at h
  split_ifs at h with hselected hexpired
  · obtain ⟨-, rfl, -⟩ := s20BuildFullRes_sent_iff.mp h
    exact .other hselected rfl rfl
  · obtain ⟨-, rfl, -⟩ := s20BuildFullRes_sent_iff.mp h
    exact .expired (not_not.mp hselected) hexpired rfl rfl
  · have hselected := not_not.mp hselected
    have hintime := Nat.le_of_not_gt hexpired
    -- whatever the callback says, the code of the response is not FAILED
    split at h <;> obtain ⟨-, rfl, -⟩ := s20BuildFullRes_sent_iff.mp h <;>
      exact .inTime hselected hintime (by simp [s20FillHeader])

/-- An AuthorizationReq for another service is answered when its response encodes. -/
theorem s20HandleAuthorization_other (hselected : selected ≠ .eim) :
    (∃ res, (s20HandleAuthorization codec env outCap s selected).sent = some res) ↔
      ∀ processing, processing = .finished ∨ processing = .ongoingWaitingForCustomerInteraction →
        (s20FillHeader env s .warningAuthorizationSelectionInvalid
          (.authorization processing)).encodes codec outCap = true := by
  rw [s20HandleAuthorization, if_pos hselected]
  simp only [s20BuildFullRes_sent_iff, s20FillHeader_startEimTimer]
  constructor
  · rintro ⟨_, ⟨minimal, hminimal, hfinished⟩, rfl, hongoing⟩ processing (rfl | rfl)
    · cases hminimal
      exact hfinished
    · exact hongoing
  · intro h
    exact ⟨_, ⟨_, rfl, h _ (.inl rfl)⟩, rfl, h _ (.inr rfl)⟩

end Answers

/-! ## The steps -/

section Steps

variable {codec : Codec20} {outCap : ℕ} {t : List Event20} {f : Frame20} {sid : List UInt8}
  {selected : Authorization20}

/-- A frame that is not answered with an AuthorizationRes, and handles no AuthorizationReq, is in
time. -/
theorem answersInTime_of_other
    (hsent : ∀ res, f.result.sent = some res → res.body.kind ≠ .authorization)
    (hrequest : ∀ doc, f.request = some doc → doc.body.kind ≠ .authorization) :
    AnswersInTime t f := by
  refine ⟨?_, ?_, ?_, ?_⟩
  · intro res processing hres hbody
    exact absurd (by rw [hbody]; rfl) (hsent res hres)
  · exact fun res hres hkind => absurd hkind (hsent res hres)
  · exact fun doc hdoc hkind => absurd hkind (hrequest doc hdoc)
  · exact fun res hres hkind => absurd hkind (hsent res hres)

/-- A refusal is in time. -/
theorem answersInTime_of_refused (hrequest : f.request = none)
    (hsent : ∀ res, f.result.sent = some res →
      (res.responseCode = .failedUnknownSession ∨ res.responseCode = .failedSequenceError) ∧
        (∃ kind, s20MinimalBody f.env f.before kind = some res.body) ∧
        f.result.session.state = .ended) : AnswersInTime t f := by
  refine ⟨?_, ?_, ?_, ?_⟩
  · intro res processing hres hbody hprocessing
    obtain ⟨-, ⟨kind, hminimal⟩, -⟩ := hsent res hres
    -- the minimal AuthorizationRes says Finished
    have hkind := s20MinimalBody_kind hminimal
    rw [hbody] at hminimal hkind
    cases hkind
    cases hminimal
    exact absurd rfl hprocessing
  · intro res hres _ _
    obtain ⟨hcode, -, hended⟩ := hsent res hres
    refine ⟨?_, hended⟩
    rcases hcode with hcode | hcode <;> rw [hcode] <;> decide
  · intro doc hdoc
    cases hrequest.symm.trans hdoc
  · intro res hres _ hfailed
    rcases (hsent res hres).1 with hcode | hcode <;> cases hcode.symm.trans hfailed

/-- An AuthorizationReq that selects EIM is answered in time. -/
theorem answersInTime_of_eim (htimed : TimedFrom f.before.received (thisSession t))
    (hresult : f.result = s20Conclude f.env
      (s20HandleAuthorization codec f.env outCap f.before.received .eim)) :
    AnswersInTime t f := by
  have hlate : Overdue t f.env.nowHandler ↔
      (f.before.received.startEimTimer f.env.nowHandler).eimOngoingDeadlineMs <
        f.env.nowHandler := htimed.overdue_iff
  have hsent : f.result.sent =
      (s20HandleAuthorization codec f.env outCap f.before.received .eim).sent := by
    rw [hresult, s20Conclude_sent]
  obtain ⟨session, calls, code, disposition, houtcome, hcarries⟩ :=
    s20HandleAuthorization_handled codec f.env outCap f.before.received .eim
  -- a late answer is the expired one
  have hexpired : ∀ res, f.result.sent = some res → Overdue t f.env.nowHandler →
      res.responseCode = .failed ∧ res.body = .authorization .finished := by
    intro res hres hl
    cases s20HandleAuthorization_sent (hsent.symm.trans hres) with
    | other hselected => exact absurd rfl hselected
    | expired _ _ hcode hbody => exact ⟨hcode, hbody⟩
    | inTime _ hintime => exact absurd (hlate.mp hl) (by omega)
  refine ⟨?_, ?_, ?_, ?_⟩
  · intro res processing hres hbody hprocessing hl
    obtain ⟨-, hfinished⟩ := hexpired res hres hl
    cases hbody.symm.trans hfinished
    exact hprocessing rfl
  · intro res hres _ hl
    obtain ⟨hfailed, -⟩ := hexpired res hres hl
    refine ⟨by rw [hfailed]; decide, ?_⟩
    obtain ⟨hcode, -, hsession⟩ :=
      answers_of_sent hcarries
        (s20HandleAuthorization_replies codec f.env outCap f.before.received .eim)
        (hsent.symm.trans hres)
    rw [hresult]
    refine (congrArg Secc20.state hsession).trans ?_
    rw [← hcode, hfailed]
    cases houtcome <;> rfl
  · intro doc _ _ hl
    rcases hcarries.sent_or_ebadmsg with ⟨res, hres⟩ | hrc
    · have hres := hsent.trans hres
      exact .inl ⟨res, hres, (hexpired res hres hl).1⟩
    · right
      rw [hresult, s20Conclude_rc]
      exact hrc
  · intro res hres _ hfailed
    cases s20HandleAuthorization_sent (hsent.symm.trans hres) with
    | other hselected => exact absurd rfl hselected
    | expired _ hexpired => exact hlate.mpr hexpired
    | inTime _ _ hcode => exact absurd hfailed hcode

/-- An AuthorizationReq for another service is in time exactly when it is not answered late. -/
theorem answersInTime_other_iff (hselected : selected ≠ .eim)
    (hresult : f.result = s20Conclude f.env
      (s20HandleAuthorization codec f.env outCap f.before.received selected)) :
    AnswersInTime t f ↔
      ((∃ res, f.result.sent = some res) → ¬Overdue t f.env.nowHandler) := by
  have hsent : f.result.sent =
      (s20HandleAuthorization codec f.env outCap f.before.received selected).sent := by
    rw [hresult, s20Conclude_sent]
  -- every answer keeps the vehicle waiting
  have hanswer : ∀ res, f.result.sent = some res →
      res.responseCode = .warningAuthorizationSelectionInvalid ∧
        res.body = .authorization .ongoingWaitingForCustomerInteraction := by
    intro res hres
    cases s20HandleAuthorization_sent (hsent.symm.trans hres) with
    | other _ hcode hbody => exact ⟨hcode, hbody⟩
    | expired heim | inTime heim => exact absurd heim hselected
  constructor
  · rintro h ⟨res, hres⟩
    exact h.ongoing res _ hres (hanswer res hres).2 nofun
  · intro h
    refine ⟨?_, ?_, ?_, ?_⟩
    · exact fun res processing hres _ _ => h ⟨res, hres⟩
    · exact fun res hres _ hl => absurd hl (h ⟨res, hres⟩)
    · intro doc _ _ hl
      obtain ⟨session, calls, code, disposition, -, hcarries⟩ :=
        s20HandleAuthorization_handled codec f.env outCap f.before.received selected
      rcases hcarries.sent_or_ebadmsg with ⟨res, hres⟩ | hrc
      · exact absurd hl (h ⟨res, hsent.trans hres⟩)
      · right
        rw [hresult, s20Conclude_rc]
        exact hrc
    · intro res hres _ hfailed
      cases (hanswer res hres).1.symm.trans hfailed

/-- In a session with its milestones, a frame keeps the bound exactly when it is not a late
AuthorizationReq for another service. -/
theorem InterlockInv.answersInTime_iff {s : Secc20} (h : InterlockInv t s) (input : FrameInput20) :
    AnswersInTime t
        (secc20Frame codec input.env input.outCap s input.payloadType input.exi) ↔
      OtherSelectedInTime codec t s (.frame input) := by
  have hhands :=
    secc20Frame_hands codec input.env input.outCap s input.payloadType input.exi
  cases hhands with
  | refused hrequest _ _ hsent =>
    refine iff_of_true (answersInTime_of_refused hrequest hsent) ?_
    intro sid selected hasks
    cases hrequest.symm.trans hasks
  | @handled doc hrequest hadmits hresult =>
    have haccepts : s20StateAccepts s.state doc.body.kind = true :=
      s20StateAccepts_of_admits hadmits
    -- only an AuthorizationReq is bounded
    by_cases hkind : doc.body.kind = .authorization
    · rw [hkind] at haccepts
      have hstate := List.mem_singleton.mp (mem_acceptingStates haccepts)
      obtain ⟨sid, body⟩ := doc
      obtain ⟨selected, rfl⟩ := Body20.eq_authorizationReq hkind
      -- with EIM the deadline is checked, with another selection it is not
      by_cases hselected : selected = .eim
      · subst hselected
        refine iff_of_true (answersInTime_of_eim (h.timedFrom hstate) hresult) ?_
        intro sid' selected' hasks hother
        cases hrequest.symm.trans hasks
        exact absurd rfl hother
      · rw [answersInTime_other_iff hselected hresult, hresult, s20Conclude_sent]
        refine (imp_congr_left (s20HandleAuthorization_other hselected)).trans ?_
        constructor
        · intro hintime sid' selected' hasks _ hencodes
          exact hintime hencodes
        · intro hintime hencodes
          exact hintime sid selected hrequest hselected hencodes
    · refine iff_of_true (answersInTime_of_other ?_ ?_) ?_
      · intro res hres
        rw [hresult, s20Conclude_sent] at hres
        have hreplies := s20Handle_replies codec input.env input.outCap s.received doc.body
        rw [hreplies.kind_eq (HandlerResult20.res_of_sent hres)]
        exact hkind
      · intro doc' hdoc'
        cases hrequest.symm.trans hdoc'
        exact hkind
      · intro sid selected hasks
        cases hrequest.symm.trans hasks
        exact absurd rfl hkind

end Steps

/-- Over every run and every clock, the authorization of every session is bounded by 180 s from its
first AuthorizationReq exactly when no AuthorizationReq for a service other than EIM, whose response
encodes, is handled later than that. -/
theorem authorization_bounded_iff (codec : Codec20) (cfg : Config20) (inputs : List Input20) :
    Justified AuthorizationBounded ((secc20Machine codec).run (.init cfg) inputs).2 ↔
      (secc20Machine codec).Meets (OtherSelectedInTime codec) [] (.init cfg) inputs := by
  refine (secc20Machine codec).justified_run_iff_meets InterlockInv (fun _ _ i h => h.step codec i)
    ?_ (interlockInv_init cfg) inputs
  intro t s i h hjust
  cases i with
  | reset nowMs => exact iff_of_true (hjust.concat trivial) trivial
  | frame input => exact hjust.concat_iff.trans (h.answersInTime_iff input)

/-- A codec whose AuthorizationReq selects a contract. -/
def contractCodec : Codec20 where
  decodeCommon
    | [2] => some ⟨sampleSid.1, .authorizationReq .pnc⟩
    | exi => sampleCodec20.decodeCommon exi
  decodeDc := sampleCodec20.decodeDc
  encode _ _ := some [0]

/-- A vehicle that repeats a contract selection within the sequence timer is still kept waiting
after 180 s. -/
theorem not_authorization_bounded :
    ¬∀ codec cfg frames, (clockReadings 0 frames).Pairwise (· ≤ ·) →
      Justified AuthorizationBounded
        ((secc20Machine codec).run (.init cfg) (frames.map .frame)).2 := by
  intro h
  have hrun := h contractCodec sampleConfig20
    ([sampleFrameAt 0 0, sampleFrameAt 1 0, sampleFrameAt 2 0, sampleFrameAt 2 60000,
      sampleFrameAt 2 120000, sampleFrameAt 2 180000] ++ [sampleFrameAt 2 180001]) (by decide)
  rw [List.map_append, List.map_singleton, Machine.run_concat] at hrun
  refine hrun.last.ongoing _ _ rfl rfl (by decide)
    ⟨.frame _, ⟨?_, [.frame _], _, rfl, ?_⟩, ?_⟩
  · exact ⟨_, rfl, rfl⟩
  · intro x hx
    rw [List.mem_singleton.mp hx]
    rintro ⟨doc, hdoc, hkind⟩
    cases hdoc
    cases hkind
  · decide

end Jpv2g
