import Jpv2g.SeccIso20.Interlock
import Jpv2g.SeccIso20.Invariant

/-!
# Sessions of the ISO 15118-20 Module

The events of a run fall into sessions, each of which starts with a reset or with the
SessionSetupReq that establishes it. This file provides what the properties of a session are stated
with: the events of the session so far, and the response that a frame is answered with.

## Main definitions

* `thisSession`: the events of the session.
* `HandlerResult20.sent`: the response a frame is answered with.
* `FrameHands`: a frame refuses its request, or hands it to its handler.

## Main results

* `secc20Frame_hands`: every frame does one or the other.
* `Handles.rank_le`: a session never goes back.
* `InterlockInv.timedFrom`: the EIM timer of a session that authorizes.
-/

namespace Jpv2g

open Trace Event20

/-! ## Responses -/

/-- The response that the caller is given to send. -/
def HandlerResult20.sent (result : HandlerResult20) : Option Res20 :=
  match result.rc with
  | .ok _ => result.res
  | .error _ => none

section Sent

variable {codec : Codec20} {env : Env20} {outCap : ℕ} {s session : Secc20} {calls : List Call20}
  {kind : Req20} {code : ResponseCode20} {result : HandlerResult20} {res : Res20}

/-- The end of the frame keeps what is sent. -/
@[simp]
theorem s20Conclude_sent : (s20Conclude env result).sent = result.sent := by
  rw [HandlerResult20.sent, HandlerResult20.sent, s20Conclude_rc, s20Conclude_res]

/-- A response that is sent is the last one that was built. -/
theorem HandlerResult20.res_of_sent (h : result.sent = some res) : result.res = some res := by
  rw [HandlerResult20.sent] at h
  split at h
  · exact h
  · cases h

/-- The encoder takes the response. -/
def Res20.encodes (codec : Codec20) (outCap : ℕ) (res : Res20) : Bool :=
  (codec.encode res outCap).isSome

/-- The minimal response is sent when it encodes. -/
theorem s20BuildRes_sent :
    (s20BuildRes codec env outCap s calls kind code).sent =
      ((s20MinimalBody env s kind).map (s20FillHeader env s code)).filter
        (Res20.encodes codec outCap) := by
  rw [s20BuildRes, HandlerResult20.sent]
  rcases s20MinimalBody env s kind with _ | body
  · rfl
  · rcases hencode : codec.encode (s20FillHeader env s code body) outCap with _ | bytes <;>
      simp [s20Encode, Option.filter_some, Res20.encodes, hencode]

/-- A minimal response is sent when it encodes. -/
theorem s20BuildRes_sent_iff :
    (s20BuildRes codec env outCap s calls kind code).sent = some res ↔
      (∃ body, s20MinimalBody env s kind = some body ∧ s20FillHeader env s code body = res) ∧
        res.encodes codec outCap = true := by
  rw [s20BuildRes_sent, Option.filter_eq_some_iff, Option.map_eq_some_iff]

/-- A full response is sent when the minimal one encodes and it does. -/
theorem s20BuildFullRes_sent {body : Res20Body} :
    (s20BuildFullRes codec env outCap s calls kind code body).sent =
      (s20BuildRes codec env outCap s calls kind code).sent.bind fun _ =>
        (some (s20FillHeader env s code body)).filter (Res20.encodes codec outCap) := by
  rw [s20BuildRes_sent, s20BuildFullRes, s20BuildRes, HandlerResult20.sent]
  rcases s20MinimalBody env s kind with _ | minimal
  · rfl
  · rcases hmin : codec.encode (s20FillHeader env s code minimal) outCap with _ | bytes
    · simp [s20Encode, Option.filter_some, Res20.encodes, hmin]
    · rcases hfull : codec.encode (s20FillHeader env s code body) outCap with _ | bytes' <;>
        simp [s20Encode, Option.filter_some, Res20.encodes, hmin, hfull]

/-- A full response is sent when it encodes, and the minimal one before it did. -/
theorem s20BuildFullRes_sent_iff {body : Res20Body} :
    (s20BuildFullRes codec env outCap s calls kind code body).sent = some res ↔
      (∃ minimal, s20MinimalBody env s kind = some minimal ∧
        (s20FillHeader env s code minimal).encodes codec outCap = true) ∧
      s20FillHeader env s code body = res ∧ res.encodes codec outCap = true := by
  rw [s20BuildFullRes_sent, Option.bind_eq_some_iff]
  simp only [Option.filter_eq_some_iff, Option.some.injEq, exists_and_right]
  refine and_congr_left fun _ => ?_
  simp only [s20BuildRes_sent_iff]
  constructor
  · rintro ⟨_, ⟨minimal, hminimal, rfl⟩, hencodes⟩
    exact ⟨minimal, hminimal, hencodes⟩
  · rintro ⟨minimal, hminimal, hencodes⟩
    exact ⟨_, ⟨minimal, hminimal, rfl⟩, hencodes⟩

/-- A response that is sent was encoded. -/
theorem HandlerResult20.rc_of_sent (h : result.sent = some res) :
    ∃ bytes, result.rc = .ok bytes := by
  rw [HandlerResult20.sent] at h
  split at h
  · exact ⟨_, ‹_›⟩
  · cases h

/-- A response that has been built is sent, unless it does not encode. -/
theorem CarriesOut.sent_or_ebadmsg {disposition : Disposition20}
    (h : CarriesOut result session calls code disposition) :
    (∃ res, result.sent = some res) ∨ result.rc = .error .ebadmsg := by
  obtain ⟨res, hres, -⟩ := h.res_eq
  rcases hrc : result.rc with e | bytes
  · right
    rw [h.rc_error e hrc]
  · left
    refine ⟨res, ?_⟩
    rw [HandlerResult20.sent, hrc]
    exact hres

/-- The termination rule applied to a response that is sent. -/
theorem answers_of_sent {body : Body20} {disposition : Disposition20}
    (hcarries : CarriesOut result session calls code disposition)
    (hreplies : Replies codec env outCap s body result) (hsent : result.sent = some res) :
    res.responseCode = code ∧ res.body.kind = body.kind ∧
      (s20Conclude env result).session =
        concludeSession env session code (concludeDisposition code disposition) := by
  obtain ⟨bytes, hrc⟩ := HandlerResult20.rc_of_sent hsent
  have hres := HandlerResult20.res_of_sent hsent
  exact ⟨hcarries.code_eq hres, hreplies.kind_eq hres,
    (answers_of_ok env hcarries hreplies hrc).session_eq⟩

/-- A refusal that is sent ends the session. -/
theorem refused_sent (hcode : rcFailed ≤ code.value)
    (hsent : (s20BuildRes codec env outCap s.received [] kind code).sent = some res) :
    res.responseCode = code ∧ s20MinimalBody env s kind = some res.body ∧
      (s20Conclude env (s20BuildRes codec env outCap s.received [] kind code)).session.state =
        .ended := by
  obtain ⟨bytes, hrc⟩ := HandlerResult20.rc_of_sent hsent
  have hended : (s20Conclude env
      (s20BuildRes codec env outCap s.received [] kind code)).session.state = .ended := by
    simp [s20Conclude, hrc, hcode]
  obtain ⟨⟨body, hbody, rfl⟩, -⟩ := s20BuildRes_sent_iff.mp hsent
  exact ⟨rfl, hbody, hended⟩

end Sent

/-! ## Frames -/

/-- A frame refuses its request, or hands it to its handler. -/
inductive FrameHands (codec : Codec20) (outCap : ℕ) (f : Frame20) : Prop
  /-- No hook is invoked, and whatever is sent is a minimal response that ends the session. -/
  | refused (hrequest : f.request = none) (hcalls : f.result.calls = [])
      (hsession : ∃ code, ConcludesAs f.before code f.result.session)
      (hsent : ∀ res, f.result.sent = some res →
        (res.responseCode = .failedUnknownSession ∨ res.responseCode = .failedSequenceError) ∧
          (∃ kind, s20MinimalBody f.env f.before kind = some res.body) ∧
          f.result.session.state = .ended)
  | handled {doc : V2gDoc Body20} (hrequest : f.request = some doc)
      (hadmits : s20Admits f.before doc = true)
      (hresult : f.result =
        s20Conclude f.env (s20Handle codec f.env outCap f.before.received doc.body))

/-- Every frame refuses its request or hands it to its handler. -/
theorem secc20Frame_hands (codec : Codec20) (env : Env20) (outCap : ℕ) (s : Secc20)
    (payloadType : PayloadType) (exi : List UInt8) :
    FrameHands codec outCap (secc20Frame codec env outCap s payloadType exi) := by
  have hframe := receives codec env outCap s payloadType exi
  have houtcome := secc20Frame_outcome codec env outCap s payloadType exi
  cases houtcome with
  | rejected hrequest hsession hcalls =>
    refine .refused hrequest hcalls hsession ?_
    intro res hsent
    dsimp only [secc20Frame] at hsent hrequest ⊢
    generalize secc20HandleFrame codec env outCap s payloadType exi = result at hframe hsent
    cases hframe with
    -- a refusal is answered when the request was decoded, and ends the session
    | empty | ended | expired | undecodable => cases hsent
    | unknownSession | outOfSequence =>
      rw [s20Conclude_sent] at hsent
      obtain ⟨hcode, hbody, hended⟩ := refused_sent (by decide) hsent
      exact ⟨by simp [hcode], ⟨_, hbody⟩, hended⟩
    | handled hreads hdecode hadmits =>
      rw [handledRequest_of_decode _ _ _ hreads hdecode, if_pos hadmits] at hrequest
      cases hrequest
  | @handled doc _ _ _ _ hrequest hadmits =>
    refine .handled hrequest hadmits ?_
    dsimp only [secc20Frame] at hrequest ⊢
    generalize secc20HandleFrame codec env outCap s payloadType exi = result at hframe
    cases hframe with
    -- the request passed both gates, so that none of the earlier exits was taken
    | empty hexi => simp [handledRequest, hexi] at hrequest
    | ended _ hended => simp [handledRequest, hended] at hrequest
    | expired _ _ hexpired => simp [handledRequest, hexpired] at hrequest
    | undecodable hreads hdecode =>
      rw [handledRequest_of_reads _ _ _ hreads] at hrequest
      obtain ⟨hdecoded, hadmitted⟩ := Option.filter_eq_some_iff.mp hrequest
      simp [s20Admits, hdecode doc hdecoded, s20StateAccepts_none] at hadmitted
    | unknownSession hreads hdecode _ hunknown =>
      rw [handledRequest_of_decode _ _ _ hreads hdecode] at hrequest
      simp [s20Admits, hunknown] at hrequest
    | outOfSequence hreads hdecode _ _ hsequence =>
      rw [handledRequest_of_decode _ _ _ hreads hdecode] at hrequest
      simp [s20Admits, hsequence] at hrequest
    | @handled doc' hreads hdecode hadmits' =>
      rw [handledRequest_of_decode _ _ _ hreads hdecode, if_pos hadmits'] at hrequest
      cases hrequest
      rfl

/-! ## Sessions -/

/-- The event starts a session, or the way to one. -/
def Event20.begins : Event20 → Bool
  | .frame f => f.request.any fun doc => doc.body.kind == .sessionSetup
  | .reset => true

/-- The decision agrees with its predicate. -/
theorem Event20.begins_iff {e : Event20} : e.begins = true ↔ e.startsOver := by
  cases e with
  | reset => simp [begins, startsOver]
  | frame f =>
    rcases hrequest : f.request with _ | doc <;>
      simp [begins, startsOver, handledKind, hrequest]

/-- The events of the session so far, after the one that started it. -/
def thisSession (t : List Event20) : List Event20 :=
  sinceLast Event20.begins t

section Sessions

variable {t : List Event20} {e : Event20} {s session : Secc20} {env : Env20} {body : Body20}
  {calls : List Call20} {code : ResponseCode20} {disposition : Disposition20}

/-- A session that begins has no past. -/
theorem thisSession_of_begins (he : e.begins = true) : thisSession (t ++ [e]) = [] := by
  rw [thisSession, sinceLast_concat, if_pos he]

/-- Any other event is one more of the session. -/
theorem thisSession_concat (he : e.begins = false) :
    thisSession (t ++ [e]) = thisSession t ++ [e] := by
  rw [thisSession, sinceLast_concat, if_neg (by simp [he])]
  rfl

/-- The session is what follows its setup. -/
theorem thisSession_eq {sid : Sid} {Q : List Event20 → Prop}
    (h : FollowedBy (setsUp sid) (fun post => (∀ x ∈ post, ¬x.startsOver) ∧ Q post) t) :
    Q (thisSession t) := by
  obtain ⟨pre, setup, post, rfl, ⟨hsetup, -⟩, hover, hQ⟩ := h
  have hpost : thisSession ((pre ++ [setup]) ++ post) = thisSession (pre ++ [setup]) ++ post := by
    refine sinceLast_append ?_
    intro x hx
    exact Bool.eq_false_of_not_eq_true fun hbegins => hover x hx (begins_iff.mp hbegins)
  have heq : pre ++ setup :: post = (pre ++ [setup]) ++ post := by simp
  rw [heq, hpost, thisSession_of_begins (begins_iff.mpr (.inr hsetup))]
  exact hQ

/-- The EIM timer of a session that waits for authorization runs from its first
AuthorizationReq. -/
theorem InterlockInv.timedFrom (h : InterlockInv t s) (hstate : s.state = .authorization) :
    TimedFrom s (thisSession t) := by
  obtain ⟨-, hfollowed⟩ := h.secured (by simp [hstate]) (by simp [hstate])
  have hsecured := thisSession_eq hfollowed
  rwa [Secured, hstate] at hsecured

/-- A session never goes back. -/
theorem Handles.rank_le (h : Handles s env body session calls code disposition)
    (haccepts : s20StateAccepts s.state body.kind = true) : s.state.rank ≤ session.state.rank := by
  have hstates := mem_acceptingStates haccepts
  cases h with
  | sessionSetup | authSetup | authorizationGranted | serviceDiscovery | serviceSelection
  | scheduleExchange | dcCpd | cableCheckFinished =>
    simp [List.mem_singleton.mp hstates, State20.rank]
  | authorizationSelectionInvalid | authorizationExpired | authorizationRejected
  | authorizationPending | scheduleExchangeFailed => simp
  | start | stop =>
    rcases List.mem_pair.mp hstates with hstate | hstate <;> simp [hstate, State20.rank]
  | preCharge =>
    split
    · rename_i hstate
      simp [hstate, State20.rank]
    · exact le_rfl
  | welding =>
    split
    · simp [List.mem_singleton.mp hstates, State20.rank]
    · exact le_rfl
  | _ => exact le_rfl

end Sessions

end Jpv2g
