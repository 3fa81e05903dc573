import Jpv2g.SeccIso20.Contactor
import Jpv2g.SeccIso20.Sessions

/-!
# Service Offer and Selection

An ISO 15118-20 vehicle may filter the services it is offered. The response to its
ServiceDiscoveryReq respects the filter, but the ServiceSelectionReq that follows is compared with
the one service of the module, whether it was offered or not.

## Main definitions

* `lastOffer`: the services offered last in the session.
* `SelectsOffered`: a selection that is answered OK was offered.
* `SelectsAfterOffer`: the condition, on the last ServiceDiscoveryReq.

## Main results

* `selects_offered_iff`: over every run, all selections were offered exactly when the last
  ServiceDiscoveryReq before each of them admitted the service and was answered.
-/

namespace Jpv2g

open Trace Event20

/-! ## Offers -/

/-- The services that a response offers. -/
def Res20.offers (res : Res20) : Option (List ℕ) :=
  match res.body with
  | .serviceDiscovery _ services => some services
  | _ => none

namespace Event20

/-- The services that the event offered. -/
def offers : Event20 → Option (List ℕ)
  | .frame f => f.result.sent.bind Res20.offers
  | .reset => none

/-- Whether a ServiceDiscoveryReq admitted the DC service and was answered. -/
def discovers : Event20 → Option Bool
  | .frame f =>
    match f.request with
    | some ⟨_, .common (.serviceDiscoveryReq ids)⟩ => some (offersDc ids && f.result.sent.isSome)
    | _ => none
  | .reset => none

end Event20

/-- The services offered last in the session. -/
def lastOffer (t : List Event20) : Option (List ℕ) :=
  lastSome Event20.offers (thisSession t)

/-- Whether the last ServiceDiscoveryReq of the session admitted the DC service and was answered. -/
def lastDiscovery (t : List Event20) : Option Bool :=
  lastSome Event20.discovers (thisSession t)

/-- A ServiceSelectionReq is answered OK only if the service it selects was offered last, and the
session moves on. -/
def SelectsOffered (pre : List Event20) : Event20 → Prop
  | .frame f => ∀ res, f.result.sent = some res → res.body = .serviceSelection →
      res.responseCode = .ok → f.result.session.state = .dcCpd ∧
        ∃ sid serviceId parameterSetId vas services,
          f.request =
            some ⟨sid, .common (.serviceSelectionReq serviceId parameterSetId vas)⟩ ∧
          lastOffer pre = some services ∧ serviceId ∈ services
  | .reset => True

/-- The selection of the DC service that a frame hands over, when its response encodes, comes after
a ServiceDiscoveryReq that admitted the service and was answered. -/
def SelectsAfterOffer (codec : Codec20) (t : List Event20) (s : Secc20) : Input20 → Prop
  | .frame input => ∀ sid,
      handledRequest codec input.env s input.payloadType input.exi =
        some ⟨sid, .common (.serviceSelectionReq dcServiceId dcParameterSetId 0)⟩ →
      (s20FillHeader input.env s .ok .serviceSelection).encodes codec input.outCap = true →
        lastDiscovery t = some true
  | .reset _ => True

/-- The invariant: nothing is offered before the discovery, and after it the DC service was offered
exactly when the filter admitted it and the response was sent. -/
structure OfferInv (t : List Event20) (s : Secc20) : Prop where
  before : s.state.rank < State20.serviceDetail.rank → lastOffer t = none
  detail : s.state = .serviceDetail →
    ((∃ services, lastOffer t = some services ∧ dcServiceId ∈ services) ↔
      lastDiscovery t = some true)

section Handlers

variable {codec : Codec20} {env : Env20} {outCap : ℕ} {s session : Secc20} {body : Body20}
  {calls : List Call20} {code : ResponseCode20} {disposition : Disposition20} {res : Res20}

/-- Only the discovery leads to the selection. -/
theorem Handles.serviceDetail_of (h : Handles s env body session calls code disposition)
    (hkind : body.kind ≠ .serviceDiscovery) (hstate : session.state = .serviceDetail) :
    s.state = .serviceDetail := by
  cases h with
  | serviceDiscovery => exact absurd rfl hkind
  | authorizationSelectionInvalid | authorizationExpired | authorizationRejected
  | authorizationPending | scheduleExchangeFailed => simpa using hstate
  | preCharge | welding => split at hstate <;> simp_all
  | _ => first | exact hstate | cases hstate

/-- The response to a ServiceDiscoveryReq offers the DC service when the filter admits it. -/
theorem s20HandleServiceDiscovery_sent {ids : Option (List ℕ)}
    (h : (s20HandleServiceDiscovery codec env outCap s ids).sent = some res) :
    res.offers = some (if offersDc ids then [dcServiceId] else []) := by
  rw [s20HandleServiceDiscovery] at h
  split_ifs at h with hoffers
  · obtain ⟨⟨body, hbody, rfl⟩, -⟩ := s20BuildRes_sent_iff.mp h
    cases hbody
    rw [if_pos hoffers]
    rfl
  · obtain ⟨-, rfl, -⟩ := s20BuildFullRes_sent_iff.mp h
    rw [if_neg hoffers]
    rfl

/-- A selection is answered OK when it is that of the DC service and its response encodes. -/
theorem s20HandleServiceSelection_ok {serviceId parameterSetId vas : ℕ} :
    (∃ res, (s20HandleServiceSelection codec env outCap s serviceId parameterSetId vas).sent =
        some res ∧ res.responseCode = .ok) ↔
      (serviceId = dcServiceId ∧ parameterSetId = dcParameterSetId ∧ vas = 0) ∧
        (s20FillHeader env s .ok .serviceSelection).encodes codec outCap = true := by
  rw [s20HandleServiceSelection]
  split_ifs with hid hset
  · refine iff_of_false ?_ (fun h => hid h.1.1)
    -- either refusal has a code of its own
    rintro ⟨res, hsent, hok⟩
    obtain ⟨⟨body, -, rfl⟩, -⟩ := s20BuildRes_sent_iff.mp hsent
    cases hok
  · refine iff_of_false ?_ ?_
    · rintro ⟨res, hsent, hok⟩
      obtain ⟨⟨body, -, rfl⟩, -⟩ := s20BuildRes_sent_iff.mp hsent
      cases hok
    · rintro ⟨⟨-, hparameter, hvas⟩, -⟩
      rcases hset with hset | hset
      · exact hset hparameter
      · omega
  · have hselects : serviceId = dcServiceId ∧ parameterSetId = dcParameterSetId ∧ vas = 0 := by
      obtain ⟨hparameter, hvas⟩ := not_or.mp hset
      exact ⟨not_not.mp hid, not_not.mp hparameter, by omega⟩
    constructor
    · rintro ⟨res, hsent, -⟩
      obtain ⟨⟨body, hbody, rfl⟩, hencodes⟩ := s20BuildRes_sent_iff.mp hsent
      cases hbody
      exact ⟨hselects, hencodes⟩
    · rintro ⟨-, hencodes⟩
      exact ⟨_, s20BuildRes_sent_iff.mpr ⟨⟨_, rfl, rfl⟩, hencodes⟩, rfl⟩

end Handlers

/-! ## The invariant -/

section Steps

variable {codec : Codec20} {outCap : ℕ} {t : List Event20} {e : Event20} {s s' : Secc20}
  {f : Frame20} {doc : V2gDoc Body20}

/-- An ended session owes nothing. -/
theorem offerInv_of_ended (hended : s.state = .ended) : OfferInv t s := by
  constructor <;> rw [hended]
  · exact fun h => absurd h (by decide)
  · exact fun h => absurd h (by decide)

/-- A session that starts has offered nothing. -/
theorem offerInv_of_begins (he : e.begins = true) (hstate : s.state ≠ .serviceDetail) :
    OfferInv (t ++ [e]) s := by
  refine ⟨?_, fun h => absurd h hstate⟩
  intro _
  rw [lastOffer, thisSession_of_begins he, lastSome_nil]

/-- An event that offers nothing keeps the invariant, while the session does not go back. -/
theorem OfferInv.keep (h : OfferInv t s) (hbegins : e.begins = false) (hoffers : e.offers = none)
    (hdiscovers : e.discovers = none)
    (hrank : s.state.rank ≤ s'.state.rank)
    (hdetail : s'.state = .serviceDetail → s.state = .serviceDetail) :
    OfferInv (t ++ [e]) s' := by
  have hoffer : lastOffer (t ++ [e]) = lastOffer t := by
    rw [lastOffer, thisSession_concat hbegins, lastSome_concat, hoffers]
    rfl
  have hdiscovery : lastDiscovery (t ++ [e]) = lastDiscovery t := by
    rw [lastDiscovery, thisSession_concat hbegins, lastSome_concat, hdiscovers]
    rfl
  constructor
  · intro hbefore
    rw [hoffer]
    exact h.before (lt_of_le_of_lt hrank hbefore)
  · intro hstate
    rw [hoffer, hdiscovery]
    exact h.detail (hdetail hstate)

/-- Only a ServiceDiscoveryRes offers services. -/
theorem Res20.offers_eq_none {res : Res20} (h : res.body.kind ≠ .serviceDiscovery) :
    res.offers = none := by
  rw [Res20.offers]
  split
  · rename_i hbody
    rw [hbody] at h
    exact absurd rfl h
  · rfl

/-- A handled discovery offers the DC service exactly when it is recorded so. -/
theorem OfferInv.discovery {sid : List UInt8} {ids : Option (List ℕ)} (h : OfferInv t f.before)
    (hrequest : f.request = some ⟨sid, .common (.serviceDiscoveryReq ids)⟩)
    (hstate : f.before.state = .serviceDiscovery)
    (hsent : f.result.sent =
      (s20HandleServiceDiscovery codec f.env outCap f.before.received ids).sent) :
    (∃ services, lastOffer (t ++ [.frame f]) = some services ∧ dcServiceId ∈ services) ↔
      lastDiscovery (t ++ [.frame f]) = some true := by
  have hbegins : (Event20.frame f).begins = false := by
    simp [begins, hrequest, Body20.kind, Common20Body.kind]
  -- nothing has been offered before in this session
  have hnone : lastOffer t = none := h.before (by rw [hstate]; decide)
  have hoffer : lastOffer (t ++ [.frame f]) = f.result.sent.bind Res20.offers := by
    rw [lastOffer, thisSession_concat hbegins, lastSome_concat, ← lastOffer, hnone, Option.or_none]
    rfl
  -- what is sent is an offer, and tells what was asked for
  have hdiscovery : lastDiscovery (t ++ [.frame f]) =
      some (offersDc ids && f.result.sent.isSome) := by
    rw [lastDiscovery, thisSession_concat hbegins, lastSome_concat]
    simp [discovers, hrequest]
  rw [hoffer, hdiscovery]
  rcases hres : f.result.sent with _ | res
  · simp
  · rw [hres] at hsent
    have hoffers := s20HandleServiceDiscovery_sent hsent.symm
    cases hids : offersDc ids <;> simp [hoffers, hids]

/-- Every frame keeps the invariant. -/
theorem OfferInv.frame (h : OfferInv t f.before) (hhands : FrameHands codec outCap f) :
    OfferInv (t ++ [.frame f]) f.result.session := by
  cases hhands with
  | refused hrequest _ hsession hsent =>
    have hbegins : (Event20.frame f).begins = false := by simp [begins, hrequest]
    -- what is sent in a refusal ends the session, silence leaves the offer as it was
    rcases hres : f.result.sent with _ | res
    · obtain ⟨code, state, deadline, rfl | rfl, hafter⟩ := hsession
      · rw [hafter]
        exact h.keep hbegins (by simp [offers, hres]) (by simp [discovers, hrequest]) le_rfl id
      · rw [hafter]
        exact offerInv_of_ended rfl
    · exact offerInv_of_ended (hsent res hres).2.2
  | @handled doc hrequest hadmits hresult =>
    have haccepts : s20StateAccepts f.before.state doc.body.kind = true :=
      s20StateAccepts_of_admits hadmits
    obtain ⟨session, calls, code, disposition, houtcome, hcarries⟩ :=
      handles_of_accepts codec f.env outCap f.before.received haccepts
    obtain ⟨hsession, -, -⟩ := s20Conclude_cases f.env hcarries.session_eq
    rw [← hresult] at hsession
    have hsent : f.result.sent =
        (s20Handle codec f.env outCap f.before.received doc.body).sent := by
      rw [hresult, s20Conclude_sent]
    by_cases hended : f.result.session.state = .ended
    · exact offerInv_of_ended hended
    have hstate : f.result.session.state = session.state :=
      (hsession.state_eq rfl hended).symm
    -- a SessionSetupReq begins anew, and does not lead to the service detail at once
    by_cases hsetup : doc.body.kind = .sessionSetup
    · refine offerInv_of_begins (by simp [begins, hrequest, hsetup]) ?_
      intro hdetail
      have hbefore := houtcome.serviceDetail_of (by simp [hsetup]) (hstate.symm.trans hdetail)
      rw [hsetup] at haccepts
      exact absurd (hbefore.symm.trans (List.mem_singleton.mp (mem_acceptingStates haccepts)))
        (by decide)
    -- a ServiceDiscoveryReq makes the offer
    by_cases hdiscovery : doc.body.kind = .serviceDiscovery
    · obtain ⟨sid, body⟩ := doc
      rw [hdiscovery] at haccepts
      have hbefore := List.mem_singleton.mp (mem_acceptingStates haccepts)
      cases houtcome <;> try cases hdiscovery
      refine ⟨?_, fun _ => h.discovery hrequest hbefore hsent⟩
      intro hrank
      rw [hstate] at hrank
      exact absurd hrank (lt_irrefl _)
    -- any other request neither makes an offer nor goes back before it
    · refine h.keep ?_ ?_ ?_ ?_ ?_
      · simp [begins, hrequest, hsetup]
      · rcases hres : f.result.sent with _ | res
        · simp [offers, hres]
        · rw [hres] at hsent
          have hkind := (s20Handle_replies codec f.env outCap f.before.received doc.body).kind_eq
            (HandlerResult20.res_of_sent hsent.symm)
          simp [offers, hres, Res20.offers_eq_none (hkind.symm ▸ hdiscovery)]
      · rw [discovers, hrequest]
        split
        · rename_i heq
          cases heq
          exact absurd rfl hdiscovery
        · rfl
      · rw [hstate]
        exact houtcome.rank_le haccepts
      · intro hdetail
        exact houtcome.serviceDetail_of hdiscovery (hstate.symm.trans hdetail)

/-- Only a ServiceSelectionReq is of its kind. -/
theorem Body20.eq_serviceSelectionReq {body : Body20} (h : body.kind = .serviceSelection) :
    ∃ serviceId parameterSetId vas,
      body = .common (.serviceSelectionReq serviceId parameterSetId vas) := by
  rcases body with (_ | _) | (_ | _)
  all_goals first | exact ⟨_, _, _, rfl⟩ | cases h

/-- A response to a ServiceSelectionReq carries nothing but its code. -/
theorem Res20Body.eq_serviceSelection {body : Res20Body} (h : body.kind = .serviceSelection) :
    body = .serviceSelection := by
  cases body <;> first | rfl | cases h

/-- A ServiceSelectionReq that is answered OK moves the session on. -/
theorem s20HandleServiceSelection_state {env : Env20} {res : Res20}
    {serviceId parameterSetId vas : ℕ}
    (hsent : (s20HandleServiceSelection codec env outCap s serviceId parameterSetId vas).sent =
      some res)
    (hok : res.responseCode = .ok) :
    (s20Conclude env
      (s20HandleServiceSelection codec env outCap s serviceId parameterSetId
        vas)).session.state = .dcCpd := by
  obtain ⟨session, calls, code, disposition, houtcome, hcarries⟩ :=
    s20HandleServiceSelection_handled codec env outCap s serviceId parameterSetId vas
  obtain ⟨hcode, -, hsession⟩ :=
    answers_of_sent hcarries
      (s20HandleServiceSelection_replies codec env outCap s serviceId parameterSetId vas) hsent
  rw [hok] at hcode
  rw [hsession]
  cases houtcome with
  | serviceSelectionInvalid hfailed =>
    rw [← hcode] at hfailed
    exact absurd hfailed (by decide)
  | serviceSelection => rfl

/-- Under the invariant, a frame selects what was offered exactly when its selection comes after an
offer. -/
theorem OfferInv.selects_iff (h : OfferInv t s) (input : FrameInput20) :
    SelectsOffered t
        (.frame (secc20Frame codec input.env input.outCap s input.payloadType input.exi)) ↔
      SelectsAfterOffer codec t s (.frame input) := by
  have hhands :=
    secc20Frame_hands codec input.env input.outCap s input.payloadType input.exi
  cases hhands with
  | refused hrequest _ _ hsent =>
    refine iff_of_true ?_ ?_
    · intro res hres _ hok
      rcases (hsent res hres).1 with hcode | hcode <;> cases hok.symm.trans hcode
    · intro sid hselects
      cases hrequest.symm.trans hselects
  | @handled doc hrequest hadmits hresult =>
    have hsent : (secc20Frame codec input.env input.outCap s input.payloadType
          input.exi).result.sent =
        (s20Handle codec input.env input.outCap s.received doc.body).sent := by
      rw [hresult, s20Conclude_sent]
      rfl
    have haccepts : s20StateAccepts s.state doc.body.kind = true :=
      s20StateAccepts_of_admits hadmits
    have hdetail : doc.body.kind = .serviceSelection → s.state = .serviceDetail := by
      intro hkind
      rw [hkind] at haccepts
      exact List.mem_singleton.mp (mem_acceptingStates haccepts)
    constructor
    · intro hoffered sid hselects hencodes
      cases hrequest.symm.trans hselects
      obtain ⟨res, hres, hok⟩ :=
        (s20HandleServiceSelection_ok (s := s.received)).mpr ⟨⟨rfl, rfl, rfl⟩, hencodes⟩
      have hkind := (s20HandleServiceSelection_replies ..).kind_eq
        (HandlerResult20.res_of_sent hres)
      obtain ⟨-, sid', serviceId, parameterSetId, vas, services, hrequest', hoffer, hmem⟩ :=
        hoffered res (hsent.trans hres) (Res20Body.eq_serviceSelection hkind) hok
      cases hrequest.symm.trans hrequest'
      exact (h.detail (hdetail rfl)).mp ⟨services, hoffer, hmem⟩
    · intro hafter res hres hbody hok
      rw [hsent] at hres
      have hkind := (s20Handle_replies codec input.env input.outCap s.received doc.body).kind_eq
        (HandlerResult20.res_of_sent hres)
      rw [hbody] at hkind
      -- no other request is of this kind
      obtain ⟨sid, body⟩ := doc
      obtain ⟨serviceId, parameterSetId, vas, rfl⟩ := Body20.eq_serviceSelectionReq hkind.symm
      obtain ⟨⟨rfl, rfl, rfl⟩, hencodes⟩ := s20HandleServiceSelection_ok.mp ⟨res, hres, hok⟩
      obtain ⟨services, hoffer, hmem⟩ :=
        (h.detail (hdetail rfl)).mpr (hafter sid hrequest hencodes)
      refine ⟨?_, sid, _, _, _, services, hrequest, hoffer, hmem⟩
      rw [hresult]
      exact s20HandleServiceSelection_state hres hok

end Steps

/-- Over every run, every ServiceSelectionReq that is answered OK selects a service that was offered
last in its session exactly when each selection of the DC service whose response encodes comes after
a ServiceDiscoveryReq that admitted the service and was answered. -/
theorem selects_offered_iff (codec : Codec20) (cfg : Config20) (inputs : List Input20) :
    Justified SelectsOffered ((secc20Machine codec).run (.init cfg) inputs).2 ↔
      (secc20Machine codec).Meets (SelectsAfterOffer codec) [] (.init cfg) inputs := by
  refine (secc20Machine codec).justified_run_iff_meets OfferInv ?_ ?_ ?_ inputs
  · intro t s i h
    cases i with
    | reset nowMs =>
      refine offerInv_of_begins rfl ?_
      simp [secc20Machine, secc20Step, Secc20.reset]
    | frame input => exact h.frame (secc20Frame_hands ..)
  · intro t s i h hjust
    cases i with
    | reset nowMs => exact iff_of_true (hjust.concat trivial) trivial
    | frame input => exact hjust.concat_iff.trans (h.selects_iff input)
  · exact ⟨fun _ => rfl, by simp [Secc20.init]⟩

/-- A codec whose ServiceDiscoveryReq asks for another service, and that encodes no empty list of
services. -/
def filteringCodec : Codec20 where
  decodeCommon
    | [3] => some ⟨sampleSid.1, .serviceDiscoveryReq (some [1])⟩
    | exi => sampleCodec20.decodeCommon exi
  decodeDc := sampleCodec20.decodeDc
  encode res _ := if res.offers = some [] then none else some [0]

/-- A vehicle that filters the DC service out gets no ServiceDiscoveryRes, and selects the service
all the same. -/
theorem not_selects_offered :
    ¬∀ codec cfg inputs,
      Justified SelectsOffered ((secc20Machine codec).run (.init cfg) inputs).2 := by
  intro h
  have hrun := h filteringCodec sampleConfig20
    ((sampleCharge.take 4 ++ [sampleFrame .exi20Mainstream 4]).map .frame)
  rw [List.map_append, List.map_singleton, Machine.run_concat] at hrun
  obtain ⟨-, -, -, -, -, services, -, hoffer, -⟩ := hrun.last _ rfl rfl rfl
  have hnone : lastOffer ((secc20Machine filteringCodec).run (.init sampleConfig20)
      ((sampleCharge.take 4).map .frame)).2 = none := by decide
  cases hnone.symm.trans hoffer

end Jpv2g
