import Jpv2g.Secc.HandlerFacts
import Jpv2g.ToMathlib.Machine

/-!
# The DIN 70121 Energy Offer

A DIN session is bound to the EnergyTransferType of its ServiceDiscoveryRes: a
ChargeParameterDiscoveryReq is answered OK exactly when it requests the mode of the most recent
offer, over every history of requests, retired sessions and changes of the configuration.

## Main definitions

* `handling`: the handler as a machine.
* `advertisedEtm`: the offer a history leaves behind.
* `DinContract`: a ChargeParameterDiscoveryReq is judged by that offer.

## Main results

* `handlingStep_offer`: what one input does to the offer the record remembers.
* `din_offer_contract`: every history keeps the contract.
-/

namespace Jpv2g

open Trace

/-! ## Histories of the handler -/

/-- The record and the function-local variables of the handler. -/
structure HandlerState where
  secc : Secc
  statics : HandlerStatics

/-- A request is handled, the live session is retired, or the configured modes change. -/
inductive HandlerInput where
  | handle (codec : Codec) (env : HandlerEnv) (build : Build) (registered : Bool)
    (request : Request)
  | retire
  | configure (supportedEnergyModes : List Char)

/-- What the inputs lead to. -/
inductive HandlerEvent where
  | handled (request : Request) (result : HandlerResult)
  | retired
  | configured

/-- One input of the handler. -/
def handlingStep (s : HandlerState) : HandlerInput → HandlerState × List HandlerEvent
  | .handle codec env build registered request =>
    let result := defaultHandle codec env s.secc s.statics request build registered
    ({ secc := result.secc, statics := result.statics }, [.handled request result])
  | .retire => ({ s with secc := retireSession s.secc }, [.retired])
  | .configure supportedEnergyModes =>
    ({ s with secc := { s.secc with cfg := { s.secc.cfg with supportedEnergyModes } } },
      [.configured])

/-- The handler as a machine. -/
def handling : Machine HandlerState HandlerInput HandlerEvent := ⟨handlingStep⟩

/-! ## The offer -/

/-- The EnergyTransferType of a DIN ServiceDiscoveryRes with code OK that has been encoded. -/
def HandlerResult.dinOffer (result : HandlerResult) : Option EnergyTransferMode :=
  match result.res, result.rc with
  | some (.din _ (.serviceDiscovery .ok _ etm _ _)), .ok _ => some etm
  | _, _ => none

/-- What an event does to the offer: a DIN ServiceDiscoveryReq replaces it, and a SessionSetupReq,
a SessionStopReq and a retired session withdraw it. -/
def HandlerEvent.offerChange : HandlerEvent → Option (Option EnergyTransferMode)
  | .handled request result =>
    if request.type = .sessionSetupReq ∨ request.type = .sessionStopReq then some none
    else if request.type = .serviceDiscoveryReq ∧ request.isDin = true then some result.dinOffer
    else none
  | .retired => some none
  | .configured => none

/-- The EnergyTransferType of the most recent DIN ServiceDiscoveryRes, unless it has been
withdrawn or was no offer. -/
def advertisedEtm (t : List HandlerEvent) : Option EnergyTransferMode :=
  (lastSome HandlerEvent.offerChange t).join

/-- A DIN ChargeParameterDiscoveryReq is answered OK exactly when it requests the advertised mode,
and FAILED_WrongEnergyTransferType otherwise. -/
def DinContract (pre : List HandlerEvent) : HandlerEvent → Prop
  | .handled request result =>
    request.type = .chargeParameterDiscoveryReq → request.isDin = true →
      ∃ sid code, result.res = some (.din sid (.chargeParameterDiscovery code .finished)) ∧
        (code = .ok ↔ ∃ etm, request.dinBody = some (.chargeParameterDiscoveryReq etm) ∧
          (etm = .dcCore ∨ etm = .dcExtended) ∧ advertisedEtm pre = some etm) ∧
        (code ≠ .ok → code = .failedWrongEnergyTransferType)
  | .retired | .configured => True

/-- The record remembers the offer. -/
def Secc.RemembersOffer (secc : Secc) : Option EnergyTransferMode → Prop
  | some etm => (etm = .dcCore ∨ etm = .dcExtended) ∧
      secc.dinAdvertisedEnergyTransferValid = true ∧
      secc.dinAdvertisedEnergyTransferType = etm.code
  | none => secc.dinAdvertisedEnergyTransferValid = false

/-- The records remember the same offer. -/
structure SameOffer (secc secc' : Secc) : Prop where
  valid : secc'.dinAdvertisedEnergyTransferValid = secc.dinAdvertisedEnergyTransferValid
  type : secc'.dinAdvertisedEnergyTransferType = secc.dinAdvertisedEnergyTransferType

section Offer

variable {codec : Codec} {env : HandlerEnv} {secc secc' : Secc} {statics : HandlerStatics}
  {request : Request} {build : Build} {registered joined : Bool}
  {offer : Option EnergyTransferMode} {t : List HandlerEvent} {e : HandlerEvent}

theorem Secc.RemembersOffer.congr (h : secc.RemembersOffer offer) (hsame : SameOffer secc secc') :
    secc'.RemembersOffer offer := by
  cases offer with
  | none => exact hsame.valid.trans h
  | some etm => exact ⟨h.1, hsame.valid.trans h.2.1, hsame.type.trans h.2.2⟩

/-- The event changes the advertised mode as it says. -/
theorem advertisedEtm_concat :
    advertisedEtm (t ++ [e]) = e.offerChange.getD (advertisedEtm t) := by
  rw [advertisedEtm, lastSome_concat, advertisedEtm]
  cases e.offerChange <;> rfl

/-- Only ServiceDiscovery, the setup and the stop touch the offer of a DIN session. -/
theorem handleResolved_sameOffer (hsetup : request.type ≠ .sessionSetupReq)
    (hstop : request.type ≠ .sessionStopReq)
    (hdiscovery : ¬(request.type = .serviceDiscoveryReq ∧ request.isDin = true)) :
    SameOffer secc
      (handleResolved codec env secc statics request build registered joined).secc := by
  have hpayment : ∀ option, SameOffer secc (secc.refusePayment option) := by
    intro option
    rw [Secc.refusePayment.eq_def]
    split <;> exact ⟨rfl, rfl⟩
  -- only the excepted handlers write what was offered
  rw [handleResolved]
  split
  next => exact ⟨rfl, rfl⟩
  next htype => exact absurd htype hsetup
  next htype =>
    have hiso : ¬request.isDin = true := fun hdin => hdiscovery ⟨htype, hdin⟩
    rw [handleServiceDiscovery, if_neg hiso]
    exact ⟨rfl, rfl⟩
  next => rw [handleServiceDetail]; split_ifs <;> exact ⟨rfl, rfl⟩
  next => rw [handlePaymentServiceSelection]; split_ifs <;> exact hpayment _
  next => rw [handlePaymentDetails]; split_ifs <;> exact ⟨rfl, rfl⟩
  next => rw [handleAuthorization]; dsimp only; split_ifs <;> exact ⟨rfl, rfl⟩
  next => rw [handleChargeParameterDiscovery]; split_ifs <;> exact ⟨rfl, rfl⟩
  next => rw [handleCableCheck]; split_ifs <;> exact ⟨rfl, rfl⟩
  next => rw [handlePreCharge]; split_ifs <;> exact ⟨rfl, rfl⟩
  next => rw [handlePowerDelivery]; split_ifs <;> exact ⟨rfl, rfl⟩
  next => rw [handleChargingStatus]; split_ifs <;> exact ⟨rfl, rfl⟩
  next => rw [handleCurrentDemand]; dsimp only; split_ifs <;> exact ⟨rfl, rfl⟩
  next => rw [handleMeteringReceipt]; split_ifs <;> exact ⟨rfl, rfl⟩
  next => rw [handleWeldingDetection]; split_ifs <;> exact ⟨rfl, rfl⟩
  next htype => exact absurd htype hstop
  next => exact ⟨rfl, rfl⟩

/-- A station resolves its DIN mode to one of the two that DIN permits. -/
theorem resolveDinEtm_cases {etm : EnergyTransferMode} (h : secc.resolveDinEtm = some etm) :
    etm = .dcCore ∨ etm = .dcExtended := by
  rw [Secc.resolveDinEtm] at h
  split_ifs at h
  · exact .inr (Option.some.inj h).symm
  · exact .inl (Option.some.inj h).symm

/-- A DIN ServiceDiscoveryReq leaves behind the offer it has encoded. -/
theorem handleDinServiceDiscovery_remembers :
    (handleDinServiceDiscovery codec env secc statics).secc.RemembersOffer
      (handleDinServiceDiscovery codec env secc statics).dinOffer := by
  -- the handler keeps the offer only when it had a mode and could encode the response
  cases hresolve : secc.resolveDinEtm with
  | none =>
    simp only [handleDinServiceDiscovery, hresolve, reply, Option.isSome_none, Option.getD_none,
      Bool.false_eq_true, if_false]
    cases hrc : codec.encode (.din secc.sessionId
      (.serviceDiscovery .failed .externalPayment .dcExtended 1 (freeService env secc))) with
    | error e => exact rfl
    | ok bytes => exact rfl
  | some etm =>
    simp only [handleDinServiceDiscovery, hresolve, reply, Option.isSome_some, Option.getD_some,
      if_true]
    cases hrc : codec.encode (.din secc.sessionId
      (.serviceDiscovery .ok .externalPayment etm 1 (freeService env secc))) with
    | error e => exact rfl
    | ok bytes => exact ⟨resolveDinEtm_cases hresolve, rfl, rfl⟩

/-- The record remembers the offer a request leaves behind. -/
theorem defaultHandle_offer (h : secc.RemembersOffer offer) :
    (defaultHandle codec env secc statics request build registered).secc.RemembersOffer
      ((HandlerEvent.handled request
        (defaultHandle codec env secc statics request build registered)).offerChange.getD
          offer) := by
  rw [HandlerEvent.offerChange]
  -- the setup and the stop withdraw the offer, a DIN discovery replaces it, the rest keep it
  by_cases hsetup : request.type = .sessionSetupReq
  · rw [if_pos (.inl hsetup), defaultHandle_sessionSetup hsetup, handleSessionSetup]
    split_ifs <;> exact rfl
  obtain ⟨sid, -, hhandle⟩ :=
    @defaultHandle_resolved codec env secc statics request build registered hsetup
  have hlive : ({ secc with sessionId := sid } : Secc).RemembersOffer offer := h.congr ⟨rfl, rfl⟩
  rw [hhandle]
  by_cases hstop : request.type = .sessionStopReq
  · rw [if_pos (.inr hstop), handleResolved, hstop]
    simp only [handleSessionStop]
    split_ifs <;> exact rfl
  rw [if_neg (not_or.mpr ⟨hsetup, hstop⟩)]
  by_cases hdiscovery : request.type = .serviceDiscoveryReq ∧ request.isDin = true
  · rw [if_pos hdiscovery, handleResolved, hdiscovery.1]
    simp only [handleServiceDiscovery, if_pos hdiscovery.2]
    exact handleDinServiceDiscovery_remembers
  · rw [if_neg hdiscovery]
    exact hlive.congr (handleResolved_sameOffer hsetup hstop hdiscovery)

/-- **What one input does to the offer.** The record remembers the advertised mode after every
input if it did before. -/
theorem handlingStep_offer {s : HandlerState} (i : HandlerInput)
    (h : s.secc.RemembersOffer (advertisedEtm t)) :
    (handlingStep s i).1.secc.RemembersOffer (advertisedEtm (t ++ (handlingStep s i).2)) := by
  cases i with
  | handle codec env build registered request =>
    rw [handlingStep, advertisedEtm_concat]
    exact defaultHandle_offer h
  | retire =>
    rw [handlingStep, advertisedEtm_concat]
    exact rfl
  | configure modes =>
    rw [handlingStep, advertisedEtm_concat]
    exact h.congr ⟨rfl, rfl⟩

/-- The mode of a request is accepted exactly when it is the remembered offer. -/
theorem dinEtmSupported_iff (h : secc.RemembersOffer offer) (etm : EnergyTransferMode) :
    secc.dinEtmSupported etm = true ↔
      (etm = .dcCore ∨ etm = .dcExtended) ∧ offer = some etm := by
  rw [Secc.dinEtmSupported, Bool.and_eq_true, Bool.and_eq_true, Bool.or_eq_true, beq_iff_eq,
    beq_iff_eq, beq_iff_eq]
  cases offer with
  | none =>
    have hinvalid : secc.dinAdvertisedEnergyTransferValid = false := h
    simp [hinvalid]
  | some offered =>
    obtain ⟨hoffered, hvalid, htype⟩ := h
    rw [hvalid, htype, and_iff_right rfl, Option.some_inj]
    constructor
    · rintro ⟨hmode, hcode⟩
      refine ⟨hmode, ?_⟩
      -- the two modes DIN permits have different numbers
      rcases hoffered with rfl | rfl <;> rcases hmode with rfl | rfl <;>
        first | rfl | exact absurd hcode (by decide)
    · rintro ⟨hmode, rfl⟩
      exact ⟨hmode, rfl⟩

/-- The record accepts the mode a DIN ChargeParameterDiscoveryReq requests. -/
def Secc.acceptsDin (secc : Secc) : Option DinBody → Bool
  | some (.chargeParameterDiscoveryReq etm) => secc.dinEtmSupported etm
  | _ => false

theorem acceptsDin_iff {body : Option DinBody} :
    secc.acceptsDin body = true ↔
      ∃ etm, body = some (.chargeParameterDiscoveryReq etm) ∧ secc.dinEtmSupported etm = true := by
  constructor
  · intro h
    rw [Secc.acceptsDin.eq_def] at h
    split at h
    · exact ⟨_, rfl, h⟩
    · exact nomatch h
  · rintro ⟨etm, rfl, h⟩
    exact h

/-- The response to a DIN ChargeParameterDiscoveryReq. -/
theorem handleChargeParameterDiscovery_din (hdin : request.isDin = true) :
    (handleChargeParameterDiscovery codec secc statics request).res =
      some (.din secc.sessionId (.chargeParameterDiscovery
        (if secc.acceptsDin request.dinBody then .ok else .failedWrongEnergyTransferType)
        .finished)) := by
  rw [handleChargeParameterDiscovery, if_pos hdin]
  generalize request.dinBody = body
  cases body with
  | none => rfl
  | some body => cases body <;> rfl

/-- A ChargeParameterDiscoveryReq is judged by the remembered offer. -/
theorem defaultHandle_dinContract (h : secc.RemembersOffer (advertisedEtm t)) :
    DinContract t
      (.handled request (defaultHandle codec env secc statics request build registered)) := by
  intro htype hdin
  have hsetup : request.type ≠ .sessionSetupReq := by simp [htype]
  obtain ⟨sid, -, hhandle⟩ :=
    @defaultHandle_resolved codec env secc statics request build registered hsetup
  have hlive : ({ secc with sessionId := sid } : Secc).RemembersOffer (advertisedEtm t) :=
    h.congr ⟨rfl, rfl⟩
  rw [hhandle, handleResolved, htype]
  refine ⟨sid, _, handleChargeParameterDiscovery_din hdin, ?_, ?_⟩
  · simp only [← dinEtmSupported_iff hlive, ← acceptsDin_iff]
    split_ifs with haccepts
    · exact iff_of_true rfl haccepts
    · exact iff_of_false (by decide) haccepts
  · intro hcode
    exact if_neg fun haccepts => hcode (if_pos haccepts)

end Offer

/-- **The DIN energy-transfer contract.** Over every history of requests, retired sessions and
changes of the configured modes, a DIN ChargeParameterDiscoveryReq is answered OK exactly when it
requests the mode of the most recent offer that still stands. -/
theorem din_offer_contract (cfg : SeccConfig) (authorizeContract isFreeCharging : Bool)
    (statics : HandlerStatics) (inputs : List HandlerInput) :
    Justified DinContract
      (handling.run { secc := .init cfg authorizeContract isFreeCharging, statics } inputs).2 := by
  have hinit : (Secc.init cfg authorizeContract isFreeCharging).RemembersOffer
      (advertisedEtm []) := rfl
  -- the invariant is that the record remembers the offer that stands
  refine (handling.run_induction
    (fun t s => s.secc.RemembersOffer (advertisedEtm t) ∧ Justified DinContract t) ?_
    (t := []) ⟨hinit, justified_nil⟩ inputs).2
  rintro t s i ⟨hoffer, hcontract⟩
  refine ⟨handlingStep_offer i hoffer, ?_⟩
  cases i with
  | handle codec env build registered request =>
    exact hcontract.concat (defaultHandle_dinContract hoffer)
  | retire => exact hcontract.concat trivial
  | configure modes => exact hcontract.concat trivial

/-- A DIN request of the sample session. -/
def sampleDinRequest (body : DinBody) : HandlerInput :=
  .handle sampleCodec (sampleEnv true) sampleBuild false
    { type := body.messageType, protocol := .din70121, header := none
      dinHeader := some sampleSid.1, body := some (.din body) }

/-- An offer of DC_core is accepted until the session is retired. -/
example :
    (handling.run { secc := .init ⟨false, "DC_core".toList⟩ true false, statics := .init }
      [sampleDinRequest .sessionSetupReq, sampleDinRequest .serviceDiscoveryReq,
        .configure "DC_extended".toList,
        sampleDinRequest (.chargeParameterDiscoveryReq .dcCore), .retire,
        sampleDinRequest (.chargeParameterDiscoveryReq .dcCore)]).2.filterMap
      (fun e => match e with
        | .handled _ ⟨_, _, _, some (.din _ (.chargeParameterDiscovery code _)), _⟩ => some code
        | _ => none) =
    [.ok, .failedWrongEnergyTransferType] := by
  decide

end Jpv2g
