import Jpv2g.Secc.Stream.Live

/-!
# Authorization before Energy Transfer

No request that starts or continues the energy transfer is dispatched without an authorization
granted on the same connection, provided that ChargeParameterDiscovery waits for the grant: the
sequence gate does not look at the answers of the authorization.

## Main definitions

* `EnergyAuthorized`: a request for energy has a grant behind it.
* `DiscoveryGranted`: ChargeParameterDiscovery waits for the grant.

## Main results

* `energy_authorized`: under this condition, every request for energy has a grant behind it.
-/

namespace Jpv2g

open Trace

/-- The request starts or continues the energy transfer. -/
def Request.energizes (r : Request) : Prop :=
  r.powerDelivery = some .start ∨ r.type = .currentDemandReq ∨ r.type = .chargingStatusReq

/-- An AuthorizationReq or a ContractAuthenticationReq was dispatched, and `authorize_contract`
returned true. -/
def StreamEvent.grants : StreamEvent → Prop
  | .dispatched x => x.request.type = .authorizationReq ∧ x.result.authorized = some true
  | _ => False

/-- A dispatched request for energy has a grant behind it. -/
def EnergyAuthorized (seg : List StreamEvent) : StreamEvent → Prop
  | .dispatched x => x.request.energizes → ∃ e ∈ seg, e.grants
  | _ => True

/-- A ChargeParameterDiscoveryReq that arrives in the authorization phase has a grant behind it. -/
def DiscoveryGranted (build : Build) (codec : Codec) (t : List StreamEvent) (c : Charger)
    (i : ChargerInput) : Prop :=
  ∀ stream ∈ c.stream, ∀ r ∈ c.presented build codec i,
    stream.sequence.phase = .authorization → r.type = .chargeParameterDiscoveryReq →
    ∃ e ∈ thisStream t, e.grants

instance : DecidablePred StreamEvent.grants
  | .dispatched x =>
    inferInstanceAs
      (Decidable (x.request.type = .authorizationReq ∧ x.result.authorized = some true))
  | .connected | .rejected _ _ | .refused _ _ | .frame20 _ | .reset20 | .closed _ | .retired =>
    inferInstanceAs (Decidable False)

instance (build : Build) (codec : Codec) (t : List StreamEvent) (c : Charger) (i : ChargerInput) :
    Decidable (DiscoveryGranted build codec t c i) :=
  inferInstanceAs (Decidable (∀ stream ∈ c.stream, ∀ r ∈ c.presented build codec i,
    stream.sequence.phase = .authorization → r.type = .chargeParameterDiscoveryReq →
    ∃ e ∈ thisStream t, e.grants))

/-- The phases from ChargeParameterDiscovery to the charging loop. -/
def Phase.energy : Phase → Bool
  | .chargeParameters | .cableCheck | .preCharge | .powerDelivery | .charging => true
  | .appProtocol | .sessionSetup | .serviceDiscovery | .serviceSelection | .authorization
  | .powerDeliveryStop | .welding | .complete => false

section Phases

variable {r : Request} {s s' : Sequence}

/-- The energy phases are entered by ChargeParameterDiscovery from the authorization phase. -/
theorem Accepts.energy_cases (h : Accepts r s s') (henergy : s'.phase.energy = true) :
    s.phase.energy = true ∨
      s.phase = .authorization ∧ r.type = .chargeParameterDiscoveryReq := by
  cases h with
  | directSetup | negotiate => cases henergy
  | move _ _ hmove => cases hmove <;> grind [Phase.energy]

/-- A request for energy is accepted in the energy phases only. -/
theorem Accepts.energy_of_energizes (h : Accepts r s s') (hr : r.energizes) :
    s.phase.energy = true := by
  have htype : r.type = .powerDeliveryReq ∨ r.type = .currentDemandReq ∨
      r.type = .chargingStatusReq := hr.imp_left Request.type_of_powerDelivery
  cases h with
  | directSetup _ h | negotiate _ h => simp [h] at htype
  | move _ _ hmove =>
    cases hmove <;> grind [Phase.energy, Request.type_of_powerDelivery, Request.energizes]

end Phases

/-- The invariant: an energy phase has a grant behind it. -/
def GrantedEnergy (seg : List StreamEvent) (_ : Secc) (sequence : Sequence) (_ : Protocol) :
    Prop :=
  sequence.phase.energy = true → ∃ e ∈ seg, e.grants

theorem grantedEnergy_live (build : Build) (codec : Codec) :
    LiveInvariant build codec (DiscoveryGranted build codec) GrantedEnergy EnergyAuthorized where
  init := fun _ => nofun
  quiet := fun hinv _ henergy => by
    obtain ⟨e, he, hgrants⟩ := hinv henergy
    exact ⟨e, List.mem_append_left _ he, hgrants⟩
  unconstrained := fun {_ e} he _ => by
    cases e with
    | dispatched x => cases he
    | _ => trivial
  framed := fun _ _ _ _ => trivial
  refused := fun _ _ _ => trivial
  dispatched := fun {t c i stream x} hpasses hC hinv _ _ => by
    have hacc := accepts_of_ok hpasses.gate
    refine ⟨fun henergizes => hinv (hacc.energy_of_energizes henergizes), ?_⟩
    intro _ _ henergy
    rw [applyResume_phase] at henergy
    -- the grant was there before, or the request is the one that had to wait for it
    have hpast : ∃ e ∈ thisStream t, e.grants := by
      rcases hacc.energy_cases henergy with hphase | ⟨hphase, htype⟩
      · exact hinv hphase
      · exact hC stream hpasses.stream_eq x.request hpasses.presented hphase htype
    obtain ⟨e, he, hgrants⟩ := hpast
    exact ⟨e, List.mem_append_left _ he, hgrants⟩

/-- On every connection of every run in which ChargeParameterDiscoveryReq waits for a granted
authorization, a request that starts or continues the energy transfer is dispatched only after an
authorization granted on the same connection. -/
theorem energy_authorized (build : Build) (codec : Codec) (codec20 : Codec20) (station : Station)
    (inputs : List ChargerInput)
    (hgranted : (charger build codec codec20).Meets (DiscoveryGranted build codec) []
      { station, stream := none } inputs) :
    JustifiedInStream EnergyAuthorized
      ((charger build codec codec20).run { station, stream := none } inputs).2 :=
  ((grantedEnergy_live build codec).run station hgranted).2

/-- A charge with a granted authorization. -/
theorem energy_authorized_sample :
    JustifiedInStream EnergyAuthorized
      ((charger sampleBuild sampleCodec emptyCodec20).run
        { station := sampleStation, stream := none }
        (sampleDiscovery true ++ [sampleRequest 9 true true])).2 :=
  energy_authorized _ _ _ _ _ (by decide)

/-- After a refused authorization, ChargeParameterDiscovery leads to a PowerDelivery Start. -/
theorem not_authorized_after_refusal :
    ¬∀ (build : Build) (codec : Codec) (codec20 : Codec20) (station : Station)
      (inputs : List ChargerInput),
      (∀ res, ∃ bytes, bytes ≠ [] ∧ codec.encode res = .ok bytes) →
      JustifiedInStream EnergyAuthorized
        ((charger build codec codec20).run { station, stream := none } inputs).2 := by
  intro h
  have hrun := h sampleBuild sampleCodec emptyCodec20 sampleStation
    (sampleDiscovery false ++ [sampleRequest 9 false true]) fun _ => ⟨[0], by simp, rfl⟩
  rw [Machine.run_concat] at hrun
  -- the last event is the dispatched PowerDelivery Start
  have hgrant := hrun _ _ [] rfl (.inl rfl)
  exact absurd hgrant (by decide)

end Jpv2g
