import Jpv2g.Secc.Stream.Negotiation

/-!
# The Protocol Mask

The mask restricts what a negotiation selects. A session whose protocol no negotiation has fixed
takes it from its SessionSetupReq, which the mask does not look at: the direct setup of DIN 70121,
and the setup after a failed negotiation.

## Main definitions

* `StreamEvent.enabled`: a dispatched request has a protocol the mask admits.
* `FreeSetup`: a SessionSetupReq that fixes the protocol of its session by itself.
* `SetupEnabled`: no request of this kind has a masked-out protocol.

## Main results

* `enabledProtocol_live`: under this condition, the protocol of a connection is never masked out.
* `protocolMask_enforced_iff`: whatever the handler is, the mask is enforced exactly in the runs
  that meet the condition.
-/

namespace Jpv2g

open Trace

/-- A request that is dispatched to the handler has a protocol the mask admits. -/
def StreamEvent.enabled (build : Build) : StreamEvent → Prop
  | .dispatched x => protocolEnabled build x.request.protocol = true
  | _ => True

/-- No negotiation has fixed the protocol of the session that the SessionSetupReq opens. -/
def FreeSetup (s : Sequence) (r : Request) : Prop :=
  r.type = .sessionSetupReq ∧
    (s.phase = .appProtocol ∧ r.protocol = .din70121 ∨
      s.phase = .sessionSetup ∧ s.protocol = .unknown)

instance (s : Sequence) (r : Request) : Decidable (FreeSetup s r) :=
  inferInstanceAs (Decidable (_ ∧ _))

/-- A SessionSetupReq that fixes the protocol of its session by itself, and that the session gate
lets pass, has a protocol the mask admits. -/
def SetupEnabled (build : Build) (codec : Codec) (_ : List StreamEvent) (c : Charger)
    (i : ChargerInput) : Prop :=
  ∀ stream ∈ c.stream, ∀ r ∈ c.presented build codec i, FreeSetup stream.sequence r →
    validateRequestSession c.station.secc r = .ok () → protocolEnabled build r.protocol = true

/-! ## The negotiation -/

/-- No offer stands for a masked-out protocol. -/
theorem offerCandidate_enabled (build : Build) (registered : Bool) (ap : AppProtocol) :
    protocolEnabled build (offerCandidate build registered ap) = true := by
  unfold offerCandidate
  dsimp only
  generalize (if appProtocolOfferMatches build registered ap .iso15118_2 then
    Protocol.iso15118_2
    else if appProtocolOfferMatches build registered ap .din70121 then .din70121
    else .unknown) = candidate
  split_ifs with hmasked
  · rfl
  · rfl
  · by_contra hdisabled
    refine hmasked ⟨?_, hdisabled⟩
    intro hunknown
    rw [hunknown] at hdisabled
    exact hdisabled rfl

/-- No masked-out protocol is selected. -/
theorem selectAppProtocol_enabled (build : Build) (registered : Bool)
    (offers : Option (List AppProtocol)) :
    protocolEnabled build (selectAppProtocol build registered offers).protocol = true := by
  unfold selectAppProtocol
  refine List.foldlRecOn
    (motive := fun selection : AppSelection => protocolEnabled build selection.protocol = true)
    _ _ rfl ?_
  intro selection hselection ap _
  rcases selectOffer_cases build registered selection ap with heq | ⟨-, code, -, heq⟩ <;> rw [heq]
  · exact hselection
  · exact offerCandidate_enabled build registered ap

/-- A supportedAppProtocolReq is decoded with a protocol the mask admits, when the stream has
one. -/
theorem Decoded.enabled_of_suppAppProtocol {build : Build} {registered : Bool} {stream : Stream}
    {r : Request} (h : Decoded build registered stream r) (hr : r.type = .suppAppProtocolReq)
    (hstream : protocolEnabled build stream.protocol = true) :
    protocolEnabled build r.protocol = true := by
  cases h with
  | app hprotocol =>
    rw [hprotocol]
    split_ifs
    · exact selectAppProtocol_enabled build registered _
    · exact hstream
  | @iso2 doc _ _ => cases hbody : doc.body <;> simp [hbody, Iso2Body.messageType] at hr
  | @din doc _ => cases hbody : doc.body <;> simp [hbody, DinBody.messageType] at hr

/-! ## The invariant -/

/-- The invariant: the protocols the connection keeps are admitted, and a session past its setup
has one. -/
structure EnabledProtocol (build : Build) (s : Sequence) (hint : Protocol) : Prop where
  hint_enabled : protocolEnabled build hint = true
  enabled : protocolEnabled build s.protocol = true
  fixed : s.phase ≠ .appProtocol → s.phase ≠ .sessionSetup → s.protocol ≠ .unknown

section Invariant

variable {build : Build} {s s' : Sequence} {hint : Protocol} {r : Request}

/-- A request after the negotiation that is accepted has a protocol the mask admits, unless it
brings its own. -/
theorem EnabledProtocol.of_accepts (h : EnabledProtocol build s hint) (hacc : Accepts r s s')
    (hr : r.type ≠ .suppAppProtocolReq)
    (hfree : FreeSetup s r → protocolEnabled build r.protocol = true) :
    protocolEnabled build r.protocol = true := by
  -- past the setup the request agrees with the protocol of the session
  rcases (hacc.protocol_cases hr).2 with ⟨hphase, htype, hdin⟩ | ⟨hunknown | hagree, hwhere⟩
  · exact hfree ⟨htype, .inl ⟨hphase, hdin⟩⟩
  · rcases hwhere with ⟨hphase, htype⟩ | ⟨happ, hsetup⟩
    · exact hfree ⟨htype, .inr ⟨hphase, hunknown⟩⟩
    · exact absurd hunknown (h.fixed happ hsetup)
  · rw [← hagree]
    exact h.enabled

/-- An accepted request with an admitted protocol keeps the invariant. -/
theorem EnabledProtocol.accept (h : EnabledProtocol build s hint) (hacc : Accepts r s s')
    (henabled : protocolEnabled build r.protocol = true) :
    EnabledProtocol build s' r.protocol := by
  by_cases hr : r.type = .suppAppProtocolReq
  · obtain ⟨hphase, hfix⟩ := hacc.of_suppAppProtocol hr
    refine ⟨henabled, ?_, fun _ hsetup => absurd hphase hsetup⟩
    by_cases hknown : r.protocol = .unknown
    -- a failed negotiation leaves the protocol as it was
    · cases hacc with
      | directSetup _ htype => simp [hr] at htype
      | negotiate =>
        show protocolEnabled build (if r.protocol = .unknown then s.protocol else r.protocol) = true
        rw [if_pos hknown]
        exact h.enabled
      | move hprotocol => exact absurd hknown hprotocol
    · rw [hfix hknown]
      exact henabled
  · obtain ⟨⟨hknown, hprotocol, -⟩, -⟩ := hacc.protocol_cases hr
    refine ⟨henabled, ?_, fun _ _ => ?_⟩ <;> rw [hprotocol]
    · exact henabled
    · exact hknown

/-- A SessionSetupReq that fixes the protocol of its session by itself is accepted. -/
theorem FreeSetup.accepts (h : FreeSetup s r) (hknown : r.protocol ≠ .unknown) :
    ∃ s', Accepts r s s' := by
  obtain ⟨htype, ⟨hphase, hdin⟩ | ⟨hphase, hfree⟩⟩ := h
  · exact ⟨_, .directSetup hphase htype hdin⟩
  · exact ⟨_, .move hknown (.inl hfree) (.sessionSetup hphase htype)⟩

theorem StreamEvent.enabled_of_passed_eq_none {e : StreamEvent} (h : e.passed = none) :
    e.enabled build := by
  cases e with
  | dispatched => cases h
  | _ => trivial

/-- Under the condition, the protocol of a connection is never masked out. -/
theorem enabledProtocol_live (build : Build) (codec : Codec) {ι : Type} {plain : ι → ChargerInput}
    {Handled : Charger → ι → Exchange → Prop} {Framed : Charger → ι → Frame20 → Prop} :
    StreamInvariant build codec plain Handled Framed
      (fun t c i => SetupEnabled build codec t c (plain i))
      (fun _ _ s hint => EnabledProtocol build s hint) (fun _ e => e.enabled build) where
  init := fun _ => ⟨rfl, rfl, fun happ => absurd rfl happ⟩
  quiet := fun hinv _ => hinv
  unconstrained := fun hnone _ => StreamEvent.enabled_of_passed_eq_none hnone
  framed := fun _ _ _ _ => trivial
  refused := fun _ _ _ => trivial
  dispatched := fun {t c i stream x} hpasses hC hinv hsession _ => by
    have hacc := accepts_of_ok hpasses.gate
    -- the negotiation selects under the mask; any other request agrees or is a free setup
    have henabled : protocolEnabled build x.request.protocol = true := by
      by_cases htype : x.request.type = .suppAppProtocolReq
      · exact hpasses.decoded.enabled_of_suppAppProtocol htype hinv.hint_enabled
      · exact hinv.of_accepts hacc htype fun hfree =>
          hC _ hpasses.stream_eq _ hpasses.presented hfree hsession
    refine ⟨henabled, ?_⟩
    intro _ _
    have hnext := hinv.accept hacc henabled
    refine ⟨hnext.hint_enabled, ?_, ?_⟩
    · rw [applyResume_protocol]
      exact hnext.enabled
    · rw [applyResume_phase, applyResume_protocol]
      exact hnext.fixed

end Invariant

/-! ## Runs -/

section Runs

variable {build : Build} {codec : Codec} {codec20 : Codec20} {t : List StreamEvent} {c : Charger}

/-- An input that does not meet the condition dispatches a request of a masked-out protocol. -/
theorem setupEnabled_of_enabled {i : ServerInput}
    (henabled : ∀ e ∈ ((server build codec codec20).step c i).2, e.enabled build) :
    SetupEnabled build codec t c i.plain := by
  intro stream hstream r hpresented hfree hsession
  by_contra hmasked
  have hknown : r.protocol ≠ .unknown := by
    intro hunknown
    rw [hunknown] at hmasked
    exact hmasked rfl
  obtain ⟨s', hacc⟩ := hfree.accepts hknown
  have hgate : seccAcceptRequestSequence stream.sequence r = (s', .ok ()) := accepts_iff.mpr hacc
  obtain ⟨e, he, hjudges⟩ := @served_judges_of_presented build codec codec20 _ _ _ hpresented
  have hmove := @server_move build codec codec20 c i
  generalize (server build codec codec20).step c i = next at hmove henabled he
  obtain ⟨c', es⟩ := next
  -- the request passes both gates, so that it is dispatched
  cases hmove with
  | idle => cases he
  | connect hnone | retire hnone => cases hnone.symm.trans hstream
  | quiet _ _ _ _ hes => exact (hes e he).not_judges hjudges
  | rejected hstream' hpresented' _ hrejected =>
    cases hstream.symm.trans hstream'
    cases hpresented.symm.trans hpresented'
    cases hgate.symm.trans hrejected
  | refused hstream' hpresented' _ _ hrefused =>
    cases hpresented.symm.trans hpresented'
    cases hsession.symm.trans hrefused
  | dispatched hstream' hpresented' =>
    have heq := Option.some.inj (hpresented.symm.trans hpresented')
    rw [heq] at hmasked
    exact hmasked (henabled _ List.mem_cons_self)

/-- The events of a run are justified when all of them are enabled. -/
theorem justified_enabled_iff :
    JustifiedInStream (fun _ e => e.enabled build) t ↔ ∀ e ∈ t, e.enabled build := by
  constructor
  · intro h e he
    obtain ⟨pre, post, rfl⟩ := List.append_of_mem he
    exact h pre e post rfl
  · rintro h pre e post rfl
    exact h e (by simp)

/-- One input that meets the condition keeps the protocol and enforces the mask. -/
theorem enabled_move {i : ServerInput}
    (hinv : HoldsLive (fun _ _ s hint => EnabledProtocol build s hint) t c)
    (henabled : ∀ e ∈ t, e.enabled build) (hC : SetupEnabled build codec t c i.plain) :
    HoldsLive (fun _ _ s hint => EnabledProtocol build s hint)
        (t ++ ((server build codec codec20).step c i).2)
        ((server build codec codec20).step c i).1 ∧
      ∀ e ∈ t ++ ((server build codec codec20).step c i).2, e.enabled build := by
  have hserved : ServedInvariant build codec codec20 _ _ _ := enabledProtocol_live build codec
  obtain ⟨hlive, hjust⟩ := hserved.move (@server_move build codec codec20 c i) hinv
    (justified_enabled_iff.mpr henabled) hC
  exact ⟨hlive, justified_enabled_iff.mp hjust⟩

end Runs

/-- For every mask, every handler and in every run, no request of a masked-out protocol is
dispatched to the handler exactly when no SessionSetupReq that fixes the protocol of its session by
itself has a masked-out protocol. -/
theorem protocolMask_enforced_iff (build : Build) (codec : Codec) (codec20 : Codec20)
    (station : Station) (inputs : List ServerInput) :
    (∀ e ∈ ((server build codec codec20).run { station, stream := none } inputs).2,
        e.enabled build) ↔
      (server build codec codec20).Meets (fun t c i => SetupEnabled build codec t c i.plain) []
        { station, stream := none } inputs := by
  have hstep : ∀ t c i, (∀ e ∈ t ++ ((server build codec codec20).step c i).2, e.enabled build) →
      SetupEnabled build codec t c i.plain := by
    intro t c i h
    exact setupEnabled_of_enabled fun e he => h e (List.mem_append_right t he)
  -- as long as the mask has been enforced, the connection keeps no masked-out protocol
  rw [← justified_enabled_iff]
  refine (server build codec codec20).justified_run_iff_meets
    (fun t c => (∀ e ∈ t, e.enabled build) →
      HoldsLive (fun _ _ s hint => EnabledProtocol build s hint) t c) ?_ ?_ ?_ inputs
  · intro t c i hinv h
    have hbefore : ∀ e ∈ t, e.enabled build := fun e he => h e (List.mem_append_left _ he)
    exact (enabled_move (hinv hbefore) hbefore (hstep t c i h)).1
  · intro t c i hinv hjust
    have hbefore := justified_enabled_iff.mp hjust
    constructor
    · intro h
      exact hstep t c i (justified_enabled_iff.mp h)
    · intro hC
      exact justified_enabled_iff.mpr (enabled_move (hinv hbefore) hbefore hC).2
  · intro _ stream hstream
    cases hstream

/-- A station with a protocol mask. -/
def sampleMasked (protocolMask : UInt32) : Build :=
  { iso20 := false, protocolMask }

/-- A codec that also decodes a DIN 70121 SessionSetupReq. -/
def sampleDinSetup : Codec :=
  { sampleCodec with
    decodeDin
      | [20] => some ⟨Sid.zero.1, .sessionSetupReq⟩
      | _ => none }

/-- With DIN 70121 masked out, a connection that starts with its SessionSetupReq is served, and
with ISO 15118-2 masked out, so is its SessionSetupReq after a failed negotiation. -/
theorem masked_protocol_dispatched :
    (¬∀ e ∈ ((server (sampleMasked protocolMaskIso2) sampleDinSetup emptyCodec20).run
          { station := sampleStation, stream := none }
          ([.connect, sampleRequest 20 true true].map
            (·.served (sampleMasked protocolMaskIso2) sampleDinSetup))).2,
        e.enabled (sampleMasked protocolMaskIso2)) ∧
      ¬∀ e ∈ ((server (sampleMasked protocolMaskDin) sampleCodec emptyCodec20).run
          { station := sampleStation, stream := none }
          ([.connect, sampleRequest 0 true true, sampleRequest 2 true true].map
            (·.served (sampleMasked protocolMaskDin) sampleCodec))).2,
        e.enabled (sampleMasked protocolMaskDin) := by
  constructor
  · intro h
    rw [server_run_default] at h
    have henabled : protocolEnabled (sampleMasked protocolMaskIso2) .din70121 = true :=
      h _ (List.mem_cons_of_mem _ List.mem_cons_self)
    exact absurd henabled (by decide)
  · intro h
    rw [server_run_default] at h
    have henabled : protocolEnabled (sampleMasked protocolMaskDin) .iso15118_2 = true :=
      h _ (List.mem_cons_of_mem _ (List.mem_cons_of_mem _ List.mem_cons_self))
    exact absurd henabled (by decide)

end Jpv2g
