import Jpv2g.StateSecc.Idempotence
import Jpv2g.StateSecc.PowerOrdering
import Jpv2g.StateSecc.SetupOrder

/-!
# Rejected Calls of the Sequencer

A rejected request must leave the sequence as it was. The sequencer has four entry points, and each
of them commits the protocol of the first request it checks before it looks at the phase, so that a
request which is then rejected has fixed the protocol of the connection. This happens exactly while
no protocol is fixed, to a request that neither negotiates nor sets the session up.

## Main definitions

* `SequencerCall`: the calls of the entry points.
* `sequencer`: the machine of calls and resume grants on one sequence.
* `RejectionUnchanged`: the call leaves the sequence alone if it is rejected.
* `CommitsEarly`: the call fixes a protocol, and the phase has no use for it.

## Main results

* `rejection_unchanged_iff`: in every reachable sequence, a call leaves the sequence alone when it
  is rejected exactly when it does not commit early.
-/

namespace Jpv2g

/-- The calls of the entry points of the sequencer that take a protocol. -/
inductive SequencerCall where
  | accept (protocol : Protocol) (type : MessageType)
  | acceptPowerDelivery (protocol : Protocol) (energyEnabled : Bool)
  | acceptRenegotiation (protocol : Protocol)
deriving DecidableEq, Repr

/-- What the call does to the sequence. -/
def SequencerCall.run (s : Sequence) : SequencerCall → Sequence × Rc
  | .accept protocol type => seccSequenceAccept s protocol type
  | .acceptPowerDelivery protocol energyEnabled =>
    seccSequenceAcceptPowerDelivery s protocol energyEnabled
  | .acceptRenegotiation protocol => seccSequenceAcceptRenegotiation s protocol

/-- The inputs of a sequence: a call, a decoded request, or the resume grant of the dispatcher. -/
inductive SequencerInput where
  | call (c : SequencerCall)
  | request (r : Request)
  | resumeGrant
deriving DecidableEq, Repr

/-- What an input does to the sequence. -/
def SequencerInput.run (s : Sequence) : SequencerInput → Sequence × Rc
  | .call c => c.run s
  | .request r => seccAcceptRequestSequence s r
  | .resumeGrant => (s.grantResume, .ok ())

/-- The sequence as a machine that emits its return codes. -/
def sequencer : Machine Sequence SequencerInput Rc :=
  ⟨fun s i => ((i.run s).1, [(i.run s).2])⟩

/-- The input leaves the sequence alone if it is rejected. -/
def RejectionUnchanged (s : Sequence) (i : SequencerInput) : Prop :=
  ∀ e, (i.run s).2 = .error e → (i.run s).1 = s

/-- The call that judges a request, unless its body is rejected first. -/
def Request.call (r : Request) : Option SequencerCall :=
  if r.type ≠ .powerDeliveryReq then some (.accept r.protocol r.type)
  else
    match r.powerDelivery with
    | some .start => some (.acceptPowerDelivery r.protocol true)
    | some .stop => some (.acceptPowerDelivery r.protocol false)
    | some .renegotiate => some (.acceptRenegotiation r.protocol)
    | _ => none

/-- The protocol the call checks, when it gets as far as the check. -/
def SequencerCall.checked (s : Sequence) : SequencerCall → Option Protocol
  | .accept protocol _ => if s.phase = .appProtocol then none else some protocol
  | .acceptPowerDelivery protocol _ | .acceptRenegotiation protocol => some protocol

/-- A sequence without a protocol takes the request after a failed negotiation. -/
def SequencerCall.SetsUp : SequencerCall → Prop
  | .accept _ type => type = .suppAppProtocolReq ∨ type = .sessionSetupReq
  | .acceptPowerDelivery _ _ | .acceptRenegotiation _ => False

/-- The call fixes the protocol of a sequence that has none, and does not set the session up. -/
def SequencerCall.CommitsEarly (s : Sequence) (c : SequencerCall) : Prop :=
  s.protocol = .unknown ∧ (∃ p ∈ c.checked s, p ≠ .unknown) ∧ ¬c.SetsUp

/-- The input is, or comes down to, a call that commits early. -/
def CommitsEarly (s : Sequence) : SequencerInput → Prop
  | .call c => c.CommitsEarly s
  | .request r => ∃ c ∈ r.call, c.CommitsEarly s
  | .resumeGrant => False

/-! ## Requests are judged by calls -/

/-- A PowerDeliveryReq whose body asks for nothing the grammar knows is rejected untouched. -/
theorem seccAcceptRequestSequence_of_call_none {r : Request} (s : Sequence) (h : r.call = none) :
    ∃ e, seccAcceptRequestSequence s r = (s, .error e) := by
  rw [Request.call] at h
  split_ifs at h with htype
  have htype : r.type = .powerDeliveryReq := not_not.mp htype
  rw [seccAcceptRequestSequence, if_neg (not_not.mpr htype)]
  rcases hbody : r.body with _ | body
  · exact ⟨_, rfl⟩
  -- the body has the grammar of another protocol, or a value outside the enumeration
  cases hprotocol : r.protocol <;>
    simp only [Request.powerDelivery, htype, hprotocol] at h ⊢
  case din70121 =>
    rcases hready : r.dinReadyToCharge with _ | ready
    · exact ⟨_, rfl⟩
    · cases ready <;> simp [hready] at h
  case iso15118_2 =>
    rcases hprogress : r.iso2ChargeProgress with _ | progress
    · exact ⟨_, rfl⟩
    · cases progress <;> simp_all [Sequence.reject]
  all_goals exact ⟨_, rfl⟩

/-- A request that comes down to a call is judged by it. -/
theorem seccAcceptRequestSequence_of_call {r : Request} {c : SequencerCall} (s : Sequence)
    (h : r.call = some c) : seccAcceptRequestSequence s r = c.run s := by
  rw [Request.call] at h
  split_ifs at h with htype
  · cases h
    exact seccAcceptRequestSequence_of_ne htype
  · split at h <;> rename_i hpower <;> cases h <;>
      exact seccAcceptRequestSequence_of_powerDelivery hpower

/-! ## What a call commits -/

namespace SequencerCall

variable {s s' : Sequence} {c : SequencerCall} {e : Errno}

/-- The sequence after the protocol check of the call. -/
def afterCheck (s : Sequence) (c : SequencerCall) : Sequence :=
  match c.checked s with
  | some protocol => (seccSequenceRequireProtocol s protocol).1
  | none => s

theorem afterCheck_of_checked {protocol : Protocol} (h : c.checked s = some protocol) :
    c.afterCheck s = (seccSequenceRequireProtocol s protocol).1 := by
  rw [afterCheck, h]

/-- A rejected call leaves what its protocol check left. -/
theorem run_error (h : c.run s = (s', .error e)) : s' = c.afterCheck s := by
  -- each function rejects before it advances: the state is that after the check
  cases c with
  | accept protocol type =>
    rw [run, seccSequenceAccept] at h
    split_ifs at h with hphase
    · rw [afterCheck, checked, if_pos hphase]
      rw [seccSequenceAcceptAppProtocol] at h
      split_ifs at h <;> simp_all [Sequence.advance, Sequence.reject]
    · have hchecked : checked s (.accept protocol type) = some protocol := if_neg hphase
      rw [afterCheck_of_checked hchecked]
      split at h <;> rename_i s₀ hcheck <;> rw [hcheck]
      · exact (Prod.mk.inj h).1.symm
      · split_ifs at h with hstop
        · simp [Sequence.advance] at h
        · obtain ⟨hp, -, rfl⟩ := seccSequenceRequireProtocol_ok hcheck
          exact seccSequenceAcceptPhase_error hp h
  | acceptPowerDelivery protocol energyEnabled =>
    rw [run, seccSequenceAcceptPowerDelivery] at h
    rw [afterCheck_of_checked rfl]
    split at h <;> rename_i s₀ hcheck <;> rw [hcheck]
    · exact (Prod.mk.inj h).1.symm
    · exact seccSequenceAcceptPowerDeliveryPhase_error h
  | acceptRenegotiation protocol =>
    rw [run, seccSequenceAcceptRenegotiation] at h
    rw [afterCheck_of_checked rfl]
    split at h <;> rename_i s₀ hcheck <;> rw [hcheck]
    · exact (Prod.mk.inj h).1.symm
    · split_ifs at h <;> simp_all [Sequence.advance, Sequence.reject]

/-- The protocol check changes the sequence exactly when it fixes a protocol. -/
theorem afterCheck_eq_self_iff :
    c.afterCheck s = s ↔ ¬(s.protocol = .unknown ∧ ∃ p ∈ c.checked s, p ≠ .unknown) := by
  rcases hchecked : c.checked s with _ | protocol
  · simp [afterCheck, hchecked]
  · rw [afterCheck_of_checked hchecked, seccSequenceRequireProtocol]
    split_ifs with hp hs heq
    · simp [hp, Sequence.reject]
    -- the commit shows: the protocol was unknown and no longer is
    · have hne : { s with protocol } ≠ s := by
        intro heq
        have hprotocol : protocol = s.protocol := congrArg Sequence.protocol heq
        exact hp (hprotocol.trans hs)
      simp [hs, hp, hne]
    · simp [hs, Sequence.stay]
    · simp [hs, Sequence.reject]

/-- A sequence that has fixed no protocol takes only the requests that set the session up. -/
theorem run_of_commitsEarly (hfixed : ProtocolFixed s) (h : c.CommitsEarly s) :
    ∃ s' e, c.run s = (s', .error e) := by
  obtain ⟨hunknown, ⟨protocol, hchecked, hp⟩, hsetup⟩ := h
  -- the protocol is free only before the setup
  have hphase : s.phase = .appProtocol ∨ s.phase = .sessionSetup := by
    rcases hfixed with hphase | hphase | hknown
    · exact .inl hphase
    · exact .inr hphase
    · exact absurd hunknown hknown
  -- in these phases each of the functions commits the protocol and then rejects
  cases c with
  | accept p type =>
    rw [checked] at hchecked
    split_ifs at hchecked with happ
    · cases hchecked
    · cases hchecked
      have hphase : s.phase = .sessionSetup := hphase.resolve_left happ
      rw [SetsUp, not_or] at hsetup
      refine ⟨{ s with protocol := protocol }, .eproto, ?_⟩
      rw [run, seccSequenceAccept, if_neg happ,
        seccSequenceRequireProtocol_of_agree hp (.inl hunknown)]
      simp [hphase, Phase.rank, seccSequenceAcceptPhase, hsetup.1, hsetup.2, Sequence.reject]
  | acceptPowerDelivery p energyEnabled =>
    cases hchecked
    refine ⟨{ s with protocol := protocol }, .eproto, ?_⟩
    rw [run, seccSequenceAcceptPowerDelivery,
      seccSequenceRequireProtocol_of_agree hp (.inl hunknown)]
    rcases hphase with hphase | hphase <;>
      simp [seccSequenceAcceptPowerDeliveryPhase, hphase, Sequence.reject]
  | acceptRenegotiation p =>
    cases hchecked
    refine ⟨{ s with protocol := protocol }, .eproto, ?_⟩
    rw [run, seccSequenceAcceptRenegotiation,
      seccSequenceRequireProtocol_of_agree hp (.inl hunknown)]
    rcases hphase with hphase | hphase <;> simp [hphase, Sequence.reject]

/-- A request that sets the session up is not rejected by its phase. -/
theorem not_setsUp_of_error (hfixed : ProtocolFixed s) (hunknown : s.protocol = .unknown)
    {p : Protocol} (hchecked : p ∈ c.checked s) (hp : p ≠ .unknown)
    (h : c.run s = (s', .error e)) : ¬c.SetsUp := by
  intro hsetup
  cases c with
  | accept protocol type =>
    rw [checked] at hchecked
    split_ifs at hchecked with happ
    · cases hchecked
    · cases hchecked
      have hphase : s.phase = .sessionSetup := by
        rcases hfixed with hphase | hphase | hknown
        · exact absurd hphase happ
        · exact hphase
        · exact absurd hunknown hknown
      rw [run, seccSequenceAccept, if_neg happ,
        seccSequenceRequireProtocol_of_agree hp (.inl hunknown)] at h
      rcases hsetup with htype | htype <;>
        simp [htype, hphase, seccSequenceAcceptPhase, hp, Sequence.stay, Sequence.advance] at h
  | acceptPowerDelivery | acceptRenegotiation => exact hsetup

/-- While no phase past the setup lacks a protocol, a call leaves the sequence alone when it is
rejected exactly when it does not commit early. -/
theorem unchanged_iff (hfixed : ProtocolFixed s) :
    (∀ e, (c.run s).2 = .error e → (c.run s).1 = s) ↔ ¬c.CommitsEarly s := by
  constructor
  · intro hunchanged hearly
    obtain ⟨s', e, hrun⟩ := run_of_commitsEarly hfixed hearly
    have hself : c.afterCheck s = s := by
      rw [← run_error hrun]
      simpa [hrun] using hunchanged e (by rw [hrun])
    exact afterCheck_eq_self_iff.mp hself ⟨hearly.1, hearly.2.1⟩
  · intro hearly e hrejected
    have hrun : c.run s = ((c.run s).1, .error e) := by rw [← hrejected]
    rw [run_error hrun]
    apply afterCheck_eq_self_iff.mpr
    rintro ⟨hunknown, p, hchecked, hp⟩
    have hsetup := not_setsUp_of_error hfixed hunknown hchecked hp hrun
    exact hearly ⟨hunknown, ⟨p, hchecked, hp⟩, hsetup⟩

end SequencerCall

/-! ## Reachable sequences -/

section

variable {s : Sequence}

/-- The phase table of a PowerDelivery keeps the protocol. -/
theorem seccSequenceAcceptPowerDeliveryPhase_protocol (s : Sequence) (p : Protocol)
    (energyEnabled : Bool) :
    (seccSequenceAcceptPowerDeliveryPhase s p energyEnabled).1.protocol = s.protocol := by
  rw [seccSequenceAcceptPowerDeliveryPhase]
  split <;> (try split_ifs) <;> rfl

/-- The phase table keeps a protocol that has been checked. -/
theorem seccSequenceAcceptPhase_protocol (hp : s.protocol ≠ .unknown) (type : MessageType) :
    (seccSequenceAcceptPhase s s.protocol type).1.protocol = s.protocol := by
  have hpower : (seccSequenceAcceptPowerDelivery s s.protocol true).1.protocol = s.protocol := by
    rw [seccSequenceAcceptPowerDelivery, seccSequenceRequireProtocol_self hp]
    exact seccSequenceAcceptPowerDeliveryPhase_protocol s _ true
  rw [seccSequenceAcceptPhase]
  split <;> (try split_ifs) <;> first | exact hpower | rfl

/-- A protocol check that fails leaves the sequence alone. -/
theorem seccSequenceRequireProtocol_error {s' : Sequence} {p : Protocol} {e : Errno}
    (h : seccSequenceRequireProtocol s p = (s', .error e)) : s' = s := by
  rw [seccSequenceRequireProtocol] at h
  split_ifs at h <;> simp_all [Sequence.reject, Sequence.stay]

/-- A call leaves a protocol behind, unless it precedes the setup or changes nothing. -/
theorem SequencerCall.run_protocolFixed (hfixed : ProtocolFixed s) (c : SequencerCall) :
    ProtocolFixed (c.run s).1 := by
  cases c with
  | accept protocol type =>
    rw [run, seccSequenceAccept]
    split_ifs with hphase
    -- the first request fixes DIN or leaves the sequence to the setup
    · rw [seccSequenceAcceptAppProtocol]
      split_ifs with hdirect happ hknown
      · exact .inr (.inr (by simp [Sequence.advance, hdirect.2]))
      · exact hfixed
      · exact .inr (.inl rfl)
      · exact .inr (.inl rfl)
    · split <;> rename_i s₀ hcheck
      · rw [seccSequenceRequireProtocol_error hcheck]
        exact hfixed
      -- the check has passed, so the protocol is that of the request
      · obtain ⟨hp, -, rfl⟩ := seccSequenceRequireProtocol_ok hcheck
        refine .inr (.inr ?_)
        split_ifs with hstop
        · exact hp
        · rw [seccSequenceAcceptPhase_protocol hp]
          exact hp
  | acceptPowerDelivery protocol energyEnabled =>
    rw [run, seccSequenceAcceptPowerDelivery]
    split <;> rename_i s₀ hcheck
    · rw [seccSequenceRequireProtocol_error hcheck]
      exact hfixed
    · obtain ⟨hp, -, rfl⟩ := seccSequenceRequireProtocol_ok hcheck
      refine .inr (.inr ?_)
      rw [seccSequenceAcceptPowerDeliveryPhase_protocol]
      exact hp
  | acceptRenegotiation protocol =>
    rw [run, seccSequenceAcceptRenegotiation]
    split <;> rename_i s₀ hcheck
    · rw [seccSequenceRequireProtocol_error hcheck]
      exact hfixed
    · obtain ⟨hp, -, rfl⟩ := seccSequenceRequireProtocol_ok hcheck
      refine .inr (.inr ?_)
      split_ifs <;> exact hp

/-- Every input keeps a protocol fixed past the setup. -/
theorem SequencerInput.run_protocolFixed (hfixed : ProtocolFixed s) (i : SequencerInput) :
    ProtocolFixed (i.run s).1 := by
  cases i with
  | call c => exact c.run_protocolFixed hfixed
  | request r =>
    rw [run]
    rcases hcall : r.call with _ | c
    · obtain ⟨e, hrun⟩ := seccAcceptRequestSequence_of_call_none s hcall
      rw [hrun]
      exact hfixed
    · rw [seccAcceptRequestSequence_of_call s hcall]
      exact c.run_protocolFixed hfixed
  | resumeGrant => exact hfixed

/-- What one input does when it is rejected, in a sequence that has fixed a protocol past the
setup. -/
theorem rejection_unchanged_of_fixed (hfixed : ProtocolFixed s) (i : SequencerInput) :
    RejectionUnchanged s i ↔ ¬CommitsEarly s i := by
  cases i with
  | call c => exact SequencerCall.unchanged_iff hfixed
  | request r =>
    rw [RejectionUnchanged, CommitsEarly, SequencerInput.run]
    rcases hcall : r.call with _ | c
    · obtain ⟨e, hrun⟩ := seccAcceptRequestSequence_of_call_none s hcall
      simp [hrun]
    · rw [seccAcceptRequestSequence_of_call s hcall]
      simpa using SequencerCall.unchanged_iff (c := c) hfixed
  | resumeGrant => exact iff_of_true (fun e h => by cases h) id

end

/-- After every list of calls, requests and grants on a fresh sequence, a call or request that is
rejected leaves the sequence alone exactly when it does not fix a protocol for which the phase has
no use. -/
theorem rejection_unchanged_iff (inputs : List SequencerInput) (i : SequencerInput) :
    RejectionUnchanged (sequencer.run .init inputs).1 i ↔
      ¬CommitsEarly (sequencer.run .init inputs).1 i := by
  have hfixed : ProtocolFixed (sequencer.run .init inputs).1 :=
    sequencer.run_induction (t := []) (fun _ s => ProtocolFixed s)
      (fun _ _ i hfixed => i.run_protocolFixed hfixed) (.inl rfl) inputs
  exact rejection_unchanged_of_fixed hfixed i

/-- After a failed negotiation, an ISO 15118-2 request that skips the SessionSetup is rejected, but
the connection has taken its protocol. -/
theorem not_rejection_unchanged :
    ¬∀ inputs i, RejectionUnchanged (sequencer.run .init inputs).1 i := by
  intro h
  have hskip := h [.request unsupportedOffer] (.request (Iso2Body.request .serviceDiscoveryReq))
    .eproto (by decide)
  exact absurd hskip (by decide)

end Jpv2g
