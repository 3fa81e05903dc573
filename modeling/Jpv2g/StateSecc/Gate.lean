import Jpv2g.StateSecc.Accepts
import Jpv2g.ToMathlib.Machine
import Jpv2g.ToMathlib.Trace

/-!
# Runs of the Sequence Gate

The sequencer fed with an arbitrary list of requests, rejected ones included, as a machine whose
events are the accepted requests. A resume grant, by which the stream dispatcher presets the DC
mode of a resumed session, is an input of its own.

## Main definitions

* `gate`: the machine.
* `gateTrace`: its events from a fresh connection.
* `gate_step_cases`: what one input can do to the sequence and to the events.
* `Reached`: the sequences the gate can reach, with the events on the way.
-/

namespace Jpv2g

open Trace

/-- The inputs of the gate. -/
inductive GateInput where
  /-- A decoded request is judged. -/
  | request (r : Request)
  /-- The dispatcher grants a resume: the DC mode is preset. -/
  | resumeGrant
deriving DecidableEq, Repr

/-- The events of the gate. -/
inductive GateEvent where
  | accepted (r : Request)
  | granted
deriving DecidableEq, Repr

/-- The sequence with the DC mode of a resumed session preset. -/
def Sequence.grantResume (seq : Sequence) : Sequence :=
  { seq with dcMode := true, modeKnown := true }

/-- One input of the gate: a rejected request leaves no event, but may commit the protocol. -/
def gateStep (seq : Sequence) : GateInput → Sequence × List GateEvent
  | .request r =>
    match seccAcceptRequestSequence seq r with
    | (seq, .ok ()) => (seq, [.accepted r])
    | (seq, .error _) => (seq, [])
  | .resumeGrant => (seq.grantResume, [.granted])

/-- The sequencer as a machine. -/
def gate : Machine Sequence GateInput GateEvent := ⟨gateStep⟩

/-- The events of the gate on a fresh connection. -/
def gateTrace (inputs : List GateInput) : List GateEvent :=
  (gate.run .init inputs).2

/-- One input of the gate is a rejection, an accepted request or a resume grant. -/
theorem gate_step_cases (s : Sequence) (i : GateInput) :
    (∃ s', CommitsAtMost s s' ∧ gate.step s i = (s', [])) ∨
      (∃ r s', Accepts r s s' ∧ gate.step s i = (s', [.accepted r])) ∨
      gate.step s i = (s.grantResume, [.granted]) := by
  cases i with
  | request r =>
    rcases h : seccAcceptRequestSequence s r with ⟨s', e | ⟨⟨⟩⟩⟩
    · exact .inl ⟨s', commits_of_error h, by simp [gate, gateStep, h]⟩
    · exact .inr (.inl ⟨r, s', accepts_of_ok h, by simp [gate, gateStep, h]⟩)
  | resumeGrant => exact .inr (.inr rfl)

/-! ## Reachable sequences -/

/-- The gate, on a fresh connection, can reach the sequence with these events. -/
def Reached (t : List GateEvent) (s : Sequence) : Prop :=
  ∃ inputs, gate.run .init inputs = (s, t)

section Reached

variable {t : List GateEvent} {r : Request} {s s' : Sequence}

theorem reached_init : Reached [] .init := ⟨[], rfl⟩

/-- An accepted request is one more step of the gate. -/
theorem Reached.accept (h : Reached t s)
    (hgate : seccAcceptRequestSequence s r = (s', .ok ())) :
    Reached (t ++ [.accepted r]) s' := by
  obtain ⟨inputs, hrun⟩ := h
  refine ⟨inputs ++ [.request r], ?_⟩
  rw [Machine.run_concat, hrun]
  simp [gate, gateStep, hgate]

/-- A resume grant is one more step of the gate. -/
theorem Reached.grant (h : Reached t s) : Reached (t ++ [.granted]) s.grantResume := by
  obtain ⟨inputs, hrun⟩ := h
  exact ⟨inputs ++ [.resumeGrant], by rw [Machine.run_concat, hrun]; rfl⟩

/-- What every step of the gate keeps holds of every reachable sequence. -/
theorem Reached.induction (h : Reached t s) (Inv : List GateEvent → Sequence → Prop)
    (hinit : Inv [] .init)
    (hstep : ∀ t s i, Inv t s → Inv (t ++ (gate.step s i).2) (gate.step s i).1) : Inv t s := by
  obtain ⟨inputs, hrun⟩ := h
  have hinv := gate.run_induction Inv hstep hinit inputs
  rwa [hrun] at hinv

end Reached

/-! ## Event predicates -/

/-- A request of the given type was accepted. -/
def GateEvent.acceptedType (type : MessageType) : GateEvent → Prop
  | .accepted r => r.type = type
  | .granted => False

instance (type : MessageType) : DecidablePred (GateEvent.acceptedType type)
  | .accepted r => inferInstanceAs (Decidable (r.type = type))
  | .granted => inferInstanceAs (Decidable False)

/-- A PowerDeliveryReq asking for the given progress was accepted. -/
def GateEvent.acceptedPower (progress : ChargeProgress) : GateEvent → Prop
  | .accepted r => r.powerDelivery = some progress
  | .granted => False

/-- No resume has been granted. -/
def NoGrant (t : List GateEvent) : Prop :=
  GateEvent.granted ∉ t

theorem NoGrant.of_append {t es : List GateEvent} (h : NoGrant (t ++ es)) : NoGrant t :=
  fun hmem => h (List.mem_append_left es hmem)

theorem not_noGrant_concat {t : List GateEvent} : ¬NoGrant (t ++ [.granted]) := by
  simp [NoGrant]

end Jpv2g
