import Jpv2g.Secc.Stream.Moves
import Jpv2g.SeccIso20.Contactor
import Jpv2g.ToMathlib.Trace

/-!
# Invariants of the Live Connection

The induction rule for properties of one connection: an invariant that a fresh connection has and
that every dispatched request keeps holds of the live connection after every run of the station,
and every request that passes the gates may use it. The rule is stated for every machine whose steps
are moves of the station, so that it serves the default handler and custom ones alike.

## Main definitions

* `thisStream`: the events of the current connection.
* `StreamInvariant`: what an invariant of the live connection has to satisfy.
* `LiveInvariant`: the same for the station with the default handler.

## Main results

* `StreamInvariant.run`, `LiveInvariant.run`: the induction rule.
-/

namespace Jpv2g

open Trace

/-- The event starts a connection. -/
def StreamEvent.connects : StreamEvent → Bool
  | .connected => true
  | _ => false

/-- The events of the current connection. -/
def thisStream (t : List StreamEvent) : List StreamEvent :=
  sinceLast StreamEvent.connects t

/-- The request passed the sequence gate. -/
def StreamEvent.passed : StreamEvent → Option Request
  | .refused r _ => some r
  | .dispatched x => some x.request
  | _ => none

theorem StreamEvent.quiet.connects_eq {e : StreamEvent} (h : e.quiet) : e.connects = false := by
  cases e <;> simp_all [StreamEvent.quiet, StreamEvent.connects]

theorem StreamEvent.quiet.passed_eq {e : StreamEvent} (h : e.quiet) : e.passed = none := by
  cases e <;> simp_all [StreamEvent.quiet, StreamEvent.passed]

/-- Events other than `connected` extend the current connection. -/
theorem thisStream_append {t es : List StreamEvent} (hes : ∀ e ∈ es, e.connects = false) :
    thisStream (t ++ es) = thisStream t ++ es :=
  sinceLast_append hes

/-- A request that passes the sequence gate of the live connection. -/
structure Passes (build : Build) (codec : Codec) (c : Charger) (i : ChargerInput) (stream : Stream)
    (r : Request) (sequence : Sequence) : Prop where
  stream_eq : c.stream = some stream
  presented : c.presented build codec i = some r
  decoded : Decoded build c.station.s20.isSome stream r
  gate : seccAcceptRequestSequence stream.sequence r = (sequence, .ok ())

/-- An invariant of the live connection: of its events, the record, the sequence and the protocol
hint. Under the condition `C` on every input, it yields `R` for the requests that pass the
sequence gate and for the frames on the ISO 15118-20 path, given the events of the connection before
them. -/
structure StreamInvariant (build : Build) (codec : Codec) {ι : Type} (plain : ι → ChargerInput)
    (Handled : Charger → ι → Exchange → Prop) (Framed : Charger → ι → Frame20 → Prop)
    (C : List StreamEvent → Charger → ι → Prop)
    (Inv : List StreamEvent → Secc → Sequence → Protocol → Prop)
    (R : List StreamEvent → StreamEvent → Prop) : Prop where
  init : ∀ secc, Inv [] secc .init .unknown
  quiet : ∀ {seg secc sequence protocol e}, Inv seg secc sequence protocol → e.quiet →
    Inv (seg ++ [e]) secc sequence protocol
  unconstrained : ∀ {seg e}, e.passed = none → (∀ f, e ≠ .frame20 f) → R seg e
  framed : ∀ {t c i stream f}, c.stream = some stream → C t c i →
    Inv (thisStream t) c.station.secc stream.sequence stream.protocol → Framed c i f →
    R (thisStream t) (.frame20 f)
  refused : ∀ {t c i stream r answer sequence}, Passes build codec c (plain i) stream r sequence →
    C t c i → Inv (thisStream t) c.station.secc stream.sequence stream.protocol →
    R (thisStream t) (.refused r answer)
  dispatched : ∀ {t c i stream x}, Passes build codec c (plain i) stream x.request x.sequence →
    C t c i → Inv (thisStream t) c.station.secc stream.sequence stream.protocol →
    validateRequestSession c.station.secc x.request = .ok () → Handled c i x →
    R (thisStream t) (.dispatched x) ∧
      (x.rc = .ok () → x.request.type ≠ .sessionStopReq →
        Inv (thisStream t ++ [.dispatched x])
          (applyResume (x.result.secc.recordPauseMode x.request x.sequence) x.request
            x.sequence).1
          (applyResume (x.result.secc.recordPauseMode x.request x.sequence) x.request
            x.sequence).2
          x.request.protocol)

/-- An invariant of the live connection of the station with the default handler. -/
abbrev LiveInvariant (build : Build) (codec : Codec)
    (C : List StreamEvent → Charger → ChargerInput → Prop)
    (Inv : List StreamEvent → Secc → Sequence → Protocol → Prop)
    (R : List StreamEvent → StreamEvent → Prop) : Prop :=
  StreamInvariant build codec id (fun c _ => Exchange.Runs build codec c.station)
    (fun _ _ _ => True) C Inv R

section Rule

variable {build : Build} {codec : Codec} {codec20 : Codec20} {ι : Type} {plain : ι → ChargerInput}
  {Handled : Charger → ι → Exchange → Prop} {Framed : Charger → ι → Frame20 → Prop}
  {C : List StreamEvent → Charger → ι → Prop}
  {Inv : List StreamEvent → Secc → Sequence → Protocol → Prop}
  {R : List StreamEvent → StreamEvent → Prop} {t es : List StreamEvent}

/-- The invariant holds of the live connection, if there is one. -/
def HoldsLive (Inv : List StreamEvent → Secc → Sequence → Protocol → Prop)
    (t : List StreamEvent) (c : Charger) : Prop :=
  ∀ stream, c.stream = some stream →
    Inv (thisStream t) c.station.secc stream.sequence stream.protocol

/-- Every event is related to the events of its connection before it. -/
def JustifiedInStream (R : List StreamEvent → StreamEvent → Prop) (t : List StreamEvent) : Prop :=
  Justified (fun pre e => R (thisStream pre) e) t

/-- Events that are unconstrained may follow. -/
theorem JustifiedInStream.extend (hjust : JustifiedInStream R t) (hes : ∀ e ∈ es, ∀ seg, R seg e) :
    JustifiedInStream R (t ++ es) :=
  Justified.append hjust fun _ e _ heq => hes e (by simp [heq]) _

/-- An event that is related to its past, with unconstrained events after it. -/
theorem JustifiedInStream.cons {e : StreamEvent} (hjust : JustifiedInStream R t)
    (he : R (thisStream t) e) (hes : ∀ e ∈ es, ∀ seg, R seg e) :
    JustifiedInStream R (t ++ e :: es) := by
  rw [← List.singleton_append, ← List.append_assoc]
  exact JustifiedInStream.extend (Justified.concat hjust he) hes

/-- Quiet events keep the invariant. -/
theorem StreamInvariant.quiets (h : StreamInvariant build codec plain Handled Framed C Inv R)
    {seg : List StreamEvent} {secc : Secc} {sequence : Sequence} {protocol : Protocol}
    (hinv : Inv seg secc sequence protocol) (hes : ∀ e ∈ es, e.quiet) :
    Inv (seg ++ es) secc sequence protocol := by
  induction es using List.reverseRecOn with
  | nil => simpa using hinv
  | append_singleton es e ih =>
    rw [← List.append_assoc]
    exact h.quiet (ih fun x hx => hes x (by simp [hx])) (hes e (by simp))

/-- Quiet events other than frames are unconstrained. -/
theorem StreamInvariant.unconstrained_of_quiet
    (h : StreamInvariant build codec plain Handled Framed C Inv R) (hes : ∀ e ∈ es, e.quiet)
    (hunframed : ∀ f, .frame20 f ∉ es) : ∀ e ∈ es, ∀ seg, R seg e := by
  intro e he seg
  refine h.unconstrained (hes e he).passed_eq ?_
  rintro f rfl
  exact hunframed f he

/-- One input of the station keeps the invariant and justifies its events. -/
theorem StreamInvariant.move (h : StreamInvariant build codec plain Handled Framed C Inv R)
    {c c' : Charger} {i : ι}
    (hmove : StationMove build codec (Handled c i) (Framed c i) c (plain i) c' es)
    (hinv : HoldsLive Inv t c) (hjust : JustifiedInStream R t) (hC : C t c i) :
    HoldsLive Inv (t ++ es) c' ∧ JustifiedInStream R (t ++ es) := by
  have hclosed : ∀ rc : Rc, ∀ e ∈ [StreamEvent.closed rc], ∀ seg, R seg e := fun rc =>
    h.unconstrained_of_quiet (by simp [StreamEvent.quiet]) (by simp)
  cases hmove with
  | idle => simpa using ⟨hinv, hjust⟩
  | connect =>
    -- nothing has happened on the new connection
    refine ⟨?_, hjust.concat (h.unconstrained rfl (by simp))⟩
    intro stream hstream
    cases hstream
    have hfresh : thisStream (t ++ [.connected]) = [] := by
      simp [thisStream, StreamEvent.connects]
    rw [hfresh]
    exact h.init _
  | retire hstream =>
    refine ⟨?_, hjust.concat (h.unconstrained rfl (by simp))⟩
    intro stream hstream'
    cases hstream.symm.trans hstream'
  | quiet hstream hsecc hstatics hnext hes hframes =>
    refine ⟨?_, ?_⟩
    · intro stream' hstream'
      obtain ⟨hsequence, hprotocol⟩ := hnext stream' hstream'
      rw [hsecc, hsequence, hprotocol, thisStream_append fun e he => (hes e he).connects_eq]
      exact h.quiets (hinv _ hstream) hes
    · rcases hframes with hunframed | ⟨f, tail, rfl, hunframed, hframed⟩
      · exact hjust.extend (h.unconstrained_of_quiet hes hunframed)
      · exact hjust.cons (h.framed hstream hC (hinv _ hstream) hframed)
          (h.unconstrained_of_quiet (fun e he => hes e (List.mem_cons_of_mem _ he)) hunframed)
  -- a rejection ends the connection, so that no invariant is owed
  | @rejected _ r _ e =>
    refine ⟨fun stream' hstream' => (by cases hstream'), ?_⟩
    exact hjust.cons (h.unconstrained rfl (by simp)) (hclosed _)
  | @refused stream r sequence e hstream hpresented hdecoded hgate =>
    refine ⟨fun stream' hstream' => (by cases hstream'), ?_⟩
    exact hjust.cons (h.refused ⟨hstream, hpresented, hdecoded, hgate⟩ hC (hinv _ hstream))
      (hclosed _)
  | @dispatched stream x _ tail hstream hpresented hdecoded hgate hsession hhandled _ _ hfate htail
      hunframed =>
    -- the invariant goes on with the connection, and ends with it otherwise
    obtain ⟨hR, hnext⟩ :=
      h.dispatched ⟨hstream, hpresented, hdecoded, hgate⟩ hC (hinv _ hstream) hsession hhandled
    refine ⟨?_, hjust.cons hR (h.unconstrained_of_quiet htail hunframed)⟩
    intro stream' hstream'
    obtain ⟨hrc, htype, hprotocol, hsequence, hsecc⟩ := hfate.of_some hstream'
    rw [hsecc, hsequence, hprotocol, ← List.singleton_append, ← List.append_assoc,
      thisStream_append fun e he => (htail e he).connects_eq,
      thisStream_append (by simp [StreamEvent.connects])]
    exact h.quiets (hnext hrc htype) htail

/-- The induction rule: over every run of the station from a moment without a connection whose
inputs all meet the condition, the invariant holds of the live connection and every event is
related to the events of its connection before it. -/
theorem StreamInvariant.run (h : StreamInvariant build codec plain Handled Framed C Inv R)
    {m : Machine Charger ι StreamEvent}
    (hmoves : ∀ c i, StationMove build codec (Handled c i) (Framed c i) c (plain i) (m.step c i).1
      (m.step c i).2)
    (station : Station) {inputs : List ι}
    (hmeets : m.Meets C [] { station, stream := none } inputs) :
    HoldsLive Inv (m.run { station, stream := none } inputs).2
        (m.run { station, stream := none } inputs).1 ∧
      JustifiedInStream R (m.run { station, stream := none } inputs).2 := by
  -- along the inputs: the invariant of the live connection carries the justification
  have hrun := m.run_induction_of_meets (fun t c => HoldsLive Inv t c ∧ JustifiedInStream R t)
    ?_ ?_ hmeets
  · simpa using hrun
  · rintro t c i ⟨hinv, hjust⟩ hC
    exact h.move (hmoves c i) hinv hjust hC
  · exact ⟨fun stream hstream => (by cases hstream), justified_nil⟩

end Rule

/-- The induction rule for the station with the default handler. -/
theorem LiveInvariant.run {build : Build} {codec : Codec} {codec20 : Codec20}
    {C : List StreamEvent → Charger → ChargerInput → Prop}
    {Inv : List StreamEvent → Secc → Sequence → Protocol → Prop}
    {R : List StreamEvent → StreamEvent → Prop} (h : LiveInvariant build codec C Inv R)
    (station : Station) {inputs : List ChargerInput}
    (hmeets : (charger build codec codec20).Meets C [] { station, stream := none } inputs) :
    HoldsLive Inv ((charger build codec codec20).run { station, stream := none } inputs).2
        ((charger build codec codec20).run { station, stream := none } inputs).1 ∧
      JustifiedInStream R
        ((charger build codec codec20).run { station, stream := none } inputs).2 :=
  StreamInvariant.run h charger_move station hmeets

/-! ## A sample connection -/

/-- A codec that decodes and encodes nothing. -/
def emptyCodec20 : Codec20 where
  decodeCommon _ := none
  decodeDc _ := none
  encode _ _ := none

/-- A station that asks a backend for authorization and offers DC. -/
def sampleStation : Station :=
  { secc := .init { freeCharging := false, supportedEnergyModes := "DC_core".toList } true false
    statics := .init
    s20 := none }

/-- A numbered request, and whether its response is sent. -/
def sampleRequestIn (env : HandlerEnv) (number : UInt8) (sent : Bool) : ChargerInput :=
  .frame
    { recv := .ok { payloadType := .exi, payload := [number] }
      env
      env20 := sampleEnv20
      nowReset := 0
      send := if sent then .ok () else .error .epipe }

/-- A numbered request, the answer of the backend, and whether its response is sent. -/
def sampleRequest (number : UInt8) (authorizeContract sent : Bool) : ChargerInput :=
  sampleRequestIn (sampleEnv authorizeContract) number sent

/-- The first six requests of a connection, up to ChargeParameterDiscovery, when the backend
gives the same answer to every request for authorization. -/
def sampleDiscovery (authorizeContract : Bool) : List ChargerInput :=
  .connect :: [0, 2, 3, 4, 5, 6].map fun number => sampleRequest number authorizeContract true

/-! ## A sample ISO 15118-20 stream -/

/-- A station built with ISO 15118-20. -/
def sampleBuild20 : Build :=
  { iso20 := true, protocolMask := 3 }

/-- A codec whose negotiation offers ISO 15118-20. -/
def sampleNegotiation20 : Codec :=
  { sampleCodec with
    decodeAppHand
      | [0] => some [{ sampleOffer with protocolNamespace := iso20DcNamespace,
                                        versionNumberMajor := 1 }]
      | payload => sampleCodec.decodeAppHand payload }

/-- A station with a registered ISO 15118-20 session. -/
def sampleStation20 : Station :=
  { sampleStation with s20 := some (.init sampleConfig20) }

/-- A frame that arrives at the given time. -/
def sampleArrival (payloadType : PayloadType) (payload : List UInt8) (nowArrival : ℕ) :
    FrameInput :=
  { recv := .ok { payloadType, payload }
    env := sampleEnv true
    env20 := { sampleEnv20 with nowArrival }
    nowReset := 0
    send := .ok () }

end Jpv2g
