import Jpv2g.Secc.AppProtocol.Selection
import Jpv2g.Secc.Stream.CustomHandler

/-!
# Agreement on the Negotiated Protocol

The protocol of a connection is kept twice, as the hint of the decoders and in the sequence. Every
request after the negotiation has the protocol that the last SupportedAppProtocolRes selected,
provided that the vehicle waits for a negotiation that succeeded. After a failed one the sequence
gate commits whatever protocol the SessionSetupReq is written in, and a stream that speaks
ISO 15118-20 goes on to hand frames to its module.

## Main definitions

* `Exchange.selected`: the protocol that the response of an exchange selects.
* `negotiated`: what the last negotiation of a connection has selected.
* `ProtocolAgreed`: an accepted request has the negotiated protocol.
* `Negotiated`: requests wait for a negotiation that succeeded, and the handler answers it with the
  selection of the station.

## Main results

* `negotiatedProtocol_served`: under this condition, the two copies agree with the negotiation.
* `protocol_agreed`: under this condition, every accepted request has the negotiated protocol.
-/

namespace Jpv2g

open Trace

/-! ## The negotiations of a connection -/

/-- The SchemaID and the code of the SupportedAppProtocolRes with which an exchange is answered. -/
def Exchange.negotiation (x : Exchange) : Option (UInt8 × AppResponseCode) :=
  match x.result.res with
  | some (.sapp schemaId code) => some (schemaId, code)
  | _ => none

/-- The protocol that the response of an exchange selects, or `unknown`: that of the offers with its
SchemaID, of which the vehicle has ranked one first. -/
def Exchange.selected (build : Build) (x : Exchange) : Protocol :=
  match x.negotiation with
  | some (schemaId, code) =>
    if code = .failedNoNegotiation then .unknown
    else
      let offers := (appProtocolOffers x.request.appOffers).filter (·.schemaId = schemaId)
      (selectAppProtocol build x.registered (some offers)).protocol
  | none => .unknown

/-- What an event selects when it answers a negotiation. -/
def StreamEvent.negotiated (build : Build) : StreamEvent → Option Protocol
  | .dispatched x => x.negotiation.map fun _ => x.selected build
  | _ => none

/-- What the last negotiation has selected, which is `unknown` when it has failed. -/
def negotiated (build : Build) (seg : List StreamEvent) : Option Protocol :=
  lastSome (StreamEvent.negotiated build) seg

/-- The request that was judged by the sequence gate. -/
def StreamEvent.judged : StreamEvent → Option Request
  | .rejected r _ | .refused r _ => some r
  | .dispatched x => some x.request
  | _ => none

/-- The protocol of a request after the negotiation that has passed the sequence gate, or the gates
of the ISO 15118-20 module. -/
def StreamEvent.accepted : StreamEvent → Option Protocol
  | .refused r _ => if r.type = .suppAppProtocolReq then none else some r.protocol
  | .dispatched x => if x.request.type = .suppAppProtocolReq then none else some x.request.protocol
  | .frame20 f => f.request.map fun _ => .iso15118_20_dc
  | _ => none

/-- The request is a DIN 70121 SessionSetupReq. -/
def Request.isDinSetup (r : Request) : Prop :=
  r.type = .sessionSetupReq ∧ r.protocol = .din70121

/-- The first request of the connection is a DIN 70121 SessionSetupReq. -/
def StartsDin (seg : List StreamEvent) : Prop :=
  ∃ r ∈ seg.findSome? StreamEvent.judged, r.isDinSetup

/-- The protocol is the one the last negotiation has selected, or that of a connection that starts
with DIN 70121 and has no negotiation. -/
def SessionProtocol (outcome : Option Protocol) (seg : List StreamEvent) (protocol : Protocol) :
    Prop :=
  protocol ≠ .unknown ∧ outcome = some protocol ∨
    outcome = none ∧ StartsDin seg ∧ protocol = .din70121

/-- A request after the negotiation that is accepted has the protocol of the last negotiation, or of
the DIN 70121 start of the connection; after a negotiation that failed none is accepted. -/
structure ProtocolAgreed (build : Build) (seg : List StreamEvent) (e : StreamEvent) : Prop where
  agreed : ∀ protocol ∈ e.accepted, SessionProtocol (negotiated build seg) (seg ++ [e]) protocol
  none_of_failed : negotiated build seg = some .unknown → e.accepted = none

/-- The last negotiation has selected a protocol. -/
def NegotiationSucceeded (build : Build) (seg : List StreamEvent) : Prop :=
  ∃ protocol ∈ negotiated build seg, protocol ≠ .unknown

instance (build : Build) (seg : List StreamEvent) : Decidable (NegotiationSucceeded build seg) :=
  inferInstanceAs (Decidable (∃ protocol ∈ negotiated build seg, protocol ≠ .unknown))

/-- The exchange is answered with a SupportedAppProtocolRes only if it is a negotiation, and then
the response selects what the station has selected, if it selects a protocol. -/
def Exchange.AnswersSelection (build : Build) (x : Exchange) : Prop :=
  x.rc = .ok () → x.negotiation ≠ none → x.request.type = .suppAppProtocolReq ∧
    (x.selected build ≠ .unknown →
      x.selected build = (selectAppProtocol build x.registered x.request.appOffers).protocol)

instance (build : Build) (x : Exchange) : Decidable (x.AnswersSelection build) :=
  inferInstanceAs (Decidable (_ → _ → _ ∧ (_ → _)))

/-- A SessionSetupReq that arrives while its protocol is free, or is its own, follows a negotiation
that selected a protocol. -/
def SetupNegotiated (build : Build) (codec : Codec) (t : List StreamEvent) (c : Charger)
    (i : ChargerInput) : Prop :=
  ∀ stream ∈ c.stream, ∀ r ∈ c.presented build codec i,
    stream.sequence.phase = .sessionSetup → r.type = .sessionSetupReq →
    stream.sequence.protocol = .unknown ∨ stream.sequence.protocol = r.protocol →
    NegotiationSucceeded build (thisStream t)

instance (build : Build) (codec : Codec) (t : List StreamEvent) (c : Charger) (i : ChargerInput) :
    Decidable (SetupNegotiated build codec t c i) :=
  inferInstanceAs (Decidable (∀ stream ∈ c.stream, ∀ r ∈ c.presented build codec i,
    stream.sequence.phase = .sessionSetup → r.type = .sessionSetupReq →
    stream.sequence.protocol = .unknown ∨ stream.sequence.protocol = r.protocol →
    NegotiationSucceeded build (thisStream t)))

/-- The requests that the gates would accept wait for a negotiation that succeeded, and the handler
answers it with the selection of the station. -/
structure Negotiated (build : Build) (codec : Codec) (codec20 : Codec20) (t : List StreamEvent)
    (c : Charger) (i : ServerInput) : Prop where
  setup : SetupNegotiated build codec t c i.plain
  /-- An ISO 15118-20 request that its module accepts follows a negotiation that selected a
  protocol. -/
  frame : ∀ f ∈ i.frame20 codec20 c, f.request ≠ none → NegotiationSucceeded build (thisStream t)
  answer : ∀ x ∈ i.exchange build codec c, x.AnswersSelection build

instance (build : Build) (codec : Codec) (codec20 : Codec20) (t : List StreamEvent) (c : Charger)
    (i : ServerInput) : Decidable (Negotiated build codec codec20 t c i) :=
  have : ∀ f : Frame20, Decidable (f.request ≠ none → NegotiationSucceeded build (thisStream t)) :=
    fun f => match f.request with
      | none => .isTrue fun h => absurd rfl h
      | some _ => decidable_of_iff (NegotiationSucceeded build (thisStream t)) (by simp)
  decidable_of_iff (SetupNegotiated build codec t c i.plain ∧
      (∀ f ∈ i.frame20 codec20 c, f.request ≠ none → NegotiationSucceeded build (thisStream t)) ∧
      ∀ x ∈ i.exchange build codec c, x.AnswersSelection build)
    ⟨fun h => ⟨h.1, h.2.1, h.2.2⟩, fun h => ⟨h.setup, h.frame, h.answer⟩⟩

/-! ## What an accepted request tells about its protocol -/

section Gate

variable {r : Request} {s s' : Sequence}

/-- A request after the negotiation fixes its protocol, in one of three ways. -/
theorem Accepts.protocol_cases (hacc : Accepts r s s') (hr : r.type ≠ .suppAppProtocolReq) :
    (r.protocol ≠ .unknown ∧ s'.protocol = r.protocol ∧ s'.phase ≠ .appProtocol ∧
        s'.phase ≠ .sessionSetup) ∧
      (s.phase = .appProtocol ∧ r.isDinSetup ∨
        (s.protocol = .unknown ∨ s.protocol = r.protocol) ∧
          (s.phase = .sessionSetup ∧ r.type = .sessionSetupReq ∨
            s.phase ≠ .appProtocol ∧ s.phase ≠ .sessionSetup)) := by
  cases hacc with
  | directSetup hphase htype hprotocol =>
    exact ⟨⟨by simp [hprotocol], hprotocol.symm, by simp, by simp⟩,
      .inl ⟨hphase, htype, hprotocol⟩⟩
  | negotiate hphase htype => exact absurd htype hr
  | move hknown hagree hmove =>
    refine ⟨⟨hknown, hmove.protocol_eq, ?_⟩, .inr ⟨hagree, ?_⟩⟩
    · cases hmove <;> grind
    · cases hmove <;> grind

/-- A negotiation is accepted as the first request, and again in the protocol that was selected. -/
theorem Accepts.negotiation_cases (hacc : Accepts r s s') (hr : r.type = .suppAppProtocolReq) :
    s.phase = .appProtocol ∨ s.phase = .sessionSetup ∧ r.protocol ≠ .unknown ∧
      (s.protocol = .unknown ∨ s.protocol = r.protocol) := by
  cases hacc with
  | directSetup hphase | negotiate hphase => exact .inl hphase
  | move hknown hagree hmove =>
    refine .inr ⟨?_, hknown, hagree⟩
    cases hmove <;> grind [Request.type_of_powerDelivery]

end Gate

/-- A supportedAppProtocolReq is decoded with the protocol it selects, if it selects one. -/
theorem Decoded.protocol_of_suppAppProtocol {build : Build} {registered : Bool} {stream : Stream}
    {r : Request} (h : Decoded build registered stream r) (hr : r.type = .suppAppProtocolReq)
    (hselected : (selectAppProtocol build registered r.appOffers).protocol ≠ .unknown) :
    r.protocol = (selectAppProtocol build registered r.appOffers).protocol := by
  cases h with
  | app hprotocol => exact hprotocol.trans (if_pos hselected)
  | @iso2 doc _ _ => cases hbody : doc.body <;> simp [hbody, Iso2Body.messageType] at hr
  | @din doc _ => cases hbody : doc.body <;> simp [hbody, DinBody.messageType] at hr

/-! ## The default handler -/

section Default

variable {build : Build} {codec : Codec} {station : Station} {x : Exchange}

/-- The default handler does not answer other requests as negotiations. -/
theorem Exchange.Runs.negotiation_of_ne (hruns : x.Runs build codec station)
    (hsession : validateRequestSession station.secc x.request = .ok ()) (hrc : x.rc = .ok ())
    (hr : x.request.type ≠ .suppAppProtocolReq) : x.negotiation = none := by
  obtain ⟨bytes, hbytes⟩ := hruns.encoded hrc
  have hanswers : ∃ sid, AnswersAs codec sid x.result := by
    by_cases hsetup : x.request.type = .sessionSetupReq
    · exact ⟨_, hruns.setup_answers hsetup⟩
    · exact ⟨_, hruns.answers hsession hr hsetup⟩
  obtain ⟨sid, hanswers⟩ := hanswers
  obtain ⟨res, hres, -, hsid⟩ := hanswers bytes hbytes
  cases res with
  | sapp => cases hsid
  | _ => simp [Exchange.negotiation, hres]

/-- The default handler answers a negotiation with its selection. -/
theorem Exchange.Runs.negotiation_eq (hruns : x.Runs build codec station)
    (hr : x.request.type = .suppAppProtocolReq) :
    x.negotiation ≠ none ∧
      x.selected build = (selectAppProtocol build x.registered x.request.appOffers).protocol := by
  obtain ⟨sid, -, heq⟩ := hruns.negotiates hr
  have hnegotiation : x.negotiation = some
      (((selectAppProtocol build x.registered x.request.appOffers).offer.map (·.schemaId)).getD 0,
        (selectAppProtocol build x.registered x.request.appOffers).responseCode) := by
    rw [Exchange.negotiation, heq]
    rfl
  refine ⟨by simp [hnegotiation], ?_⟩
  have hcoherent := selectAppProtocol_coherent build x.registered x.request.appOffers
  simp only [Exchange.selected, hnegotiation]
  split_ifs with hfailed
  · exact (hcoherent.1.mpr hfailed).symm
  -- the offers with the SchemaID of the one selected are the ones it is the best of
  · cases hoffer : (selectAppProtocol build x.registered x.request.appOffers).offer with
    | none => exact absurd (hcoherent.1.mp (hcoherent.2.mpr hoffer)) hfailed
    | some best =>
      rw [Option.map_some, Option.getD_some, selectAppProtocol_filter hoffer]

/-- The default handler answers a negotiation with the selection of the station. -/
theorem Exchange.Runs.answersSelection (hruns : x.Runs build codec station)
    (hsession : validateRequestSession station.secc x.request = .ok ()) :
    x.AnswersSelection build := by
  intro hrc hnegotiation
  by_cases hr : x.request.type = .suppAppProtocolReq
  · exact ⟨hr, fun _ => (hruns.negotiation_eq hr).2⟩
  · exact absurd (hruns.negotiation_of_ne hsession hrc hr) hnegotiation

end Default

/-! ## The invariant -/

section Invariant

variable {build : Build} {codec : Codec} {codec20 : Codec20} {seg : List StreamEvent}
  {e : StreamEvent} {s s' : Sequence} {hint : Protocol} {r : Request} {x : Exchange}

/-- The invariant: what the negotiations say about the phase, the protocol of the sequence and the
hint of the decoders. -/
structure NegotiatedProtocol (build : Build) (seg : List StreamEvent) (s : Sequence)
    (hint : Protocol) : Prop where
  /-- A first request of any kind leaves this phase or ends the connection. -/
  fresh : s.phase = .appProtocol → ∀ e ∈ seg, e.judged = none
  waiting : s.phase = .sessionSetup → ∀ protocol ∈ negotiated build seg, protocol ≠ .unknown →
    s.protocol = protocol ∧ hint = protocol
  running : s.phase ≠ .appProtocol → s.phase ≠ .sessionSetup →
    s.protocol ≠ .unknown ∧ SessionProtocol (negotiated build seg) seg s.protocol
  hinted : hint = .iso15118_20_dc → s.phase = .sessionSetup

/-- Later requests do not change the first one. -/
theorem StartsDin.append (h : StartsDin seg) : StartsDin (seg ++ [e]) := by
  obtain ⟨r, hr, hdin⟩ := h
  exact ⟨r, by simp [List.findSome?_append, Option.mem_def.mp hr], hdin⟩

theorem SessionProtocol.append {outcome : Option Protocol} {protocol : Protocol}
    (h : SessionProtocol outcome seg protocol) : SessionProtocol outcome (seg ++ [e]) protocol :=
  h.imp_right (.imp_right (.imp_left StartsDin.append))

/-- What agrees with the negotiation does not follow one that failed. -/
theorem protocolAgreed_of_agreed
    (h : ∀ protocol ∈ e.accepted, SessionProtocol (negotiated build seg) (seg ++ [e]) protocol) :
    ProtocolAgreed build seg e := by
  refine ⟨h, fun hfailed => ?_⟩
  cases haccepted : e.accepted with
  | none => rfl
  | some protocol =>
    rcases h protocol haccepted with ⟨hknown, hsome⟩ | ⟨hnone, -⟩
    · exact absurd (Option.some.inj (hsome.symm.trans hfailed)) hknown
    · cases hnone.symm.trans hfailed

theorem StreamEvent.quiet.judged_eq (h : e.quiet) : e.judged = none := by
  cases e with
  | frame20 | reset20 | closed => rfl
  | _ => exact h.elim

theorem StreamEvent.quiet.negotiated_eq (h : e.quiet) : e.negotiated build = none := by
  cases e with
  | frame20 | reset20 | closed => rfl
  | _ => exact h.elim

/-- Without a judged request nothing has been negotiated. -/
theorem negotiated_of_unjudged (h : ∀ e ∈ seg, e.judged = none) : negotiated build seg = none := by
  rw [negotiated, ← List.append_nil seg, lastSome_append]
  induction seg using List.reverseRecOn with
  | nil => rfl
  | append_singleton seg e ih =>
    have he : e.negotiated build = none := by
      cases e with
      | dispatched x => cases h _ (List.mem_append_right _ List.mem_cons_self)
      | _ => rfl
    rw [lastSome_concat, he]
    exact ih fun e' he' => h e' (List.mem_append_left _ he')

/-- A quiet event keeps the invariant. -/
theorem NegotiatedProtocol.quiet (h : NegotiatedProtocol build seg s hint) (hquiet : e.quiet) :
    NegotiatedProtocol build (seg ++ [e]) s hint := by
  have hlast : negotiated build (seg ++ [e]) = negotiated build seg := by
    simp [negotiated, hquiet.negotiated_eq]
  refine ⟨fun hphase e' he' => ?_, ?_, fun happ hsetup => ?_, h.hinted⟩
  · rcases List.mem_append.mp he' with he' | he'
    · exact h.fresh hphase e' he'
    · exact List.mem_singleton.mp he' ▸ hquiet.judged_eq
  · rw [hlast]
    exact h.waiting
  · rw [hlast]
    exact (h.running happ hsetup).imp_right SessionProtocol.append

/-- A request that passes the gate has the protocol of the session. -/
theorem NegotiatedProtocol.of_accepts (h : NegotiatedProtocol build seg s hint)
    (hacc : Accepts r s s') (hr : r.type ≠ .suppAppProtocolReq) (he : e.judged = some r)
    (hsetup : s.phase = .sessionSetup → r.type = .sessionSetupReq →
      s.protocol = .unknown ∨ s.protocol = r.protocol → NegotiationSucceeded build seg) :
    SessionProtocol (negotiated build seg) (seg ++ [e]) r.protocol := by
  rcases (hacc.protocol_cases hr).2 with ⟨hphase, hdin⟩ | ⟨hagree, ⟨hphase, htype⟩ | ⟨happ, hpast⟩⟩
  -- the connection starts with DIN
  · have hunjudged := h.fresh hphase
    refine .inr ⟨negotiated_of_unjudged hunjudged, ⟨r, ?_, hdin⟩, hdin.2⟩
    have hnone : seg.findSome? StreamEvent.judged = none := List.findSome?_eq_none_iff.mpr hunjudged
    simp [List.findSome?_append, hnone, he]
  -- the setup: the condition says that the last negotiation has succeeded
  · obtain ⟨protocol, houtcome, hknown⟩ := hsetup hphase htype hagree
    have hprotocol := (h.waiting hphase protocol houtcome hknown).1
    have hrequest : r.protocol = protocol := by
      rcases hagree with hunknown | hagree
      · exact absurd (hprotocol.symm.trans hunknown) hknown
      · exact hagree.symm.trans hprotocol
    rw [hrequest]
    exact .inl ⟨hknown, houtcome⟩
  -- past the setup the protocol of the sequence is that of the session
  · obtain ⟨hknown, hprotocol⟩ := h.running happ hpast
    rcases hagree with hunknown | hagree
    · exact absurd hunknown hknown
    · rw [← hagree]
      exact hprotocol.append

/-- An answered negotiation leaves the two copies of the protocol with what it has selected. -/
theorem NegotiatedProtocol.negotiates {stream : Stream}
    (h : NegotiatedProtocol build seg s hint) (hacc : Accepts x.request s s')
    (hr : x.request.type = .suppAppProtocolReq)
    (hdecoded : Decoded build x.registered stream x.request) (hrc : x.rc = .ok ())
    (hanswers : x.AnswersSelection build) :
    NegotiatedProtocol build (seg ++ [.dispatched x]) s' x.request.protocol := by
  obtain ⟨hphase, hfix⟩ := hacc.of_suppAppProtocol hr
  refine ⟨fun happ => ?_, fun _ protocol hlast hknown => ?_, fun _ hsetup => absurd hphase hsetup,
    fun _ => hphase⟩
  · rw [hphase] at happ
    cases happ
  rw [negotiated, lastSome_concat, Option.mem_def] at hlast
  suffices hrequest : x.request.protocol = protocol from
    ⟨(hfix (hrequest ▸ hknown)).trans hrequest, hrequest⟩
  cases hnegotiation : x.negotiation with
  | some answer =>
    -- what the decoders detected is what the response selects
    rw [StreamEvent.negotiated, hnegotiation, Option.map_some, Option.some_or,
      Option.some.injEq] at hlast
    have hselection := (hanswers hrc (by simp [hnegotiation])).2 (hlast ▸ hknown)
    rw [hdecoded.protocol_of_suppAppProtocol hr (hselection ▸ hlast ▸ hknown), ← hselection, hlast]
  | none =>
    -- the earlier selection may only be repeated
    rw [StreamEvent.negotiated, hnegotiation, Option.map_none, Option.none_or] at hlast
    rcases hacc.negotiation_cases hr with happ | ⟨hsetup, -, hagree⟩
    · rw [← negotiated, negotiated_of_unjudged (h.fresh happ)] at hlast
      cases hlast
    · have hprotocol := (h.waiting hsetup protocol hlast hknown).1
      rcases hagree with hunknown | hagree
      · exact absurd (hprotocol.symm.trans hunknown) hknown
      · exact hagree.symm.trans hprotocol

/-- Under the condition, the two copies of the protocol agree with the negotiation. -/
theorem negotiatedProtocol_served (build : Build) (codec : Codec) (codec20 : Codec20) :
    ServedInvariant build codec codec20 (Negotiated build codec codec20)
      (fun seg _ s hint => NegotiatedProtocol build seg s hint) (ProtocolAgreed build) where
  init := fun _ => ⟨by simp, by simp [Sequence.init], by simp [Sequence.init], by simp⟩
  quiet := fun hinv hquiet => hinv.quiet hquiet
  unconstrained := fun {_ e} hnone hunframed => by
    refine protocolAgreed_of_agreed fun protocol hprotocol => ?_
    cases e with
    | frame20 f => exact absurd rfl (hunframed f)
    | refused | dispatched => cases hnone
    | _ => cases hprotocol
  framed := fun {t c i stream f} hstream hC hinv hf => by
    refine protocolAgreed_of_agreed fun protocol hprotocol => ?_
    obtain ⟨doc, hdoc, rfl⟩ := Option.map_eq_some_iff.mp hprotocol
    obtain ⟨selected, houtcome, hknown⟩ := hC.frame f hf (by simp [hdoc])
    have hhint : stream.protocol = .iso15118_20_dc := ServerInput.protocol_of_frame20 hstream hf
    -- the stream speaks ISO 15118-20 only while it waits for a setup
    have hselected := (hinv.waiting (hinv.hinted hhint) selected houtcome hknown).2
    rw [← hselected, hhint] at houtcome
    exact .inl ⟨by simp, houtcome⟩
  refused := fun {t c i stream r answer sequence} hpasses hC hinv => by
    refine protocolAgreed_of_agreed fun protocol hprotocol => ?_
    simp only [StreamEvent.accepted] at hprotocol
    split_ifs at hprotocol with htype
    · cases hprotocol
    · cases hprotocol
      exact hinv.of_accepts (accepts_of_ok hpasses.gate) htype rfl
        (hC.setup _ hpasses.stream_eq _ hpasses.presented)
  dispatched := fun {t c i stream x} hpasses hC hinv hsession hx => by
    have hacc := accepts_of_ok hpasses.gate
    have hprotocol : x.request.type ≠ .suppAppProtocolReq →
        SessionProtocol (negotiated build (thisStream t)) (thisStream t ++ [.dispatched x])
          x.request.protocol :=
      fun htype => hinv.of_accepts hacc htype rfl
        (hC.setup _ hpasses.stream_eq _ hpasses.presented)
    refine ⟨protocolAgreed_of_agreed fun protocol haccepted => ?_, fun hrc _ => ?_⟩
    · simp only [StreamEvent.accepted] at haccepted
      split_ifs at haccepted with htype
      · cases haccepted
      · cases haccepted
        exact hprotocol htype
    -- a resume grant changes neither the phase nor the protocol
    suffices h : NegotiatedProtocol build (thisStream t ++ [.dispatched x]) x.sequence
        x.request.protocol by
      refine ⟨?_, ?_, ?_, ?_⟩ <;> rw [applyResume_phase]
      · exact h.fresh
      · rw [applyResume_protocol]
        exact h.waiting
      · rw [applyResume_protocol]
        exact h.running
      · exact h.hinted
    have hanswers := hC.answer x hx
    by_cases htype : x.request.type = .suppAppProtocolReq
    · have hdecoded := hpasses.decoded
      rw [← ServerInput.registered_of_exchange hx] at hdecoded
      exact hinv.negotiates hacc htype hdecoded hrc hanswers
    · have hnegotiation : x.negotiation = none :=
        Classical.byContradiction fun hne => htype (hanswers hrc hne).1
      have hlast : negotiated build (thisStream t ++ [.dispatched x]) =
          negotiated build (thisStream t) := by
        simp [negotiated, StreamEvent.negotiated, hnegotiation]
      obtain ⟨⟨hknown, hfixed, happ, hsetup⟩, -⟩ := hacc.protocol_cases htype
      refine ⟨fun h => absurd h happ, fun h => absurd h hsetup, fun _ _ => ?_, fun hhint => ?_⟩
      · rw [hfixed, hlast]
        exact ⟨hknown, hprotocol htype⟩
      · exact absurd (hpasses.decoded.of_iso20 hhint).1 htype

end Invariant

/-- On every connection of every run, for every handler: when requests wait for a negotiation that
succeeded, and the handler answers it with the selection of the station, every request after the
negotiation that is accepted has the protocol of the last negotiation. -/
theorem protocol_agreed (build : Build) (codec : Codec) (codec20 : Codec20) (station : Station)
    (inputs : List ServerInput)
    (hnegotiated : (server build codec codec20).Meets (Negotiated build codec codec20) []
      { station, stream := none } inputs) :
    JustifiedInStream (ProtocolAgreed build)
      ((server build codec codec20).run { station, stream := none } inputs).2 :=
  ((negotiatedProtocol_served build codec codec20).run station hnegotiated).2

/-- A connection that negotiates ISO 15118-2. -/
theorem protocol_agreed_sample :
    JustifiedInStream (ProtocolAgreed sampleBuild)
      ((server sampleBuild sampleCodec emptyCodec20).run
        { station := sampleStation, stream := none }
        ((sampleDiscovery true).map (·.served sampleBuild sampleCodec))).2 :=
  protocol_agreed _ _ _ _ _ (by decide)

/-- A connection whose only offer is not supported. -/
def sampleFailure : List ChargerInput :=
  [.connect, sampleRequest 1 true true]

/-- A connection that selects ISO 15118-20, and then makes an offer that is not supported. -/
def sampleFailure20 : List ChargerInput :=
  [.connect, .frame (sampleArrival .exi [0] 0), .frame (sampleArrival .exi [1] 0)]

/-- After a failed negotiation an ISO 15118-2 SessionSetupReq is accepted. On a stream that speaks
ISO 15118-20, so is an ISO 15118-20 SessionSetupReq after a second negotiation that failed. -/
theorem not_agreed_after_failure :
    (¬JustifiedInStream (ProtocolAgreed sampleBuild)
      ((server sampleBuild sampleCodec emptyCodec20).run
        { station := sampleStation, stream := none }
        ((sampleFailure ++ [sampleRequest 2 true true]).map
          (·.served sampleBuild sampleCodec))).2) ∧
      ¬JustifiedInStream (ProtocolAgreed sampleBuild20)
        ((server sampleBuild20 sampleNegotiation20 sampleCodec20).run
          { station := sampleStation20, stream := none }
          ((sampleFailure20 ++ [ChargerInput.frame (sampleArrival .exi20Mainstream [0] 0)]).map
            (·.served sampleBuild20 sampleNegotiation20))).2 := by
  constructor
  · intro h
    rw [server_run_default, Machine.run_concat] at h
    have hlast := h _ _ [] rfl
    cases hlast.none_of_failed (by decide)
  · intro h
    rw [server_run_default, Machine.run_concat] at h
    have hlast := h _ _ [] rfl
    cases hlast.none_of_failed (by decide)

end Jpv2g
