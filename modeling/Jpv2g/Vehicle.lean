import Jpv2g.Secc.AppProtocol.Selection
import Jpv2g.StateSecc.Accepts

/-!
# A Vehicle That Keeps to the Protocol

The other party of a session. A vehicle goes by the stage it has reached itself: the message flow
of a DC or an AC session (the diagram of `README.md` with the repetitions, the renegotiation and the
abort), in the protocol that the station's answer to its offers has named. Nothing here refers to
the sequencer of the station; that the sequencer follows the vehicle is a theorem.

## Main definitions

* `VehicleMsg`: a message of the vehicle, and the request it stands for.
* `Flow`: the message flow of a session, stage by stage.
* `VehicleView`, `VehicleView.Sends`: what the vehicle knows, and what it sends.
* `namedProtocol`: what it learns from the answer to its offers.
* `Stage.Tracks`: the sequencer has got as far as the vehicle.

## Main results

* `Flow.moves`: the sequencer follows every step of the flow.
* `namedProtocol_eq`: the vehicle learns which protocol the station has selected.
* `VehicleView.Sends.accepts`: the sequencer accepts what the vehicle sends, and follows.
-/

namespace Jpv2g

/-! ## Messages -/

/-- A message of the vehicle, by the grammar it is written in. -/
inductive VehicleMsg where
  | app (offers : List AppProtocol)
  | iso2 (doc : V2gDoc Iso2Body)
  | din (doc : V2gDoc DinBody)

namespace VehicleMsg

/-- The type of the request a message stands for. -/
def type : VehicleMsg → MessageType
  | app _ => .suppAppProtocolReq
  | iso2 doc => doc.body.messageType
  | din doc => doc.body.messageType

/-- The protocol a message is written in; the offers are not written in any. -/
def protocol : VehicleMsg → Protocol
  | app _ => .unknown
  | iso2 _ => .iso15118_2
  | din _ => .din70121

/-- The SessionID of a message. -/
def sessionId : VehicleMsg → List UInt8
  | app _ => []
  | iso2 doc => doc.sessionId
  | din doc => doc.sessionId

/-- What a PowerDeliveryReq asks for. -/
def progress : VehicleMsg → Option ChargeProgress
  | iso2 ⟨_, .powerDeliveryReq progress⟩ => some progress
  | din ⟨_, .powerDeliveryReq ready⟩ => some (if ready then .start else .stop)
  | _ => none

/-- The request a message stands for on a connection that uses `inUse`, at a station that has
selected `selected` among its offers. -/
def request (selected : List AppProtocol → Protocol) (inUse : Protocol) : VehicleMsg → Request
  | app offers =>
    { type := .suppAppProtocolReq
      protocol := if selected offers ≠ .unknown then selected offers else inUse
      header := none
      dinHeader := none
      body := some (.app offers) }
  | iso2 doc =>
    { type := doc.body.messageType
      protocol := .iso15118_2
      header := some doc.sessionId
      dinHeader := none
      body := some (.iso2 doc.body) }
  | din doc =>
    { type := doc.body.messageType
      protocol := .din70121
      header := none
      dinHeader := some doc.sessionId
      body := some (.din doc.body) }

variable {msg : VehicleMsg} {selected : List AppProtocol → Protocol} {inUse : Protocol}

@[simp]
theorem request_type : (msg.request selected inUse).type = msg.type := by
  cases msg <;> rfl

theorem request_protocol (selected : List AppProtocol → Protocol) (inUse : Protocol)
    (h : msg.protocol ≠ .unknown) : (msg.request selected inUse).protocol = msg.protocol := by
  cases msg with
  | app => exact absurd rfl h
  | iso2 | din => rfl

theorem request_sessionBytes (selected : List AppProtocol → Protocol) (inUse : Protocol)
    (h : msg.protocol ≠ .unknown) :
    (msg.request selected inUse).sessionBytes = some msg.sessionId := by
  cases msg with
  | app => exact absurd rfl h
  | iso2 | din => rfl

/-- A PowerDeliveryReq is read as what it asks for. -/
theorem request_powerDelivery {progress : ChargeProgress} (h : msg.progress = some progress) :
    (msg.request selected inUse).powerDelivery = some progress := by
  rcases msg with offers | ⟨sid, body⟩ | ⟨sid, body⟩
  · cases h
  · cases body <;> exact h
  · cases body <;> exact h

end VehicleMsg

/-! ## The message flow -/

/-- How far the vehicle has got. -/
inductive Stage where
  | connected | negotiated | setUp | selecting | authorizing | parametrized | checking
  | preCharging | powered | charging | renegotiating | renegotiated | stopping | welding | over
deriving DecidableEq, Repr

/-- The vehicle has a session. -/
def Stage.established : Stage → Bool
  | .connected | .negotiated | .over => false
  | .setUp | .selecting | .authorizing | .parametrized | .checking | .preCharging | .powered
  | .charging | .renegotiating | .renegotiated | .stopping | .welding => true

/-- The message flow of a session, for a vehicle that charges DC or one that charges AC. -/
inductive Flow (dc : Bool) (msg : VehicleMsg) : Stage → Stage → Prop
  | setUp (htype : msg.type = .sessionSetupReq) : Flow dc msg .negotiated .setUp
  | discover (htype : msg.type = .serviceDiscoveryReq) : Flow dc msg .setUp .selecting
  | detail (htype : msg.type = .serviceDetailReq) : Flow dc msg .selecting .selecting
  | selectPayment (htype : msg.type = .paymentServiceSelectionReq) :
      Flow dc msg .selecting .authorizing
  | authorize (htype : msg.type = .authorizationReq) : Flow dc msg .authorizing .authorizing
  | parametrize (htype : msg.type = .chargeParameterDiscoveryReq) :
      Flow dc msg .authorizing .parametrized
  | parametrizeAgain (htype : msg.type = .chargeParameterDiscoveryReq) :
      Flow dc msg .parametrized .parametrized
  | check {stage : Stage}
      (hstage : stage = .parametrized ∨ stage = .renegotiated ∨ stage = .checking)
      (hdc : dc = true) (htype : msg.type = .cableCheckReq) : Flow dc msg stage .checking
  | preCharge {stage : Stage} (hstage : stage = .checking ∨ stage = .preCharging)
      (htype : msg.type = .preChargeReq) : Flow dc msg stage .preCharging
  | start (hstart : msg.progress = some .start) : Flow dc msg .preCharging .powered
  /-- An AC session has no cable check, and exists under ISO 15118-2 alone. -/
  | startAc (hac : dc = false) (hiso : msg.protocol = .iso15118_2)
      (hstart : msg.progress = some .start) : Flow dc msg .parametrized .powered
  | demand {stage : Stage} (hstage : stage = .powered ∨ stage = .charging) (hdc : dc = true)
      (htype : msg.type = .currentDemandReq) : Flow dc msg stage .charging
  | status {stage : Stage} (hstage : stage = .powered ∨ stage = .charging) (hac : dc = false)
      (hiso : msg.protocol = .iso15118_2) (htype : msg.type = .chargingStatusReq) :
      Flow dc msg stage .charging
  | receipt (htype : msg.type = .meteringReceiptReq) : Flow dc msg .charging .charging
  | renegotiate {stage : Stage} (hstage : stage = .powered ∨ stage = .charging)
      (hiso : msg.protocol = .iso15118_2) (hrenegotiate : msg.progress = some .renegotiate) :
      Flow dc msg stage .renegotiating
  | reparametrize {stage : Stage} (hstage : stage = .renegotiating ∨ stage = .renegotiated)
      (htype : msg.type = .chargeParameterDiscoveryReq) : Flow dc msg stage .renegotiated
  /-- The cable need not be checked again. -/
  | restart (hiso : msg.protocol = .iso15118_2) (hstart : msg.progress = some .start) :
      Flow dc msg .renegotiated .powered
  | stop {stage : Stage} (hstage : stage = .powered ∨ stage = .charging)
      (hstop : msg.progress = some .stop) : Flow dc msg stage .stopping
  | weld {stage : Stage} (hstage : stage = .stopping ∨ stage = .welding) (hdc : dc = true)
      (htype : msg.type = .weldingDetectionReq) : Flow dc msg stage .welding
  /-- A session may be stopped at any time. -/
  | sessionStop {stage : Stage} (hstage : stage.established = true)
      (htype : msg.type = .sessionStopReq) : Flow dc msg stage .over

/-! ## What the vehicle knows and sends -/

/-- The namespace of the messages of a protocol. -/
def messageNamespace : Protocol → List Char
  | .iso15118_2 => "urn:iso:15118:2:2013:MsgDef".toList
  | .din70121 => "urn:din:70121:2012:MsgDef".toList
  | .iso15118_20_dc => iso20DcNamespace
  | .unknown => []

/-- The vehicle offers each of the protocols by the namespace of its messages, and tells its offers
apart by their SchemaIDs. -/
structure Offered (protocolOf : AppProtocol → Protocol) (offers : List AppProtocol) : Prop where
  known : ∀ ap ∈ offers, protocolOf ap ≠ .unknown ∧
    ap.protocolNamespace = messageNamespace (protocolOf ap)
  distinct : (offers.map (·.schemaId)).Nodup

/-- The protocol that an answer names by the SchemaID of one of the offers. -/
def namedProtocol (protocolOf : AppProtocol → Protocol) (offers : List AppProtocol)
    (named : Option UInt8) : Protocol :=
  match named with
  | some schemaId => ((offers.find? (·.schemaId == schemaId)).map protocolOf).getD .unknown
  | none => .unknown

/-- A vehicle: how it charges, and the protocols it offers. -/
structure Vehicle where
  dc : Bool
  protocolOf : AppProtocol → Protocol

/-- What the vehicle knows: the stage it has reached, the protocol it uses, and the SessionID it was
given. -/
structure VehicleView where
  stage : Stage
  protocol : Protocol
  sid : Sid

/-- The view on a new connection. -/
def VehicleView.init : VehicleView :=
  { stage := .connected, protocol := .unknown, sid := .zero }

/-- A SessionSetupReq asks for a new session, any other request names the session. -/
def VehicleView.Names (view : VehicleView) (msg : VehicleMsg) : Prop :=
  if msg.type = .sessionSetupReq then
    msg.sessionId.length ≤ 8 ∧ ∀ b ∈ msg.sessionId, b = 0
  else msg.sessionId = view.sid.1

/-- The vehicle pays by external means. -/
def VehicleMsg.selectsContract : VehicleMsg → Bool
  | .iso2 doc => doc.body == .paymentServiceSelectionReq .contract
  | .din doc => doc.body == .servicePaymentSelectionReq .contract
  | .app _ => false

/-- What the vehicle sends next, and the stage it then reaches: its offers at first, once, and then
the messages of the flow in the protocol that was named; a DC vehicle may as well begin with a
session of DIN 70121, without any offer. -/
inductive VehicleView.Sends (v : Vehicle) (view : VehicleView) : VehicleMsg → Stage → Prop
  | negotiate {offers : List AppProtocol} (hstage : view.stage = .connected)
      (hoffered : Offered v.protocolOf offers) : view.Sends v (.app offers) .negotiated
  | setUpDirectly {doc : V2gDoc DinBody} (hstage : view.stage = .connected) (hdc : v.dc = true)
      (hbody : doc.body = .sessionSetupReq) (hnames : view.Names (.din doc)) :
      view.Sends v (.din doc) .setUp
  | go {msg : VehicleMsg} {stage : Stage} (hflow : Flow v.dc msg view.stage stage)
      (hspoken : msg.protocol = view.protocol) (hnames : view.Names msg)
      (hpayment : msg.selectsContract = false) : view.Sends v msg stage

/-! ## The sequencer follows the flow -/

/-- The phase of the sequencer in which a vehicle is at the stage. -/
def Stage.phase : Stage → Phase
  | .connected => .appProtocol
  | .negotiated => .sessionSetup
  | .setUp => .serviceDiscovery
  | .selecting => .serviceSelection
  | .authorizing => .authorization
  | .parametrized | .renegotiating | .renegotiated => .chargeParameters
  | .checking => .cableCheck
  | .preCharging => .preCharge
  | .powered => .powerDelivery
  | .charging => .charging
  | .stopping => .powerDeliveryStop
  | .welding => .welding
  | .over => .complete

/-- Before power is asked for the sequencer does not know how the vehicle charges, and then it has
taken it for what it is. -/
def Stage.Mode (dc : Bool) (s : Sequence) : Stage → Prop
  | .connected | .negotiated | .setUp | .selecting | .authorizing | .parametrized =>
    s.modeKnown = false
  | .checking | .preCharging | .powered | .charging | .renegotiating | .renegotiated
  | .stopping | .welding => s.modeKnown = true ∧ s.dcMode = dc
  | .over => True

/-- The sequencer has got as far as a vehicle at the stage. -/
structure Stage.Tracks (dc : Bool) (stage : Stage) (s : Sequence) : Prop where
  phase : s.phase = stage.phase
  mode : stage.Mode dc s

section Flow

variable {dc : Bool} {msg : VehicleMsg} {stage stage' : Stage} {r : Request} {s : Sequence}

/-- An established session is past its setup. -/
theorem Stage.phase_of_established (h : stage.established = true) :
    stage.phase ≠ .appProtocol ∧ stage.phase ≠ .sessionSetup ∧ stage.phase ≠ .complete := by
  cases stage <;> first | decide | cases h

/-- The sequencer follows every step of the flow. -/
theorem Flow.moves (h : Flow dc msg stage stage') (htracks : stage.Tracks dc s)
    (htype : r.type = msg.type) (hprotocol : r.protocol = msg.protocol)
    (hpower : ∀ progress, msg.progress = some progress → r.powerDelivery = some progress) :
    ∃ s', Moves r s s' ∧ stage'.Tracks dc s' := by
  obtain ⟨hphase, hmode⟩ := htracks
  cases h with
  | setUp h => exact ⟨_, .sessionSetup hphase (htype.trans h), rfl, hmode⟩
  | discover h => exact ⟨_, .serviceDiscovery hphase (htype.trans h), rfl, hmode⟩
  | detail h => exact ⟨_, .inspectServices hphase (.inr (htype.trans h)), hphase, hmode⟩
  | selectPayment h => exact ⟨_, .paymentServiceSelection hphase (htype.trans h), rfl, hmode⟩
  | authorize h => exact ⟨_, .authorize hphase (.inr (.inr (htype.trans h))), hphase, hmode⟩
  | parametrize h => exact ⟨_, .chargeParameterDiscovery hphase (htype.trans h), rfl, hmode⟩
  | parametrizeAgain h =>
    exact ⟨_, .repeatChargeParameterDiscovery hphase (htype.trans h), hphase, hmode⟩
  | check hstage hdc h =>
    rcases hstage with rfl | rfl | rfl
    · exact ⟨_, .cableCheck hphase (htype.trans h), rfl, rfl, hdc.symm⟩
    · exact ⟨_, .cableCheck hphase (htype.trans h), rfl, rfl, hdc.symm⟩
    · exact ⟨_, .repeatCableCheck hphase (htype.trans h), hphase, hmode⟩
  | preCharge hstage h =>
    rcases hstage with rfl | rfl
    · exact ⟨_, .preCharge hphase (htype.trans h), rfl, hmode⟩
    · exact ⟨_, .repeatPreCharge hphase (htype.trans h), hphase, hmode⟩
  | start h => exact ⟨_, .start (.inl hphase) (hpower _ h), rfl, hmode⟩
  | startAc hac hiso h =>
    -- the mode is not known yet, so that the session is taken for AC
    have hisDc : s.isDc = false := by rw [Sequence.isDc, hmode]; rfl
    exact ⟨_, .startDirectly hphase (by simp [hprotocol, hiso]) (hpower _ h), rfl, rfl,
      hisDc.trans hac.symm⟩
  | demand hstage hdc h =>
    have hpowered : s.phase = .powerDelivery ∨ s.phase = .charging := by
      rcases hstage with rfl | rfl
      · exact .inl hphase
      · exact .inr hphase
    have hdemand : s.modeKnown = true ∧ s.dcMode = dc := by
      rcases hstage with rfl | rfl <;> exact hmode
    exact ⟨_, .demand hpowered (.inl ⟨hdemand.2.trans hdc, htype.trans h⟩), rfl, hdemand⟩
  | status hstage hac hiso h =>
    have hpowered : s.phase = .powerDelivery ∨ s.phase = .charging := by
      rcases hstage with rfl | rfl
      · exact .inl hphase
      · exact .inr hphase
    have hstatus : s.modeKnown = true ∧ s.dcMode = dc := by
      rcases hstage with rfl | rfl <;> exact hmode
    exact ⟨_, .demand hpowered (.inr ⟨hstatus.2.trans hac, htype.trans h⟩), rfl, hstatus⟩
  | receipt h => exact ⟨_, .meteringReceipt hphase (htype.trans h), hphase, hmode⟩
  | renegotiate hstage hiso h =>
    rcases hstage with rfl | rfl
    · exact ⟨_, .renegotiate (.inl hphase) (hprotocol.trans hiso) (hpower _ h), rfl, hmode⟩
    · exact ⟨_, .renegotiate (.inr hphase) (hprotocol.trans hiso) (hpower _ h), rfl, hmode⟩
  | reparametrize hstage h =>
    rcases hstage with rfl | rfl <;>
      exact ⟨_, .repeatChargeParameterDiscovery hphase (htype.trans h), hphase, hmode⟩
  | restart hiso h =>
    -- a renegotiation keeps the mode
    have hisDc : s.isDc = dc := by rw [Sequence.isDc, hmode.1, hmode.2]; rfl
    exact ⟨_, .startDirectly hphase (by simp [hprotocol, hiso]) (hpower _ h), rfl, rfl, hisDc⟩
  | stop hstage h =>
    rcases hstage with rfl | rfl
    · exact ⟨_, .stop (.inr (.inl hphase)) (hpower _ h), rfl, hmode⟩
    · exact ⟨_, .stop (.inr (.inr (.inl hphase))) (hpower _ h), rfl, hmode⟩
  | weld hstage hdc h =>
    rcases hstage with rfl | rfl
    · exact ⟨_, .weldingDetection (.inr (.inr hphase)) (hmode.2.trans hdc) (htype.trans h), rfl,
        hmode⟩
    · exact ⟨_, .repeatWeldingDetection hphase (htype.trans h), hphase, hmode⟩
  | sessionStop hstage h =>
    obtain ⟨hstart, hsetup, hopen⟩ := Stage.phase_of_established hstage
    exact ⟨_, .sessionStop (hphase ▸ hstart) (hphase ▸ hsetup) (hphase ▸ hopen) (htype.trans h),
      rfl, trivial⟩

end Flow

/-! ## The negotiation -/

section Negotiation

variable {build : Build} {registered : Bool} {protocolOf : AppProtocol → Protocol}
  {offers : List AppProtocol} {ap : AppProtocol}

/-- The station takes an offer for what the vehicle means by it, if for anything. -/
theorem classifyOffer_of_offered (h : Offered protocolOf offers) (hap : ap ∈ offers)
    (hknown : classifyOffer build registered ap ≠ .unknown) :
    classifyOffer build registered ap = protocolOf ap := by
  obtain ⟨hne, hnamespace⟩ := h.known ap hap
  rw [classifyOffer, hnamespace] at hknown ⊢
  generalize protocolOf ap = protocol at hne hknown ⊢
  cases protocol with
  | unknown => exact absurd rfl hne
  | iso15118_2 => exact if_pos (by decide)
  | din70121 => rw [if_neg (by decide), if_pos (by decide)]
  | iso15118_20_dc =>
    rw [if_neg (by decide), if_neg (by decide)] at hknown ⊢
    exact if_pos (by_contra fun h20 => hknown (if_neg h20))

/-- The vehicle learns which protocol the station has selected: the SchemaID of a selection names
its offer, and that of a negotiation that failed is not given. -/
theorem namedProtocol_eq (build : Build) (registered : Bool) (h : Offered protocolOf offers) :
    let selection := selectAppProtocol build registered (some offers)
    namedProtocol protocolOf offers (if selection.responseCode = .failedNoNegotiation then none
      else some ((selection.offer.map (·.schemaId)).getD 0)) = selection.protocol := by
  intro selection
  have hselects : Selects build registered (appProtocolOffers (some offers)) selection :=
    selectAppProtocol_selects build registered (some offers)
  generalize selection = selection at hselects ⊢
  cases hselects with
  | failed => rfl
  | @selected before after best hsplit hsupported =>
    have hmem : best ∈ offers := by
      refine List.mem_of_mem_take (i := 20) ?_
      show best ∈ appProtocolOffers (some offers)
      simp [hsplit]
    have hknown : classifyOffer build registered best ≠ .unknown := by
      rw [offerSupported] at hsupported
      simp_all
    -- no other offer has the SchemaID
    obtain ⟨ap, hfind⟩ : ∃ ap, offers.find? (·.schemaId == best.schemaId) = some ap :=
      Option.isSome_iff_exists.mp (List.find?_isSome.mpr ⟨best, hmem, by simp⟩)
    have hsame : ap = best :=
      List.inj_on_of_nodup_map h.distinct (List.mem_of_find?_eq_some hfind) hmem
        (by simpa using List.find?_some hfind)
    have hcode : successCode best ≠ .failedNoNegotiation := by
      unfold successCode
      split_ifs <;> simp
    rw [if_neg hcode, namedProtocol, Option.map_some, Option.getD_some, hfind, hsame,
      Option.map_some, Option.getD_some]
    exact (classifyOffer_of_offered h hmem hknown).symm

end Negotiation

/-! ## What the vehicle sends is accepted -/

section Sends

variable {v : Vehicle} {view : VehicleView} {msg : VehicleMsg} {stage : Stage}
  {s : Sequence}

/-- The sequencer has got as far as the vehicle, in its protocol. -/
structure VehicleView.Tracks (v : Vehicle) (view : VehicleView) (s : Sequence) : Prop where
  stage : view.stage.Tracks v.dc s
  protocol : s.protocol = view.protocol
  /-- No protocol is in use before the first message. -/
  fresh : view.stage = .connected → view.protocol = .unknown

/-- A step of the flow is a message in some protocol. -/
theorem Flow.protocol_ne_unknown {dc : Bool} {stage' : Stage} (h : Flow dc msg stage stage') :
    msg.protocol ≠ .unknown := by
  cases msg with
  | app offers => cases h <;> simp_all [VehicleMsg.type, VehicleMsg.progress]
  | iso2 | din => simp [VehicleMsg.protocol]

/-- The sequencer accepts what the vehicle sends, and follows: it reaches the stage of the vehicle,
in the protocol of the request. -/
theorem VehicleView.Sends.accepts (h : view.Sends v msg stage)
    (selected : List AppProtocol → Protocol) (htracks : view.Tracks v s) :
    ∃ s', Accepts (msg.request selected view.protocol) s s' ∧ stage.Tracks v.dc s' ∧
      s'.protocol = (msg.request selected view.protocol).protocol := by
  obtain ⟨⟨hphase, hmode⟩, hprotocol, hfresh⟩ := htracks
  cases h with
  | @negotiate offers hstage =>
    rw [hstage] at hphase hmode
    refine ⟨_, .negotiate hphase rfl, ⟨rfl, hmode⟩, ?_⟩
    dsimp only
    split_ifs with hunknown
    -- a failed negotiation leaves the protocol, which is free on a new connection
    · rw [hprotocol, hunknown, hfresh hstage]
    · rfl
  | @setUpDirectly doc hstage hdc hbody =>
    rw [hstage] at hphase hmode
    have htype : ((VehicleMsg.din doc).request selected view.protocol).type = .sessionSetupReq := by
      simp [VehicleMsg.type, hbody, DinBody.messageType]
    exact ⟨_, .directSetup hphase htype rfl, ⟨rfl, hmode⟩, rfl⟩
  | go hflow hspoken =>
    have hknown := hflow.protocol_ne_unknown
    have hrequest : (msg.request selected view.protocol).protocol = msg.protocol :=
      VehicleMsg.request_protocol selected view.protocol hknown
    -- the gate commits the protocol the vehicle speaks, which is the one negotiated
    have hcommitted : view.stage.Tracks v.dc
        { s with protocol := (msg.request selected view.protocol).protocol } := ⟨hphase, hmode⟩
    obtain ⟨s', hmoves, hfollows⟩ := hflow.moves hcommitted VehicleMsg.request_type hrequest
      fun _ hprogress => VehicleMsg.request_powerDelivery hprogress
    refine ⟨s', .move (hrequest ▸ hknown) (.inr ?_) hmoves, hfollows, hmoves.protocol_eq⟩
    rw [hprotocol, hrequest, hspoken]

end Sends

end Jpv2g
