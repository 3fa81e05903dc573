import Jpv2g.Secc.Stream.Serving
import Jpv2g.Session.Fresh
import Jpv2g.Vehicle

/-!
# A Session Served to Its End

The station against a vehicle that keeps to the protocol. The vehicle goes by the message flow and
by what it has read in the answers: the protocol that was selected and the SessionID it was given.
The station goes by its sequencer and by its record. The two never part, so that every request is
served, whatever the vehicle chooses to send next.

## Main definitions

* `AnswerReader`: how the vehicle reads the answers it learns from.
* `Converses`: a conversation of the vehicle with the station.
* `Undisturbed`: the responses of the station are encoded and sent.
* `Agrees`: the view of the vehicle is the state of the station.

## Main results

* `Agrees.served`: a request that the vehicle sends is served, and the views still agree.
* `conversation_served`: every request of a conversation is served.
-/

namespace Jpv2g

/-! ## The answers -/

/-- A SessionSetupRes of the protocol. -/
def Res.SetsUp : Protocol → Res → Prop
  | .iso15118_2, .iso2 _ (.sessionSetup _ _) => True
  | .din70121, .din _ (.sessionSetup _ _ _) => True
  | _, _ => False

/-- How a vehicle reads the two kinds of answer it learns from. -/
structure AnswerReader (codec : Codec) where
  /-- The SchemaID of a SupportedAppProtocolRes. -/
  schemaId : List UInt8 → Option UInt8
  /-- The SessionID of a SessionSetupRes of the protocol. -/
  sid : Protocol → List UInt8 → Option Sid
  /-- A negotiation that failed names no SchemaID. -/
  schemaId_eq : ∀ {id code bytes}, codec.encode (.sapp id code) = .ok bytes →
    schemaId bytes = if code = .failedNoNegotiation then none else some id
  sid_eq : ∀ {protocol res bytes}, res.SetsUp protocol → codec.encode res = .ok bytes →
    sid protocol bytes = res.sid

/-- The view after a message has been answered. -/
def VehicleView.learn {codec : Codec} (reader : AnswerReader codec) (v : Vehicle)
    (view : VehicleView) (msg : VehicleMsg) (stage : Stage) (answer : List UInt8) : VehicleView :=
  { stage
    protocol :=
      match msg with
      | .app offers => namedProtocol v.protocolOf offers (reader.schemaId answer)
      | .iso2 _ | .din _ => msg.protocol
    sid :=
      if msg.type = .sessionSetupReq then (reader.sid msg.protocol answer).getD view.sid
      else view.sid }

/-! ## Conversations -/

section Conversation

variable (build : Build) (codec : Codec) (codec20 : Codec20)

/-- The payload decodes to the message, and under no grammar that is tried before. -/
def VehicleMsg.CarriedBy (protocol : Protocol) (payload : List UInt8) : VehicleMsg → Prop
  | .app offers => codec.decodeAppHand payload = some offers
  | .iso2 doc => codec.decodeAppHand payload = none ∧ codec.decodeIso2 payload = some doc
  | .din doc =>
    codec.decodeAppHand payload = none ∧
      (protocol = .din70121 ∨ codec.decodeIso2 payload = none) ∧
      codec.decodeDin payload = some doc

/-- The vehicle converses with the station: it sends what its view lets it send, and goes on with
what it has learnt from the answer. -/
def Converses (reader : AnswerReader codec) (v : Vehicle) (view : VehicleView) (station : Station)
    (stream : Stream) : List (FrameInput × VehicleMsg) → Prop
  | [] => True
  | (input, msg) :: rest =>
    let turn := streamTurn build codec codec20 input station stream
    ∃ payload stage, payload ≠ [] ∧ input.recv = .ok { payloadType := .exi, payload } ∧
      msg.CarriedBy codec view.protocol payload ∧ view.Sends v msg stage ∧
      ∀ answer, turn.answer = some answer →
        Converses reader v (view.learn reader v msg stage answer) turn.station turn.stream rest

/-- Nothing fails on the way of the frames: the response to each request that is dispatched is
encoded and sent, and the random provider yields an identifier for each session that is set up. -/
def Undisturbed (station : Station) (stream : Stream) : List FrameInput → Prop
  | [] => True
  | input :: inputs =>
    (∀ r sequence, dispatchedRequest build codec input station stream = some (r, sequence) →
      (∀ res, (defaultHandle codec input.env station.secc station.statics r build
          station.s20.isSome).res = some res → Delivered codec (.frame input) res) ∧
        (r.type = .sessionSetupReq → ∃ sid, input.env.rng.result = .ok sid)) ∧
    let turn := streamTurn build codec codec20 input station stream
    Undisturbed turn.station turn.stream inputs

/-- The view of the vehicle is the state of the station. -/
structure Agrees (v : Vehicle) (view : VehicleView) (station : Station) (stream : Stream) :
    Prop where
  tracks : view.Tracks v stream.sequence
  protocol : stream.protocol = view.protocol
  goesOn : station.secc.terminateAfterResponse = false
  running : stream.sawSessionStop = false
  session : view.stage.established = true →
    station.secc.sessionId = view.sid ∧ view.sid ≠ .zero

/-- What the station selects among offers. -/
def Station.selects (station : Station) (offers : List AppProtocol) : Protocol :=
  (selectAppProtocol build station.s20.isSome (some offers)).protocol

end Conversation

/-! ## What is sent has an answer -/

section Next

variable {dc : Bool} {v : Vehicle} {view : VehicleView} {msg : VehicleMsg} {stage stage' : Stage}
  {selected : List AppProtocol → Protocol} {inUse : Protocol}

/-- The type of a PowerDeliveryReq. -/
theorem VehicleMsg.type_of_progress {progress : ChargeProgress} (h : msg.progress = some progress) :
    msg.type = .powerDeliveryReq := by
  rcases msg with offers | ⟨sid, body⟩ | ⟨sid, body⟩
  · cases h
  · cases body <;> first | rfl | cases h
  · cases body <;> first | rfl | cases h

/-- The station has a response to every message of the flow. -/
theorem Flow.hasResponse (h : Flow dc msg stage stage') :
    (msg.request selected inUse).hasResponse = true := by
  cases h with
  | status _ _ hiso htype =>
    -- charging is reported under ISO 15118-2 alone
    have hprotocol : (msg.request selected inUse).protocol = .iso15118_2 :=
      (VehicleMsg.request_protocol selected inUse (by simp [hiso])).trans hiso
    simp [Request.hasResponse, htype, Request.isDin, hprotocol]
  | start hprogress | startAc _ _ hprogress | renegotiate _ _ hprogress | restart _ hprogress
    | stop _ hprogress =>
    simp [Request.hasResponse, VehicleMsg.type_of_progress hprogress]
  | _ => simp_all [Request.hasResponse]

/-- The flow leads to the setup of a session by a SessionSetupReq alone. -/
theorem Flow.established_of_ne (h : Flow dc msg stage stage')
    (htype : msg.type ≠ .sessionSetupReq) : stage.established = true := by
  cases h with
  | setUp h => exact absurd h htype
  | check h | preCharge h | demand h | status h | renegotiate h | reparametrize h | stop h
    | weld h => rcases h with rfl | rfl | rfl <;> rfl
  | sessionStop h => exact h
  | _ => rfl

/-- The vehicle stops the session exactly with the last of its messages. -/
theorem Flow.over_iff (h : Flow dc msg stage stage') :
    stage' = .over ↔ msg.type = .sessionStopReq := by
  cases h with
  | sessionStop _ htype => exact iff_of_true rfl htype
  | start hprogress | startAc _ _ hprogress | renegotiate _ _ hprogress | restart _ hprogress
    | stop _ hprogress =>
    simp [VehicleMsg.type_of_progress hprogress]
  | _ => simp_all

/-- The station has a response to everything the vehicle sends. -/
theorem VehicleView.Sends.hasResponse (h : view.Sends v msg stage) :
    (msg.request selected inUse).hasResponse = true := by
  cases h with
  | negotiate => rfl
  | setUpDirectly _ _ hbody =>
    simp [Request.hasResponse, VehicleMsg.type, hbody, DinBody.messageType]
  | go hflow => exact hflow.hasResponse

/-- The vehicle does not select payment by contract. -/
theorem VehicleView.Sends.payment (h : view.Sends v msg stage) :
    (msg.request selected inUse).selectsContract = false := by
  cases h with
  | negotiate => rfl
  | setUpDirectly _ _ hbody => simp [VehicleMsg.request, Request.selectsContract, hbody]
  | go _ _ _ hpayment =>
    rcases msg with offers | doc | doc
    · rfl
    · simpa [VehicleMsg.request, Request.selectsContract, VehicleMsg.selectsContract] using hpayment
    · simpa [VehicleMsg.request, Request.selectsContract, VehicleMsg.selectsContract] using hpayment

/-- The messages of a session are written in its protocol. -/
theorem VehicleView.Sends.protocol_of_ne (h : view.Sends v msg stage)
    (happ : msg.type ≠ .suppAppProtocolReq) :
    msg.protocol ≠ .unknown ∧ (msg.protocol = .iso15118_2 → view.protocol = .iso15118_2) := by
  cases h with
  | negotiate => exact absurd rfl happ
  | setUpDirectly => exact ⟨by simp [VehicleMsg.protocol], nofun⟩
  | go hflow hspoken => exact ⟨hflow.protocol_ne_unknown, fun h => hspoken ▸ h⟩

/-- Every message but the offers and the setup is sent in an established session. -/
theorem VehicleView.Sends.established_of_ne (h : view.Sends v msg stage)
    (happ : msg.type ≠ .suppAppProtocolReq) (hsetup : msg.type ≠ .sessionSetupReq) :
    view.stage.established = true ∧ msg.sessionId = view.sid.1 := by
  cases h with
  | negotiate => exact absurd rfl happ
  | setUpDirectly _ _ hbody =>
    exact absurd (by simp [VehicleMsg.type, hbody, DinBody.messageType]) hsetup
  | go hflow _ hnames =>
    rw [VehicleView.Names, if_neg hsetup] at hnames
    exact ⟨hflow.established_of_ne hsetup, hnames⟩

/-- A setup asks for a new session. -/
theorem VehicleView.Sends.fresh (h : view.Sends v msg stage)
    (hsetup : msg.type = .sessionSetupReq) :
    msg.sessionId.length ≤ 8 ∧ ∀ b ∈ msg.sessionId, b = 0 := by
  cases h with
  | negotiate => cases hsetup
  | setUpDirectly _ _ _ hnames | go _ _ hnames => rwa [VehicleView.Names, if_pos hsetup] at hnames

/-- The vehicle stops the session exactly with the last of its messages. -/
theorem VehicleView.Sends.over_iff (h : view.Sends v msg stage) :
    stage = .over ↔ msg.type = .sessionStopReq := by
  cases h with
  | negotiate => simp [VehicleMsg.type]
  | setUpDirectly _ _ hbody => simp [VehicleMsg.type, hbody, DinBody.messageType]
  | go hflow => exact hflow.over_iff

/-- A vehicle that has stopped the session sends nothing more. -/
theorem VehicleView.Sends.stage_ne_over (h : view.Sends v msg stage) : view.stage ≠ .over := by
  cases h with
  | negotiate hstage | setUpDirectly hstage => simp [hstage]
  | go hflow =>
    intro hover
    by_cases hsetup : msg.type = .sessionSetupReq
    · rw [hover] at hflow
      cases hflow <;> simp_all
    · have hestablished := hflow.established_of_ne hsetup
      rw [hover] at hestablished
      cases hestablished

/-- A message of the vehicle is of a known type. -/
theorem VehicleView.Sends.type_ne_unknown (h : view.Sends v msg stage) :
    msg.type ≠ .unknownMessage := by
  intro htype
  have hresponse : (msg.request (fun _ => .unknown) .unknown).hasResponse = true := h.hasResponse
  rw [Request.hasResponse, VehicleMsg.request_type, htype] at hresponse
  cases hresponse

/-- With its offers the vehicle has no session yet. -/
theorem VehicleView.Sends.stage_of_app (h : view.Sends v msg stage)
    (happ : msg.type = .suppAppProtocolReq) : stage = .negotiated := by
  cases h with
  | negotiate => rfl
  | setUpDirectly _ _ hbody => simp [VehicleMsg.type, hbody, DinBody.messageType] at happ
  | go hflow =>
    refine absurd ?_ hflow.protocol_ne_unknown
    rcases msg with offers | ⟨sid, body⟩ | ⟨sid, body⟩
    · rfl
    · cases body <;> simp [VehicleMsg.type, Iso2Body.messageType] at happ
    · cases body <;> simp [VehicleMsg.type, DinBody.messageType] at happ

/-- With its first message the vehicle is connected no longer. -/
theorem VehicleView.Sends.stage_ne_connected (h : view.Sends v msg stage) :
    stage ≠ .connected := by
  cases h with
  | negotiate | setUpDirectly => simp
  | go hflow =>
    generalize view.stage = before at hflow
    cases hflow <;> simp

end Next

/-! ## One exchange -/

section Exchanges

variable {build : Build} {codec : Codec} {codec20 : Codec20} {reader : AnswerReader codec}
  {v : Vehicle} {view : VehicleView} {station : Station} {stream : Stream} {input : FrameInput}
  {msg : VehicleMsg} {stage : Stage} {payload : List UInt8} {next : Sequence} {x : Exchange}

/-- The request a message stands for at the station. -/
abbrev requestOf (station : Station) (view : VehicleView) (msg : VehicleMsg) (build : Build) :
    Request :=
  msg.request (station.selects build) view.protocol

/-- The station decodes what the vehicle has sent. -/
theorem Agrees.presented (h : Agrees v view station stream)
    (hrecv : input.recv = .ok { payloadType := .exi, payload }) (hpayload : payload ≠ [])
    (hcarried : msg.CarriedBy codec view.protocol payload) (hsends : view.Sends v msg stage) :
    presentedRequest build codec station stream input =
      some (requestOf station view msg build) := by
  rw [presentedRequest, hrecv]
  dsimp only
  rw [if_pos ⟨rfl, hpayload⟩]
  have hknown : msg.type ≠ .unknownMessage := hsends.type_ne_unknown
  cases msg with
  | app offers =>
    have hread : codec.decodeAppHand payload = some offers := hcarried
    simp only [decodeRequest, decodeAppHand, hread, Option.map_some, Option.some_or, h.protocol]
    rfl
  | iso2 doc =>
    obtain ⟨happ, hread⟩ := hcarried
    have hbody : doc.body.messageType ≠ .suppAppProtocolReq := by
      cases doc.body <;> simp [Iso2Body.messageType]
    -- the stream does not speak DIN 70121, where the grammar is not tried
    have hdin : stream.protocol ≠ .din70121 := by
      rw [h.protocol, (hsends.protocol_of_ne hbody).2 rfl]
      simp
    have hknown : doc.body.messageType ≠ .unknownMessage := hknown
    simp only [decodeRequest, decodeAppHand, happ, Option.map_none, Option.none_or, decodeIso2,
      if_neg hdin, hread, Option.bind_some, if_neg hknown, Option.some_or, VehicleMsg.request]
  | din doc =>
    obtain ⟨happ, hiso, hread⟩ := hcarried
    have hknown : doc.body.messageType ≠ .unknownMessage := hknown
    have hother : decodeIso2 codec stream payload = none := by
      rw [decodeIso2, h.protocol]
      split_ifs with hdin
      · rfl
      · rw [hiso.resolve_left hdin]
        rfl
    simp only [decodeRequest, decodeAppHand, happ, Option.map_none, Option.none_or, hother,
      decodeDin, hread, Option.bind_some, if_neg hknown, VehicleMsg.request]

/-- The session gate lets through what the vehicle sends. -/
theorem Agrees.session_ok (h : Agrees v view station stream) (hsends : view.Sends v msg stage) :
    validateRequestSession station.secc (requestOf station view msg build) = .ok () := by
  by_cases happ : msg.type = .suppAppProtocolReq
  · exact if_pos (VehicleMsg.request_type.trans happ)
  have hbytes := VehicleMsg.request_sessionBytes (station.selects build) view.protocol
    (hsends.protocol_of_ne happ).1
  by_cases hsetup : msg.type = .sessionSetupReq
  · rw [validateRequestSession, if_neg (by rwa [VehicleMsg.request_type]), hbytes]
    dsimp only
    rw [VehicleMsg.request_type, if_pos hsetup, if_pos (hsends.fresh hsetup).1]
  · obtain ⟨hestablished, hnames⟩ := hsends.established_of_ne happ hsetup
    obtain ⟨hsid, hlive⟩ := h.session hestablished
    refine validateRequestSession_of_names (hsid ▸ hlive) ?_
    rw [hbytes, hnames, hsid]

/-- A SessionSetupReq of the vehicle resumes nothing. -/
theorem VehicleView.Sends.not_resumes (hsends : view.Sends v msg stage)
    (hsetup : msg.type = .sessionSetupReq) (nowMs : ℕ) (sid : Sid) :
    ¬station.secc.Resumes nowMs (requestOf station view msg build) sid := by
  intro hresumes
  obtain ⟨-, hzeros⟩ := hsends.fresh hsetup
  refine hresumes.ne_zero ?_
  -- the SessionID that is presented is the one of the message
  have hbytes : sid.1 = msg.sessionId := by
    have hpresented := hresumes.presented
    cases msg with
    | app => cases hsetup
    | iso2 doc =>
      simp only [Request.incomingSid, VehicleMsg.request, Option.bind_some, Option.bind_none,
        Option.or_none] at hpresented
      exact (Sid.ofBytes?_eq_some.mp hpresented).symm
    | din doc =>
      simp only [Request.incomingSid, VehicleMsg.request, Option.bind_some, Option.bind_none,
        Option.none_or] at hpresented
      exact (Sid.ofBytes?_eq_some.mp hpresented).symm
  refine Subtype.ext (List.eq_replicate_iff.mpr ⟨sid.2, ?_⟩)
  rw [hbytes]
  exact hzeros

/-- A SessionSetupReq is answered with a SessionSetupRes of its protocol. -/
theorem Exchange.Runs.setsUp (hruns : x.Runs build codec station)
    (htype : x.request.type = .sessionSetupReq)
    (hprotocol : x.request.protocol = .iso15118_2 ∨ x.request.protocol = .din70121) {res : Res}
    (hres : x.result.res = some res) : res.SetsUp x.request.protocol := by
  rw [hruns.result_eq, defaultHandle_sessionSetup htype, handleSessionSetup] at hres
  rcases hprotocol with h | h
  · rw [if_neg (by simp [Request.isDin, h])] at hres
    cases hres
    rw [h]
    trivial
  · rw [if_pos (by simp [Request.isDin, h])] at hres
    cases hres
    rw [h]
    trivial

/-- After a message that is not a stop, the station has the session that the vehicle knows, and goes
on in the sequence that has accepted the message. -/
theorem Agrees.learn (h : Agrees v view station stream) (reader : AnswerReader codec)
    (next : Sequence) (hsends : view.Sends v msg stage) (hstop : msg.type ≠ .sessionStopReq)
    (hruns : x.Runs build codec station)
    (hrequest : x.request = requestOf station view msg build)
    (hrng : msg.type = .sessionSetupReq → ∃ sid, x.env.rng.result = .ok sid) {bytes : List UInt8}
    (hbytes : x.result.rc = .ok bytes) :
    applyResume x.result.secc (requestOf station view msg build) next = (x.result.secc, next) ∧
      (stage.established = true →
        x.result.secc.sessionId = (view.learn reader v msg stage bytes).sid ∧
          (view.learn reader v msg stage bytes).sid ≠ .zero) := by
  have htype : x.request.type = msg.type := by rw [hrequest, VehicleMsg.request_type]
  by_cases hsetup : msg.type = .sessionSetupReq
  · have hxsetup : x.request.type = .sessionSetupReq := htype.trans hsetup
    have hfresh : ∀ sid', ¬station.secc.Resumes x.env.nowMs x.request sid' := by
      intro sid'
      rw [hrequest]
      exact hsends.not_resumes hsetup _ sid'
    have hpending : x.result.secc.resumeDcPending = false := by
      by_contra hpending
      obtain ⟨sid', hresumes⟩ := hruns.resumes_of_pending hxsetup (by simpa using hpending)
      exact hfresh sid' hresumes
    refine ⟨if_neg fun hgrant => by simp [hpending] at hgrant, fun _ => ?_⟩
    -- the session is a new one, and the response names it
    obtain ⟨sid, hsid⟩ := hrng hsetup
    obtain ⟨-, hsame, hanswers⟩ := hruns.established hxsetup hfresh
    have hlive : (station.secc.newSession x.env.rng).sessionId = sid := by
      rw [newSession_sessionId, RngCall.live, hsid]
    obtain ⟨res, hres, hencode, hressid⟩ := hanswers bytes hbytes
    have happ : msg.type ≠ .suppAppProtocolReq := by simp [hsetup]
    have hspoken : x.request.protocol = msg.protocol := by
      rw [hrequest]
      exact VehicleMsg.request_protocol _ _ (hsends.protocol_of_ne happ).1
    have hsetsUp : res.SetsUp msg.protocol := by
      rw [← hspoken]
      refine hruns.setsUp hxsetup ?_ hres
      rw [hspoken]
      cases msg with
      | app => exact absurd rfl happ
      | iso2 => exact .inl rfl
      | din => exact .inr rfl
    have hlearnt : (view.learn reader v msg stage bytes).sid = sid := by
      refine (if_pos hsetup).trans ?_
      rw [reader.sid_eq hsetsUp hencode, hressid, hlive]
      rfl
    rw [hlearnt, hsame.sessionId, hlive]
    exact ⟨rfl, RngCall.result_ne_zero hsid⟩
  · have hlearnt : (view.learn reader v msg stage bytes).sid = view.sid := if_neg hsetup
    have hnot : (requestOf station view msg build).type ≠ .sessionSetupReq := by
      rwa [VehicleMsg.request_type]
    refine ⟨applyResume_of_ne_sessionSetup hnot, fun hestablished => ?_⟩
    rw [hlearnt]
    by_cases happ : msg.type = .suppAppProtocolReq
    · rw [hsends.stage_of_app happ] at hestablished
      cases hestablished
    · obtain ⟨hsid, hlive⟩ := h.session (hsends.established_of_ne happ hsetup).1
      have hordinary : Ordinary codec station.secc x.result :=
        hruns.ordinary (hrequest ▸ h.session_ok hsends) (htype ▸ happ) (htype ▸ hsetup)
          (htype ▸ hstop)
      exact ⟨hordinary.same.sessionId.trans hsid, hlive⟩

/-- After a message is answered, the vehicle uses the protocol of the request. -/
theorem VehicleView.learn_protocol (reader : AnswerReader codec) (hsends : view.Sends v msg stage)
    (hfresh : view.stage = .connected → view.protocol = .unknown)
    (hruns : x.Runs build codec station)
    (hrequest : x.request = requestOf station view msg build) {bytes : List UInt8}
    (hbytes : x.result.rc = .ok bytes) :
    (view.learn reader v msg stage bytes).protocol =
      (requestOf station view msg build).protocol := by
  cases hsends with
  | @negotiate offers hstage hoffered =>
    -- the answer names the protocol that was selected
    have htype : x.request.type = .suppAppProtocolReq := by rw [hrequest]; rfl
    have hoffers : x.request.appOffers = some offers := by rw [hrequest]; rfl
    obtain ⟨sid, -, hresult⟩ := hruns.negotiates htype
    rw [hresult, hruns.registered_eq, handleSuppAppProtocol, hoffers] at hbytes
    have hencode : codec.encode _ = .ok bytes := hbytes
    have hnamed := namedProtocol_eq build station.s20.isSome hoffered
    dsimp only at hnamed
    show namedProtocol v.protocolOf offers (reader.schemaId bytes) = _
    rw [reader.schemaId_eq hencode, hnamed]
    simp only [VehicleMsg.request, Station.selects, hfresh hstage, ite_not]
    split_ifs with hunknown
    · exact hunknown
    · rfl
  | setUpDirectly => rfl
  | go hflow =>
    have hspoken := VehicleMsg.request_protocol (station.selects build) view.protocol
      hflow.protocol_ne_unknown
    rw [hspoken]
    cases msg with
    | app => exact absurd rfl hflow.protocol_ne_unknown
    | iso2 | din => rfl

/-- **A message that the vehicle sends is served.** Its response is sent; a stop ends the connection
in good order; and after any other message the view of the vehicle is again the state of the
station. -/
theorem Agrees.served (h : Agrees v view station stream)
    (hrecv : input.recv = .ok { payloadType := .exi, payload }) (hpayload : payload ≠ [])
    (hcarried : msg.CarriedBy codec view.protocol payload) (hsends : view.Sends v msg stage)
    (hundisturbed : ∀ r sequence,
      dispatchedRequest build codec input station stream = some (r, sequence) →
      (∀ res, (defaultHandle codec input.env station.secc station.statics r build
          station.s20.isSome).res = some res → Delivered codec (.frame input) res) ∧
        (r.type = .sessionSetupReq → ∃ sid, input.env.rng.result = .ok sid)) :
    let turn := streamTurn build codec codec20 input station stream
    ∃ x bytes events, x.request.type = msg.type ∧ x.rc = .ok () ∧ turn.answer = some bytes ∧
      turn.events = .dispatched x :: events ∧ (∀ e ∈ events, e.quiet) ∧
      if msg.type = .sessionStopReq then turn.exit = some (.ok ())
      else turn.exit = none ∧
        Agrees v (view.learn reader v msg stage bytes) turn.station turn.stream := by
  intro turn
  obtain ⟨r, hr⟩ : ∃ r, r = requestOf station view msg build := ⟨_, rfl⟩
  have htype : r.type = msg.type := by rw [hr, VehicleMsg.request_type]
  -- the request passes the gate, since the sequencer follows the flow of the vehicle
  obtain ⟨next, haccepts, hfollows, hnext⟩ :=
    hsends.accepts (station.selects build) h.tracks
  have hgate : seccAcceptRequestSequence stream.sequence r = (next, .ok ()) :=
    hr ▸ accepts_iff.mpr haccepts
  -- it passes the session gate as well, and is handed to the handler
  have hdispatched := dispatchedRequest_of_accepted
    (hr ▸ h.presented hrecv hpayload hcarried hsends) hgate (hr ▸ h.session_ok hsends)
  obtain ⟨hdeliver, hrng⟩ := hundisturbed r next hdispatched
  -- the exchange: its response is encoded and sent, and the stream is not to end
  obtain ⟨x, hx⟩ : ∃ x, x = exchangeOf build codec input station next r := ⟨_, rfl⟩
  have hruns : x.Runs build codec station := hx ▸ exchangeOf_runs
  have hrequest : x.request = r := by rw [hx]; rfl
  have henv : x.env = input.env := by rw [hx]; rfl
  obtain ⟨hsent, hterminate, res, bytes, hres, hbytes, -⟩ : x.rc = .ok () ∧
      x.result.secc.terminateAfterResponse = station.secc.terminateAfterResponse ∧
      ∃ res bytes, x.result.res = some res ∧ x.result.rc = .ok bytes ∧
        codec.encode res = .ok bytes :=
    hx ▸ exchangeOf_serves (hr ▸ hsends.hasResponse) (hr ▸ hsends.payment) hdeliver
  have hopen : x.result.secc.terminateAfterResponse = false := hterminate.trans h.goesOn
  -- a stop ends the connection, any other response leaves both parties in agreement
  by_cases hstop : msg.type = .sessionStopReq
  · obtain ⟨hexit, hevents⟩ := @streamTurn_of_sessionStop build codec codec20 input station stream
      r next hdispatched (hx ▸ hsent) (hx ▸ hopen) (htype.trans hstop)
    rw [← hx] at hevents
    refine ⟨x, bytes, [], hrequest ▸ htype, hsent, Turn.answer_of_dispatched hevents hsent hbytes,
      hevents, by simp, ?_⟩
    rw [if_pos hstop]
    exact hexit
  · obtain ⟨s20, events, hquiet, hturn⟩ := @streamTurn_of_open build codec codec20 input station
      stream r next hdispatched (hx ▸ hsent) (hx ▸ hopen) h.running (by rwa [htype])
    -- what the vehicle learns from the response is what the station has become
    obtain ⟨hkeeps, hsession⟩ := h.learn reader next hsends hstop hruns (hrequest.trans hr)
      (fun hsetup => henv ▸ hrng (htype.trans hsetup)) hbytes
    have hprotocol := VehicleView.learn_protocol reader hsends h.tracks.fresh hruns
      (hrequest.trans hr) hbytes
    rw [← hx] at hturn
    dsimp only at hturn
    rw [← hr] at hkeeps hprotocol
    rw [hkeeps] at hturn
    have hshown : turn = _ := hturn
    rw [hshown]
    refine ⟨x, bytes, events, hrequest ▸ htype, hsent, Turn.answer_of_dispatched rfl hsent hbytes,
      rfl, hquiet, ?_⟩
    rw [if_neg hstop]
    refine ⟨rfl, ⟨hfollows, ?_, ?_⟩, hprotocol.symm, hopen, h.running, hsession⟩
    · rw [hprotocol, hr]
      exact hnext
    · intro hstage
      exact absurd hstage hsends.stage_ne_connected

end Exchanges

/-! ## The conversation -/

/-- The type of a request whose response has been sent. -/
def StreamEvent.servedType : StreamEvent → Option MessageType
  | .dispatched x => if x.rc = .ok () then some x.request.type else none
  | .connected | .rejected _ _ | .refused _ _ | .frame20 _ | .reset20 | .closed _ | .retired =>
    none

theorem StreamEvent.quiet.servedType_eq {e : StreamEvent} (h : e.quiet) : e.servedType = none := by
  cases e <;> first | rfl | cases h

section Conversations

variable {build : Build} {codec : Codec} {codec20 : Codec20} {reader : AnswerReader codec}
  {v : Vehicle} {view : VehicleView} {station : Station} {stream : Stream}
  {frames : List (FrameInput × VehicleMsg)}

/-- The vehicle and the station agree when a connection starts. -/
theorem agrees_init (v : Vehicle) (station : Station) : Agrees v .init station.connected .init :=
  ⟨⟨⟨rfl, rfl⟩, rfl, fun _ => rfl⟩, rfl, rfl, rfl, nofun⟩

/-- Nothing follows a stop. -/
theorem Converses.eq_nil_of_over
    (h : Converses build codec codec20 reader v view station stream frames)
    (hover : view.stage = .over) : frames = [] := by
  cases frames with
  | nil => rfl
  | cons f frames =>
    obtain ⟨_, _, -, -, -, hsends, -⟩ := h
    exact absurd hover hsends.stage_ne_over

/-- From agreement on, every request of a conversation is served. -/
theorem Agrees.serves (h : Agrees v view station stream)
    (hundisturbed : Undisturbed build codec codec20 station stream (frames.map Prod.fst))
    (hconverses : Converses build codec codec20 reader v view station stream frames) :
    let turn := streamLoop build codec codec20 station stream (frames.map Prod.fst)
    let types := frames.map fun f => f.2.type
    turn.events.filterMap StreamEvent.servedType = types ∧
      (∀ e ∈ turn.events, e.judges → e.servedType ≠ none) ∧
      turn.exit = if .sessionStopReq ∈ types then some (.ok ()) else none := by
  -- along the frames, from wherever vehicle and station have got to
  induction frames generalizing view station stream with
  | nil => exact ⟨rfl, fun e he => absurd he List.not_mem_nil, rfl⟩
  | cons f frames ih =>
    obtain ⟨input, msg⟩ := f
    obtain ⟨payload, stage, hpayload, hrecv, hcarried, hsends, hrest⟩ := hconverses
    obtain ⟨hserves, hundisturbed⟩ := hundisturbed
    obtain ⟨x, bytes, events, htype, hsent, hanswer, hevents, hquiet, hafter⟩ :=
      @Agrees.served build codec codec20 reader v view station stream input msg stage payload h
        hrecv hpayload hcarried hsends hserves
    have hgoes := hrest bytes hanswer
    have hserved : StreamEvent.servedType (.dispatched x) = some msg.type := by
      rw [StreamEvent.servedType, if_pos hsent, htype]
    have hsilent : events.filterMap StreamEvent.servedType = [] :=
      List.filterMap_eq_nil_iff.mpr fun e he => (hquiet e he).servedType_eq
    have hjudged : ∀ e ∈ StreamEvent.dispatched x :: events, e.judges → e.servedType ≠ none := by
      intro e he hjudges
      rcases List.mem_cons.mp he with rfl | he
      · rw [hserved]
        exact Option.some_ne_none _
      · exact absurd hjudges (hquiet e he).not_judges
    rw [List.map_cons]
    by_cases hstop : msg.type = .sessionStopReq
    -- a stop is the last message
    · rw [if_pos hstop] at hafter
      obtain rfl := hgoes.eq_nil_of_over (hsends.over_iff.mpr hstop)
      rw [streamLoop_of_exit hafter]
      dsimp only
      rw [hevents]
      refine ⟨?_, hjudged, ?_⟩
      · rw [List.filterMap_cons_some hserved, hsilent]
        rfl
      · simp [hafter, hstop]
    · rw [if_neg hstop] at hafter
      obtain ⟨hopen, hagrees⟩ := hafter
      obtain ⟨htypes, hjudges, hexit⟩ := ih hagrees hundisturbed hgoes
      rw [streamLoop_of_open hopen]
      dsimp only
      rw [hevents]
      refine ⟨?_, fun e he => ?_, ?_⟩
      · rw [List.filterMap_append, List.filterMap_cons_some hserved, hsilent, htypes]
        rfl
      · rcases List.mem_append.mp he with he | he
        · exact hjudged e he
        · exact hjudges e he
      · have hmem : .sessionStopReq ∈ msg.type :: frames.map (fun f => f.2.type) ↔
            .sessionStopReq ∈ frames.map fun f => f.2.type := by
          rw [List.mem_cons]
          exact or_iff_right (Ne.symm hstop)
        exact hexit.trans (if_congr hmem rfl rfl).symm

/-- **A vehicle that keeps to the protocol is served to the end.** On a new connection, whatever
the station has been through before, whatever a vehicle that charges DC or AC chooses to send of
what the message flow has next, and whatever the station answers, as long as its responses are
encoded and sent: every message is dispatched and its response is sent, in order; no request is
rejected by the sequencer or refused for its SessionID; and the connection stays open until the
SessionStopRes has been sent, with which it ends in good order. -/
theorem conversation_served (station : Station)
    (hundisturbed : Undisturbed build codec codec20 station.connected .init
      (frames.map Prod.fst))
    (hconverses : Converses build codec codec20 reader v .init station.connected .init frames) :
    let turn := handleStreamObs build codec codec20 station (frames.map Prod.fst)
    let types := frames.map fun f => f.2.type
    turn.events.filterMap StreamEvent.servedType = types ∧
      (∀ e ∈ turn.events, e.judges → e.servedType ≠ none) ∧
      turn.exit = if .sessionStopReq ∈ types then some (.ok ()) else none :=
  (agrees_init v station).serves hundisturbed hconverses

end Conversations

/-! ## A sample session -/

/-- A codec that reads the sample requests. The first byte of a response tells what follows:
nothing, the SchemaID, or the SessionID. -/
def sampleTalk : Codec :=
  { sampleCodec with
    encode := fun
      | .sapp schemaId code => .ok (if code = .failedNoNegotiation then [0] else [1, schemaId])
      | res => .ok (2 :: (res.sid.map (·.1)).getD []) }

/-- How the answers of the sample are read. -/
def sampleReader : AnswerReader sampleTalk where
  schemaId
    | [1, schemaId] => some schemaId
    | _ => none
  sid _ bytes := Sid.ofBytes? bytes.tail
  schemaId_eq := by
    rintro schemaId code bytes ⟨⟩
    split_ifs <;> rfl
  sid_eq := by
    rintro protocol (⟨schemaId, code⟩ | ⟨sid, body⟩ | ⟨sid, body⟩ | ⟨_, _, _, sid⟩) bytes hsetsUp ⟨⟩
    · cases protocol <;> exact hsetsUp.elim
    · exact Sid.ofBytes?_val sid
    · exact Sid.ofBytes?_val sid
    · exact Sid.ofBytes?_val sid

/-- A vehicle that charges DC and offers ISO 15118-2. -/
def sampleDcVehicle : Vehicle :=
  { dc := true
    protocolOf := fun _ => .iso15118_2 }

/-- A session that is set up, charges and is stopped. -/
def sampleTalkFrames : List (FrameInput × VehicleMsg) :=
  [(sampleInput [0], .app [sampleOffer]), (sampleInput [13], .iso2 ⟨Sid.zero.1, .sessionSetupReq⟩),
    (sampleInput [3], .iso2 ⟨sampleSid.1, .serviceDiscoveryReq⟩),
    (sampleInput [4], .iso2 ⟨sampleSid.1, .paymentServiceSelectionReq .externalPayment⟩),
    (sampleInput [5], .iso2 ⟨sampleSid.1, .authorizationReq⟩),
    (sampleInput [6], .iso2 ⟨sampleSid.1, .chargeParameterDiscoveryReq .dcCore⟩),
    (sampleInput [7], .iso2 ⟨sampleSid.1, .cableCheckReq⟩),
    (sampleInput [8], .iso2 ⟨sampleSid.1, .preChargeReq defaultVoltage⟩),
    (sampleInput [9], .iso2 ⟨sampleSid.1, .powerDeliveryReq .start⟩),
    (sampleInput [10], .iso2 ⟨sampleSid.1, .currentDemandReq defaultVoltage defaultCurrent⟩),
    (sampleInput [11], .iso2 ⟨sampleSid.1, .sessionStopReq .terminate⟩)]

theorem sampleTalkFrames_converses :
    Converses sampleBuild sampleTalk emptyCodec20 sampleReader sampleDcVehicle .init
      sampleStation.connected .init sampleTalkFrames := by
  refine ⟨[0], _, by simp, rfl, rfl, .negotiate rfl ⟨by decide, by decide⟩, ?_⟩
  rintro answer ⟨⟩
  -- the answer has named ISO 15118-2
  refine ⟨[13], _, by simp, rfl, ⟨rfl, rfl⟩, .go (.setUp rfl) rfl ?_ rfl, ?_⟩
  · exact ⟨by decide, fun b hmem => List.eq_of_mem_replicate hmem⟩
  rintro answer ⟨⟩
  -- the response has named the session that was drawn
  refine ⟨[3], _, by simp, rfl, ⟨rfl, rfl⟩, .go (.discover rfl) rfl rfl rfl, ?_⟩
  rintro answer ⟨⟩
  refine ⟨[4], _, by simp, rfl, ⟨rfl, rfl⟩, .go (.selectPayment rfl) rfl rfl rfl, ?_⟩
  rintro answer ⟨⟩
  refine ⟨[5], _, by simp, rfl, ⟨rfl, rfl⟩, .go (.authorize rfl) rfl rfl rfl, ?_⟩
  rintro answer ⟨⟩
  refine ⟨[6], _, by simp, rfl, ⟨rfl, rfl⟩, .go (.parametrize rfl) rfl rfl rfl, ?_⟩
  rintro answer ⟨⟩
  refine ⟨[7], _, by simp, rfl, ⟨rfl, rfl⟩, .go (.check (.inl rfl) rfl rfl) rfl rfl rfl, ?_⟩
  rintro answer ⟨⟩
  refine ⟨[8], _, by simp, rfl, ⟨rfl, rfl⟩, .go (.preCharge (.inl rfl) rfl) rfl rfl rfl, ?_⟩
  rintro answer ⟨⟩
  refine ⟨[9], _, by simp, rfl, ⟨rfl, rfl⟩, .go (.start rfl) rfl rfl rfl, ?_⟩
  rintro answer ⟨⟩
  refine ⟨[10], _, by simp, rfl, ⟨rfl, rfl⟩, .go (.demand (.inl rfl) rfl rfl) rfl rfl rfl, ?_⟩
  rintro answer ⟨⟩
  exact ⟨[11], _, by simp, rfl, ⟨rfl, rfl⟩, .go (.sessionStop rfl rfl) rfl rfl rfl,
    fun _ _ => trivial⟩

/-- The sample responses are encoded and sent. -/
theorem sampleTalk_delivered (payload : List UInt8) (res : Res) :
    Delivered sampleTalk (.frame (sampleInput payload)) res := by
  cases res with
  | sapp schemaId code =>
    by_cases h : code = .failedNoNegotiation <;>
      simp [Delivered, sampleTalk, h, maxPayloadLength, sampleInput]
  | iso2 sid | din sid | minFailed _ _ _ sid =>
    have hshort : sid.1.length ≤ 8 := sid.2.le
    refine ⟨List.cons_ne_nil _ _, ?_, rfl⟩
    rw [List.length_cons, maxPayloadLength]
    exact (Nat.succ_le_succ hshort).trans (by decide)

/-- A conversation goes undisturbed where every response is encoded and sent. -/
theorem undisturbed_of_delivered {build : Build} {codec : Codec} {codec20 : Codec20}
    {inputs : List FrameInput} (station : Station) (stream : Stream)
    (hdeliver : ∀ input ∈ inputs, ∀ res, Delivered codec (.frame input) res)
    (hrng : ∀ input ∈ inputs, ∃ sid, input.env.rng.result = .ok sid) :
    Undisturbed build codec codec20 station stream inputs := by
  induction inputs generalizing station stream with
  | nil => trivial
  | cons input inputs ih =>
    rw [List.forall_mem_cons] at hdeliver hrng
    exact ⟨fun _ _ _ => ⟨fun res _ => hdeliver.1 res, fun _ => hrng.1⟩,
      ih _ _ hdeliver.2 hrng.2⟩

/-- The sample session is served to its end. -/
theorem conversation_served_sample :
    let turn := handleStreamObs sampleBuild sampleTalk emptyCodec20 sampleStation
      (sampleTalkFrames.map Prod.fst)
    turn.events.filterMap StreamEvent.servedType =
        [.suppAppProtocolReq, .sessionSetupReq, .serviceDiscoveryReq, .paymentServiceSelectionReq,
          .authorizationReq, .chargeParameterDiscoveryReq, .cableCheckReq, .preChargeReq,
          .powerDeliveryReq, .currentDemandReq, .sessionStopReq] ∧
      turn.exit = some (.ok ()) := by
  have hinputs : ∀ input ∈ sampleTalkFrames.map Prod.fst,
      ∃ payload, input = sampleInput payload := by
    simp [sampleTalkFrames]
  have hundisturbed : Undisturbed sampleBuild sampleTalk emptyCodec20 sampleStation.connected .init
      (sampleTalkFrames.map Prod.fst) := by
    refine undisturbed_of_delivered _ _ (fun input hinput => ?_) fun input hinput => ?_
    · obtain ⟨payload, rfl⟩ := hinputs input hinput
      exact sampleTalk_delivered payload
    · obtain ⟨payload, rfl⟩ := hinputs input hinput
      exact ⟨sampleSid, rfl⟩
  obtain ⟨htypes, -, hexit⟩ :=
    conversation_served sampleStation hundisturbed sampleTalkFrames_converses
  exact ⟨htypes, hexit⟩

end Jpv2g
