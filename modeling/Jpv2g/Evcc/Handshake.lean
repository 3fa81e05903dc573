import Jpv2g.Secc.AppProtocol.Selection
import Jpv2g.Secc.Stream.Serving
import Jpv2g.Transport.Frames

/-!
# The Handshake of a Vehicle and a Station

The negotiation from end to end: the vehicle encodes its offers, frames and sends them, the station
receives, decodes and answers them as the first request of a connection, and the vehicle receives
and decodes the answer, over transports that cut the bytes as they like.

## Main definitions

* `Codec.withAppHand`: the codec of the station, with the documents of the handshake in EXI.
* `Connected`: what the one side receives is what the other has sent.

## Main results

* `firstTurn_of_sappReq`: the station's turn on the first request of a connection.
* `handshake_agrees`: vehicle and station agree on the outcome.
-/

namespace Jpv2g

/-- The codec of the station, with the documents of the handshake in EXI. `stale` is what the
receive buffer holds behind the payload, `memory` what the payload buffer held before. -/
def Codec.withAppHand (codec : Codec) (stale : UInt8) (memory : ℕ → UInt8) : Codec :=
  { codec with
    decodeAppHand := decodeSappReq stale
    encode := fun res =>
      match res with
      | .sapp schemaId code => encodeSappRes schemaId code memory maxExiSize
      | .iso2 _ _ | .din _ _ | .minFailed _ _ _ _ => codec.encode res }

/-- The message the receive loop hands to the dispatcher. -/
def V2gtp.message (msg : V2gtp) : V2gtpMsg :=
  { payloadType := msg.payloadType, payload := msg.bytes }

/-- The connection from the vehicle to the station and back: the station receives what the vehicle
has sent, its answer is sent, and the vehicle receives that. -/
structure Connected {δ ρ : Type} (iso20 : Bool) (outcome : EvccOutcome δ ρ)
    (transport : EvccTransport) (input : FrameInput) (turn : Turn) : Prop where
  up : ∃ timeoutMs turns stream, Begins stream outcome.sent ∧
    Arrives true turns outcome.sent.length ∧
    (seccRecvV2gtp iso20 timeoutMs maxV2gtpSize turns stream).rc.map (·.map V2gtp.message) =
      some input.recv
  send : input.send = .ok ()
  down : ∀ answer ∈ turn.answer, transport.Brings answer

section Handshake

variable {build : Build} {codec : Codec} {codec20 : Codec20} {station : Station}
  {input : FrameInput} {stale : UInt8} {memory : ℕ → UInt8} {offers : List AppProtocol}

/-- A document of the handshake fits into a frame. -/
theorem packBits_form_length_le {doc : AppHandExiDocument} (h : doc.Transmittable) :
    (packBits doc.form).length ≤ maxPayloadLength := by
  have hform := doc.form_length_le h
  rw [packBits_length, maxPayloadLength]
  omega

theorem message_framed (payload : List UInt8) :
    (V2gtp.framed .exi payload).message = { payloadType := .exi, payload } := by
  rw [V2gtp.message, V2gtp.framed_bytes]
  rfl

/-- A frame the vehicle has sent is the one the station's loop is handed. -/
theorem Connected.recv_eq {δ ρ : Type} {iso20 : Bool} {outcome : EvccOutcome δ ρ}
    {transport : EvccTransport} {turn : Turn} {payload : List UInt8}
    (h : Connected iso20 outcome transport input turn) (hsent : outcome.sent = frameOf payload)
    (hlength : payload.length ≤ maxPayloadLength) :
    input.recv = .ok { payloadType := .exi, payload } := by
  obtain ⟨timeoutMs, turns, stream, hbegins, harrives, hrecv⟩ := h.up
  rw [hsent] at hbegins harrives
  rw [frameOf_length] at harrives
  have hroom : 8 + payload.length ≤ maxV2gtpSize := by
    rw [maxPayloadLength] at hlength
    rw [maxV2gtpSize, maxExiSize]
    omega
  have hreceived := seccRecvV2gtp_of_begins iso20 timeoutMs hlength hroom (by decide) hbegins
    harrives
  rw [hreceived] at hrecv
  rw [← message_framed]
  exact (Option.some.inj hrecv).symm

/-- The request of a handshake is sent before anything is received. -/
theorem evccHandshakeAppProtocol_sent {δ ρ : Type} {evcc : Evcc δ ρ}
    {encode : MessageType → ℕ → Except Errno (List UInt8)}
    {handle : MessageType → EvccResponse δ ρ → Rc} {transport : EvccTransport} (iso20 : Bool)
    (timeoutMs : ℤ) {payload : List UInt8} (hencode : evcc.buildMessage = some encode)
    (hhandle : evcc.handleMessage = some handle)
    (hrequest : encode .suppAppProtocolReq 1024 = .ok payload)
    (hlength : payload.length ≤ maxPayloadLength) (htakes : transport.Takes payload) :
    (evccHandshakeAppProtocol evcc iso20 timeoutMs transport).sent = frameOf payload := by
  rw [evccHandshakeAppProtocol, hencode, hhandle]
  refine Evcc.request_sent hrequest hlength htakes fun sent received => ?_
  -- whichever decoder takes the payload
  cases decodeSappRes transport.stale received with
  | ok res => rfl
  | error e => cases decodeExi evcc.decodeFn transport.rawAllocated received <;> rfl

/-- The gate lets the first negotiation of a connection through, whatever it selects. -/
theorem accept_of_init {request : Request} (htype : request.type = .suppAppProtocolReq) :
    seccAcceptRequestSequence .init request =
      ({ Sequence.init with phase := .sessionSetup, protocol := request.protocol }, .ok ()) := by
  have hpower : request.type ≠ .powerDeliveryReq := by simp [htype]
  have hphase : Sequence.init.phase = .appProtocol := rfl
  rw [seccAcceptRequestSequence, if_pos hpower, seccSequenceAccept, if_pos hphase,
    seccSequenceAcceptAppProtocol, htype]
  by_cases hprotocol : request.protocol = .unknown
  · simp [hprotocol, Sequence.advance, Sequence.init]
  · simp [hprotocol, Sequence.advance]

/-- The negotiation that a frame with offers stands for, on a new connection. -/
def sappRequest (selection : AppSelection) (offers : List AppProtocol) : Request :=
  { type := .suppAppProtocolReq
    protocol := selection.protocol
    header := none
    dinHeader := none
    body := some (.app offers) }

/-- The bytes of a document are not empty. -/
theorem packBits_form_ne_nil (doc : AppHandExiDocument) : packBits doc.form ≠ [] := by
  rw [← List.length_pos_iff, packBits_length]
  have hheader : 8 ≤ doc.form.length := by
    cases doc <;> simp [AppHandExiDocument.form]
  omega

/-- The first frame with offers is presented to the gates as a negotiation. -/
theorem presented_sappRequest
    (hoffers : (AppHandExiDocument.supportedAppProtocolReq offers).Transmittable)
    (hrecv : input.recv = .ok
      { payloadType := .exi
        payload := packBits (AppHandExiDocument.supportedAppProtocolReq offers).form }) :
    presentedRequest build (codec.withAppHand stale memory) station .init input =
      some (sappRequest (selectAppProtocol build station.s20.isSome
        (some (offers.map AppProtocol.onWire))) (offers.map AppProtocol.onWire)) := by
  have hread : (codec.withAppHand stale memory).decodeAppHand
      (packBits (AppHandExiDocument.supportedAppProtocolReq offers).form) =
      some (offers.map AppProtocol.onWire) := decodeSappReq_packBits hoffers stale
  have hinit : Stream.init.protocol = .unknown := rfl
  rw [presentedRequest, hrecv]
  dsimp only
  rw [if_pos ⟨rfl, packBits_form_ne_nil _⟩]
  simp only [decodeRequest, decodeAppHand, hread, Option.map_some, Option.some_or, sappRequest,
    hinit, ite_not]
  split_ifs with hknown
  · rw [hknown]
  · rfl

/-- The station answers the first request of a connection with the selection, and turns to the
protocol selected. -/
theorem firstTurn_of_sappReq
    (hoffers : (AppHandExiDocument.supportedAppProtocolReq offers).Transmittable)
    (hrecv : input.recv = .ok
      { payloadType := .exi
        payload := packBits (AppHandExiDocument.supportedAppProtocolReq offers).form })
    (hsend : input.send = .ok ()) :
    let selection :=
      selectAppProtocol build station.s20.isSome (some (offers.map AppProtocol.onWire))
    let turn := streamTurn build (codec.withAppHand stale memory) codec20 input
      station.connected .init
    turn.answer = some (packBits (sappResDocument
        ((selection.offer.map (·.schemaId)).getD 0) selection.responseCode).form) ∧
      turn.exit = none ∧ turn.stream.protocol = selection.protocol ∧
      turn.stream.sequence.protocol = selection.protocol ∧
      turn.stream.sequence.phase = .sessionSetup := by
  intro selection turn
  obtain ⟨request, hrequest⟩ :
      ∃ r, r = sappRequest selection (offers.map AppProtocol.onWire) := ⟨_, rfl⟩
  obtain ⟨codec', hcodec⟩ : ∃ c, c = codec.withAppHand stale memory := ⟨_, rfl⟩
  have htype : request.type = .suppAppProtocolReq := by rw [hrequest, sappRequest]
  have hprotocol : request.protocol = selection.protocol := by rw [hrequest, sappRequest]
  -- the frame is decoded as the offers, and passes both gates
  have hpresented : presentedRequest build codec' station.connected .init input = some request := by
    rw [hcodec, hrequest]
    exact presented_sappRequest hoffers hrecv
  have hdispatched : dispatchedRequest build codec' input station.connected .init =
      some (request,
        { Sequence.init with phase := .sessionSetup, protocol := request.protocol }) :=
    dispatchedRequest_of_accepted hpresented (accept_of_init htype) (if_pos htype)
  -- the handler answers with the selection, and the response is sent
  obtain ⟨x, hx⟩ : ∃ x, x = exchangeOf build codec' input station.connected
      { Sequence.init with phase := .sessionSetup, protocol := request.protocol } request :=
    ⟨_, rfl⟩
  obtain ⟨sid, -, hhandle⟩ := @defaultHandle_suppAppProtocol codec' input.env
    station.connected.secc station.connected.statics request build station.s20.isSome htype
  have hresult : x.result = handleSuppAppProtocol codec'
      { station.connected.secc with sessionId := sid } station.connected.statics request build
      station.s20.isSome := by
    rw [hx]
    exact hhandle
  have hoffered : request.appOffers = some (offers.map AppProtocol.onWire) := by
    rw [hrequest]
    rfl
  have hanswer : x.result.rc = codec'.encode (.sapp
      ((selection.offer.map (·.schemaId)).getD 0) selection.responseCode) := by
    rw [hresult, handleSuppAppProtocol, hoffered]
    rfl
  have hencoded : codec'.encode (.sapp ((selection.offer.map (·.schemaId)).getD 0)
      selection.responseCode) = .ok (packBits (sappResDocument
        ((selection.offer.map (·.schemaId)).getD 0) selection.responseCode).form) := by
    rw [hcodec]
    exact encodeSappRes_eq _ _ memory (by decide)
  have hkept : x.result.secc.terminateAfterResponse = false := by rw [hresult]; rfl
  have hsent : x.rc = .ok () := by
    rw [hx]
    refine (transmit_ok_iff (hx ▸ hanswer)).mpr ?_
    simp only [Delivered, hencoded]
    obtain ⟨hpos, hlength⟩ := packBits_sappRes_length ((selection.offer.map (·.schemaId)).getD 0)
      selection.responseCode
    exact ⟨List.length_pos_iff.mp hpos, hlength.trans (by decide), hsend⟩
  have hne : request.type ≠ .sessionStopReq := by simp [htype]
  obtain ⟨s20, events, -, hturn⟩ := @streamTurn_of_open build codec' codec20 input
    station.connected .init request _ hdispatched (hx ▸ hsent) (hx ▸ hkept) rfl hne
  rw [← hx] at hturn
  dsimp only at hturn
  rw [applyResume_of_ne_sessionSetup (by simp [htype])] at hturn
  have hshown : turn = _ := hcodec ▸ hturn
  rw [hshown]
  refine ⟨?_, rfl, hprotocol, hprotocol, rfl⟩
  exact Turn.answer_of_dispatched rfl hsent (hanswer.trans hencoded)

/-- A SchemaID is sent exactly when an offer was selected. -/
theorem schemaId_sent_of_coherent {selection : AppSelection} (h : selection.Coherent) :
    (if selection.responseCode ≠ .failedNoNegotiation then
      some ((selection.offer.map (·.schemaId)).getD 0) else none) =
      selection.offer.map (·.schemaId) := by
  have hiff := h.1.symm.trans h.2
  cases hoffer : selection.offer with
  | none => exact if_neg (not_not.mpr (hiff.mpr hoffer))
  | some best =>
    refine if_pos fun hcode => ?_
    rw [hiff.mp hcode] at hoffer
    cases hoffer

/-- When no two offers share a SchemaID, the one that is named tells the protocol. -/
theorem classifyOffer_of_schemaId {registered : Bool} {selection : AppSelection} {ap : AppProtocol}
    (hdistinct : (offers.map (·.schemaId)).Nodup)
    (hselects : Selects build registered (offers.map AppProtocol.onWire) selection)
    (hap : ap ∈ offers) (hnamed : selection.offer.map (·.schemaId) = some ap.schemaId) :
    selection.protocol = classifyOffer build registered ap := by
  cases hselects with
  | failed => cases hnamed
  | @selected before after best hsplit =>
    obtain ⟨ap', hap', hbest⟩ : ∃ ap' ∈ offers, ap'.onWire = best := by
      have hmem : best ∈ offers.map AppProtocol.onWire := by simp [hsplit]
      exact List.mem_map.mp hmem
    have hsame : ap'.schemaId = ap.schemaId := by
      rw [← hbest] at hnamed
      exact Option.some.inj hnamed
    rw [← hbest, List.inj_on_of_nodup_map hdistinct hap' hap hsame]
    rfl

/-- **Vehicle and station agree on the outcome of the handshake.** When the offers of the vehicle
reach the station as the first frame of a connection and its answer reaches the vehicle, over
transports that cut the bytes as they like, the vehicle is handed the code and the SchemaID of the
station's selection; the station has turned to the protocol selected and waits for the session to
be set up; a SchemaID is named exactly when a protocol was selected, and the offer it names is one
of that protocol. -/
theorem handshake_agrees {δ ρ : Type} {evcc : Evcc δ ρ}
    {encode : MessageType → ℕ → Except Errno (List UInt8)}
    {handle : MessageType → EvccResponse δ ρ → Rc} {transport : EvccTransport} {iso20 : Bool}
    {timeoutMs : ℤ} (hencode : evcc.buildMessage = some encode)
    (hhandle : evcc.handleMessage = some handle)
    (hoffers : (AppHandExiDocument.supportedAppProtocolReq offers).Transmittable)
    (hrequest : encode .suppAppProtocolReq 1024 =
      .ok (packBits (AppHandExiDocument.supportedAppProtocolReq offers).form))
    (htakes : transport.Takes (packBits (AppHandExiDocument.supportedAppProtocolReq offers).form))
    (hconnected : Connected build.iso20 (evccHandshakeAppProtocol evcc iso20 timeoutMs transport)
      transport input
      (streamTurn build (codec.withAppHand stale memory) codec20 input station.connected .init)) :
    let outcome := evccHandshakeAppProtocol evcc iso20 timeoutMs transport
    let turn :=
      streamTurn build (codec.withAppHand stale memory) codec20 input station.connected .init
    let selection :=
      selectAppProtocol build station.s20.isSome (some (offers.map AppProtocol.onWire))
    let res : SupportedAppProtocolRes :=
      { responseCode := selection.responseCode.code.toNat
        schemaId := selection.offer.map (·.schemaId) }
    (outcome.handed = some (.suppAppProtocolRes, .sapp res) ∧
      outcome.rc = some (handle .suppAppProtocolRes (.sapp res))) ∧
    (turn.exit = none ∧ turn.stream.protocol = selection.protocol ∧
      turn.stream.sequence.protocol = selection.protocol ∧
      turn.stream.sequence.phase = .sessionSetup) ∧
    (res.schemaId = none ↔ turn.stream.protocol = .unknown) ∧
    ((offers.map (·.schemaId)).Nodup → ∀ ap ∈ offers, res.schemaId = some ap.schemaId →
      turn.stream.protocol = classifyOffer build station.s20.isSome ap) := by
  intro outcome turn selection res
  obtain ⟨payload, hpayload⟩ :
      ∃ p, p = packBits (AppHandExiDocument.supportedAppProtocolReq offers).form := ⟨_, rfl⟩
  have hlength : payload.length ≤ maxPayloadLength := hpayload ▸ packBits_form_length_le hoffers
  -- the request is sent before anything is received
  have hsent : outcome.sent = frameOf payload :=
    evccHandshakeAppProtocol_sent iso20 timeoutMs hencode hhandle (hpayload ▸ hrequest) hlength
      (hpayload ▸ htakes)
  have hrecv : input.recv = .ok { payloadType := .exi, payload } := hconnected.recv_eq hsent hlength
  obtain ⟨hanswer, hexit, hprotocol, hsequence, hphase⟩ :=
    @firstTurn_of_sappReq build codec codec20 station input stale memory offers hoffers
      (hpayload ▸ hrecv) hconnected.send
  -- the answer of the station is what the vehicle receives
  obtain ⟨schemaId, hschema⟩ : ∃ s, s = (selection.offer.map (·.schemaId)).getD 0 := ⟨_, rfl⟩
  obtain ⟨answer, hbytes⟩ :
      ∃ b, b = packBits (sappResDocument schemaId selection.responseCode).form := ⟨_, rfl⟩
  have hbrings : transport.Brings answer := by
    refine hconnected.down answer ?_
    rw [hbytes, hschema]
    exact hanswer
  obtain ⟨hpos, hshort⟩ := packBits_sappRes_length schemaId selection.responseCode
  rw [← hbytes] at hpos hshort
  have hcoherent := selectAppProtocol_coherent build station.s20.isSome
    (some (offers.map AppProtocol.onWire))
  have hres : decodeSappRes transport.stale (some answer) = .ok res := by
    rw [hbytes, decodeSappRes_packBits, hschema]
    rw [schemaId_sent_of_coherent hcoherent]
  have houtcome : outcome =
      evcc.handOver (frameOf payload) handle .suppAppProtocolRes (.sapp res) := by
    simp only [outcome, evccHandshakeAppProtocol, hencode, hhandle]
    rw [Evcc.request_of_answered (hpayload ▸ hrequest) hlength (hpayload ▸ htakes)
      (hshort.trans (by decide)) (by omega) (List.length_pos_iff.mp hpos) hbrings, hres]
  rw [houtcome]
  refine ⟨⟨rfl, rfl⟩, ⟨hexit, hprotocol, hsequence, hphase⟩, ?_, ?_⟩
  · rw [hprotocol, hcoherent.2]
    exact Option.map_eq_none_iff
  · intro hdistinct ap hap hnamed
    have hfew : appProtocolOffers (some (offers.map AppProtocol.onWire)) =
        offers.map AppProtocol.onWire := by
      refine List.take_of_length_le ?_
      rw [Option.getD_some, List.length_map]
      exact hoffers.1.2
    have hselects := selectAppProtocol_selects build station.s20.isSome
      (some (offers.map AppProtocol.onWire))
    rw [hfew] at hselects
    rw [hprotocol]
    exact classifyOffer_of_schemaId hdistinct hselects hap hnamed

end Handshake

/-! ## A handshake -/

/-- A transport that takes the request in one piece and brings the answer byte by byte. -/
def sampleTransport (request answer : List UInt8) : EvccTransport where
  frameAllocated := true
  rawAllocated := true
  startMs := 0
  polls := [{ nowMs := 1, answer := .ok (8 + request.length), overTaken := 0 }]
  turns := List.replicate (8 + answer.length) { remainingMs := 1, answer := .ok 1 }
  stream := Stream'.appendStream' (frameOf answer) (Stream'.const 0)
  stale := 0

/-- Byte by byte, everything arrives. -/
theorem arrives_sample (again : Bool) (count : ℕ) :
    Arrives again (List.replicate count { remainingMs := 1, answer := .ok 1 }) count := by
  constructor
  · intro turn hturn
    rw [List.eq_of_mem_replicate hturn]
    exact ⟨by decide, fun h => absurd h (by decide)⟩
  · rw [deliveries, List.countP_replicate, if_pos (by decide)]

theorem begins_appendStream (bytes : List UInt8) (rest : Stream' UInt8) :
    Begins (Stream'.appendStream' bytes rest) bytes := by
  rw [Begins, Stream'.take_append_of_le_length _ _ _ le_rfl, List.take_length]

theorem sampleTransport_takes (request answer : List UInt8) :
    (sampleTransport request answer).Takes request := by
  have hbody : ((seccSendLoop timeoutCommSetup 0 (frameOf request)).body 0
      { nowMs := 1, answer := .ok (8 + request.length), overTaken := 0 }).1 =
      .inl (0 + (8 + request.length)) := by
    have hearly : ¬(0 < timeoutCommSetup ∧ sendDeadline timeoutCommSetup 0 ≤ 1) := by decide
    obtain ⟨count, hcount⟩ : ∃ count, 8 + request.length = count + 1 :=
      ⟨7 + request.length, by omega⟩
    have hfits : ¬(frameOf request).length - 0 < count + 1 := by
      rw [frameOf_length, hcount]
      omega
    simp only [seccSendLoop, if_neg hearly, hcount, if_neg hfits]
  have hdone : (seccSendLoop timeoutCommSetup 0 (frameOf request)).exit
      (0 + (8 + request.length)) = some (.ok ()) :=
    seccSendLoop_exit_of_le (by rw [frameOf_length]; omega)
  have hopen : (seccSendLoop timeoutCommSetup 0 (frameOf request)).exit 0 = none :=
    seccSendLoop_exit_of_lt (by rw [frameOf_length]; omega)
  have hrun := Loop.run_cons_of_goes _ hopen hbody []
  rw [Loop.run_of_exit _ hdone] at hrun
  exact ⟨rfl, congrArg Prod.fst hrun⟩

theorem sampleTransport_brings (request answer : List UInt8) :
    (sampleTransport request answer).Brings answer :=
  ⟨begins_appendStream _ _, arrives_sample _ _⟩

/-- A vehicle that sends a fixed request and takes every response. -/
def sampleVehicle (request : List UInt8) : Evcc Unit Unit where
  sessionId := .zero
  buildMessage := some fun _ _ => .ok request
  handleMessage := some fun _ _ => .ok ()
  decodeFn := none
  decoders :=
    { sessionSetupRes := fun _ => .error (.other 38)
      serviceDiscoveryRes := fun _ => .error (.other 38)
      paymentServiceSelectionRes := fun _ => .error (.other 38)
      chargeParameterDiscoveryRes := fun _ => .error (.other 38) }

/-- A vehicle that has sent its request is connected to a station whose answer is known. -/
theorem connected_sample {δ ρ : Type} {build : Build} {turn : Turn} {request answer : List UInt8}
    {outcome : EvccOutcome δ ρ} (hsent : outcome.sent = frameOf request)
    (hlength : request.length ≤ maxPayloadLength) (hanswer : turn.answer = some answer) :
    Connected build.iso20 outcome (sampleTransport request answer) (sampleInput request) turn := by
  refine ⟨⟨0, List.replicate (8 + request.length) { remainingMs := 1, answer := .ok 1 },
    Stream'.appendStream' (frameOf request) (Stream'.const 0), ?_, ?_, ?_⟩, rfl,
    fun answer' hmem => ?_⟩
  · rw [hsent]
    exact begins_appendStream _ _
  · rw [hsent, frameOf_length]
    exact arrives_sample _ _
  · have hroom : 8 + request.length ≤ maxV2gtpSize := by
      rw [maxPayloadLength] at hlength
      rw [maxV2gtpSize, maxExiSize]
      omega
    rw [seccRecvV2gtp_of_begins build.iso20 0 hlength hroom (by decide)
      (begins_appendStream _ _) (arrives_sample _ _)]
    exact congrArg (some ∘ Except.ok) (message_framed request)
  · rw [hanswer, Option.mem_some_iff] at hmem
    exact hmem ▸ sampleTransport_brings request answer

theorem sampleOffers_transmittable :
    (AppHandExiDocument.supportedAppProtocolReq [sampleDinOffer, sampleOffer]).Transmittable := by
  refine ⟨⟨List.cons_ne_nil _ _, by decide⟩, fun ap hap => ?_⟩
  rcases List.mem_pair.mp hap with rfl | rfl <;> decide

theorem sampleOffers_selected :
    selectAppProtocol sampleBuild false
        (some ([sampleDinOffer, sampleOffer].map AppProtocol.onWire)) =
      ⟨.iso15118_2, some sampleOffer.onWire, .okSuccessfulNegotiation⟩ := by
  decide

/-- A vehicle that prefers ISO 15118-2 to DIN 70121 gets it, and knows it. -/
theorem handshake_agrees_sample :
    let offers := [sampleDinOffer, sampleOffer]
    let request := packBits (AppHandExiDocument.supportedAppProtocolReq offers).form
    let answer := packBits (sappResDocument 1 .okSuccessfulNegotiation).form
    let station : Station := ⟨.init ⟨false, []⟩ true false, .init, none⟩
    let outcome := evccHandshakeAppProtocol (sampleVehicle request) true 20000
      (sampleTransport request answer)
    let turn := streamTurn sampleBuild (sampleCodec.withAppHand 0 fun _ => 0) emptyCodec20
      (sampleInput request) station.connected .init
    outcome.handed = some (.suppAppProtocolRes, .sapp { responseCode := 0, schemaId := some 1 }) ∧
      outcome.rc = some (.ok ()) ∧ turn.stream.protocol = .iso15118_2 := by
  have hoffers := sampleOffers_transmittable
  have hselection := sampleOffers_selected
  dsimp only
  -- the bytes of the request are not computed
  obtain ⟨request, hrequest⟩ : ∃ r, r = packBits (AppHandExiDocument.supportedAppProtocolReq
    [sampleDinOffer, sampleOffer]).form := ⟨_, rfl⟩
  have hlength : request.length ≤ maxPayloadLength := by
    rw [hrequest]
    exact packBits_form_length_le hoffers
  rw [← hrequest]
  obtain ⟨station, hstation⟩ :
      ∃ s : Station, s = ⟨.init ⟨false, []⟩ true false, .init, none⟩ := ⟨_, rfl⟩
  have hregistered : station.s20.isSome = false := by rw [hstation]; rfl
  rw [← hstation]
  have hanswer := (@firstTurn_of_sappReq sampleBuild sampleCodec emptyCodec20 station
    (sampleInput request) 0 (fun _ => 0) _ hoffers (by rw [← hrequest]; rfl) rfl).1
  have htakes := sampleTransport_takes request
    (packBits (sappResDocument 1 .okSuccessfulNegotiation).form)
  rw [hregistered, hselection] at hanswer
  have hencode : (sampleVehicle request).buildMessage = some fun _ _ => .ok request := rfl
  have hagrees := handshake_agrees hencode rfl hoffers (by rw [← hrequest])
    (by rw [← hrequest]; exact htakes) (connected_sample
      (evccHandshakeAppProtocol_sent true 20000 hencode rfl rfl hlength htakes) hlength hanswer)
  dsimp only at hagrees
  rw [hregistered, hselection] at hagrees
  exact ⟨hagrees.1.1, hagrees.1.2, hagrees.2.1.2.1⟩

end Jpv2g
