import Jpv2g.Secc.MinFailed
import Jpv2g.Secc.Stream.Live

/-!
# Requests That a Gate Rejects

A request rejected by the sequence gate or by the session gate is answered with at most one frame
and ends its connection. It never reaches the handler, and the sessions of the station survive it.

## Main definitions

* `GateRejects`: a gate rejects the request, with a return code.
* `Isolated`: what the rejection leaves alone, what it sends and how it ends the connection.

## Main results

* `Decoded.minFailedRes_isSome`: which decoded requests have a minimal response.
* `rejection_isolated`: every rejection is isolated, whatever the encoder and the transport do.
-/

namespace Jpv2g

/-- A gate rejects the request: the kind of the answer, and the return code of the gate. -/
inductive GateRejects (secc : Secc) (stream : Stream) (r : Request) : MinFailedKind → Errno → Prop
  | sequence {s : Sequence} {e : Errno}
      (hgate : seccAcceptRequestSequence stream.sequence r = (s, .error e)) :
      GateRejects secc stream r .sequenceError e
  | session {s : Sequence} {e : Errno}
      (hgate : seccAcceptRequestSequence stream.sequence r = (s, .ok ()))
      (hsession : validateRequestSession secc r = .error e) :
      GateRejects secc stream r .unknownSession e

/-- The bytes of an answer to a rejected request that reach the wire. -/
def Res.minFailedWire (encode : MinFailedRes → Except Errno (List UInt8)) (sends : MinFailedSends) :
    Res → List UInt8
  | .minFailed protocol type kind sid => sendMinFailed encode sends protocol type kind sid
  | .sapp _ _ | .iso2 _ _ | .din _ _ => []

/-- The bytes that a rejection puts on the wire. -/
def StreamEvent.rejectionWire (encode : MinFailedRes → Except Errno (List UInt8))
    (sends : MinFailedSends) : StreamEvent → List UInt8
  | .rejected _ answer | .refused _ answer => answer.minFailedWire encode sends
  | .connected | .dispatched _ | .frame20 _ | .reset20 | .closed _ | .retired => []

/-- The records agree on the sessions and on the DIN offer. -/
structure KeepsSessions (secc secc' : Secc) : Prop where
  same : SameSession secc secc'
  dinType : secc'.dinAdvertisedEnergyTransferType = secc.dinAdvertisedEnergyTransferType
  dinValid : secc'.dinAdvertisedEnergyTransferValid = secc.dinAdvertisedEnergyTransferValid

/-- What becomes of the station and of the connection when a request is rejected with the code
`e`. -/
structure Isolated (encode : MinFailedRes → Except Errno (List UInt8)) (sends : MinFailedSends)
    (c : Charger) (r : Request) (kind : MinFailedKind) (e : Errno) (c' : Charger)
    (es : List StreamEvent) : Prop where
  /-- The handler is not invoked. -/
  not_dispatched : ∀ x, .dispatched x ∉ es
  statics_eq : c'.station.statics = c.station.statics
  sessions : KeepsSessions c.station.secc c'.station.secc
  /-- Nothing further is read, and the connection ends with the code of the gate. -/
  ended : c'.stream = none
  returns : ∀ rc, .closed rc ∈ es ↔ rc = .error e
  /-- At most one frame is sent: that of the minimal response to the request. -/
  wire : es.flatMap (StreamEvent.rejectionWire encode sends) = [] ∨
    ∃ res exi, minFailedRes r.protocol r.type kind c.station.secc.sessionId = some res ∧
      encode res = .ok exi ∧ res.protocol = r.protocol ∧ res.requestType = r.type ∧
      res.code = kind.code ∧ res.sid = c.station.secc.sessionId ∧
      es.flatMap (StreamEvent.rejectionWire encode sends) <+: minFailedFrame exi
  /-- A request with a minimal response is answered when the transport takes the frame. -/
  answered : ∀ res exi, minFailedRes r.protocol r.type kind c.station.secc.sessionId = some res →
    encode res = .ok exi → exi ≠ [] →
    (sendBytes (v2gtpHeader .exi exi.length) sends.header).2 = .ok () →
    (sendBytes exi sends.payload).2 = .ok () →
    es.flatMap (StreamEvent.rejectionWire encode sends) = minFailedFrame exi

section Rejection

variable {build : Build} {codec : Codec} {codec20 : Codec20}
  {encode : MinFailedRes → Except Errno (List UInt8)} {sends : MinFailedSends} {c c' : Charger}
  {i : ChargerInput} {stream : Stream} {r : Request} {kind : MinFailedKind} {e : Errno}

/-- Every decoded request has a minimal response, apart from a negotiation and a DIN
ChargingStatusReq. -/
theorem Decoded.minFailedRes_isSome {registered : Bool} {sid : Sid}
    (h : Decoded build registered stream r) (happ : r.type ≠ .suppAppProtocolReq)
    (hstatus : r.protocol = .din70121 → r.type ≠ .chargingStatusReq) :
    (minFailedRes r.protocol r.type kind sid).isSome := by
  cases h with
  | app => exact absurd rfl happ
  | iso2 _ hknown => simpa [minFailedRes] using iso2MinRes_isSome hknown
  | din hknown => simpa [minFailedRes] using dinMinRes_isSome hknown (hstatus rfl)

/-- A connection that is closed with the answer to a rejected request is isolated. -/
theorem isolated_of_answer {e₀ : StreamEvent}
    (hsessions : KeepsSessions c.station.secc c'.station.secc)
    (hstatics : c'.station.statics = c.station.statics) (hended : c'.stream = none)
    (hwire : e₀.rejectionWire encode sends =
      sendMinFailed encode sends r.protocol r.type kind c.station.secc.sessionId)
    (hdispatched : ∀ x, e₀ ≠ .dispatched x) (hclosed : ∀ rc, e₀ ≠ .closed rc) :
    Isolated encode sends c r kind e c' [e₀, .closed (.error e)] := by
  -- the answer is all that is handed to the transport
  have hsent : [e₀, .closed (.error e)].flatMap (StreamEvent.rejectionWire encode sends) =
      sendMinFailed encode sends r.protocol r.type kind c.station.secc.sessionId := by
    have hclose : (StreamEvent.closed (.error e)).rejectionWire encode sends = [] := rfl
    rw [List.flatMap_cons, List.flatMap_singleton, hwire, hclose, List.append_nil]
  refine ⟨?_, hstatics, hsessions, hended, ?_, ?_, ?_⟩
  · intro x hmem
    simp only [List.mem_cons, reduceCtorEq, List.not_mem_nil, or_false] at hmem
    exact hdispatched x hmem.symm
  · intro rc
    simp [(hclosed rc).symm]
  · rw [hsent]
    rcases sendMinFailed_cases with hnone | ⟨res, exi, hres, hexi, hpart⟩
    · exact .inl hnone
    · obtain ⟨hprotocol, htype, hcode, hsid⟩ := minFailedRes_answers hres
      exact .inr ⟨res, exi, hres, hexi, hprotocol, htype, hcode, hsid, hpart⟩
  · intro res exi hres hexi hne hheader hpayload
    rw [hsent]
    exact sendMinFailed_eq hres hexi hne hheader hpayload

/-- A rejected request that is presented to the gates is isolated. -/
theorem ChargerMove.isolated {es : List StreamEvent} (h : ChargerMove build codec c i c' es)
    (hjudges : ∃ e ∈ es, e.judges) (hstream : c.stream = some stream)
    (hpresented : c.presented build codec i = some r)
    (hrejects : GateRejects c.station.secc stream r kind e) :
    Isolated encode sends c r kind e c' es := by
  cases h with
  -- a presented request is judged, on a live connection
  | idle => simp at hjudges
  | connect hnone | retire hnone => cases hnone.symm.trans hstream
  | quiet _ _ _ _ hes =>
    obtain ⟨e', he', hjudge⟩ := hjudges
    exact absurd hjudge (hes e' he').not_judges
  | rejected hstream' hpresented' _ hgate' =>
    cases hstream'.symm.trans hstream
    cases hpresented'.symm.trans hpresented
    cases hrejects with
    | sequence hgate =>
      cases hgate'.symm.trans hgate
      exact isolated_of_answer ⟨⟨rfl, rfl, rfl, rfl, rfl⟩, rfl, rfl⟩ rfl rfl rfl (by simp)
        (by simp)
    | session hgate => cases hgate'.symm.trans hgate
  | refused hstream' hpresented' _ hgate' hsession' =>
    cases hstream'.symm.trans hstream
    cases hpresented'.symm.trans hpresented
    cases hrejects with
    | sequence hgate => cases hgate'.symm.trans hgate
    | session _ hsession =>
      cases hsession'.symm.trans hsession
      exact isolated_of_answer ⟨.refl _, rfl, rfl⟩ rfl rfl rfl (by simp) (by simp)
  | dispatched hstream' hpresented' _ hgate' hsession' =>
    cases hstream'.symm.trans hstream
    cases hpresented'.symm.trans hpresented
    cases hrejects with
    | sequence hgate => cases hgate'.symm.trans hgate
    | session _ hsession => cases hsession'.symm.trans hsession

end Rejection

/-- For every station, every connection in any state and every decoded request that one of the
gates rejects: the handler is not invoked, the sessions and the DIN offer survive, at most one
frame is sent, which is that of the minimal response to the request, and the connection ends with
the code of the gate, whatever the encoder and the transport do. -/
theorem rejection_isolated (build : Build) (codec : Codec) (codec20 : Codec20)
    (encode : MinFailedRes → Except Errno (List UInt8)) (sends : MinFailedSends) (c : Charger)
    (i : ChargerInput) (stream : Stream) (r : Request) (kind : MinFailedKind) (e : Errno)
    (hstream : c.stream = some stream) (hpresented : c.presented build codec i = some r)
    (hrejects : GateRejects c.station.secc stream r kind e) :
    Isolated encode sends c r kind e ((charger build codec codec20).step c i).1
      ((charger build codec codec20).step c i).2 :=
  (charger_move c i).isolated (judges_of_presented hpresented) hstream hpresented hrejects

/-- A SessionSetupReq before the negotiation, over a transport that fails in the payload. -/
theorem rejection_isolated_sample :
    let c : Charger := { station := sampleStation, stream := some .init }
    let r : Request :=
      { type := .sessionSetupReq, protocol := .iso15118_2, header := some sampleSid.1
        dinHeader := none, body := some (.iso2 .sessionSetupReq) }
    Isolated (fun _ => .ok [0, 0]) { header := [.ok 8], payload := [.ok 1, .error .econnreset] } c
      r .sequenceError .eproto
      ((charger sampleBuild sampleCodec emptyCodec20).step c (sampleRequest 2 true true)).1
      ((charger sampleBuild sampleCodec emptyCodec20).step c (sampleRequest 2 true true)).2 :=
  rejection_isolated _ _ _ _ _ _ _ .init _ _ _ rfl rfl (.sequence rfl)

end Jpv2g
