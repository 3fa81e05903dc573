import Jpv2g.Evcc

/-!
# Frames across the Transport

What arrives of a frame that was sent: the receivers of both sides on a stream that begins with
a frame, and an exchange of the vehicle whose request was taken and whose answer arrives.

## Main definitions

* `frameOf`: the frame of an EXI payload.
* `Begins`: a stream begins with given bytes.
* `Arrives`: the transport hands out enough bytes in time.

## Main results

* `seccRecvV2gtp_of_begins`, `evccRecvV2gtp_of_begins`: the receivers return the frame.
* `evccTransact_of_answered`: the vehicle's request is sent, and the answer is returned.
-/

namespace Jpv2g

/-- The frame of an EXI payload. -/
def frameOf (payload : List UInt8) : List UInt8 := v2gtpHeader .exi payload.length ++ payload

@[simp]
theorem frameOf_length (payload : List UInt8) : (frameOf payload).length = 8 + payload.length := by
  rw [frameOf, List.length_append, v2gtpHeader_length]

/-- The stream begins with the bytes. -/
def Begins (stream : Stream' UInt8) (bytes : List UInt8) : Prop :=
  stream.take bytes.length = bytes

instance (stream : Stream' UInt8) (bytes : List UInt8) : Decidable (Begins stream bytes) := by
  unfold Begins
  infer_instance

/-- The transport hands out at least `count` bytes before the deadline; a receiver that does not
try again must never find it empty. -/
def Arrives (again : Bool) (turns : List RecvTurn) (count : ℕ) : Prop :=
  (∀ turn ∈ turns, turn.InTime ∧ (turn.triesAgain = true → again = true)) ∧
    count ≤ deliveries turns

instance (again : Bool) (turns : List RecvTurn) (count : ℕ) :
    Decidable (Arrives again turns count) := by
  unfold Arrives
  infer_instance

section Receive

variable {stream : Stream' UInt8} {payload : List UInt8} {turns : List RecvTurn} {bufLen : ℕ}

theorem declaredLength_of_begins (hlength : payload.length ≤ maxPayloadLength)
    (h : Begins stream (frameOf payload)) : declaredLength stream = payload.length := by
  have hsmall : payload.length < 256 ^ 4 := by
    rw [maxPayloadLength] at hlength
    omega
  have hheader : stream.take 8 = v2gtpHeader .exi payload.length := by
    have htake := congrArg (List.take 8) h
    rwa [frameOf_length, Stream'.take_take, Nat.min_eq_right (by omega), frameOf,
      List.take_left' (v2gtpHeader_length _ _)] at htake
  have htypes : ([0x01, 0xFE] ++ bigEndian 2 PayloadType.exi.value).length = 4 := rfl
  rw [declaredLength, hheader, v2gtpHeader, List.drop_left' htypes,
    readBigEndian_bigEndian hsmall]

/-- The next frame of a stream that begins with one. -/
theorem frameResult_of_begins (iso20 : Bool) (hlength : payload.length ≤ maxPayloadLength)
    (hroom : 8 + payload.length ≤ bufLen) (h : Begins stream (frameOf payload)) :
    frameLength bufLen stream = 8 + payload.length ∧
      frameResult iso20 bufLen stream = .ok (.framed .exi payload) := by
  have hdeclared := declaredLength_of_begins hlength h
  have htake : stream.take (8 + payload.length) = frameOf payload := by
    rwa [Begins, frameOf_length] at h
  have hparse := @v2gtpParse_framed iso20 .exi payload [] rfl hlength
  rw [List.append_nil] at hparse
  constructor
  · rw [frameLength, hdeclared, if_neg (by omega)]
  · rw [frameResult, hdeclared, if_neg (by omega), if_neg (by omega), htake, frameOf, hparse]

/-- The station's receiver returns a frame that arrives. -/
theorem seccRecvV2gtp_of_begins (iso20 : Bool) (timeoutMs : ℤ)
    (hlength : payload.length ≤ maxPayloadLength) (hroom : 8 + payload.length ≤ bufLen)
    (hbuf : bufLen < 2 ^ 32 + 8) (h : Begins stream (frameOf payload))
    (harrives : Arrives true turns (8 + payload.length)) :
    (seccRecvV2gtp iso20 timeoutMs bufLen turns stream).rc =
      some (.ok (.framed .exi payload)) := by
  obtain ⟨hframe, hresult⟩ := frameResult_of_begins iso20 hlength hroom h
  have hturns : ∀ turn ∈ turns, turn.InTime := fun turn hturn => (harrives.1 turn hturn).1
  obtain ⟨hfits, -⟩ := framesFit_of_lt hbuf 1 stream
  obtain ⟨left, hcall, -, -⟩ := seccRecvV2gtp_call iso20 timeoutMs (by omega) hturns
    (hframe ▸ harrives.2) hfits
  rw [hcall, hresult]

/-- The vehicle's receiver returns a frame that arrives. -/
theorem evccRecvV2gtp_of_begins (iso20 : Bool) (timeoutMs : ℤ)
    (hlength : payload.length ≤ maxPayloadLength) (hroom : 8 + payload.length ≤ bufLen)
    (h : Begins stream (frameOf payload)) (harrives : Arrives false turns (8 + payload.length)) :
    (evccRecvV2gtp iso20 timeoutMs bufLen turns stream).rc =
      some (.ok (.framed .exi payload)) := by
  obtain ⟨hframe, hresult⟩ := frameResult_of_begins iso20 hlength hroom h
  have hturns : ∀ turn ∈ turns, turn.InTime := fun turn hturn => (harrives.1 turn hturn).1
  have hagain : ∀ turn ∈ turns, turn.triesAgain = false := fun turn hturn =>
    Bool.eq_false_iff.mpr fun htries => Bool.false_ne_true ((harrives.1 turn hturn).2 htries)
  have henough : framesLength bufLen 1 stream ≤ deliveries turns := by
    rw [framesLength, framesLength, hframe, Nat.add_zero]
    exact harrives.2
  obtain ⟨hrc, -⟩ := evccRecvV2gtp_receives iso20 timeoutMs (by omega) hturns hagain henough
  rw [hrc, hresult]

end Receive

/-! ## Exchanges of the vehicle -/

/-- The transport takes the request of the vehicle whole. -/
def EvccTransport.Takes (transport : EvccTransport) (payload : List UInt8) : Prop :=
  transport.frameAllocated = true ∧
    ((evccSendLoop timeoutCommSetup transport.startMs (frameOf payload)).run 0
      transport.polls).1 = .inr (.ok ())

/-- The transport brings the answer before the deadline. -/
def EvccTransport.Brings (transport : EvccTransport) (answer : List UInt8) : Prop :=
  Begins transport.stream (frameOf answer) ∧
    Arrives false transport.turns (8 + answer.length)

/-- A request that is taken whole has been framed and sent. -/
theorem evccSendV2gtp_of_takes (iso20 : Bool) {payload : List UInt8} {transport : EvccTransport}
    (hlength : payload.length ≤ maxPayloadLength) (h : transport.Takes payload) :
    evccSendV2gtp iso20 .exi payload transport = (frameOf payload, some (.ok ())) := by
  obtain ⟨hallocated, hsent⟩ := h
  have hbuild : v2gtpBuild iso20 .exi payload (8 + payload.length) = .ok (frameOf payload) :=
    v2gtpBuild_fits rfl hlength le_rfl
  have hexact : SendsExactly (evccSendLoop timeoutCommSetup transport.startMs (frameOf payload))
      timeoutCommSetup transport.startMs (frameOf payload) transport.polls :=
    seccSendLoop_sendsExactly transport.polls
  rw [evccSendV2gtp, if_neg (Nat.not_lt.mpr hlength), if_neg (by simp [hallocated]), hbuild]
  simp only [hexact.complete hsent, hsent]
  rfl

/-- What an exchange has sent does not depend on what it receives. -/
theorem evccTransact_sent (iso20 : Bool) (timeoutMs : ℤ) (bufLen : ℕ) {payload : List UInt8}
    {transport : EvccTransport} (hlength : payload.length ≤ maxPayloadLength)
    (htakes : transport.Takes payload) :
    (evccTransact iso20 bufLen timeoutMs payload transport).1 = frameOf payload := by
  rw [evccTransact, evccSendV2gtp_of_takes iso20 hlength htakes]
  dsimp only
  split
  · rfl
  · rfl
  · split_ifs <;> rfl

/-- A request that is taken whole and answered in time returns the answer. -/
theorem evccTransact_of_answered (iso20 : Bool) (timeoutMs : ℤ) {bufLen : ℕ}
    {payload answer : List UInt8} {transport : EvccTransport}
    (hlength : payload.length ≤ maxPayloadLength) (htakes : transport.Takes payload)
    (hanswer : answer.length ≤ maxPayloadLength) (hroom : 8 + answer.length ≤ bufLen)
    (hne : answer ≠ []) (hbrings : transport.Brings answer) :
    evccTransact iso20 bufLen timeoutMs payload transport =
      (frameOf payload, some (.ok (some answer))) := by
  have hreceived :=
    evccRecvV2gtp_of_begins iso20 timeoutMs hanswer hroom hbrings.1 hbrings.2
  have hpayload : (V2gtp.framed .exi answer).payload = some answer :=
    if_pos (List.length_pos_iff.mpr hne)
  have htype : (V2gtp.framed .exi answer).payloadType = .exi := rfl
  rw [evccTransact, evccSendV2gtp_of_takes iso20 hlength htakes]
  simp only [hreceived, htype, hpayload, ne_eq, not_true_eq_false, if_false]

section Requests

variable {δ ρ : Type} {evcc : Evcc δ ρ} {iso20 : Bool} {payloadCapacity bufLen : ℕ} {timeoutMs : ℤ}
  {transport : EvccTransport} {build : MessageType → ℕ → Except Errno (List UInt8)}
  {reqType : MessageType} {next : List UInt8 → Option (List UInt8) → EvccOutcome δ ρ}
  {payload answer : List UInt8}

/-- The request is sent before anything is received. -/
theorem Evcc.request_sent (hrequest : build reqType payloadCapacity = .ok payload)
    (hlength : payload.length ≤ maxPayloadLength) (htakes : transport.Takes payload)
    (hnext : ∀ sent received, (next sent received).sent = sent) :
    (evcc.request iso20 payloadCapacity bufLen timeoutMs transport build reqType next).sent =
      frameOf payload := by
  have hsent := evccTransact_sent iso20 timeoutMs bufLen hlength htakes
  simp only [Evcc.request, hrequest]
  generalize evccTransact iso20 bufLen timeoutMs payload transport = result at hsent ⊢
  obtain ⟨sent, _ | _ | received⟩ := result
  · exact hsent
  · exact hsent
  · exact (hnext sent received).trans hsent

/-- A request that is taken whole and answered in time goes on with the answer. -/
theorem Evcc.request_of_answered (hrequest : build reqType payloadCapacity = .ok payload)
    (hlength : payload.length ≤ maxPayloadLength) (htakes : transport.Takes payload)
    (hanswer : answer.length ≤ maxPayloadLength) (hroom : 8 + answer.length ≤ bufLen)
    (hne : answer ≠ []) (hbrings : transport.Brings answer) :
    evcc.request iso20 payloadCapacity bufLen timeoutMs transport build reqType next =
      next (frameOf payload) (some answer) := by
  have hreceived :=
    evccTransact_of_answered iso20 timeoutMs hlength htakes hanswer hroom hne hbrings
  simp only [Evcc.request, hrequest, hreceived]

end Requests

end Jpv2g
