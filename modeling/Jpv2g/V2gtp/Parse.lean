import Jpv2g.V2gtp

/-!
# Parsing V2GTP Frames

The checks on a received frame and the parser (`jpv2g_v2gtp_validate`, `jpv2g_v2gtp_parse`), and
the two round trips between the parser and `v2gtpBuild`.

## Main definitions

* `V2gtp`: the fields of a frame as the parser fills them.
* `v2gtpValidate`, `v2gtpParse`: the checks and the parser.

## Main results

* `v2gtpParse_framed`, `v2gtpParse_ok`: a buffer parses exactly when it starts with a frame of a
  supported type that is not too long.
* `v2gtp_roundTrip`: what is built parses back, and what parses is built back.
-/

namespace Jpv2g

/-- `JPV2G_V2GTP_VERSION`. -/
def v2gtpVersion : UInt8 := 0x01

/-- The fields of a frame (`jpv2g_v2gtp_t`). -/
structure V2gtp where
  protocolVersion : UInt8
  inverseProtocolVersion : UInt8
  payloadType : PayloadType
  payloadLength : ℕ
  /-- The bytes the payload pointer points to, `none` for the null pointer. -/
  payload : Option (List UInt8)
deriving DecidableEq, Repr

/-- The payload, with no bytes behind the null pointer. -/
def V2gtp.bytes (msg : V2gtp) : List UInt8 := msg.payload.getD []

/-- The payload type with the given numeric value. -/
def PayloadType.ofValue : ℕ → PayloadType
  | 0x8001 => .exi
  | 0x8002 => .exi20Mainstream
  | 0x8004 => .exi20Dc
  | 0x9000 => .sdpReq
  | 0x9001 => .sdpRes
  | value => .other value

/-- The checks on a received frame (`jpv2g_v2gtp_validate`). -/
def v2gtpValidate (iso20 : Bool) (msg : V2gtp) : Rc :=
  if msg.protocolVersion ≠ v2gtpVersion then .error .eprotonosupport
  else if msg.inverseProtocolVersion ≠ msg.protocolVersion ^^^ 0xFF then .error .ebadmsg
  else if payloadTypeSupported iso20 msg.payloadType = false then .error .enotsup
  else if maxPayloadLength < msg.payloadLength then .error .e2big
  -- an empty payload must come with the null pointer
  else if msg.payloadLength = 0 ∧ msg.payload ≠ none then .error .einval
  else .ok ()

/-- The fields read from a header and from what follows it. -/
def v2gtpFields (version inverse : UInt8) (typeValue payloadLength : ℕ) (rest : List UInt8) :
    V2gtp where
  protocolVersion := version
  inverseProtocolVersion := inverse
  payloadType := .ofValue typeValue
  payloadLength := payloadLength
  payload := if 0 < payloadLength then some (rest.take payloadLength) else none

/-- Parse the frame at the start of a buffer (`jpv2g_v2gtp_parse`). -/
def v2gtpParse (iso20 : Bool) : List UInt8 → Except Errno V2gtp
  | version :: inverse :: type₁ :: type₀ :: length₃ :: length₂ :: length₁ :: length₀ :: rest =>
    let payloadLength := readBigEndian [length₃, length₂, length₁, length₀]
    if maxPayloadLength < payloadLength then .error .e2big
    else if rest.length < payloadLength then .error .emsgsize
    else
      let out := v2gtpFields version inverse (readBigEndian [type₁, type₀]) payloadLength rest
      match v2gtpValidate iso20 out with
      | .error e => .error e
      | .ok () => .ok out
  -- shorter than a header
  | _ => .error .emsgsize

/-! ## The payload types -/

/-- Every number is the value of the payload type it stands for. -/
@[simp]
theorem PayloadType.value_ofValue (value : ℕ) : (PayloadType.ofValue value).value = value := by
  rw [PayloadType.ofValue.eq_def]
  split <;> rfl

/-- A supported payload type is recovered from its value. -/
theorem PayloadType.ofValue_value {iso20 : Bool} {payloadType : PayloadType}
    (htype : payloadTypeSupported iso20 payloadType = true) :
    PayloadType.ofValue payloadType.value = payloadType := by
  cases payloadType with
  | other value => exact absurd htype (by simp [payloadTypeSupported])
  | _ => rfl

/-- The value of a supported payload type takes two bytes. -/
theorem PayloadType.value_lt {iso20 : Bool} {payloadType : PayloadType}
    (htype : payloadTypeSupported iso20 payloadType = true) : payloadType.value < 256 ^ 2 := by
  cases payloadType with
  | other value => exact absurd htype (by simp [payloadTypeSupported])
  | _ => decide

/-! ## Frames -/

/-- The fields of the frame that carries a payload. -/
def V2gtp.framed (payloadType : PayloadType) (payload : List UInt8) : V2gtp where
  protocolVersion := v2gtpVersion
  inverseProtocolVersion := 0xFE
  payloadType := payloadType
  payloadLength := payload.length
  payload := if 0 < payload.length then some payload else none

@[simp]
theorem V2gtp.framed_bytes (payloadType : PayloadType) (payload : List UInt8) :
    (V2gtp.framed payloadType payload).bytes = payload := by
  by_cases hpayload : payload = []
  · rw [hpayload]
    rfl
  · have hpos : 0 < payload.length := List.length_pos_iff.mpr hpayload
    rw [V2gtp.bytes, V2gtp.framed, if_pos hpos, Option.getD_some]

/-- A frame passes its checks when its type is supported and its payload is not too long. -/
theorem v2gtpValidate_framed {iso20 : Bool} {payloadType : PayloadType} {payload : List UInt8}
    (htype : payloadTypeSupported iso20 payloadType = true)
    (hlength : payload.length ≤ maxPayloadLength) :
    v2gtpValidate iso20 (V2gtp.framed payloadType payload) = .ok () := by
  have hinverse : ¬(0xFE : UInt8) ≠ v2gtpVersion ^^^ 0xFF := by decide
  have htype' : ¬payloadTypeSupported iso20 payloadType = false := by rw [htype]; decide
  have hlength' : ¬maxPayloadLength < payload.length := by omega
  have hnull : ¬(payload.length = 0 ∧
      (if 0 < payload.length then some payload else none) ≠ none) := by
    rintro ⟨hzero, hpayload⟩
    exact hpayload (if_neg (by omega))
  rw [v2gtpValidate, V2gtp.framed, if_neg (fun h => h rfl), if_neg hinverse, if_neg htype',
    if_neg hlength', if_neg hnull]

/-- What the parser accepts is a frame of a supported type that is not too long. -/
theorem v2gtpValidate_ok {iso20 : Bool} {msg : V2gtp} (h : v2gtpValidate iso20 msg = .ok ()) :
    msg.protocolVersion = v2gtpVersion ∧ msg.inverseProtocolVersion = 0xFE ∧
      payloadTypeSupported iso20 msg.payloadType = true := by
  rw [v2gtpValidate] at h
  split_ifs at h with hversion hinverse htype hlength hnull
  rw [not_not] at hversion hinverse
  refine ⟨hversion, ?_, ?_⟩
  · rw [hinverse, hversion]
    rfl
  · rwa [Bool.not_eq_false] at htype

/-- A frame followed by anything parses to its fields. -/
theorem v2gtpParse_framed {iso20 : Bool} {payloadType : PayloadType} {payload : List UInt8}
    (rest : List UInt8) (htype : payloadTypeSupported iso20 payloadType = true)
    (hlength : payload.length ≤ maxPayloadLength) :
    v2gtpParse iso20 (v2gtpHeader payloadType payload.length ++ payload ++ rest) =
      .ok (V2gtp.framed payloadType payload) := by
  have hfits : payload.length < 256 ^ 4 := by
    rw [maxPayloadLength] at hlength
    omega
  have htypeBytes := readBigEndian_bigEndian (PayloadType.value_lt htype)
  have hlengthBytes := readBigEndian_bigEndian hfits
  -- the parser matches on single bytes, so the header is taken apart into its eight
  obtain ⟨type₁, type₀, htypes⟩ := List.length_eq_two.mp (bigEndian_length 2 payloadType.value)
  obtain ⟨length₃, length₂, length₁, length₀, hlengths⟩ :
      ∃ a b c d, bigEndian 4 payload.length = [a, b, c, d] := ⟨_, _, _, _, rfl⟩
  rw [htypes] at htypeBytes
  rw [hlengths] at hlengthBytes
  have hshort : ¬maxPayloadLength < payload.length := by omega
  have hroom : ¬(payload ++ rest).length < payload.length := by
    rw [List.length_append]
    omega
  have hvalid := v2gtpValidate_framed htype hlength
  have hfields : v2gtpFields 0x01 0xFE payloadType.value payload.length (payload ++ rest) =
      V2gtp.framed payloadType payload := by
    rw [v2gtpFields, PayloadType.ofValue_value htype, List.take_left]
    rfl
  rw [v2gtpHeader, htypes, hlengths]
  simp only [List.cons_append, List.nil_append, v2gtpParse, htypeBytes, hlengthBytes,
    if_neg hshort, if_neg hroom, hfields, hvalid]

/-- The payload is the declared number of bytes, whichever pointer stands for it. -/
theorem v2gtpFields_bytes (version inverse : UInt8) (typeValue payloadLength : ℕ)
    (rest : List UInt8) :
    (v2gtpFields version inverse typeValue payloadLength rest).bytes =
      rest.take payloadLength := by
  rw [V2gtp.bytes, v2gtpFields]
  by_cases hpos : 0 < payloadLength
  · rw [if_pos hpos, Option.getD_some]
  · rw [if_neg hpos, Nat.eq_zero_of_not_pos hpos, List.take_zero]
    rfl

/-- What parses starts with the frame its fields describe. -/
theorem v2gtpParse_ok {iso20 : Bool} {buf : List UInt8} {msg : V2gtp}
    (h : v2gtpParse iso20 buf = .ok msg) :
    payloadTypeSupported iso20 msg.payloadType = true ∧ msg.bytes.length ≤ maxPayloadLength ∧
      ∃ rest, buf = v2gtpHeader msg.payloadType msg.bytes.length ++ msg.bytes ++ rest := by
  rw [v2gtpParse.eq_def] at h
  split at h
  next version inverse type₁ type₀ length₃ length₂ length₁ length₀ rest =>
    have htypes : bigEndian 2 (readBigEndian [type₁, type₀]) = [type₁, type₀] :=
      bigEndian_readBigEndian [type₁, type₀]
    have hlengths : bigEndian 4 (readBigEndian [length₃, length₂, length₁, length₀]) =
        [length₃, length₂, length₁, length₀] :=
      bigEndian_readBigEndian [length₃, length₂, length₁, length₀]
    simp only at h
    generalize readBigEndian [type₁, type₀] = typeValue at h htypes
    generalize readBigEndian [length₃, length₂, length₁, length₀] = payloadLength at h hlengths
    -- too long, cut short, invalid, or accepted
    split at h
    · exact nomatch h
    split at h
    · exact nomatch h
    next hlong hshort =>
      split at h
      · exact nomatch h
      next hvalid =>
        obtain rfl := Except.ok.inj h
        obtain ⟨hversion, hinverse, htype⟩ := v2gtpValidate_ok hvalid
        -- the length check is what makes the payload as long as declared
        have htaken : (rest.take payloadLength).length = payloadLength := by
          rw [List.length_take]
          omega
        have hvalue : (v2gtpFields version inverse typeValue payloadLength rest).payloadType.value =
            typeValue := PayloadType.value_ofValue typeValue
        rw [v2gtpFields] at hversion hinverse
        rw [v2gtpFields_bytes, htaken, v2gtpHeader, hvalue, htypes, hlengths]
        refine ⟨htype, by omega, rest.drop payloadLength, ?_⟩
        rw [List.append_assoc, List.take_append_drop]
        simp only at hversion hinverse
        rw [hversion, hinverse]
        rfl
  · exact nomatch h

/-- **The parser and the builder are inverse to each other.** A payload of a supported type and
at most `maxPayloadLength` bytes is built into any buffer that is large enough, and the frame
parses back to it whatever follows; and what the parser accepts, the builder reproduces. -/
theorem v2gtp_roundTrip (iso20 : Bool) :
    (∀ payloadType payload rest capacity, payloadTypeSupported iso20 payloadType = true →
      payload.length ≤ maxPayloadLength → 8 + payload.length ≤ capacity →
      ∃ frame msg, v2gtpBuild iso20 payloadType payload capacity = .ok frame ∧
        frame.length = 8 + payload.length ∧
        v2gtpParse iso20 (frame ++ rest) = .ok msg ∧ msg.payloadType = payloadType ∧
        msg.payloadLength = payload.length ∧ msg.bytes = payload) ∧
    (∀ buf msg capacity, v2gtpParse iso20 buf = .ok msg → 8 + msg.bytes.length ≤ capacity →
      v2gtpBuild iso20 msg.payloadType msg.bytes capacity =
        .ok (buf.take (8 + msg.bytes.length))) := by
  refine ⟨?_, ?_⟩
  -- a frame that is built parses, whatever comes behind it
  · intro payloadType payload rest capacity htype hlength hroom
    refine ⟨_, _, v2gtpBuild_fits htype hlength hroom, ?_,
      v2gtpParse_framed rest htype hlength, rfl, rfl, V2gtp.framed_bytes payloadType payload⟩
    rw [List.length_append, v2gtpHeader_length]
  -- what has been parsed is built again, byte by byte
  · intro buf msg capacity hparse hroom
    obtain ⟨htype, hlength, rest, rfl⟩ := v2gtpParse_ok hparse
    have hframe : (v2gtpHeader msg.payloadType msg.bytes.length ++ msg.bytes).length =
        8 + msg.bytes.length := by
      rw [List.length_append, v2gtpHeader_length]
    rw [v2gtpBuild_fits htype hlength hroom, ← hframe, List.take_left]

/-- Three bytes of EXI with two more behind them, both ways. -/
theorem v2gtp_roundTrip_witness :
    (∃ frame msg, v2gtpBuild false .exi [0x80, 0x9A, 0x02] 11 = .ok frame ∧
      frame.length = 11 ∧
      v2gtpParse false (frame ++ [0x01, 0xFE]) = .ok msg ∧ msg.payloadType = .exi ∧
      msg.payloadLength = 3 ∧ msg.bytes = [0x80, 0x9A, 0x02]) ∧
    v2gtpBuild false .sdpReq [0x10, 0x00] 10 =
      .ok ([0x01, 0xFE, 0x90, 0x00, 0x00, 0x00, 0x00, 0x02, 0x10, 0x00, 0x77].take 10) :=
  ⟨(v2gtp_roundTrip false).1 .exi [0x80, 0x9A, 0x02] [0x01, 0xFE] 11 rfl (by decide) (by decide),
    (v2gtp_roundTrip false).2 _ (.framed .sdpReq [0x10, 0x00]) 10 (by decide) (by decide)⟩

end Jpv2g
