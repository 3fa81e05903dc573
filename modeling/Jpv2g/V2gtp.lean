import Jpv2g.Basic
import Jpv2g.ToMathlib.BigEndian

/-!
# V2GTP Frames

The payload types of the transport framing and the construction of a frame (`v2gtp.c`).
-/

namespace Jpv2g

/-- The payload types of a V2GTP frame (`jpv2g_payload_type_t`). -/
inductive PayloadType where
  | exi | exi20Mainstream | exi20Dc | sdpReq | sdpRes
  /-- Any other sixteen-bit value. -/
  | other (value : ℕ)
deriving DecidableEq, Repr

/-- The numeric value of a payload type. -/
def PayloadType.value : PayloadType → ℕ
  | .exi => 0x8001
  | .exi20Mainstream => 0x8002
  | .exi20Dc => 0x8004
  | .sdpReq => 0x9000
  | .sdpRes => 0x9001
  | .other value => value

/-- The payload type is one this build frames (`jpv2g_payload_type_supported`). -/
def payloadTypeSupported (iso20 : Bool) : PayloadType → Bool
  | .exi | .sdpReq | .sdpRes => true
  | .exi20Mainstream | .exi20Dc => iso20
  | .other _ => false

/-- A received frame that has been parsed (`jpv2g_v2gtp_t`). -/
structure V2gtpMsg where
  payloadType : PayloadType
  payload : List UInt8
deriving DecidableEq, Repr

/-- `JPV2G_MAX_PAYLOAD_LENGTH`. -/
def maxPayloadLength : ℕ := 4096

/-- The eight-byte header of a frame. -/
def v2gtpHeader (payloadType : PayloadType) (payloadLength : ℕ) : List UInt8 :=
  -- the version byte and its complement come first
  [0x01, 0xFE] ++ bigEndian 2 payloadType.value ++ bigEndian 4 payloadLength

/-- Frame a payload into a buffer of the given capacity (`jpv2g_v2gtp_build`). -/
def v2gtpBuild (iso20 : Bool) (payloadType : PayloadType) (payload : List UInt8)
    (capacity : ℕ) : Except Errno (List UInt8) :=
  if payloadTypeSupported iso20 payloadType = false then .error .enotsup
  else if maxPayloadLength < payload.length then .error .e2big
  else if capacity < 8 + payload.length then .error .enospc
  else .ok (v2gtpHeader payloadType payload.length ++ payload)

/-- A header is eight bytes long. -/
@[simp]
theorem v2gtpHeader_length (payloadType : PayloadType) (payloadLength : ℕ) :
    (v2gtpHeader payloadType payloadLength).length = 8 := by
  simp [v2gtpHeader]

/-- A payload is framed whenever its type is supported and the frame fits. -/
theorem v2gtpBuild_fits {iso20 : Bool} {payloadType : PayloadType} {payload : List UInt8}
    {capacity : ℕ} (htype : payloadTypeSupported iso20 payloadType = true)
    (hlength : payload.length ≤ maxPayloadLength) (hroom : 8 + payload.length ≤ capacity) :
    v2gtpBuild iso20 payloadType payload capacity =
      .ok (v2gtpHeader payloadType payload.length ++ payload) := by
  have hfits : ¬maxPayloadLength < payload.length := by omega
  have hspace : ¬capacity < 8 + payload.length := by omega
  simp [v2gtpBuild, htype, hfits, hspace]

/-- A payload the receive buffer could hold is framed whenever its type is supported. -/
theorem v2gtpBuild_ok {iso20 : Bool} {payloadType : PayloadType} {payload : List UInt8}
    (htype : payloadTypeSupported iso20 payloadType = true)
    (hlength : payload.length ≤ maxPayloadLength) :
    v2gtpBuild iso20 payloadType payload (8 + maxPayloadLength) =
      .ok (v2gtpHeader payloadType payload.length ++ payload) := by
  apply v2gtpBuild_fits htype hlength
  omega

end Jpv2g
