import Jpv2g.AppHand.RoundTrip
import Jpv2g.Cbv2g.Common

/-!
# The Handshake Calls of the Codec

What `cbv2g_codec.c` makes of the handshake documents: the request of a vehicle, the response of a
station, and how either side reads what it has received.

## Main definitions

* `encodeSappReq`, `decodeSappReq`: the request.
* `encodeSappRes`, `decodeSappRes`: the response.

## Main results

* `AppHand.ExiDocument.contents_encodeSappRes`: the document encoded is the one that the members
  of the workspace describe.
* `decodeSappReq_encodeSappReq`: the offer of a vehicle is read as it was made.
* `decodeSappReq_packBits`, `decodeSappRes_packBits`: what was sent is read.
-/

namespace Jpv2g

/-- The document of a vehicle with one offer, the namespace cut to the characters that the decoder
has room for. -/
def sappReqDocument (ns : List Char) (verMajor verMinor : UInt32) (schemaId priority : UInt8) :
    AppHandExiDocument :=
  .supportedAppProtocolReq
    [{ protocolNamespace := ns.take (protocolNamespaceCharacterSize - 1)
       versionNumberMajor := verMajor
       versionNumberMinor := verMinor
       schemaId
       priority }]

/-- `jpv2g_cbv2g_encode_sapp_req`, for the characters of the string in front of its terminator. -/
def encodeSappReq (ns : List Char) (verMajor verMinor : UInt32) (schemaId priority : UInt8)
    (memory : ℕ → UInt8) (outLen : ℕ) : Except Errno (List UInt8) :=
  exiEncode (encodeAppHandExiDocument (sappReqDocument ns verMajor verMinor schemaId priority))
    memory outLen

/-- The offers of a received supportedAppProtocolReq (the first decoder of
`jpv2g_secc_handle_stream_obs`). -/
def decodeSappReq (stale : UInt8) (payload : List UInt8) : Option (List AppProtocol) :=
  match exiDecode decodeAppHandExiDocument payload stale with
  | .ok (.supportedAppProtocolReq offers) => some offers
  | .ok (.supportedAppProtocolRes _) | .error _ => none

/-- The document of a response. -/
def sappResDocument (schemaId : UInt8) (code : AppResponseCode) : AppHandExiDocument :=
  .supportedAppProtocolRes
    { responseCode := code.code.toNat
      -- a refusal names no schema
      schemaId := if code ≠ .failedNoNegotiation then some schemaId else none }

/-- `jpv2g_cbv2g_encode_sapp_res`. -/
def encodeSappRes (schemaId : UInt8) (code : AppResponseCode) (memory : ℕ → UInt8) (outLen : ℕ) :
    Except Errno (List UInt8) :=
  exiEncode (encodeAppHandExiDocument (sappResDocument schemaId code)) memory outLen

/-- `jpv2g_cbv2g_decode_sapp_res`; there is no payload behind the null pointer. -/
def decodeSappRes (stale : UInt8) (payload : Option (List UInt8)) :
    Except Errno SupportedAppProtocolRes :=
  match payload with
  | none => .error .einval
  | some bytes =>
    match exiDecode decodeAppHandExiDocument bytes stale with
    | .error _ => .error .eio
    | .ok (.supportedAppProtocolReq _) => .error .ebadmsg
    | .ok (.supportedAppProtocolRes res) => .ok res

/-- The document that the members of the structure describe; a request is not looked into. -/
def AppHand.ExiDocument.contents (doc : AppHand.ExiDocument) : Option AppHandExiDocument :=
  if doc.supportedAppProtocolReq.isUsed then none
  else if doc.supportedAppProtocolRes.isUsed then
    let res := doc.supportedAppProtocolRes.value
    some (.supportedAppProtocolRes
      { responseCode := res.responseCode.toNat
        schemaId := if res.schemaId.isUsed then some (UInt8.ofNat res.schemaId.value.toNat)
          else none })
  else none

/-- Whatever the workspace held before, its members describe the document of the response. -/
theorem AppHand.ExiDocument.contents_encodeSappRes (doc : AppHand.ExiDocument) (schemaId : UInt8)
    (code : AppResponseCode) :
    (AppHand.encodeSappRes doc schemaId code).contents = some (sappResDocument schemaId code) := by
  by_cases hcode : code = .failedNoNegotiation
  · subst hcode
    simp [AppHand.encodeSappRes, contents, sappResDocument, CStruct.Member.store,
      CStruct.Member.clear]
  · simp [AppHand.encodeSappRes, contents, sappResDocument, CStruct.Member.store,
      CStruct.Member.clear, hcode]

/-! ## What was sent is read -/

/-- The offers that a vehicle has sent are read as their bits carry them. -/
theorem decodeSappReq_packBits {offers : List AppProtocol}
    (h : (AppHandExiDocument.supportedAppProtocolReq offers).Transmittable) (stale : UInt8) :
    decodeSappReq stale (packBits (AppHandExiDocument.supportedAppProtocolReq offers).form) =
      some (offers.map AppProtocol.onWire) := by
  have hread := exiDecode_appHand h [] stale
  rw [List.append_nil] at hread
  rw [decodeSappReq, hread]
  rfl

/-- The offer of a vehicle that makes one fits into 120 bytes, and is read with its namespace cut to
the characters that the decoder has room for. -/
theorem decodeSappReq_encodeSappReq {ns : List Char} (hascii : ExiBasetypes.Ascii ns)
    (verMajor verMinor : UInt32) (schemaId priority : UInt8) (memory : ℕ → UInt8) {outLen : ℕ}
    (hroom : 120 ≤ outLen) (stale : UInt8) :
    ∃ payload, encodeSappReq ns verMajor verMinor schemaId priority memory outLen = .ok payload ∧
      decodeSappReq stale payload =
        some [AppProtocol.onWire
          { protocolNamespace := ns.take (protocolNamespaceCharacterSize - 1)
            versionNumberMajor := verMajor
            versionNumberMinor := verMinor
            schemaId
            priority }] := by
  obtain ⟨ap, hap⟩ : ∃ ap : AppProtocol, ap =
      { protocolNamespace := ns.take (protocolNamespaceCharacterSize - 1)
        versionNumberMajor := verMajor
        versionNumberMinor := verMinor
        schemaId
        priority } := ⟨_, rfl⟩
  have hoffer : ap.Transmittable := by
    rw [hap]
    refine ⟨?_, fun c hc => hascii c (List.mem_of_mem_take hc)⟩
    rw [List.length_take, protocolNamespaceCharacterSize]
    omega
  -- the one offer is encodable once its namespace is cut to the array
  have htransmittable : (AppHandExiDocument.supportedAppProtocolReq [ap]).Transmittable :=
    ⟨⟨List.cons_ne_nil _ _, by simp [appProtocolArraySize]⟩, by simpa using hoffer⟩
  -- and the request is short enough for the buffer
  have hlength : (AppHandExiDocument.supportedAppProtocolReq [ap]).form.length ≤ 938 := by
    have hform := ap.form_length_le hoffer
    simp only [AppHandExiDocument.form, supportedAppProtocolReqForm, offersForm,
      List.length_append, bitsOf_length]
    omega
  have hencode : encodeSappReq ns verMajor verMinor schemaId priority memory outLen =
      .ok (packBits (AppHandExiDocument.supportedAppProtocolReq [ap]).form) := by
    rw [encodeSappReq, sappReqDocument, ← hap, exiEncode_appHand,
      if_pos ⟨htransmittable.encodable, hlength.trans (by omega)⟩]
  rw [← hap]
  exact ⟨_, hencode, decodeSappReq_packBits htransmittable stale⟩

theorem sappResDocument_length_le (schemaId : UInt8) (code : AppResponseCode) :
    (sappResDocument schemaId code).form.length ≤ 28 := by
  simp only [sappResDocument, AppHandExiDocument.form, SupportedAppProtocolRes.form,
    List.length_append, elementForm_length, bitsOf_length]
  split_ifs <;> simp

/-- A response takes one to four bytes. -/
theorem packBits_sappRes_length (schemaId : UInt8) (code : AppResponseCode) :
    0 < (packBits (sappResDocument schemaId code).form).length ∧
      (packBits (sappResDocument schemaId code).form).length ≤ 4 := by
  have hlength := sappResDocument_length_le schemaId code
  have hpos : 0 < (sappResDocument schemaId code).form.length := by
    simp [sappResDocument, AppHandExiDocument.form]
  rw [packBits_length]
  omega

/-- A response fits into every buffer the stack uses. -/
theorem encodeSappRes_eq (schemaId : UInt8) (code : AppResponseCode) (memory : ℕ → UInt8)
    {outLen : ℕ} (h : 3 ≤ outLen) :
    encodeSappRes schemaId code memory outLen =
      .ok (packBits (sappResDocument schemaId code).form) := by
  have hlength := sappResDocument_length_le schemaId code
  have hencode := exiEncode_appHand (sappResDocument schemaId code) memory outLen
  rw [encodeSappRes, hencode, if_pos ⟨trivial, by omega⟩]

theorem code_toNat_lt (code : AppResponseCode) : code.code.toNat < 4 := by
  cases code <;> decide

/-- The response that a station has sent is read. -/
theorem decodeSappRes_packBits (schemaId : UInt8) (code : AppResponseCode) (stale : UInt8) :
    decodeSappRes stale (some (packBits (sappResDocument schemaId code).form)) =
      .ok { responseCode := code.code.toNat
            schemaId := if code ≠ .failedNoNegotiation then some schemaId else none } := by
  have htransmittable : (sappResDocument schemaId code).Transmittable := trivial
  have hread := exiDecode_appHand htransmittable [] stale
  rw [List.append_nil] at hread
  have hcode := Nat.mod_eq_of_lt (code_toNat_lt code)
  rw [decodeSappRes, hread]
  simp only [sappResDocument, AppHandExiDocument.onWire, hcode]

end Jpv2g
