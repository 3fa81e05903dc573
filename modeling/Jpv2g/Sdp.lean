import Jpv2g.Config
import Jpv2g.V2gtp.Parse
import Mathlib.Data.UInt

/-!
# The SECC Discovery Protocol

The messages of the SECC Discovery Protocol (`sdp.c`), the datagrams that carry them, and what the
firmware of the station answers to a datagram (`service_sdp_once`).

## Main definitions

* `SdpReq`, `SdpRes`, with `sdpReqEncode`, `sdpReqDecode`, `sdpResEncode`, `sdpResDecode`.
* `serviceSdpOnce`: the answer of the station.
* `SdpRes.datagram`: the datagram of a response.

## Main results

* `sdpResDecode_iff`: what the decoder makes a response of.
* `serviceSdpOnce_iff`: which datagrams the station answers, and how.
-/

namespace Jpv2g

/-! ## The messages -/

/-- An IPv6 address. -/
abbrev Ip6 := { bytes : List UInt8 // bytes.length = 16 }

/-- A discovery request (`jpv2g_sdp_req_t`). -/
structure SdpReq where
  security : UInt8
  transportProtocol : UInt8
deriving DecidableEq, Repr

/-- A discovery response (`jpv2g_sdp_res_t`). -/
structure SdpRes where
  seccIp : Ip6
  seccPort : UInt16
  security : UInt8
  transportProtocol : UInt8
deriving DecidableEq, Repr

/-- `JPV2G_SECURITY_WITH_TLS`. -/
def securityWithTls : UInt8 := 0x00

/-- `JPV2G_SECURITY_WITHOUT_TLS`. -/
def securityWithoutTls : UInt8 := 0x10

/-- `JPV2G_TRANSPORT_TCP`. -/
def transportTcp : UInt8 := 0x00

/-- Write a request to a buffer of `outLen` bytes (`jpv2g_sdp_req_encode`). -/
def sdpReqEncode (req : SdpReq) (outLen : ℕ) : Except Errno (List UInt8) :=
  if outLen < 2 then .error .enospc
  else .ok [req.security, req.transportProtocol]

/-- Read a request, `none` being the null pointer (`jpv2g_sdp_req_decode`). -/
def sdpReqDecode : Option (List UInt8) → Except Errno SdpReq
  | none => .error .einval
  | some (security :: transportProtocol :: _) => .ok { security, transportProtocol }
  | some _ => .error .emsgsize

/-- The bytes of a response. -/
def SdpRes.bytes (res : SdpRes) : List UInt8 :=
  res.seccIp.1 ++ bigEndian 2 res.seccPort.toNat ++ [res.security, res.transportProtocol]

/-- Write a response to a buffer of `outLen` bytes (`jpv2g_sdp_res_encode`). -/
def sdpResEncode (res : SdpRes) (outLen : ℕ) : Except Errno (List UInt8) :=
  if outLen < 20 then .error .enospc
  else .ok res.bytes

/-- Read a response, `none` being the null pointer (`jpv2g_sdp_res_decode`). -/
def sdpResDecode : Option (List UInt8) → Except Errno SdpRes
  | none => .error .einval
  | some buf =>
    if h : 20 ≤ buf.length then
      .ok {
        seccIp := ⟨buf.take 16, List.length_take_of_le (Nat.le_trans (by decide) h)⟩
        seccPort := UInt16.ofNat (readBigEndian ((buf.drop 16).take 2))
        security := buf.get ⟨18, Nat.lt_of_lt_of_le (by decide) h⟩
        transportProtocol := buf.get ⟨19, Nat.lt_of_lt_of_le (by decide) h⟩ }
    else .error .emsgsize

/-! ## The station -/

/-- The response of a station under an address. -/
def stationSdpRes (cfg : Config.SeccConfig) (seccIp : Ip6) : SdpRes where
  seccIp := seccIp
  seccPort := UInt16.ofInt cfg.tcpPort
  security := if cfg.useTls then securityWithTls else securityWithoutTls
  transportProtocol := transportTcp

/-- What the station sends back for what it has received (`service_sdp_once`). -/
def serviceSdpOnce (iso20 : Bool) (cfg : Config.SeccConfig) (seccIp : Ip6)
    (received : Except Errno (List UInt8)) : Option (List UInt8) := do
  let datagram ← received.toOption
  guard (datagram ≠ [])
  let msg ← (v2gtpParse iso20 datagram).toOption
  guard (msg.payloadType = .sdpReq)
  let req ← (sdpReqDecode msg.payload).toOption
  guard (req.transportProtocol = transportTcp)
  let payload ← (sdpResEncode (stationSdpRes cfg seccIp) 32).toOption
  (v2gtpBuild iso20 .sdpRes payload 64).toOption

/-! ## Reading back -/

@[simp]
theorem SdpRes.bytes_length (res : SdpRes) : res.bytes.length = 20 := by
  simp [bytes, res.seccIp.2]

/-- What is read as a response begins with the bytes of that response. -/
theorem sdpResDecode_iff {payload : Option (List UInt8)} {res : SdpRes} :
    sdpResDecode payload = .ok res ↔ ∃ rest, payload = some (res.bytes ++ rest) := by
  constructor
  · intro h
    cases payload with
    | none => cases h
    | some buf =>
      rw [sdpResDecode] at h
      split_ifs at h with hlength
      obtain rfl := Except.ok.inj h
      refine ⟨buf.drop 20, congrArg some ?_⟩
      have hport : bigEndian 2
          (UInt16.ofNat (readBigEndian ((buf.drop 16).take 2))).toNat = (buf.drop 16).take 2 := by
        have hread := readBigEndian_lt ((buf.drop 16).take 2)
        have hback := bigEndian_readBigEndian ((buf.drop 16).take 2)
        have htwo : ((buf.drop 16).take 2).length = 2 := by
          rw [List.length_take, List.length_drop]
          omega
        rw [htwo] at hread hback
        rwa [UInt16.toNat_ofNat', Nat.mod_eq_of_lt (show _ < 2 ^ 16 from hread)]
      -- the four parts of the response, one behind the other
      have hlast : buf.drop 18 = [buf[18], buf[19]] ++ buf.drop 20 := by
        rw [List.drop_eq_getElem_cons (show 18 < buf.length by omega),
          List.drop_eq_getElem_cons (show 19 < buf.length by omega)]
        rfl
      have hmiddle : (buf.drop 16).take 2 ++ buf.drop 18 = buf.drop 16 := by
        have hsplit := List.take_append_drop 2 (buf.drop 16)
        rwa [List.drop_drop] at hsplit
      dsimp only [SdpRes.bytes, List.get_eq_getElem]
      rw [hport, List.append_assoc, List.append_assoc, ← hlast, hmiddle, List.take_append_drop]
  · rintro ⟨rest, rfl⟩
    have hlength : 20 ≤ (res.bytes ++ rest).length := by
      rw [List.length_append, SdpRes.bytes_length]
      omega
    have hip : (res.bytes ++ rest).take 16 = res.seccIp.1 := by
      rw [SdpRes.bytes, List.append_assoc, List.append_assoc,
        List.take_left' res.seccIp.2]
    have hdrop : (res.bytes ++ rest).drop 16 =
        bigEndian 2 res.seccPort.toNat ++ ([res.security, res.transportProtocol] ++ rest) := by
      rw [SdpRes.bytes, List.append_assoc, List.append_assoc,
        List.drop_left' res.seccIp.2]
    have hport : UInt16.ofNat (readBigEndian (((res.bytes ++ rest).drop 16).take 2)) =
        res.seccPort := by
      rw [hdrop, List.take_left' (bigEndian_length 2 _),
        readBigEndian_bigEndian res.seccPort.toNat_lt, UInt16.ofNat_toNat]
    have hlast : (res.bytes ++ rest).drop 18 = res.security :: res.transportProtocol :: rest := by
      have hrest : (res.bytes ++ rest).drop (16 + 2) = ((res.bytes ++ rest).drop 16).drop 2 := by
        rw [List.drop_drop]
      rw [hrest, hdrop, List.drop_left' (bigEndian_length 2 _)]
      rfl
    have hsecurity : (res.bytes ++ rest)[18] = res.security := by
      have hget : ((res.bytes ++ rest).drop 18)[0]? = some res.security := by rw [hlast]; rfl
      rw [List.getElem?_drop] at hget
      exact List.getElem_eq_iff _ |>.mpr hget
    have htransport : (res.bytes ++ rest)[19] = res.transportProtocol := by
      have hget : ((res.bytes ++ rest).drop 18)[1]? = some res.transportProtocol := by
        rw [hlast]
        rfl
      rw [List.getElem?_drop] at hget
      exact List.getElem_eq_iff _ |>.mpr hget
    rw [sdpResDecode, dif_pos hlength]
    simp only [List.get_eq_getElem, hip, hport, hsecurity, htransport]

/-- What is read as a request begins with its two bytes. -/
theorem sdpReqDecode_iff {payload : Option (List UInt8)} {req : SdpReq} :
    sdpReqDecode payload = .ok req ↔
      ∃ rest, payload = some (req.security :: req.transportProtocol :: rest) := by
  constructor
  · intro h
    match payload with
    | none => cases h
    | some [] => cases h
    | some [_] => cases h
    | some (security :: transportProtocol :: rest) =>
      obtain rfl := Except.ok.inj h
      exact ⟨rest, rfl⟩
  · rintro ⟨rest, rfl⟩
    rfl

/-! ## Datagrams -/

/-- The datagram of a request. -/
def SdpReq.datagram (req : SdpReq) : List UInt8 :=
  v2gtpHeader .sdpReq 2 ++ [req.security, req.transportProtocol]

/-- The datagram of a response. -/
def SdpRes.datagram (res : SdpRes) : List UInt8 := v2gtpHeader .sdpRes 20 ++ res.bytes

/-- The frame of a payload that is not empty, at the start of a datagram. -/
theorem v2gtpParse_payload_iff {iso20 : Bool} {payloadType : PayloadType}
    {datagram payload : List UInt8} (htype : payloadTypeSupported iso20 payloadType = true)
    (hne : payload ≠ []) :
    (∃ msg, v2gtpParse iso20 datagram = .ok msg ∧ msg.payloadType = payloadType ∧
        msg.payload = some payload) ↔
      payload.length ≤ maxPayloadLength ∧
        ∃ rest, datagram = v2gtpHeader payloadType payload.length ++ payload ++ rest := by
  constructor
  · rintro ⟨msg, hparse, rfl, hpayload⟩
    obtain ⟨-, hlength, rest, hdatagram⟩ := v2gtpParse_ok hparse
    have hbytes : msg.bytes = payload := by rw [V2gtp.bytes, hpayload, Option.getD_some]
    rw [hbytes] at hlength hdatagram
    exact ⟨hlength, rest, hdatagram⟩
  · rintro ⟨hlength, rest, rfl⟩
    exact ⟨_, v2gtpParse_framed rest htype hlength, rfl,
      if_pos (List.length_pos_iff.mpr hne)⟩

theorem toOption_eq_some {α : Type} {result : Except Errno α} {a : α} :
    result.toOption = some a ↔ result = .ok a := by
  cases result <;> simp [Except.toOption]

/-- The station answers the datagrams that begin with a request for TCP, whatever security it is
for, with its own response. -/
theorem serviceSdpOnce_iff {iso20 : Bool} {cfg : Config.SeccConfig} {seccIp : Ip6}
    {received : Except Errno (List UInt8)} {answer : List UInt8} :
    serviceSdpOnce iso20 cfg seccIp received = some answer ↔
      answer = (stationSdpRes cfg seccIp).datagram ∧
        ∃ security more rest, more.length + 2 ≤ maxPayloadLength ∧
          received = .ok (v2gtpHeader .sdpReq (more.length + 2) ++
            security :: transportTcp :: more ++ rest) := by
  have hpayload : sdpResEncode (stationSdpRes cfg seccIp) 32 =
      .ok (stationSdpRes cfg seccIp).bytes := if_neg (by decide)
  -- the answer always fits into its buffers
  have hframe : v2gtpBuild iso20 .sdpRes (stationSdpRes cfg seccIp).bytes 64 =
      .ok (stationSdpRes cfg seccIp).datagram := by
    rw [SdpRes.datagram, ← (stationSdpRes cfg seccIp).bytes_length]
    exact v2gtpBuild_fits rfl (by rw [SdpRes.bytes_length]; decide)
      (by rw [SdpRes.bytes_length]; decide)
  simp only [serviceSdpOnce, Option.bind_eq_bind, Option.bind_eq_some_iff, Option.guard_eq_some',
    toOption_eq_some, hpayload, Except.ok.injEq]
  constructor
  -- from the answer back through the guards to the datagram
  · rintro ⟨datagram, rfl, -, -, msg, hparse, -, htype, req, hreq, -, htcp, payload, rfl, hbuild⟩
    obtain ⟨more, hmore⟩ := sdpReqDecode_iff.mp hreq
    obtain ⟨hlength, rest, hdatagram⟩ := (v2gtpParse_payload_iff rfl (List.cons_ne_nil _ _)).mp
      ⟨msg, hparse, htype, hmore⟩
    rw [htcp] at hdatagram
    rw [hframe] at hbuild
    exact ⟨(Except.ok.inj hbuild).symm, req.security, more, rest, hlength, congrArg _ hdatagram⟩
  -- and forth: the datagram passes them all
  · rintro ⟨rfl, security, more, rest, hlength, rfl⟩
    obtain ⟨msg, hparse, htype, hmore⟩ :=
      (@v2gtpParse_payload_iff iso20 .sdpReq _ (security :: transportTcp :: more) rfl
        (List.cons_ne_nil _ _)).mpr ⟨hlength, rest, rfl⟩
    have hreq : sdpReqDecode msg.payload = .ok ⟨security, transportTcp⟩ :=
      sdpReqDecode_iff.mpr ⟨more, hmore⟩
    have hne : v2gtpHeader .sdpReq (more.length + 2) ++ security :: transportTcp :: more ++ rest ≠
        [] := by simp [v2gtpHeader]
    exact ⟨_, rfl, (), hne, msg, hparse, (), htype, _, hreq, (), rfl, _, rfl, hframe⟩

end Jpv2g
