import Mathlib.Data.List.Basic
import Mathlib.Data.Int.Notation
import Mathlib.Data.Nat.Notation

/-!
# Basic Types

The types every part of the charging-station stack shares: error codes, protocols, message types
and session identifiers.
-/

namespace Jpv2g

/-- The `errno` values the stack returns negated. A return code of `0` is `Except.ok`. -/
inductive Errno where
  | einval | eproto | ebadmsg | eacces | enotsup | eio | etimedout | eagain | eintr
  | econnreset | epipe | e2big | enospc | emsgsize | eprotonosupport | eshutdown | enomem
  /-- No code is returned: the process is killed by an access to a null pointer. -/
  | efault
  /-- Any other error of the transport or of the platform. -/
  | other (code : ℕ)
deriving DecidableEq, Repr

/-- A C return code: `0`, or a negated error. -/
abbrev Rc := Except Errno Unit

/-- The application protocols (`jpv2g_protocol_t`). -/
inductive Protocol where
  | unknown | iso15118_2 | din70121 | iso15118_20_dc
deriving DecidableEq, Repr

/-- The message types (`jpv2g_message_type_t`). -/
inductive MessageType where
  | suppAppProtocolReq | suppAppProtocolRes
  | sessionSetupReq | sessionSetupRes
  | serviceDiscoveryReq | serviceDiscoveryRes
  | serviceDetailReq | serviceDetailRes
  | paymentServiceSelectionReq | paymentServiceSelectionRes
  | paymentDetailsReq | paymentDetailsRes
  | certificateInstallationReq | certificateInstallationRes
  | certificateUpdateReq | certificateUpdateRes
  | authorizationReq | authorizationRes
  | chargeParameterDiscoveryReq | chargeParameterDiscoveryRes
  | cableCheckReq | cableCheckRes
  | powerDeliveryReq | powerDeliveryRes
  | chargingStatusReq | chargingStatusRes
  | currentDemandReq | currentDemandRes
  | meteringReceiptReq | meteringReceiptRes
  | weldingDetectionReq | weldingDetectionRes
  | sessionStopReq | sessionStopRes
  | preChargeReq | preChargeRes
  | unknownMessage
deriving DecidableEq, Repr

/-- A session identifier: exactly eight bytes. -/
abbrev Sid := { bytes : List UInt8 // bytes.length = 8 }

namespace Sid

/-- The all-zero identifier, which stands for "no session". -/
def zero : Sid := ⟨List.replicate 8 0, by simp⟩

/-- Every byte of the identifier is zero (`secc_sid_all_zero`). -/
def allZero (sid : Sid) : Bool := sid.1.all (· == 0)

/-- The only all-zero identifier is `zero`. -/
theorem allZero_iff {sid : Sid} : sid.allZero = true ↔ sid = zero := by
  simp only [allZero, List.all_eq_true, beq_iff_eq]
  constructor
  · intro h
    exact Subtype.ext (List.eq_replicate_iff.mpr ⟨sid.2, h⟩)
  · rintro rfl b hb
    exact List.eq_of_mem_replicate hb

@[simp]
theorem allZero_zero : zero.allZero = true := allZero_iff.mpr rfl

theorem allZero_eq_false_iff {sid : Sid} : sid.allZero = false ↔ sid ≠ zero := by
  rw [Ne, ← allZero_iff, Bool.not_eq_true]

/-- The identifier with the given bytes, when there are exactly eight of them. -/
def ofBytes? (bytes : List UInt8) : Option Sid :=
  if h : bytes.length = 8 then some ⟨bytes, h⟩ else none

@[simp]
theorem ofBytes?_val (sid : Sid) : ofBytes? sid.1 = some sid := by
  simp [ofBytes?, sid.2]

theorem ofBytes?_eq_some {bytes : List UInt8} {sid : Sid} :
    ofBytes? bytes = some sid ↔ bytes = sid.1 := by
  constructor
  · intro h
    unfold ofBytes? at h
    split at h
    · exact congrArg Subtype.val (Option.some.inj h)
    · cases h
  · rintro rfl
    exact ofBytes?_val sid

end Sid

end Jpv2g
