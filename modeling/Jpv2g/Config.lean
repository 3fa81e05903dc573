import Jpv2g.Basic
import Mathlib.Data.List.TakeWhile

/-!
# Configuration Records

The configuration of either party (`config.h`) and its defaults (`config.c`). An array of `char`
stands for the string that it holds: the defaults clear the record, and no later write reaches the
last byte of an array.

## Main definitions

* `CText size`: the string in an array of `size` bytes.
* `EvccConfig`, `SeccConfig`: the two records.
* `evccConfigDefault`, `seccConfigDefault`: their defaults on a platform.
-/

namespace Jpv2g.Config

/-- The bytes of a string constant. -/
def bytes (s : String) : List UInt8 := s.toUTF8.data.toList

/-- A string in an array of `size` bytes, the last of which is zero. -/
@[ext]
structure CText (size : ℕ) where
  bytes : List UInt8
  length_le : bytes.length ≤ size - 1
  zero_notMem : 0 ∉ bytes
deriving DecidableEq

/-- `strncpy(dst, src, size - 1)` on an array of which the last byte is zero, and `snprintf` of the
same text: what does not fit is cut off. -/
def CText.strncpy (size : ℕ) (src : List UInt8) : CText size where
  bytes := (src.takeWhile (· ≠ 0)).take (size - 1)
  length_le := List.length_take_le _ _
  zero_notMem h := by simpa using List.mem_takeWhile_imp (List.mem_of_mem_take h)

/-- The text of a cleared array. -/
def CText.empty (size : ℕ) : CText size := .strncpy size []

/-- What the defaults take from the platform. -/
structure Platform where
  /-- `jpv2g_if_nametoindex`, zero for an interface that does not exist. -/
  ifNameToIndex : List UInt8 → ℕ
  /-- `JPV2G_PKI_BASE`. -/
  pkiBase : List UInt8
  /-- The build is for an ESP32. -/
  esp32 : Bool

/-- `jpv2g_iface_select`: the name of the first interface that exists, else the preferred one. -/
def ifaceSelect (platform : Platform) (preferred : Option (List UInt8)) : CText 32 :=
  let candidate := preferred.filter (· ≠ [])
  let names := candidate.toList ++ [bytes "pl0", bytes "eth0", bytes "en0", bytes "st1"]
  match names.find? (platform.ifNameToIndex · ≠ 0) with
  | some name => .strncpy 32 name
  | none => .strncpy 32 (candidate.getD [])

/-- The interface of both defaults. -/
def defaultInterface (platform : Platform) : CText 32 :=
  let name := ifaceSelect platform none
  if platform.esp32 ∧ name = .empty 32 then ifaceSelect platform (some (bytes "pl0")) else name

/-- `set_pki_path`. -/
def setPkiPath (platform : Platform) (leaf : List UInt8) : CText 256 :=
  if platform.pkiBase.getLast? = some '/'.toUInt8 then .strncpy 256 (platform.pkiBase ++ leaf)
  else .strncpy 256 (platform.pkiBase ++ '/'.toUInt8 :: leaf)

/-- The configuration of a vehicle (`jpv2g_evcc_config_t`). -/
@[ext]
structure EvccConfig where
  networkInterface : CText 32
  useTls : Bool
  sessionIdHex : CText 32
  authMode : CText 32
  energyMode : CText 128
  contractCertUpdateDays : ℤ
  tlsPort : ℤ
  tcpPort : ℤ
  tlsCertPath : CText 256
  tlsKeyPath : CText 256
  tlsCaPath : CText 256
deriving DecidableEq

/-- The configuration of a charging station (`jpv2g_secc_config_t`), without the credentials in
memory, which no text sets. -/
@[ext]
structure SeccConfig where
  networkInterface : CText 32
  freeCharging : Bool
  privateEnvironment : Bool
  useTls : Bool
  supportedAuthModes : CText 32
  supportedEnergyModes : CText 128
  tlsPort : ℤ
  tcpPort : ℤ
  tlsCertPath : CText 256
  tlsKeyPath : CText 256
  tlsCaPath : CText 256
deriving DecidableEq

/-- `jpv2g_evcc_config_default`. -/
def evccConfigDefault (platform : Platform) : EvccConfig where
  networkInterface := defaultInterface platform
  useTls := false
  sessionIdHex := .strncpy 32 (bytes "00")
  authMode := .strncpy 32 (bytes "Contract")
  energyMode := .strncpy 128 (bytes "AC_three_phase_core")
  contractCertUpdateDays := 14
  tlsPort := 15118
  tcpPort := 15118
  tlsCertPath := setPkiPath platform (bytes "evcc_client.fullchain.crt.pem")
  tlsKeyPath := setPkiPath platform (bytes "evcc_client.key.pem")
  tlsCaPath := setPkiPath platform (bytes "trust_evcc_ca.pem")

/-- `jpv2g_secc_config_default`. -/
def seccConfigDefault (platform : Platform) : SeccConfig where
  networkInterface := defaultInterface platform
  freeCharging := false
  privateEnvironment := false
  useTls := true
  supportedAuthModes := .strncpy 32 (bytes "Contract,ExternalPayment")
  supportedEnergyModes := .strncpy 128
    (bytes "AC_three_phase_core,AC_single_phase_core,DC_core,DC_extended,DC_combo_core")
  tlsPort := 15118
  tcpPort := 15118
  tlsCertPath := setPkiPath platform (bytes "secc_chain.crt.pem")
  tlsKeyPath := setPkiPath platform (bytes "secc_leaf.key.pem")
  tlsCaPath := setPkiPath platform (bytes "trust_v2g_roots.pem")

end Jpv2g.Config
