import Jpv2g.Secc
import Mathlib.Data.List.DropRight

/-!
# Energy Transfer Modes

The scan of the configured energy transfer modes and what it decides: the modes offered, the
modes accepted, and the DIN offer a session is bound to (`secc.c`).
-/

namespace Jpv2g

/-- A blank or a tab. -/
def isBlank (c : Char) : Bool :=
  c == ' ' || c == '\t'

/-- A character skipped between two modes. -/
def isModeSeparator (c : Char) : Bool :=
  c == ',' || isBlank c

/-- Scan the rest of the mode list for `mode`; every iteration consumes a character, so the
length of the list is fuel enough. -/
def scanEnergyModes (mode : List Char) : ℕ → List Char → Bool
  | 0, _ => false
  | fuel + 1, cursor =>
    -- one entry of the list: skip the separators, read up to the comma, trim the blanks
    if cursor = [] then false
    else if ((cursor.dropWhile isModeSeparator).takeWhile (· != ',')).rdropWhile isBlank = mode then
      true
    else scanEnergyModes mode fuel ((cursor.dropWhile isModeSeparator).dropWhile (· != ','))

/-- The mode is configured (`secc_config_has_energy_mode`). -/
def Secc.configHasEnergyMode (secc : Secc) (mode : List Char) : Bool :=
  mode ≠ [] &&
    scanEnergyModes mode secc.cfg.supportedEnergyModes.length secc.cfg.supportedEnergyModes

/-- The name a DC mode is configured under. -/
def dcCoreName : List Char := "DC_core".toList
/-- The name that DC_extended is configured under. -/
def dcExtendedName : List Char := "DC_extended".toList
/-- The name that DC_combo_core is configured under. -/
def dcComboCoreName : List Char := "DC_combo_core".toList
/-- The name that DC_unique is configured under. -/
def dcUniqueName : List Char := "DC_unique".toList

/-- Some DC mode is configured (`secc_config_has_any_dc_mode`). -/
def Secc.configHasAnyDcMode (secc : Secc) : Bool :=
  secc.configHasEnergyMode dcCoreName || secc.configHasEnergyMode dcExtendedName ||
    secc.configHasEnergyMode dcComboCoreName || secc.configHasEnergyMode dcUniqueName

/-- The mode offered when none is configured (`secc_select_iso_etm`). -/
def Secc.selectIsoEtm (secc : Secc) : EnergyTransferMode :=
  if secc.configHasEnergyMode dcCoreName then .dcCore
  else if secc.configHasEnergyMode dcExtendedName then .dcExtended
  else if secc.configHasEnergyMode dcComboCoreName then .dcComboCore
  else .dcCore

/-- The single mode of a DIN ServiceDiscoveryRes (`secc_resolve_din_etm`). -/
def Secc.resolveDinEtm (secc : Secc) : Option EnergyTransferMode :=
  -- DIN permits one mode; the extended pins of a CCS charger are preferred
  if secc.configHasEnergyMode dcExtendedName then some .dcExtended
  else if secc.configHasEnergyMode dcCoreName then some .dcCore
  else none

/-- The mode is accepted in an ISO ChargeParameterDiscoveryReq (`secc_iso_etm_supported`). -/
def Secc.isoEtmSupported (secc : Secc) : EnergyTransferMode → Bool
  | .dcCore => secc.configHasEnergyMode dcCoreName || !secc.configHasAnyDcMode
  | .dcExtended => secc.configHasEnergyMode dcExtendedName
  | .dcComboCore => secc.configHasEnergyMode dcComboCoreName
  | .dcUnique => secc.configHasEnergyMode dcUniqueName
  | .acSinglePhaseCore | .acThreePhaseCore | .reserved _ => false

/-- The modes of an ISO ServiceDiscoveryRes. -/
def Secc.isoOfferedModes (secc : Secc) : List EnergyTransferMode :=
  let configured :=
    (if secc.configHasEnergyMode dcCoreName then [EnergyTransferMode.dcCore] else []) ++
    (if secc.configHasEnergyMode dcExtendedName then [EnergyTransferMode.dcExtended] else []) ++
    (if secc.configHasEnergyMode dcComboCoreName then [EnergyTransferMode.dcComboCore] else []) ++
    (if secc.configHasEnergyMode dcUniqueName then [EnergyTransferMode.dcUnique] else [])
  if configured = [] then [secc.selectIsoEtm] else configured

/-- The numeric value of a mode. -/
def EnergyTransferMode.code : EnergyTransferMode → ℕ
  | .acSinglePhaseCore => 0
  | .acThreePhaseCore => 1
  | .dcCore => 2
  | .dcExtended => 3
  | .dcComboCore => 4
  | .dcUnique => 5
  | .reserved value => value

/-- The mode is the one the DIN session has been offered (`secc_din_etm_supported`). -/
def Secc.dinEtmSupported (secc : Secc) (etm : EnergyTransferMode) : Bool :=
  secc.dinAdvertisedEnergyTransferValid && (etm == .dcCore || etm == .dcExtended) &&
    etm.code == secc.dinAdvertisedEnergyTransferType

end Jpv2g
