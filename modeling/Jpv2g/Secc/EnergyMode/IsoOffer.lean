import Jpv2g.Secc.HandlerFacts
import Mathlib.Data.List.Nodup
import Mathlib.Data.Set.Basic
import Mathlib.Logic.Function.Iterate

/-!
# The ISO 15118-2 Energy Offer

The scan of the configured modes finds exactly the trimmed entries of the list, and the default
handler offers and accepts one and the same set of modes.

## Main definitions

* `modeTokens`: the trimmed entries of a mode list.
* `isoModes`: the modes a mode list stands for.

## Main results

* `configHasEnergyMode_iff`: a mode is found exactly when it is an entry.
* `isoOfferedModes_nodup`, `mem_isoOfferedModes_iff`, `isoEtmSupported_iff`: what is offered and
  what is accepted.
* `iso_offer_agrees`: the same of the handler's answers.
-/

namespace Jpv2g

/-! ## The entries of a mode list -/

/-- Trim the blanks and tabs of an entry. -/
def trimBlanks (entry : List Char) : List Char :=
  (entry.dropWhile isBlank).rdropWhile isBlank

/-- The trimmed entries of a comma-separated mode list. -/
def modeTokens (modes : List Char) : List (List Char) :=
  (modes.splitOn ',').map trimBlanks

/-- The name a DC mode is configured under. -/
def EnergyTransferMode.dcName : EnergyTransferMode → Option (List Char)
  | .dcCore => some dcCoreName
  | .dcExtended => some dcExtendedName
  | .dcComboCore => some dcComboCoreName
  | .dcUnique => some dcUniqueName
  | .acSinglePhaseCore | .acThreePhaseCore | .reserved _ => none

/-- The list names the DC mode. -/
def NamesMode (modes : List Char) (etm : EnergyTransferMode) : Prop :=
  ∃ name, etm.dcName = some name ∧ name ∈ modeTokens modes

/-- The modes a mode list stands for: the DC modes it names, and DC_core if it names none. -/
def isoModes (modes : List Char) : Set EnergyTransferMode :=
  {etm | NamesMode modes etm ∨ etm = .dcCore ∧ ∀ other, ¬NamesMode modes other}

/-! ## The scan -/

/-- Where the scan goes on after an entry. -/
def nextEntry (cursor : List Char) : List Char :=
  (cursor.dropWhile isModeSeparator).dropWhile (· != ',')

/-- An iteration of the scan consumes a character. -/
theorem nextEntry_length_lt {cursor : List Char} (h : cursor ≠ []) :
    (nextEntry cursor).length < cursor.length := by
  obtain ⟨c, cs, rfl⟩ := List.exists_cons_of_ne_nil h
  have hskip : ((c :: cs).dropWhile isModeSeparator).length ≤ (c :: cs).length :=
    (List.dropWhile_suffix _).length_le
  have hread : (nextEntry (c :: cs)).length ≤
      ((c :: cs).dropWhile isModeSeparator).length := (List.dropWhile_suffix _).length_le
  -- the skip drops a leading separator, else the read drops a character that is no comma
  by_cases hsep : isModeSeparator c = true
  · rw [List.dropWhile_cons_of_pos hsep] at hread
    have hrest : (cs.dropWhile isModeSeparator).length ≤ cs.length :=
      (List.dropWhile_suffix _).length_le
    rw [List.length_cons]
    omega
  · have hcomma : (c != ',') = true := by
      rw [bne_iff_ne]
      rintro rfl
      exact hsep rfl
    rw [nextEntry, List.dropWhile_cons_of_neg hsep,
      List.dropWhile_cons_of_pos (p := (· != ',')) hcomma, List.length_cons]
    exact Nat.lt_succ_of_le (List.dropWhile_suffix _).length_le

/-- The scan reaches the end of the list. -/
theorem nextEntry_iterate (cursor : List Char) :
    ∃ n ≤ cursor.length, nextEntry^[n] cursor = [] := by
  induction hlength : cursor.length using Nat.strong_induction_on generalizing cursor with
  | _ length ih =>
    by_cases hend : cursor = []
    · exact ⟨0, Nat.zero_le _, hend⟩
    · have hlt := nextEntry_length_lt hend
      rw [hlength] at hlt
      obtain ⟨n, hn, hreach⟩ := ih _ hlt (nextEntry cursor) rfl
      exact ⟨n + 1, by omega, hreach⟩

section Tokens

variable {mode : List Char}

theorem trimBlanks_cons_blank {c : Char} (hc : isBlank c = true) (entry : List Char) :
    trimBlanks (c :: entry) = trimBlanks entry := by
  rw [trimBlanks, List.dropWhile_cons_of_pos hc, trimBlanks]

theorem modeTokens_cons_comma (cs : List Char) :
    modeTokens (',' :: cs) = [] :: modeTokens cs := by
  rw [modeTokens, List.splitOn_cons_eq_if_modifyHead, if_pos (beq_self_eq_true ','), List.map_cons]
  rfl

theorem modeTokens_cons_blank {c : Char} (hc : isBlank c = true) (cs : List Char) :
    modeTokens (c :: cs) = modeTokens cs := by
  have hcomma : ¬(c == ',') = true := by
    rw [beq_iff_eq]
    rintro rfl
    exact absurd hc (by decide)
  obtain ⟨entry, entries, hsplit⟩ := List.exists_cons_of_ne_nil (List.splitOn_ne_nil ',' cs)
  rw [modeTokens, List.splitOn_cons_eq_if_modifyHead, if_neg hcomma, modeTokens, hsplit,
    List.modifyHead_cons, List.map_cons, List.map_cons, trimBlanks_cons_blank hc]

/-- Skipping separators skips no entry with a name in it. -/
theorem mem_modeTokens_dropWhile (hmode : mode ≠ []) (cursor : List Char) :
    mode ∈ modeTokens (cursor.dropWhile isModeSeparator) ↔ mode ∈ modeTokens cursor := by
  induction cursor with
  | nil => rfl
  | cons c cs ih =>
    by_cases hsep : isModeSeparator c = true
    · rw [List.dropWhile_cons_of_pos hsep, ih]
      rw [isModeSeparator, Bool.or_eq_true, beq_iff_eq] at hsep
      -- a comma in front adds an empty entry, and a blank changes none
      rcases hsep with rfl | hblank
      · rw [modeTokens_cons_comma, List.mem_cons, or_iff_right hmode]
      · rw [modeTokens_cons_blank hblank]
    · rw [List.dropWhile_cons_of_neg hsep]

/-- The first entry reaches up to the comma, and the other entries are those behind it. -/
theorem mem_modeTokens_entry (hmode : mode ≠ []) {cursor : List Char}
    (hstart : ∀ c ∈ cursor.head?, isModeSeparator c = false) :
    mode ∈ modeTokens cursor ↔
      (cursor.takeWhile (· != ',')).rdropWhile isBlank = mode ∨
        mode ∈ modeTokens (cursor.dropWhile (· != ',')) := by
  have hentry : ',' ∉ cursor.takeWhile (· != ',') := by
    intro hmem
    exact absurd (List.mem_takeWhile_imp hmem) (by decide)
  -- the entry does not start with a blank
  have htrim : trimBlanks (cursor.takeWhile (· != ',')) =
      (cursor.takeWhile (· != ',')).rdropWhile isBlank := by
    rw [trimBlanks]
    congr 1
    cases cursor with
    | nil => rfl
    | cons c cs =>
      have hc := hstart c rfl
      rw [isModeSeparator, Bool.or_eq_false_iff] at hc
      have hcomma : (c != ',') = true := by rw [bne, hc.1, Bool.not_false]
      rw [List.takeWhile_cons_of_pos (p := (· != ',')) hcomma,
        List.dropWhile_cons_of_neg (Bool.eq_false_iff.mp hc.2)]
  have hsplit := List.takeWhile_append_dropWhile (p := (· != ',')) (l := cursor)
  -- the entry is the last one, or a comma ends it
  cases hrest : cursor.dropWhile (· != ',') with
  | nil =>
    rw [hrest, List.append_nil] at hsplit
    have hend : mode ∉ modeTokens [] := by
      rw [modeTokens, List.splitOn_nil, List.map_singleton, List.mem_singleton]
      exact hmode
    rw [or_iff_left hend, ← htrim, hsplit]
    rw [hsplit] at hentry
    rw [modeTokens, List.splitOn_eq_singleton hentry, List.map_singleton, List.mem_singleton,
      eq_comm]
  | cons d rest =>
    have hd : d = ',' := by
      have hhead := List.head?_dropWhile_not (· != ',') cursor
      rw [hrest, List.head?_cons] at hhead
      simpa using hhead
    rw [hrest, hd] at hsplit
    rw [hd, modeTokens_cons_comma, List.mem_cons, or_iff_right hmode]
    conv_lhs => rw [← hsplit]
    rw [modeTokens, List.splitOn_append_cons_self_of_not_mem hentry, List.map_cons, htrim,
      List.mem_cons, eq_comm]
    rfl

/-- The scan finds a name exactly when it is an entry, with as much fuel as there are
characters. -/
theorem scanEnergyModes_iff (hmode : mode ≠ []) {fuel : ℕ} {cursor : List Char}
    (hfuel : cursor.length ≤ fuel) :
    scanEnergyModes mode fuel cursor = true ↔ mode ∈ modeTokens cursor := by
  have hend : mode ∉ modeTokens [] := by
    rw [modeTokens, List.splitOn_nil, List.map_singleton, List.mem_singleton]
    exact hmode
  -- along the entries, each of which uses up at least one character
  induction fuel generalizing cursor with
  | zero =>
    obtain rfl := List.length_eq_zero_iff.mp (Nat.le_zero.mp hfuel)
    exact iff_of_false Bool.false_ne_true hend
  | succ fuel ih =>
    rw [scanEnergyModes]
    by_cases hnil : cursor = []
    · rw [if_pos hnil, hnil]
      exact iff_of_false Bool.false_ne_true hend
    have hstart : ∀ c ∈ (cursor.dropWhile isModeSeparator).head?, isModeSeparator c = false := by
      intro c hc
      have hhead := List.head?_dropWhile_not isModeSeparator cursor
      rw [hc] at hhead
      simpa using hhead
    have hshorter := nextEntry_length_lt hnil
    have hrest : (nextEntry cursor).length ≤ fuel := by omega
    rw [if_neg hnil, ← mem_modeTokens_dropWhile hmode, mem_modeTokens_entry hmode hstart]
    split_ifs with hfound
    · exact iff_of_true rfl (.inl hfound)
    · rw [or_iff_right hfound]
      exact ih hrest

end Tokens

/-! ## Offer and acceptance -/

section Modes

variable {secc : Secc}

/-- A mode is found exactly when it is an entry of the list. -/
theorem configHasEnergyMode_iff {mode : List Char} (hmode : mode ≠ []) :
    secc.configHasEnergyMode mode = true ↔ mode ∈ modeTokens secc.cfg.supportedEnergyModes := by
  rw [Secc.configHasEnergyMode, Bool.and_eq_true, decide_eq_true_eq, and_iff_right hmode]
  exact scanEnergyModes_iff hmode (Nat.le_refl _)

/-- The list names a DC mode exactly when the scan finds its name. -/
theorem namesMode_iff {etm : EnergyTransferMode} :
    NamesMode secc.cfg.supportedEnergyModes etm ↔
      ∃ name, etm.dcName = some name ∧ secc.configHasEnergyMode name = true := by
  have hname : ∀ name, etm.dcName = some name → name ≠ [] := by
    intro name hname
    cases etm <;> cases hname <;> decide
  constructor
  · rintro ⟨name, hdc, hmem⟩
    exact ⟨name, hdc, (configHasEnergyMode_iff (hname name hdc)).mpr hmem⟩
  · rintro ⟨name, hdc, hfound⟩
    exact ⟨name, hdc, (configHasEnergyMode_iff (hname name hdc)).mp hfound⟩

/-- The offer is the modes that the list names, each once, or a single mode if it names none. -/
theorem isoOfferedModes_eq (secc : Secc) :
    ∃ configured : List EnergyTransferMode,
      secc.isoOfferedModes = (if configured = [] then [secc.selectIsoEtm] else configured) ∧
      configured.Nodup ∧
      ∀ etm, etm ∈ configured ↔ NamesMode secc.cfg.supportedEnergyModes etm := by
  refine ⟨_, rfl, ?_, ?_⟩
  -- the offer is a sublist of the four DC modes, in their order
  · have hpart : ∀ (found : Bool) (etm : EnergyTransferMode),
        List.Sublist (if found then [etm] else []) [etm] := by
      intro found etm
      cases found
      · exact List.nil_sublist [etm]
      · exact List.Sublist.refl [etm]
    have hmodes : [EnergyTransferMode.dcCore, .dcExtended, .dcComboCore, .dcUnique].Nodup := by
      decide
    refine List.Nodup.sublist ?_ hmodes
    exact (((hpart _ .dcCore).append (hpart _ .dcExtended)).append (hpart _ .dcComboCore)).append
      (hpart _ .dcUnique)
  · intro etm
    rw [namesMode_iff]
    simp only [List.mem_append, List.mem_ite_nil_right, List.mem_singleton]
    cases etm <;> simp [EnergyTransferMode.dcName]

/-- No mode is found exactly when the list names none. -/
theorem configHasAnyDcMode_eq_false_iff :
    secc.configHasAnyDcMode = false ↔
      ∀ etm, ¬NamesMode secc.cfg.supportedEnergyModes etm := by
  simp only [Secc.configHasAnyDcMode, Bool.or_eq_false_iff, namesMode_iff, not_exists, not_and,
    Bool.not_eq_true]
  constructor
  · rintro ⟨⟨⟨hcore, hextended⟩, hcombo⟩, hunique⟩ etm name hname
    cases etm <;> cases hname <;> assumption
  · intro hnone
    exact ⟨⟨⟨hnone .dcCore _ rfl, hnone .dcExtended _ rfl⟩, hnone .dcComboCore _ rfl⟩,
      hnone .dcUnique _ rfl⟩

/-- Without a DC mode in the list, DC_core is offered. -/
theorem selectIsoEtm_of_none (h : secc.configHasAnyDcMode = false) :
    secc.selectIsoEtm = .dcCore := by
  simp only [Secc.configHasAnyDcMode, Bool.or_eq_false_iff] at h
  obtain ⟨⟨⟨hcore, hextended⟩, hcombo⟩, -⟩ := h
  simp only [Secc.selectIsoEtm, hcore, hextended, hcombo, Bool.false_eq_true, if_false]

/-- A mode is accepted exactly when the list stands for it. -/
theorem isoEtmSupported_iff {etm : EnergyTransferMode} :
    secc.isoEtmSupported etm = true ↔ etm ∈ isoModes secc.cfg.supportedEnergyModes := by
  rw [isoModes, Set.mem_ofPred_eq, ← configHasAnyDcMode_eq_false_iff, namesMode_iff]
  cases etm <;> simp [Secc.isoEtmSupported, EnergyTransferMode.dcName]

/-- The modes offered are those the list stands for. -/
theorem mem_isoOfferedModes_iff {etm : EnergyTransferMode} :
    etm ∈ secc.isoOfferedModes ↔ etm ∈ isoModes secc.cfg.supportedEnergyModes := by
  obtain ⟨configured, hoffer, -, hnames⟩ := isoOfferedModes_eq secc
  rw [isoModes, Set.mem_ofPred_eq, hoffer]
  -- with no DC mode in the list both sides are DC_core
  by_cases hnone : configured = []
  · have hnothing : ∀ other, ¬NamesMode secc.cfg.supportedEnergyModes other := by
      intro other hother
      rw [← hnames, hnone] at hother
      exact List.not_mem_nil hother
    rw [if_pos hnone, List.mem_singleton,
      selectIsoEtm_of_none (configHasAnyDcMode_eq_false_iff.mpr hnothing),
      or_iff_right (hnothing etm), and_iff_left hnothing]
  · obtain ⟨other, hother⟩ := List.exists_mem_of_ne_nil configured hnone
    rw [if_neg hnone, hnames, or_iff_left]
    rintro ⟨-, hnothing⟩
    exact hnothing other ((hnames other).mp hother)

/-- Each mode is offered once. -/
theorem isoOfferedModes_nodup (secc : Secc) : secc.isoOfferedModes.Nodup := by
  obtain ⟨configured, hoffer, hnodup, -⟩ := isoOfferedModes_eq secc
  rw [hoffer]
  split_ifs
  · exact List.nodup_singleton _
  · exact hnodup

end Modes

section Handler

variable {codec : Codec} {env : HandlerEnv} {secc : Secc} {statics : HandlerStatics}
  {request : Request} {build : Build} {registered : Bool}

/-- The response to an ISO ServiceDiscoveryReq. -/
theorem defaultHandle_iso_serviceDiscovery (htype : request.type = .serviceDiscoveryReq)
    (hiso : request.isDin = false) :
    ∃ live : Secc, live.cfg = secc.cfg ∧
      (defaultHandle codec env secc statics request build registered).res =
        some (.iso2 live.sessionId
          (.serviceDiscovery .ok [.externalPayment] live.isoOfferedModes 1 "DCFC".toList
            (freeService env live))) := by
  have hsetup : request.type ≠ .sessionSetupReq := by simp [htype]
  obtain ⟨sid, -, hhandle⟩ :=
    @defaultHandle_resolved codec env secc statics request build registered hsetup
  refine ⟨{ secc with sessionId := sid }, rfl, ?_⟩
  rw [hhandle, handleResolved, htype]
  simp only [handleServiceDiscovery, hiso]
  rfl

/-- The response to an ISO ChargeParameterDiscoveryReq. -/
theorem defaultHandle_iso_chargeParameterDiscovery {requested : EnergyTransferMode}
    (htype : request.type = .chargeParameterDiscoveryReq) (hiso : request.isDin = false)
    (hbody : request.iso2Body = some (.chargeParameterDiscoveryReq requested)) :
    ∃ live : Secc, live.cfg = secc.cfg ∧
      (defaultHandle codec env secc statics request build registered).res =
        some (.iso2 live.sessionId
          (.chargeParameterDiscovery
            (if live.isoEtmSupported requested then .ok else .failedWrongEnergyTransferMode)
            requested)) := by
  have hsetup : request.type ≠ .sessionSetupReq := by simp [htype]
  obtain ⟨sid, -, hhandle⟩ :=
    @defaultHandle_resolved codec env secc statics request build registered hsetup
  refine ⟨{ secc with sessionId := sid }, rfl, ?_⟩
  rw [hhandle, handleResolved, htype]
  simp only [handleChargeParameterDiscovery, hiso, hbody]
  rfl

end Handler

/-- **The ISO offer, what is accepted and the configuration agree.** The scan of the configured
list ends; a ServiceDiscoveryRes offers exactly the modes the list stands for, each once; and a
ChargeParameterDiscoveryReq is answered OK exactly for those modes. -/
theorem iso_offer_agrees (codec : Codec) (env : HandlerEnv) (secc : Secc)
    (statics : HandlerStatics) (request : Request) (build : Build) (registered : Bool)
    (hiso : request.isDin = false) :
    let modes := secc.cfg.supportedEnergyModes
    let result := defaultHandle codec env secc statics request build registered
    (∃ n ≤ modes.length, nextEntry^[n] modes = []) ∧
      (request.type = .serviceDiscoveryReq →
        ∃ sid payments offered serviceId category free,
          result.res = some (.iso2 sid
            (.serviceDiscovery .ok payments offered serviceId category free)) ∧
          offered.Nodup ∧ ∀ etm, etm ∈ offered ↔ etm ∈ isoModes modes) ∧
      (request.type = .chargeParameterDiscoveryReq → ∀ requested,
        request.iso2Body = some (.chargeParameterDiscoveryReq requested) →
        ∃ sid code,
          result.res = some (.iso2 sid (.chargeParameterDiscovery code requested)) ∧
          (code = .ok ↔ requested ∈ isoModes modes) ∧
          (requested ∉ isoModes modes → code = .failedWrongEnergyTransferMode)) := by
  refine ⟨nextEntry_iterate _, ?_, ?_⟩
  · intro htype
    -- what is offered is scanned from the same string as what is accepted
    obtain ⟨live, hcfg, hres⟩ :=
      @defaultHandle_iso_serviceDiscovery codec env secc statics request build registered htype hiso
    exact ⟨_, _, _, _, _, _, hres, isoOfferedModes_nodup live,
      fun etm => hcfg ▸ mem_isoOfferedModes_iff⟩
  · intro htype requested hbody
    obtain ⟨live, hcfg, hres⟩ :=
      @defaultHandle_iso_chargeParameterDiscovery codec env secc statics request build registered
        requested htype hiso hbody
    -- the request is compared with the same entries
    have haccept : live.isoEtmSupported requested = true ↔
        requested ∈ isoModes secc.cfg.supportedEnergyModes := hcfg ▸ isoEtmSupported_iff
    refine ⟨_, _, hres, ?_, ?_⟩
    · rw [← haccept]
      split_ifs with hsupported
      · exact iff_of_true rfl hsupported
      · exact iff_of_false nofun hsupported
    · intro hother
      exact if_neg (mt haccept.mp hother)

/-- A list with stray blanks and a longer name in it: DC_extended is accepted. -/
theorem iso_offer_agrees_witness :
    ∃ sid, (defaultHandle sampleCodec (sampleEnv true)
        (.init ⟨false, ", DC_core_x,,\tDC_extended ,AC".toList⟩ true false) .init
        { type := .chargeParameterDiscoveryReq, protocol := .iso15118_2
          header := some sampleSid.1, dinHeader := none
          body := some (.iso2 (.chargeParameterDiscoveryReq .dcExtended)) }
        sampleBuild false).res =
      some (.iso2 sid (.chargeParameterDiscovery .ok .dcExtended)) := by
  obtain ⟨sid, code, hres, hcode, -⟩ :=
    (iso_offer_agrees sampleCodec (sampleEnv true)
      (.init ⟨false, ", DC_core_x,,\tDC_extended ,AC".toList⟩ true false) .init
      { type := .chargeParameterDiscoveryReq, protocol := .iso15118_2
        header := some sampleSid.1, dinHeader := none
        body := some (.iso2 (.chargeParameterDiscoveryReq .dcExtended)) }
      sampleBuild false rfl).2.2 rfl .dcExtended rfl
  have hmember : EnergyTransferMode.dcExtended ∈
      isoModes ", DC_core_x,,\tDC_extended ,AC".toList :=
    .inl ⟨dcExtendedName, rfl, by decide⟩
  obtain rfl := hcode.mpr hmember
  exact ⟨sid, hres⟩

end Jpv2g
