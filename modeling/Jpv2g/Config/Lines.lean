import Jpv2g.Config.Loader
import Jpv2g.ToMathlib.Trace

/-!
# The Loader and the Lines of a File

A configuration file is meant to be read line by line, each line one assignment. The loader reads
it in chunks of at most 255 bytes, so a longer line is read as several. This file says when the two
readings agree: for each setting, what comes of the long lines that no later short line overrides
has to be what they say as lines.

## Main definitions

* `lineWise`: the rule, folded over the lines of a file.
* `Setting`: a field of a record, its key, and what it makes of a value.
* `Setting.Survives`: the reading in pieces leaves the setting what the lines say.

## Main results

* `Setting.get_chunks`, `Setting.get_lineWise`: a setting after either reading.
* `loadConfig_eq_lineWise_iff`: the loader follows the rule exactly if every setting survives.
* `loadConfig_eq_lineWise`: it follows the rule on every file without a long line.
-/

namespace Jpv2g.Config

open LineChunks Trace

/-- The lines of a file, without their newlines. -/
def lines (file : List UInt8) : List (List UInt8) :=
  file.splitOn '\n'.toUInt8

/-- The rule: the assignments of the lines, stored in order over a record. -/
def lineWise {C : Type} (assign : C → List UInt8 → List UInt8 → C) (cfg : C)
    (file : List UInt8) : C :=
  assignAll assign cfg ((lines file).filterMap assignment)

/-- A line that does not fit into the buffer. -/
def isLong (line : List UInt8) : Bool :=
  255 < line.length

/-- A field of a record that the loader sets, with its key and what it makes of a value. -/
structure Setting (C : Type) where
  key : List UInt8
  Value : Type
  get : C → Value
  read : List UInt8 → Value

namespace Setting

variable {C : Type}

/-- A setting with the text itself, as far as it fits. -/
def text (key : String) (size : ℕ) (get : C → CText size) : Setting C :=
  ⟨bytes key, CText size, get, .strncpy size⟩

/-- A setting that is on or off. -/
def flag (key : String) (get : C → Bool) : Setting C :=
  ⟨bytes key, Bool, get, isTrue⟩

/-- A setting with a number. -/
def number (key : String) (get : C → ℤ) : Setting C :=
  ⟨bytes key, ℤ, get, atoi⟩

/-- An assignment sets the field to what it makes of the value if the key is its own. -/
def SetBy (s : Setting C) (assign : C → List UInt8 → List UInt8 → C) : Prop :=
  ∀ cfg key val, s.get (assign cfg key val) = if key = s.key then s.read val else s.get cfg

end Setting

/-- The settings of the vehicle. -/
def evccSettings : List (Setting EvccConfig) :=
  [.text "network.interface" 32 (·.networkInterface), .flag "tls" (·.useTls),
    .text "tls.cert" 256 (·.tlsCertPath), .text "tls.key" 256 (·.tlsKeyPath),
    .text "tls.ca" 256 (·.tlsCaPath), .text "session.id" 32 (·.sessionIdHex),
    .text "authentication.mode" 32 (·.authMode),
    .text "energy.transfermode.requested" 128 (·.energyMode),
    .number "contract.certificate.update.timespan" (·.contractCertUpdateDays)]

/-- The settings of the charging station. -/
def seccSettings : List (Setting SeccConfig) :=
  [.text "network.interface" 32 (·.networkInterface), .flag "charging.free" (·.freeCharging),
    .flag "environment.private" (·.privateEnvironment), .flag "tls" (·.useTls),
    .text "tls.cert" 256 (·.tlsCertPath), .text "tls.key" 256 (·.tlsKeyPath),
    .text "tls.ca" 256 (·.tlsCaPath),
    .text "authentication.modes.supported" 32 (·.supportedAuthModes),
    .text "energy.transfermodes.supported" 128 (·.supportedEnergyModes)]

/-- One branch of a chain of keys, read through a field. -/
theorem get_ite {C V : Type} {p : Prop} [Decidable p] {get : C → V} {x y : C} {v : V}
    (hx : p → get x = v) (hy : get y = v) : get (if p then x else y) = v := by
  split
  · exact hx ‹p›
  · exact hy

theorem setBy_of_mem_evccSettings {s : Setting EvccConfig} (hs : s ∈ evccSettings) :
    s.SetBy EvccConfig.assign := by
  intro cfg key val
  simp only [evccSettings, List.mem_cons, List.not_mem_nil, or_false] at hs
  by_cases hkey : key = s.key
  · rw [if_pos hkey, hkey]
    rcases hs with rfl | rfl | rfl | rfl | rfl | rfl | rfl | rfl | rfl <;> rfl
  · -- every branch but its own leaves the field alone
    rw [if_neg hkey]
    unfold EvccConfig.assign
    rcases hs with rfl | rfl | rfl | rfl | rfl | rfl | rfl | rfl | rfl <;>
      repeat' first | rfl | exact absurd ‹_› hkey | refine get_ite (fun _ => ?_) ?_

theorem setBy_of_mem_seccSettings {s : Setting SeccConfig} (hs : s ∈ seccSettings) :
    s.SetBy SeccConfig.assign := by
  intro cfg key val
  simp only [seccSettings, List.mem_cons, List.not_mem_nil, or_false] at hs
  by_cases hkey : key = s.key
  · rw [if_pos hkey, hkey]
    rcases hs with rfl | rfl | rfl | rfl | rfl | rfl | rfl | rfl | rfl <;> rfl
  · rw [if_neg hkey]
    unfold SeccConfig.assign
    rcases hs with rfl | rfl | rfl | rfl | rfl | rfl | rfl | rfl | rfl <;>
      repeat' first | rfl | exact absurd ‹_› hkey | refine get_ite (fun _ => ?_) ?_

/-! ## What a line says -/

theorem trimText_concat {c : UInt8} (hc : isspace c = true) (s : List UInt8) :
    trimText (s ++ [c]) = trimText s := by
  rw [trimText, trimText, List.dropWhile_append]
  split
  · rename_i hnil
    rw [List.isEmpty_iff.mp hnil, List.dropWhile_cons_of_pos hc]
    rfl
  · exact List.rdropWhile_concat_pos _ _ _ hc

@[simp]
theorem assignment_nil : assignment [] = none := rfl

/-- A newline at the end of a line says nothing. -/
theorem assignment_concat (line : List UInt8) :
    assignment (line ++ ['\n'.toUInt8]) = assignment line := by
  rw [assignment, assignment, trimText_concat (by decide)]

/-- A comment says nothing. -/
theorem assignment_comment (line : List UInt8) : assignment ('#'.toUInt8 :: line) = none := by
  have hspace : ¬isspace '#'.toUInt8 = true := by decide
  have htext : trimText ('#'.toUInt8 :: line) = '#'.toUInt8 :: line.rdropWhile isspace := by
    rw [trimText, List.dropWhile_cons_of_neg hspace, CString.rdropWhile_cons_of_neg hspace]
  rw [assignment, htext]
  rfl

/-- What the chunks of a file say is what the pieces of its lines say. -/
theorem chunkAssignments_eq (file : List UInt8) :
    chunkAssignments file = ((lines file).flatMap (pieces 254)).filterMap assignment :=
  filterMap_chunks assignment_nil assignment_concat file

/-! ## One setting -/

namespace Setting

variable {C : Type} {assign : C → List UInt8 → List UInt8 → C} (s : Setting C)

/-- The value that a line gives to the setting, if it is an assignment to its key. -/
def valueOf (line : List UInt8) : Option (List UInt8) :=
  (assignment line).bind fun a => if a.1 = s.key then some a.2 else none

/-- A line that fits into the buffer and gives the setting a value. -/
def settles (line : List UInt8) : Bool :=
  !isLong line && (s.valueOf line).isSome

/-- The long lines after the last line that settles the setting. -/
def longSince (file : List UInt8) : List (List UInt8) :=
  (sinceLast s.settles (lines file)).filter isLong

/-- The value of the setting after the last line that settles it. -/
def settled (cfg : C) (file : List UInt8) : s.Value :=
  ((lastSome s.valueOf ((lines file).filter s.settles)).map s.read).getD (s.get cfg)

/-- The last value among the pieces of the long lines is as good as the last one among the lines,
and a value that only one of the two finds changes nothing. -/
def Survives (cfg : C) (file : List UInt8) : Prop :=
  match lastSome s.valueOf ((s.longSince file).flatMap (pieces 254)),
    lastSome s.valueOf (s.longSince file) with
  | none, none => True
  | some found, some meant => s.read found = s.read meant
  | some value, none | none, some value => s.read value = s.settled cfg file

/-- A setting has what it makes of the last value that was stored under its key. -/
theorem get_assignAll (hs : s.SetBy assign) (cfg : C) (texts : List (List UInt8)) :
    s.get (assignAll assign cfg (texts.filterMap assignment)) =
      ((lastSome s.valueOf texts).map s.read).getD (s.get cfg) := by
  induction texts using List.reverseRecOn with
  | nil => rfl
  | append_singleton texts text ih =>
    rw [List.filterMap_append, assignAll_append, lastSome_concat]
    cases htext : assignment text with
    | none => simpa [assignAll, valueOf, htext] using ih
    | some a =>
      have hstore : assignAll assign (assignAll assign cfg (texts.filterMap assignment))
          ([text].filterMap assignment) =
          assign (assignAll assign cfg (texts.filterMap assignment)) a.1 a.2 := by
        simp [assignAll, htext]
      rw [hstore, hs, ih]
      by_cases hkey : a.1 = s.key <;> simp [valueOf, htext, hkey]

section Reading

variable {g : List UInt8 → Option (List UInt8)}

/-- A reading that is right on short lines finds its last value in the long lines since, or the one
that settled the setting. -/
theorem lastSome_lines (hg : ∀ line, isLong line = false → g line = s.valueOf line)
    (file : List UInt8) :
    lastSome g (lines file) =
      (lastSome g (s.longSince file)).or (lastSome s.valueOf ((lines file).filter s.settles)) := by
  have hsettles : ∀ line, s.settles line = true →
      isLong line = false ∧ (s.valueOf line).isSome := by
    intro line hline
    simpa [settles] using hline
  have hsome : ∀ line, s.settles line = true → (g line).isSome := by
    intro line hline
    rw [hg line (hsettles line hline).1]
    exact (hsettles line hline).2
  -- behind the last line that settles the setting only long lines can change it
  have hlong : lastSome g (s.longSince file) = lastSome g (sinceLast s.settles (lines file)) := by
    refine lastSome_filter fun line hline hshort => ?_
    have hnot := (of_mem_sinceLast hline).2
    rw [hg line hshort]
    simpa [settles, hshort] using hnot
  -- the lines that settle it are read as they stand
  have hshort : lastSome g ((lines file).filter s.settles) =
      lastSome s.valueOf ((lines file).filter s.settles) := by
    refine lastSome_congr fun line hline => ?_
    exact hg line (hsettles line (List.mem_filter.mp hline).2).1
  rw [lastSome_eq_sinceLast_or hsome, hlong, hshort]

end Reading

/-- The pieces of a line that fits into the buffer say what the line says. -/
theorem lastSome_pieces {line : List UInt8} (hline : isLong line = false) :
    lastSome s.valueOf (pieces 254 line) = s.valueOf line := by
  have hlen : line.length ≤ 254 + 1 := by simpa [isLong] using hline
  by_cases hnil : line = []
  · rw [hnil, pieces_nil]
    rfl
  · rw [pieces_of_length_le hnil hlen]
    exact Option.or_none

/-- The setting after the loader. -/
theorem get_chunks (hs : s.SetBy assign) (cfg : C) (file : List UInt8) :
    s.get (assignAll assign cfg (chunkAssignments file)) =
      ((lastSome s.valueOf ((s.longSince file).flatMap (pieces 254))).map s.read).getD
        (s.settled cfg file) := by
  rw [chunkAssignments_eq, s.get_assignAll hs, lastSome_flatMap, lastSome_flatMap,
    s.lastSome_lines fun line hline => s.lastSome_pieces hline]
  cases lastSome (fun line => lastSome s.valueOf (pieces 254 line)) (s.longSince file) <;> rfl

/-- The setting after the rule. -/
theorem get_lineWise (hs : s.SetBy assign) (cfg : C) (file : List UInt8) :
    s.get (lineWise assign cfg file) =
      ((lastSome s.valueOf (s.longSince file)).map s.read).getD (s.settled cfg file) := by
  rw [lineWise, s.get_assignAll hs, s.lastSome_lines fun line _ => rfl]
  cases lastSome s.valueOf (s.longSince file) <;> rfl

/-- The loader leaves the setting as the rule does exactly if it survives. -/
theorem get_eq_iff (hs : s.SetBy assign) (cfg : C) (file : List UInt8) :
    s.get (assignAll assign cfg (chunkAssignments file)) = s.get (lineWise assign cfg file) ↔
      s.Survives cfg file := by
  rw [s.get_chunks hs, s.get_lineWise hs, Survives]
  cases lastSome s.valueOf ((s.longSince file).flatMap (pieces 254)) <;>
    cases lastSome s.valueOf (s.longSince file) <;> simp [eq_comm]

/-- Long lines that say nothing, in pieces or in one, leave every setting alone. -/
theorem survives_of_silent {file : List UInt8}
    (h : ∀ line ∈ lines file, isLong line = true →
      assignment line = none ∧ ∀ piece ∈ pieces 254 line, assignment piece = none) (cfg : C) :
    s.Survives cfg file := by
  have hsilent : ∀ {line}, assignment line = none → s.valueOf line = none := by
    intro line hline
    rw [valueOf, hline]
    rfl
  have hlong : ∀ line ∈ s.longSince file,
      assignment line = none ∧ ∀ piece ∈ pieces 254 line, assignment piece = none := by
    intro line hline
    obtain ⟨hsince, hlen⟩ := List.mem_filter.mp hline
    exact h line (of_mem_sinceLast hsince).1 hlen
  -- neither the long lines nor their pieces tell anything about the setting
  have hlines : lastSome s.valueOf (s.longSince file) = none :=
    lastSome_eq_none fun line hline => hsilent (hlong line hline).1
  have hpieces : lastSome s.valueOf ((s.longSince file).flatMap (pieces 254)) = none := by
    refine lastSome_eq_none fun piece hpiece => ?_
    obtain ⟨line, hline, hpiece⟩ := List.mem_flatMap.mp hpiece
    exact hsilent ((hlong line hline).2 piece hpiece)
  rw [Survives, hpieces, hlines]
  trivial

/-- Without long lines every setting survives. -/
theorem survives_of_short {file : List UInt8} (h : ∀ line ∈ lines file, line.length ≤ 255)
    (cfg : C) : s.Survives cfg file := by
  refine s.survives_of_silent (fun line hline hlong => ?_) cfg
  have hshort := h line hline
  simp only [isLong, decide_eq_true_eq] at hlong
  omega

end Setting

/-! ## The whole record -/

/-- A field that no assignment touches keeps its value. -/
theorem get_assignAll_of_get_assign {C V : Type} {assign : C → List UInt8 → List UInt8 → C}
    {get : C → V} (hget : ∀ cfg key val, get (assign cfg key val) = get cfg) (cfg : C)
    (assignments : List (List UInt8 × List UInt8)) :
    get (assignAll assign cfg assignments) = get cfg := by
  induction assignments generalizing cfg with
  | nil => rfl
  | cons a assignments ih => exact (ih _).trans (hget cfg a.1 a.2)

/-- The fields of a record that no key sets. -/
def EvccConfig.ports (cfg : EvccConfig) : ℤ × ℤ := (cfg.tlsPort, cfg.tcpPort)

/-- The fields of a record that no key sets. -/
def SeccConfig.ports (cfg : SeccConfig) : ℤ × ℤ := (cfg.tlsPort, cfg.tcpPort)

theorem EvccConfig.ports_assign (cfg : EvccConfig) (key val : List UInt8) :
    (cfg.assign key val).ports = cfg.ports := by
  unfold EvccConfig.assign
  repeat' first | rfl | refine get_ite (fun _ => ?_) ?_

theorem SeccConfig.ports_assign (cfg : SeccConfig) (key val : List UInt8) :
    (cfg.assign key val).ports = cfg.ports := by
  unfold SeccConfig.assign
  repeat' first | rfl | refine get_ite (fun _ => ?_) ?_

/-- Two records with the same ports are equal if their settings are. -/
theorem EvccConfig.eq_iff_settings {cfg cfg' : EvccConfig}
    (hports : cfg.ports = cfg'.ports) :
    cfg = cfg' ↔ ∀ s ∈ evccSettings, s.get cfg = s.get cfg' := by
  constructor
  · intro h s _
    rw [h]
  · intro h
    simp only [evccSettings, List.forall_mem_cons] at h
    obtain ⟨hiface, htls, hcert, hkey, hca, hsession, hauth, henergy, hdays, -⟩ := h
    obtain ⟨htlsPort, htcpPort⟩ := Prod.mk.inj hports
    exact EvccConfig.ext hiface htls hsession hauth henergy hdays htlsPort htcpPort hcert hkey hca

theorem SeccConfig.eq_iff_settings {cfg cfg' : SeccConfig}
    (hports : cfg.ports = cfg'.ports) :
    cfg = cfg' ↔ ∀ s ∈ seccSettings, s.get cfg = s.get cfg' := by
  constructor
  · intro h s _
    rw [h]
  · intro h
    simp only [seccSettings, List.forall_mem_cons] at h
    obtain ⟨hiface, hfree, hprivate, htls, hcert, hkey, hca, hauth, henergy, -⟩ := h
    obtain ⟨htlsPort, htcpPort⟩ := Prod.mk.inj hports
    exact SeccConfig.ext hiface hfree hprivate htls hauth henergy htlsPort htcpPort hcert hkey hca

/-- The pieces of the lines leave a record as the lines do exactly if every setting of its table
survives. The table has to tell records with the same `rest` apart. -/
theorem assignAll_chunks_eq_iff {C V : Type} {assign : C → List UInt8 → List UInt8 → C}
    {settings : List (Setting C)} {rest : C → V} (hset : ∀ s ∈ settings, s.SetBy assign)
    (hrest : ∀ cfg key val, rest (assign cfg key val) = rest cfg)
    (hext : ∀ {cfg cfg' : C}, rest cfg = rest cfg' →
      (cfg = cfg' ↔ ∀ s ∈ settings, s.get cfg = s.get cfg')) (cfg : C) (file : List UInt8) :
    assignAll assign cfg (chunkAssignments file) = lineWise assign cfg file ↔
      ∀ s ∈ settings, s.Survives cfg file := by
  have hkeep := get_assignAll_of_get_assign hrest cfg
  refine (hext ((hkeep _).trans (hkeep _).symm)).trans ?_
  exact forall₂_congr fun s hs => s.get_eq_iff (hset s hs) cfg file

theorem EvccConfig.assignAll_chunks_eq_iff (cfg : EvccConfig) (file : List UInt8) :
    assignAll EvccConfig.assign cfg (chunkAssignments file) = lineWise EvccConfig.assign cfg file ↔
      ∀ s ∈ evccSettings, s.Survives cfg file :=
  Config.assignAll_chunks_eq_iff (fun _ => setBy_of_mem_evccSettings) EvccConfig.ports_assign
    EvccConfig.eq_iff_settings cfg file

theorem SeccConfig.assignAll_chunks_eq_iff (cfg : SeccConfig) (file : List UInt8) :
    assignAll SeccConfig.assign cfg (chunkAssignments file) = lineWise SeccConfig.assign cfg file ↔
      ∀ s ∈ seccSettings, s.Survives cfg file :=
  Config.assignAll_chunks_eq_iff (fun _ => setBy_of_mem_seccSettings) SeccConfig.ports_assign
    SeccConfig.eq_iff_settings cfg file

section Load

variable (platform : Platform) (stack : List UInt8) {file : List UInt8}

/-- The loader follows the rule on a file exactly if every setting survives its long lines. -/
theorem loadConfig_eq_lineWise_iff (hfile : 0 ∉ file) (evcc : EvccConfig) (secc : SeccConfig) :
    ((loadEvccConfig platform stack (some (.ok file)) (some evcc)).2 =
        some (lineWise EvccConfig.assign (evccConfigDefault platform) file) ↔
      ∀ s ∈ evccSettings, s.Survives (evccConfigDefault platform) file) ∧
    ((loadSeccConfig platform stack (some (.ok file)) (some secc)).2 =
        some (lineWise SeccConfig.assign (seccConfigDefault platform) file) ↔
      ∀ s ∈ seccSettings, s.Survives (seccConfigDefault platform) file) := by
  constructor
  · rw [loadEvccConfig_spec platform stack hfile, Option.some_inj]
    exact EvccConfig.assignAll_chunks_eq_iff _ file
  · rw [loadSeccConfig_spec platform stack hfile, Option.some_inj]
    exact SeccConfig.assignAll_chunks_eq_iff _ file

/-- The loader follows the rule on every file whose lines fit into its buffer. -/
theorem loadConfig_eq_lineWise (hfile : 0 ∉ file) (hshort : ∀ line ∈ lines file, line.length ≤ 255)
    (evcc : EvccConfig) (secc : SeccConfig) :
    (loadEvccConfig platform stack (some (.ok file)) (some evcc)).2 =
        some (lineWise EvccConfig.assign (evccConfigDefault platform) file) ∧
      (loadSeccConfig platform stack (some (.ok file)) (some secc)).2 =
        some (lineWise SeccConfig.assign (seccConfigDefault platform) file) := by
  constructor
  · rw [loadEvccConfig_spec platform stack hfile]
    exact congrArg some
      ((EvccConfig.assignAll_chunks_eq_iff _ file).mpr fun s _ => s.survives_of_short hshort _)
  · rw [loadSeccConfig_spec platform stack hfile]
    exact congrArg some
      ((SeccConfig.assignAll_chunks_eq_iff _ file).mpr fun s _ => s.survives_of_short hshort _)

end Load

/-- A platform without an interface. -/
def samplePlatform : Platform := ⟨fun _ => 0, bytes "certs", false⟩

/-- A comment of 299 characters. -/
def silentComment : List UInt8 :=
  ('#'.toUInt8 :: List.replicate 254 'x'.toUInt8) ++ List.replicate 44 'x'.toUInt8

theorem mem_silentComment {c : UInt8} (hc : c ∈ silentComment) :
    c = '#'.toUInt8 ∨ c = 'x'.toUInt8 := by
  rcases List.mem_append.mp hc with hc | hc
  · rcases List.mem_cons.mp hc with rfl | hc
    · exact .inl rfl
    · exact .inr (List.eq_of_mem_replicate hc)
  · exact .inr (List.eq_of_mem_replicate hc)

/-- A file with a long comment, an assignment that a later one overrides, and no newline at the
end. -/
def sampleFile : List UInt8 :=
  silentComment ++ bytes "\ntls = true\ncharging.free=1\n tls = a=b "

theorem lines_sampleFile :
    lines sampleFile =
      [silentComment, bytes "tls = true", bytes "charging.free=1", bytes " tls = a=b "] := by
  have hrest : (bytes "tls = true\ncharging.free=1\n tls = a=b ").splitOn '\n'.toUInt8 =
      [bytes "tls = true", bytes "charging.free=1", bytes " tls = a=b "] := by decide
  rw [← hrest]
  refine List.splitOnP_append_cons_of_forall_mem (fun c hc => ?_) '\n'.toUInt8 (by simp) _
  rcases mem_silentComment hc with rfl | rfl <;> decide

theorem zero_notMem_sampleFile : 0 ∉ sampleFile := by
  intro hmem
  rcases List.mem_append.mp hmem with hmem | hmem
  · rcases mem_silentComment hmem with h | h <;> cases h
  · exact absurd hmem (by decide)

theorem sampleFile_silent :
    ∀ line ∈ lines sampleFile, isLong line = true →
      assignment line = none ∧ ∀ piece ∈ pieces 254 line, assignment piece = none := by
  intro line hline hlong
  rw [lines_sampleFile] at hline
  rcases List.mem_cons.mp hline with rfl | hline
  · refine ⟨assignment_comment _, ?_⟩
    have hfirst : ('#'.toUInt8 :: List.replicate 254 'x'.toUInt8).length = 254 + 1 := by
      rw [List.length_cons, List.length_replicate]
    rw [silentComment, pieces_append hfirst, pieces_of_length_le (by simp) (by simp)]
    have hrest : assignment (List.replicate 44 'x'.toUInt8) = none := by decide
    rintro piece hpiece
    rcases List.mem_pair.mp hpiece with rfl | rfl
    · exact assignment_comment _
    · exact hrest
  · have hshort : ∀ line ∈ [bytes "tls = true", bytes "charging.free=1", bytes " tls = a=b "],
        isLong line = false := by decide
    rw [hshort line hline] at hlong
    cases hlong

/-- A long comment does not keep the loader from following the rule. -/
theorem loadConfig_eq_lineWise_sample :
    (loadEvccConfig samplePlatform [] (some (.ok sampleFile))
        (some (evccConfigDefault samplePlatform))).2 =
      some (lineWise EvccConfig.assign (evccConfigDefault samplePlatform) sampleFile) ∧
    (loadSeccConfig samplePlatform [] (some (.ok sampleFile))
        (some (seccConfigDefault samplePlatform))).2 =
      some (lineWise SeccConfig.assign (seccConfigDefault samplePlatform) sampleFile) := by
  have hsilent := sampleFile_silent
  have hzero := zero_notMem_sampleFile
  -- the file is not computed
  generalize sampleFile = file at hsilent hzero
  obtain ⟨hevcc, hsecc⟩ := loadConfig_eq_lineWise_iff samplePlatform [] hzero
    (evccConfigDefault samplePlatform) (seccConfigDefault samplePlatform)
  exact ⟨hevcc.mpr fun s _ => s.survives_of_silent hsilent _,
    hsecc.mpr fun s _ => s.survives_of_silent hsilent _⟩

/-- A comment that the buffer cuts before its last eight characters. -/
def longComment : List UInt8 :=
  ('#'.toUInt8 :: List.replicate 254 'x'.toUInt8) ++ bytes "tls=true"

theorem notMem_longComment {c : UInt8} (hc : c ∉ '#'.toUInt8 :: 'x'.toUInt8 :: bytes "tls=true") :
    c ∉ longComment := by
  intro hmem
  rcases List.mem_append.mp hmem with hmem | hmem
  · rcases List.mem_cons.mp hmem with rfl | hmem
    · exact hc (by simp)
    · rw [List.eq_of_mem_replicate hmem] at hc
      exact hc (by simp)
  · exact hc (by simp [hmem])

theorem lines_longComment : lines longComment = [longComment] := by
  refine List.splitOnP_eq_singleton fun c hc => ?_
  have hnewline : '\n'.toUInt8 ∉ longComment := notMem_longComment (by decide)
  simpa using fun heq : c = '\n'.toUInt8 => hnewline (heq ▸ hc)

theorem chunkAssignments_longComment :
    chunkAssignments longComment = [(bytes "tls", bytes "true")] := by
  have hfirst : ('#'.toUInt8 :: List.replicate 254 'x'.toUInt8).length = 254 + 1 := by
    rw [List.length_cons, List.length_replicate]
  have hrest : assignment (bytes "tls=true") = some (bytes "tls", bytes "true") := by decide
  rw [chunkAssignments_eq, lines_longComment, List.flatMap_singleton, longComment,
    pieces_append hfirst, pieces_of_length_le (by decide) (by decide)]
  simp only [List.filterMap_cons, assignment_comment, hrest, List.filterMap_nil]

/-- The loader does not follow the rule: the end of a long comment is read as an assignment. -/
theorem not_loadConfig_eq_lineWise :
    ¬∀ (platform : Platform) (stack file : List UInt8), 0 ∉ file →
      ∀ (evcc : EvccConfig) (secc : SeccConfig),
        (loadEvccConfig platform stack (some (.ok file)) (some evcc)).2 =
            some (lineWise EvccConfig.assign (evccConfigDefault platform) file) ∧
          (loadSeccConfig platform stack (some (.ok file)) (some secc)).2 =
            some (lineWise SeccConfig.assign (seccConfigDefault platform) file) := by
  intro h
  have hzero : 0 ∉ longComment := notMem_longComment (by decide)
  have hcomment : assignment longComment = none := assignment_comment _
  have hevcc := (h samplePlatform [] longComment hzero (evccConfigDefault samplePlatform)
    (seccConfigDefault samplePlatform)).1
  rw [loadEvccConfig_spec samplePlatform [] hzero, chunkAssignments_longComment, lineWise,
    lines_longComment] at hevcc
  simp only [List.filterMap_cons, hcomment, List.filterMap_nil] at hevcc
  have htls := congrArg (Option.map EvccConfig.useTls) hevcc
  exact absurd htls (by decide)

end Jpv2g.Config
