import Jpv2g.Config
import Jpv2g.ToMathlib.LineChunks
import Mathlib.Data.UInt

/-!
# The Configuration Loader

The loader of text files (`config_loader.c`): it reads a line into a buffer, trims it in place,
cuts it at the first `=` and stores the value under a known key.

## Main definitions

* `trim`, `parseLine`: the work on the buffer.
* `EvccConfig.assign`, `SeccConfig.assign`: the keys of either party.
* `loadFile`, `loadEvccConfig`, `loadSeccConfig`: the loader.
* `trimText`, `assignment`: what a line says, as a function of its text.

## Main results

* `parseLine_spec`: the work on the buffer finds what the line says.
* `loadLoop_spec`: the loader stores in order what the chunks of the file say.
-/

namespace Jpv2g.Config

open CString LineChunks

/-- `isspace` in the C locale. -/
def isspace (c : UInt8) : Bool :=
  c = ' '.toUInt8 ∨ (9 ≤ c ∧ c ≤ 13)

/-- `atoi`: a saturating `strtol`, narrowed to 32 bits. -/
def atoi (s : List UInt8) : ℤ :=
  let body := s.dropWhile isspace
  let sign := body.take 1
  let digits := if sign = bytes "-" ∨ sign = bytes "+" then body.drop 1 else body
  let value : ℤ := (digits.takeWhile fun c => '0'.toUInt8 ≤ c ∧ c ≤ '9'.toUInt8).foldl
    (fun n c => 10 * n + (c - '0'.toUInt8).toNat) 0
  let long := if sign = bytes "-" then max (-2 ^ 63) (-value) else min (2 ^ 63 - 1) value
  long.bmod (2 ^ 32)

/-- A text that stands for `true`. -/
def isTrue (value : List UInt8) : Bool :=
  value = bytes "true" ∨ value = bytes "1"

/-- `trim`: the buffer, and the index of the trimmed string in it. -/
def trim (buf : List UInt8) (s : ℕ) : List UInt8 × ℕ :=
  let start := scan isspace buf s
  if buf.getD start 0 = 0 then (buf, start)
  else
    let last := scanBack isspace buf start (start + (text buf start).length - 1)
    (buf.set (last + 1) 0, start)

/-- The body of the loop of `load_file`: the buffer, and the key with its value. -/
def parseLine (line : List UInt8) : List UInt8 × Option (List UInt8 × List UInt8) :=
  let (line, p) := trim line 0
  let first := line.getD p 0
  if first = 0 ∨ first = '#'.toUInt8 ∨ first = ';'.toUInt8 then (line, none)
  else
    match strchr line p '='.toUInt8 with
    | none => (line, none)
    | some eq =>
      let line := line.set eq 0
      let (line, key) := trim line p
      let (line, val) := trim line (eq + 1)
      (line, some (text line key, text line val))

/-- The keys of the vehicle. -/
def EvccConfig.assign (cfg : EvccConfig) (key val : List UInt8) : EvccConfig :=
  if key = bytes "network.interface" then { cfg with networkInterface := .strncpy 32 val }
  else if key = bytes "tls" then { cfg with useTls := isTrue val }
  else if key = bytes "tls.cert" then { cfg with tlsCertPath := .strncpy 256 val }
  else if key = bytes "tls.key" then { cfg with tlsKeyPath := .strncpy 256 val }
  else if key = bytes "tls.ca" then { cfg with tlsCaPath := .strncpy 256 val }
  else if key = bytes "session.id" then { cfg with sessionIdHex := .strncpy 32 val }
  else if key = bytes "authentication.mode" then { cfg with authMode := .strncpy 32 val }
  else if key = bytes "energy.transfermode.requested" then
    { cfg with energyMode := .strncpy 128 val }
  else if key = bytes "contract.certificate.update.timespan" then
    { cfg with contractCertUpdateDays := atoi val }
  else cfg

/-- The keys of the charging station. -/
def SeccConfig.assign (cfg : SeccConfig) (key val : List UInt8) : SeccConfig :=
  if key = bytes "network.interface" then { cfg with networkInterface := .strncpy 32 val }
  else if key = bytes "charging.free" then { cfg with freeCharging := isTrue val }
  else if key = bytes "environment.private" then { cfg with privateEnvironment := isTrue val }
  else if key = bytes "tls" then { cfg with useTls := isTrue val }
  else if key = bytes "tls.cert" then { cfg with tlsCertPath := .strncpy 256 val }
  else if key = bytes "tls.key" then { cfg with tlsKeyPath := .strncpy 256 val }
  else if key = bytes "tls.ca" then { cfg with tlsCaPath := .strncpy 256 val }
  else if key = bytes "authentication.modes.supported" then
    { cfg with supportedAuthModes := .strncpy 32 val }
  else if key = bytes "energy.transfermodes.supported" then
    { cfg with supportedEnergyModes := .strncpy 128 val }
  else cfg

/-- The loop of `load_file`, from the buffer and the rest of the file on. -/
def loadLoop (line file : List UInt8) (evcc : Option EvccConfig) (secc : Option SeccConfig) :
    Option EvccConfig × Option SeccConfig :=
  match _h : fgets '\n'.toUInt8 256 line file with
  | none => (evcc, secc)
  | some (line, rest) =>
    match parseLine line with
    | (line, none) => loadLoop line rest evcc secc
    | (line, some (key, val)) =>
      loadLoop line rest (evcc.map (·.assign key val)) (secc.map (·.assign key val))
termination_by file.length
decreasing_by all_goals exact length_rest_lt _h (by decide)

/-- `load_file`, on what `fopen` finds under the path. The buffer holds at first what the stack
holds. -/
def loadFile (stack : List UInt8) (file : Except Errno (List UInt8)) (evcc : Option EvccConfig)
    (secc : Option SeccConfig) : Rc × Option EvccConfig × Option SeccConfig :=
  match file with
  | .error e => (.error e, evcc, secc)
  | .ok file => (.ok (), loadLoop stack file evcc secc)

/-- `jpv2g_load_evcc_config`: the record of the caller and the file under the path, each of which
may be missing. -/
def loadEvccConfig (platform : Platform) (stack : List UInt8)
    (file : Option (Except Errno (List UInt8))) (cfg : Option EvccConfig) :
    Rc × Option EvccConfig :=
  match cfg with
  | none => (.error .einval, none)
  | some _ =>
    let cfg := evccConfigDefault platform
    match file with
    | none => (.ok (), some cfg)
    | some file =>
      let (rc, evcc, _) := loadFile stack file (some cfg) none
      (rc, evcc)

/-- `jpv2g_load_secc_config`. -/
def loadSeccConfig (platform : Platform) (stack : List UInt8)
    (file : Option (Except Errno (List UInt8))) (cfg : Option SeccConfig) :
    Rc × Option SeccConfig :=
  match cfg with
  | none => (.error .einval, none)
  | some _ =>
    let cfg := seccConfigDefault platform
    match file with
    | none => (.ok (), some cfg)
    | some file =>
      let (rc, _, secc) := loadFile stack file none (some cfg)
      (rc, secc)

/-! ## What a line says -/

/-- A text without the white space at its ends. -/
def trimText (s : List UInt8) : List UInt8 :=
  (s.dropWhile isspace).rdropWhile isspace

/-- The key and the value that a line assigns, if it is an assignment. -/
def assignment (line : List UInt8) : Option (List UInt8 × List UInt8) :=
  let body := trimText line
  if body.head? ∈ [none, some '#'.toUInt8, some ';'.toUInt8] then none
  else if '='.toUInt8 ∈ body then
    some (trimText (body.takeWhile (· ≠ '='.toUInt8)),
      trimText ((body.dropWhile (· ≠ '='.toUInt8)).drop 1))
  else none

/-! ## The work on the buffer -/

/-- What `trim` does with a string: it leaves the trimmed one, and the others as they were. -/
structure Trims (buf : List UInt8) (s : ℕ) (t : List UInt8) (result : List UInt8 × ℕ) : Prop where
  at_trimText : At result.1 result.2 (trimText t)
  end_le : result.2 + (trimText t).length ≤ s + t.length
  before : ∀ i u, At buf i u → i + u.length < s → At result.1 i u
  after : ∀ i u, At buf i u → s + t.length < i → At result.1 i u

theorem trim_spec {buf : List UInt8} {s : ℕ} {t : List UInt8} (h : At buf s t) :
    Trims buf s t (trim buf s) := by
  have hspace : isspace 0 = false := by decide
  have hbody : At buf (scan isspace buf s) (t.dropWhile isspace) := h.scan hspace
  have hend : scan isspace buf s + (t.dropWhile isspace).length = s + t.length := by
    have hlen := congrArg List.length (List.takeWhile_append_dropWhile (p := isspace) (l := t))
    rw [List.length_append] at hlen
    rw [h.scan_eq hspace]
    omega
  have hstart : s ≤ scan isspace buf s := Nat.le_add_right _ _
  have hle : (trimText t).length ≤ (t.dropWhile isspace).length :=
    (List.rdropWhile_prefix isspace _).length_le
  unfold trim
  generalize scan isspace buf s = start at hbody hend hstart
  have hend_le : start + (trimText t).length ≤ s + t.length := by omega
  cases hcases : t.dropWhile isspace with
  | nil =>
    -- nothing but white space: the buffer is left alone
    rw [hcases] at hbody
    have htext : trimText t = [] := by rw [trimText, hcases, List.rdropWhile_nil]
    have hcell : buf.getD start 0 = 0 := hbody.getD_eq
    simp only [hcell, if_true]
    exact ⟨by rwa [htext], hend_le, fun i u hu _ => hu, fun i u hu _ => hu⟩
  | cons a body =>
    rw [hcases] at hbody hend
    have ha : ¬isspace a = true := by
      have hhead := List.head?_dropWhile_not isspace t
      rw [hcases] at hhead
      simpa using hhead
    have htext : trimText t = a :: body.rdropWhile isspace := by
      rw [trimText, hcases, rdropWhile_cons_of_neg ha]
    have hcell : buf.getD start 0 ≠ 0 := by
      rw [hbody.getD_eq]
      exact fun h0 : a = 0 => hbody.1 (by simp [h0])
    have hlen : start + (text buf start).length - 1 = start + body.length := by
      rw [hbody.text_eq]
      rfl
    -- the zero goes behind the last character, into the string or onto its end
    have hcut := hbody.cut_scanBack (p := isspace)
    have hlast := hbody.scanBack_mem (p := isspace)
    rw [List.length_cons] at hend
    simp only [if_neg hcell, hlen]
    refine ⟨by rwa [htext], hend_le, fun i u hu hi => ?_, fun i u hu hi => ?_⟩
    · exact hu.set_of_gt (by omega)
    · exact hu.set_of_lt (by omega)

/-- At the first `=` the buffer is cut into the key and the value. -/
theorem cut_spec {buf key val : List UInt8} {p : ℕ}
    (h : At buf p (key ++ '='.toUInt8 :: val)) :
    let keyTrimmed := trim (buf.set (p + key.length) 0) p
    let valTrimmed := trim keyTrimmed.1 (p + key.length + 1)
    text valTrimmed.1 keyTrimmed.2 = trimText key ∧
      text valTrimmed.1 valTrimmed.2 = trimText val := by
  intro keyTrimmed valTrimmed
  -- the text behind the equals sign, which the cut leaves alone
  have hright : At buf (p + key.length + 1) val := by
    have hsplit : At buf p ((key ++ ['='.toUInt8]) ++ val) := by simpa using h
    simpa [Nat.add_assoc] using hsplit.append
  have hset : At (buf.set (p + key.length) 0) (p + key.length + 1) val :=
    hright.set_of_lt (Nat.lt_succ_self _)
  have hkey : Trims _ p key keyTrimmed := trim_spec h.cut
  have hval : Trims keyTrimmed.1 (p + key.length + 1) val valTrimmed :=
    trim_spec (hkey.after _ _ hset (Nat.lt_succ_self _))
  -- trimming the value leaves the key, which ends before it
  have hkept : At valTrimmed.1 keyTrimmed.2 (trimText key) :=
    hval.before _ _ hkey.at_trimText (Nat.lt_succ_of_le hkey.end_le)
  exact ⟨hkept.text_eq, hval.at_trimText.text_eq⟩

/-- The work on the buffer finds what the line says. -/
theorem parseLine_spec {buf line : List UInt8} (h : At buf 0 line) :
    (parseLine buf).2 = assignment line := by
  obtain ⟨hbody, -, -, -⟩ := trim_spec h
  unfold parseLine assignment
  generalize trim buf 0 = trimmed at hbody
  obtain ⟨buf, p⟩ := trimmed
  generalize trimText line = body at hbody
  -- the character the source looks at is the first of the trimmed line
  have hfirst : (buf.getD p 0 = 0 ∨ buf.getD p 0 = '#'.toUInt8 ∨ buf.getD p 0 = ';'.toUInt8) ↔
      body.head? ∈ [none, some '#'.toUInt8, some ';'.toUInt8] := by
    rw [hbody.getD_eq]
    cases body with
    | nil => simp
    | cons a body =>
      have ha : a ≠ 0 := fun h0 => hbody.1 (by simp [h0])
      simp [ha]
  by_cases hskip : body.head? ∈ [none, some '#'.toUInt8, some ';'.toUInt8]
  · rw [if_pos hskip]
    simp only [hfirst.mpr hskip, if_true]
  · rw [if_neg hskip]
    simp only [if_neg (mt hfirst.mp hskip)]
    -- the first equals sign is where the source cuts the line
    by_cases heq : '='.toUInt8 ∈ body
    · obtain ⟨key, val, rfl, hkey⟩ := List.eq_append_cons_of_mem heq
      have hne : ∀ c ∈ key, decide (c ≠ '='.toUInt8) = true := by
        intro c hc
        simpa using fun h0 : c = '='.toUInt8 => hkey (h0 ▸ hc)
      have htake : (key ++ '='.toUInt8 :: val).takeWhile (· ≠ '='.toUInt8) = key := by
        rw [List.takeWhile_append_of_pos hne]
        simp
      have hdrop : ((key ++ '='.toUInt8 :: val).dropWhile (· ≠ '='.toUInt8)).drop 1 = val := by
        rw [List.dropWhile_append_of_pos hne]
        simp
      obtain ⟨hkeyText, hvalText⟩ := cut_spec hbody
      rw [if_pos heq, htake, hdrop, hbody.strchr_eq_some hkey]
      exact congrArg some (Prod.ext hkeyText hvalText)
    · rw [if_neg heq, hbody.strchr_eq_none heq]

/-! ## The loop -/

/-- The keys and values stored one after the other. -/
def assignAll {C : Type} (assign : C → List UInt8 → List UInt8 → C) (cfg : C)
    (assignments : List (List UInt8 × List UInt8)) : C :=
  assignments.foldl (fun cfg a => assign cfg a.1 a.2) cfg

theorem assignAll_append {C : Type} (assign : C → List UInt8 → List UInt8 → C) (cfg : C)
    (first second : List (List UInt8 × List UInt8)) :
    assignAll assign cfg (first ++ second) =
      assignAll assign (assignAll assign cfg first) second :=
  List.foldl_append

/-- What the chunks of a file say in order. -/
def chunkAssignments (file : List UInt8) : List (List UInt8 × List UInt8) :=
  (chunks '\n'.toUInt8 254 file).filterMap assignment

/-- One turn of the loop: what the chunk in the buffer says comes before the rest of the file. -/
theorem chunkAssignments_of_read {buf line file rest : List UInt8} (hfile : 0 ∉ file)
    (h : fgets '\n'.toUInt8 256 buf file = some (line, rest)) :
    0 ∉ rest ∧
      chunkAssignments file = (parseLine line).2.toList ++ chunkAssignments rest := by
  obtain ⟨hne, rfl⟩ := fgets_eq_some h
  refine ⟨fun h0 => hfile (List.mem_of_mem_drop h0), ?_⟩
  have hline : At line 0 (chunk '\n'.toUInt8 255 file) := at_fgets h hfile
  rw [parseLine_spec hline, chunkAssignments, chunks_of_ne_nil hne, List.filterMap_cons]
  cases assignment (chunk '\n'.toUInt8 255 file) <;> rfl

/-- The loop stores in order what the chunks of the file say. -/
theorem loadLoop_spec (buf : List UInt8) {file : List UInt8} (hfile : 0 ∉ file)
    (evcc : Option EvccConfig) (secc : Option SeccConfig) :
    loadLoop buf file evcc secc =
      (evcc.map (assignAll EvccConfig.assign · (chunkAssignments file)),
        secc.map (assignAll SeccConfig.assign · (chunkAssignments file))) := by
  fun_induction loadLoop buf file evcc secc with
  | case1 buf file evcc secc hend =>
    rw [fgets_eq_none hend, chunkAssignments, chunks_nil]
    cases evcc <;> cases secc <;> rfl
  | case2 buf file evcc secc line rest hread buf' hparse ih =>
    obtain ⟨hrest, hfirst⟩ := chunkAssignments_of_read hfile hread
    rw [ih hrest, hfirst, hparse]
    rfl
  | case3 buf file evcc secc line rest hread buf' key val hparse ih =>
    obtain ⟨hrest, hfirst⟩ := chunkAssignments_of_read hfile hread
    rw [ih hrest, hfirst, hparse, Option.map_map, Option.map_map]
    rfl

/-- The loader stores over the defaults of the vehicle what the chunks of the file say. -/
theorem loadEvccConfig_spec (platform : Platform) (stack : List UInt8) {file : List UInt8}
    (hfile : 0 ∉ file) (cfg : EvccConfig) :
    loadEvccConfig platform stack (some (.ok file)) (some cfg) =
      (.ok (), some (assignAll EvccConfig.assign (evccConfigDefault platform)
        (chunkAssignments file))) := by
  show (_, (loadLoop stack file (some (evccConfigDefault platform)) none).1) = _
  rw [loadLoop_spec stack hfile]
  rfl

/-- The loader stores over the defaults of the charging station what the chunks of the file say. -/
theorem loadSeccConfig_spec (platform : Platform) (stack : List UInt8) {file : List UInt8}
    (hfile : 0 ∉ file) (cfg : SeccConfig) :
    loadSeccConfig platform stack (some (.ok file)) (some cfg) =
      (.ok (), some (assignAll SeccConfig.assign (seccConfigDefault platform)
        (chunkAssignments file))) := by
  show (_, (loadLoop stack file none (some (seccConfigDefault platform))).2) = _
  rw [loadLoop_spec stack hfile]
  rfl

end Jpv2g.Config
