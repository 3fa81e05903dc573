import Jpv2g.ToMathlib.CString

/-!
# Reading Lines Through a Buffer

The library function `fgets` reads a file in chunks: each ends with a newline, or where the buffer
is full, or where the file ends. This file relates the chunks of a file to its lines: a line is
read in pieces as long as the buffer holds, so only a line longer than that is not read at once.

## Main definitions

* `LineChunks.fgets`: one call of `fgets`, with what is left of the file.
* `LineChunks.chunks`: everything that a loop of calls reads from a file.
* `LineChunks.pieces`: a list cut into pieces of equal length, the last one possibly shorter.

## Main results

* `LineChunks.chunks_append_cons`: the chunks of a file are the pieces of its lines.
* `LineChunks.filterMap_chunks`: a reader to which a newline at the end says nothing reads the same
  from the chunks of a file as from the pieces of its lines without their newlines.
-/

namespace LineChunks

variable {α : Type*}

/-- The list in pieces of `n + 1` elements, the last one with what remains. -/
def pieces (n : ℕ) (l : List α) : List (List α) :=
  if l = [] then [] else l.take (n + 1) :: pieces n (l.drop (n + 1))
termination_by l.length
decreasing_by
  have := List.length_pos_of_ne_nil ‹l ≠ []›
  rw [List.length_drop]
  omega

section Pieces

variable {n : ℕ} {l t : List α}

@[simp]
theorem pieces_nil : pieces n ([] : List α) = [] := by
  rw [pieces, if_pos rfl]

theorem pieces_of_ne_nil (h : l ≠ []) :
    pieces n l = l.take (n + 1) :: pieces n (l.drop (n + 1)) := by
  rw [pieces, if_neg h]

/-- A list that fits is one piece. -/
theorem pieces_of_length_le (h : l ≠ []) (hl : l.length ≤ n + 1) : pieces n l = [l] := by
  rw [pieces_of_ne_nil h, List.take_of_length_le hl, List.drop_eq_nil_of_le hl, pieces_nil]

/-- A full piece comes off at the front. -/
theorem pieces_append (hl : l.length = n + 1) : pieces n (l ++ t) = l :: pieces n t := by
  have hne : l ++ t ≠ [] := by
    intro h
    simp [(List.append_eq_nil_iff.mp h).1] at hl
  rw [pieces_of_ne_nil hne, ← hl, List.take_left, List.drop_left]

/-- A reader to which a last `x` says nothing reads the same from the pieces with it. -/
theorem filterMap_pieces_concat {β : Type*} {f : List α → Option β} {x : α} (hnil : f [] = none)
    (hconcat : ∀ p, f (p ++ [x]) = f p) (l : List α) :
    (pieces n (l ++ [x])).filterMap f = (pieces n l).filterMap f := by
  induction l using pieces.induct n with
  | case1 =>
    have hx : f [x] = none := (hconcat []).trans hnil
    rw [List.nil_append, pieces_of_length_le (by simp) (by simp)]
    simp [hx]
  | case2 l hne ih =>
    rw [pieces_of_ne_nil hne]
    by_cases hfit : l.length ≤ n
    · have hlen : (l ++ [x]).length ≤ n + 1 := by simp; omega
      rw [pieces_of_length_le (by simp) hlen, List.take_of_length_le (by omega),
        List.drop_eq_nil_of_le (by omega), pieces_nil]
      simp only [List.filterMap_cons, hconcat]
    · rw [pieces_of_ne_nil (by simp), List.take_append_of_le_length (by omega),
        List.drop_append_of_le_length (by omega)]
      simp only [List.filterMap_cons, ih]

end Pieces

section Chunks

variable [DecidableEq α]

/-- What one call takes from the file: at most `n` characters, through the first newline. -/
def chunk (nl : α) : ℕ → List α → List α
  | 0, _ => []
  | _ + 1, [] => []
  | n + 1, a :: l => if a = nl then [a] else a :: chunk nl n l

variable {nl : α} {n : ℕ} {line rest file : List α}

theorem chunk_prefix_file (nl : α) (n : ℕ) (file : List α) : chunk nl n file <+: file := by
  induction n generalizing file with
  | zero => exact List.nil_prefix
  | succ n ih =>
    cases file with
    | nil => exact List.nil_prefix
    | cons a l =>
      rw [chunk]
      split
      · exact List.prefix_append [a] l
      · exact List.prefix_cons_inj a |>.mpr (ih l)

theorem length_chunk_pos (h : file ≠ []) : 0 < (chunk nl (n + 1) file).length := by
  cases file with
  | nil => exact absurd rfl h
  | cons a l =>
    rw [chunk]
    split <;> exact Nat.succ_pos _

/-- From a line with its newline a call takes what fits. -/
theorem chunk_append_cons (h : nl ∉ line) :
    chunk nl n (line ++ nl :: rest) = (line ++ [nl]).take n := by
  induction line generalizing n with
  | nil => cases n <;> simp [chunk]
  | cons a l ih =>
    obtain ⟨ha, hl⟩ := not_or.mp fun hor => h (List.mem_cons.mpr hor)
    cases n with
    | zero => rfl
    | succ n =>
      rw [List.cons_append, chunk, if_neg (Ne.symm ha), ih hl]
      rfl

/-- From a last line without a newline a call takes what fits. -/
theorem chunk_of_notMem (h : nl ∉ line) : chunk nl n line = line.take n := by
  induction line generalizing n with
  | nil => cases n <;> simp [chunk]
  | cons a l ih =>
    obtain ⟨ha, hl⟩ := not_or.mp fun hor => h (List.mem_cons.mpr hor)
    cases n with
    | zero => rfl
    | succ n =>
      rw [chunk, if_neg (Ne.symm ha), ih hl]
      rfl

/-- The chunks that a loop of calls reads, of at most `n + 1` characters each. -/
def chunks (nl : α) (n : ℕ) (file : List α) : List (List α) :=
  if file = [] then []
  else chunk nl (n + 1) file :: chunks nl n (file.drop (chunk nl (n + 1) file).length)
termination_by file.length
decreasing_by
  have hchunk : 0 < (chunk nl (n + 1) file).length := length_chunk_pos ‹file ≠ []›
  have := List.length_pos_of_ne_nil ‹file ≠ []›
  rw [List.length_drop]
  omega

@[simp]
theorem chunks_nil : chunks nl n [] = [] := by
  rw [chunks, if_pos rfl]

theorem chunks_of_ne_nil (h : file ≠ []) :
    chunks nl n file =
      chunk nl (n + 1) file :: chunks nl n (file.drop (chunk nl (n + 1) file).length) := by
  rw [chunks, if_neg h]

/-- A line is read in its pieces, the last one with the newline. -/
theorem chunks_append_cons (h : nl ∉ line) :
    chunks nl n (line ++ nl :: rest) = pieces n (line ++ [nl]) ++ chunks nl n rest := by
  induction line using pieces.induct n with
  | case1 =>
    rw [chunks_of_ne_nil (by simp), chunk_append_cons h]
    simp [pieces_of_length_le]
  | case2 line hne ih =>
    rw [chunks_of_ne_nil (by simp), chunk_append_cons h]
    -- the rest of the line fits into a piece, or another piece is cut off
    by_cases hfit : line.length ≤ n
    · have hlen : (line ++ [nl]).length ≤ n + 1 := by simp; omega
      rw [pieces_of_length_le (by simp) hlen, List.take_of_length_le hlen]
      have hfile : line ++ nl :: rest = (line ++ [nl]) ++ rest := by simp
      rw [hfile, List.drop_left]
      rfl
    · have htake : ((line ++ [nl]).take (n + 1)).length = n + 1 := by simp; omega
      have hdrop : nl ∉ line.drop (n + 1) := fun hmem => h (List.mem_of_mem_drop hmem)
      rw [pieces_of_ne_nil (by simp), htake, List.drop_append_of_le_length (by omega), ih hdrop,
        List.drop_append_of_le_length (by omega)]
      rfl

/-- A last line without a newline is read in its pieces. -/
theorem chunks_of_notMem (h : nl ∉ line) : chunks nl n line = pieces n line := by
  induction line using pieces.induct n with
  | case1 => simp
  | case2 line hne ih =>
    have hdrop : nl ∉ line.drop (n + 1) := fun hmem => h (List.mem_of_mem_drop hmem)
    have hlen : line.drop (line.take (n + 1)).length = line.drop (n + 1) := by
      rw [List.length_take]
      rcases le_total (n + 1) line.length with hle | hle
      · rw [Nat.min_eq_left hle]
      · rw [Nat.min_eq_right hle, List.drop_length, List.drop_eq_nil_of_le hle]
    rw [chunks_of_ne_nil hne, chunk_of_notMem h, pieces_of_ne_nil hne, hlen, ih hdrop]

/-- A reader to which a newline at the end says nothing reads from the chunks what it reads from the
pieces of the lines. -/
theorem filterMap_chunks {β : Type*} {f : List α → Option β} (hnil : f [] = none)
    (hconcat : ∀ p, f (p ++ [nl]) = f p) (file : List α) :
    (chunks nl n file).filterMap f =
      ((file.splitOn nl).flatMap (pieces n)).filterMap f := by
  induction hlen : file.length using Nat.strong_induction_on generalizing file with
  | _ len ih =>
    by_cases hmem : nl ∈ file
    · -- the first line, and the file after it
      obtain ⟨line, rest, hfile, hline⟩ := List.eq_append_cons_of_mem hmem
      have hrest : rest.length < len := by
        rw [← hlen, hfile]
        simp
        omega
      have hsplit : file.splitOn nl = line :: rest.splitOn nl := by
        rw [hfile]
        refine List.splitOnP_append_cons_of_forall_mem (fun x hx => ?_) nl (by simp) rest
        simpa using fun heq : x = nl => hline (heq ▸ hx)
      rw [hsplit, hfile, chunks_append_cons hline, List.filterMap_append,
        filterMap_pieces_concat hnil hconcat, ih _ hrest rest rfl, List.flatMap_cons,
        List.filterMap_append]
    · have hsplit : file.splitOn nl = [file] := by
        refine List.splitOnP_eq_singleton (fun x hx => ?_)
        simpa using fun heq : x = nl => hmem (heq ▸ hx)
      rw [hsplit, chunks_of_notMem hmem, List.flatMap_singleton]

/-! ## The call -/

variable [Zero α]

/-- `fgets` with a buffer of `size` cells: the buffer and the rest of the file, or nothing where the
file ends. -/
def fgets (nl : α) (size : ℕ) (buf file : List α) : Option (List α × List α) :=
  if file = [] then none
  else
    let read := chunk nl (size - 1) file
    some (read ++ 0 :: buf.drop (read.length + 1), file.drop read.length)

theorem fgets_eq_none {size : ℕ} {buf : List α} (h : fgets nl size buf file = none) :
    file = [] := by
  rw [fgets] at h
  split at h
  · assumption
  · cases h

/-- A call that reads something leaves the rest of the file. -/
theorem fgets_eq_some {size : ℕ} {buf buf' : List α}
    (h : fgets nl size buf file = some (buf', rest)) :
    file ≠ [] ∧ rest = file.drop (chunk nl (size - 1) file).length := by
  rw [fgets] at h
  split at h
  · cases h
  · obtain ⟨-, rfl⟩ := Prod.mk.inj (Option.some.inj h)
    exact ⟨‹file ≠ []›, rfl⟩

/-- The buffer holds what the call has taken from a file without zeros. -/
theorem at_fgets {size : ℕ} {buf buf' : List α} (h : fgets nl size buf file = some (buf', rest))
    (hfile : 0 ∉ file) : CString.At buf' 0 (chunk nl (size - 1) file) := by
  rw [fgets] at h
  split at h
  · cases h
  · obtain ⟨rfl, -⟩ := Prod.mk.inj (Option.some.inj h)
    have hzero : 0 ∉ chunk nl (size - 1) file := fun h0 =>
      hfile ((chunk_prefix_file nl (size - 1) file).subset h0)
    exact ⟨hzero, _, rfl⟩

/-- Every call that reads something takes some of the file. -/
theorem length_rest_lt {size : ℕ} {buf buf' : List α}
    (h : fgets nl size buf file = some (buf', rest)) (hsize : 2 ≤ size) :
    rest.length < file.length := by
  obtain ⟨hne, rfl⟩ := fgets_eq_some h
  obtain ⟨m, rfl⟩ : ∃ m, size = m + 2 := ⟨size - 2, by omega⟩
  have hpos : 0 < (chunk nl (m + 2 - 1) file).length := length_chunk_pos hne
  have hfile := List.length_pos_of_ne_nil hne
  rw [List.length_drop]
  omega

end Chunks

end LineChunks
