import Mathlib.Algebra.Notation.Defs
import Mathlib.Data.List.DropRight
import Mathlib.Order.Basic

/-!
# Strings in a Buffer

A C string is what stands in a buffer from an index on up to the first zero cell, and is edited in
place by writing zeros. This file says which string a buffer holds at an index, what the usual
loops and library functions find in it, and which writes leave it as it was.

## Main definitions

* `CString.At buf i s`: the buffer `buf` holds the string `s` at the index `i`.
* `CString.text`: the string that is read at an index.
* `CString.scan`, `CString.scanBack`: the loops that step over the cells with a property.
* `CString.strchr`: the index of the first occurrence of a character.

## Main results

* `CString.At.cut`: a zero written into a string ends it there.
* `CString.At.set_of_lt`, `CString.At.set_of_gt`: a write beside a string leaves it as it was.
* `CString.At.scan`, `CString.At.cut_scanBack`: the loops drop what has the property at either end.
-/

namespace CString

variable {α : Type*} [Zero α] {buf s t : List α} {i k : ℕ} {c v : α}

/-- The buffer holds the string at the index, ended by a zero. -/
def At (buf : List α) (i : ℕ) (s : List α) : Prop :=
  0 ∉ s ∧ ∃ post, buf.drop i = s ++ 0 :: post

/-- The loop `while (p(*s)) s++`. -/
def scan (p : α → Bool) (buf : List α) (i : ℕ) : ℕ :=
  i + ((buf.drop i).takeWhile p).length

/-- The loop `while (end > s && p(*end)) end--`, entered with a given `end`. -/
def scanBack (p : α → Bool) (buf : List α) (s : ℕ) : ℕ → ℕ
  | 0 => 0
  | last + 1 =>
    if s < last + 1 ∧ p (buf.getD (last + 1) 0) then scanBack p buf s last else last + 1

section Read

variable [DecidableEq α]

/-- The string that is read at an index. -/
def text (buf : List α) (i : ℕ) : List α :=
  (buf.drop i).takeWhile (· ≠ 0)

/-- The library function `strchr`, for a character other than zero. -/
def strchr (buf : List α) (i : ℕ) (c : α) : Option ℕ :=
  if c ∈ text buf i then some (i + (text buf i).idxOf c) else none

theorem At.text_eq (h : At buf i s) : text buf i = s := by
  obtain ⟨hs, post, hbuf⟩ := h
  have hpos : ∀ a ∈ s, decide (a ≠ 0) = true := by
    intro a ha
    simpa using fun h0 : a = 0 => hs (h0 ▸ ha)
  rw [text, hbuf, List.takeWhile_append_of_pos hpos]
  simp

/-- The first occurrence of a character stands after the text without it. -/
theorem At.strchr_eq_some (h : At buf i (s ++ c :: t)) (hc : c ∉ s) :
    strchr buf i c = some (i + s.length) := by
  rw [strchr, h.text_eq, if_pos (by simp), List.idxOf_append_of_notMem hc]
  simp

theorem At.strchr_eq_none (h : At buf i s) (hc : c ∉ s) : strchr buf i c = none := by
  rw [strchr, h.text_eq, if_neg hc]

end Read

/-- The cell under the pointer is the first character, or the zero of an empty string. -/
theorem At.getD_eq (h : At buf i s) : buf.getD i 0 = s.headD 0 := by
  obtain ⟨-, post, hbuf⟩ := h
  have hi : buf[i]? = (s ++ 0 :: post)[0]? := by
    rw [← hbuf, List.getElem?_drop, Nat.add_zero]
  rw [List.getD_eq_getElem?_getD, hi]
  cases s <;> rfl

/-- A string holds its suffixes at the later indices. -/
theorem At.append (h : At buf i (s ++ t)) : At buf (i + s.length) t := by
  obtain ⟨hs, post, hbuf⟩ := h
  refine ⟨fun h0 => hs (List.mem_append_right s h0), post, ?_⟩
  rw [← List.drop_drop, hbuf, List.append_assoc, List.drop_left]

/-! ## Writes -/

section Set

/-- A zero written into a string ends it there. -/
theorem At.cut (h : At buf i (s ++ t)) : At (buf.set (i + s.length) 0) i s := by
  obtain ⟨hs, post, hbuf⟩ := h
  refine ⟨fun h0 => hs (List.mem_append_left t h0), (t ++ 0 :: post).tail, ?_⟩
  have hset : (buf.set (i + s.length) 0).drop i = (buf.drop i).set s.length 0 := by
    rw [List.drop_set, if_neg (by omega), Nat.add_sub_cancel_left]
  rw [hset, hbuf, List.append_assoc, List.set_append_right _ _ le_rfl, Nat.sub_self]
  cases t <;> rfl

/-- A write before a string leaves it as it was. -/
theorem At.set_of_lt (h : At buf i s) (hk : k < i) : At (buf.set k v) i s := by
  obtain ⟨hs, post, hbuf⟩ := h
  refine ⟨hs, post, ?_⟩
  rw [List.drop_set_of_lt hk, hbuf]

/-- A write after the zero of a string leaves it as it was. -/
theorem At.set_of_gt (h : At buf i s) (hk : i + s.length < k) : At (buf.set k v) i s := by
  obtain ⟨hs, post, hbuf⟩ := h
  refine ⟨hs, post.set (k - i - s.length - 1) v, ?_⟩
  have hpos : k - i - s.length = (k - i - s.length - 1) + 1 := by omega
  rw [List.drop_set, if_neg (by omega), hbuf, List.set_append_right _ _ (by omega), hpos,
    List.set_cons_succ]
  rfl

end Set

/-! ## Loops -/

section Loops

variable {p : α → Bool}

/-- Stepping over the cells with a property does not leave the string. -/
theorem At.scan_eq (h : At buf i s) (hp : p 0 = false) :
    CString.scan p buf i = i + (s.takeWhile p).length := by
  obtain ⟨-, post, hbuf⟩ := h
  rw [CString.scan, hbuf, List.takeWhile_append]
  split
  · rename_i hall
    simp [hp, hall]
  · rfl

/-- Stepping over the cells with a property ends at the string without them. -/
theorem At.scan (h : At buf i s) (hp : p 0 = false) : At buf (scan p buf i) (s.dropWhile p) := by
  have hsplit : At buf i (s.takeWhile p ++ s.dropWhile p) := by
    rwa [List.takeWhile_append_dropWhile]
  rw [h.scan_eq hp]
  exact hsplit.append

omit [Zero α] in
/-- What has the property behind a character without it is dropped behind it. -/
theorem rdropWhile_cons_of_neg {a : α} (ha : ¬p a = true) :
    (a :: s).rdropWhile p = a :: s.rdropWhile p := by
  induction s using List.reverseRecOn with
  | nil => rw [List.rdropWhile_singleton, if_neg ha, List.rdropWhile_nil]
  | append_singleton s b ih =>
    rw [← List.cons_append, List.rdropWhile_concat, List.rdropWhile_concat, ih]
    split <;> rfl

/-- Stepping back from the last of the cells after `i` ends at the last one without the property,
or at `i`. -/
theorem scanBack_eq {a : α} {post : List α} (h : buf.drop i = a :: t ++ post) :
    scanBack p buf i (i + t.length) = i + (t.rdropWhile p).length := by
  induction t using List.reverseRecOn generalizing post with
  | nil => cases i <;> simp [scanBack]
  | append_singleton t b ih =>
    have hlast : i + (t ++ [b]).length = i + t.length + 1 := by simp; omega
    have hb : buf.getD (i + t.length + 1) 0 = b := by
      have hcell : buf[i + (t.length + 1)]? = (a :: (t ++ [b]) ++ post)[t.length + 1]? := by
        rw [← List.getElem?_drop, h]
      rw [List.getD_eq_getElem?_getD, Nat.add_assoc, hcell]
      simp
    have hprev : buf.drop i = a :: t ++ ([b] ++ post) := by simpa using h
    rw [hlast, scanBack, hb]
    by_cases hpb : p b = true
    · rw [if_pos ⟨by omega, hpb⟩, ih hprev, List.rdropWhile_concat_pos _ _ _ hpb]
    · rw [if_neg (fun hand => hpb hand.2), List.rdropWhile_concat_neg _ _ _ hpb]
      simp [Nat.add_assoc]

/-- Stepping back over a string does not leave it. -/
theorem At.scanBack_mem {a : α} (h : At buf i (a :: t)) :
    i ≤ scanBack p buf i (i + t.length) ∧
      scanBack p buf i (i + t.length) ≤ i + t.length := by
  obtain ⟨-, post, hbuf⟩ := h
  have hle : (t.rdropWhile p).length ≤ t.length := (List.rdropWhile_prefix p t).length_le
  rw [scanBack_eq hbuf]
  omega

/-- A zero written behind the place where stepping back ends drops what has the property at the end
of the string. -/
theorem At.cut_scanBack {a : α} (h : At buf i (a :: t)) :
    At (buf.set (scanBack p buf i (i + t.length) + 1) 0) i (a :: t.rdropWhile p) := by
  have hsplit : At buf i ((a :: t.rdropWhile p) ++ t.rtakeWhile p) := by
    rwa [List.cons_append, List.rdropWhile_append_rtakeWhile]
  obtain ⟨-, post, hbuf⟩ := h
  rw [scanBack_eq hbuf]
  simpa [Nat.add_assoc] using hsplit.cut

end Loops

end CString
