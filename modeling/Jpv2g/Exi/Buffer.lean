import Jpv2g.Exi.Bitstream

/-!
# Encoding into and Decoding from Buffers

What the memory of a bit stream holds once an encoder has run on it, and what a decoder makes of
the bytes of a buffer: the calls of `cbv2g_codec.c` on a buffer and its size.

## Main definitions

* `Bitstream.output`: the bytes an encoder has filled.
* `exiEncode`, `exiDecode`: an encoder and a decoder on a buffer.

## Main results

* `Bitstream.pushAll_frame`: no byte behind those in use changes.
* `exiEncode_of_writes`: an encoder fills the bytes of its bits, or finds that they do not fit into
  one byte more than the buffer has.
* `exiDecode_packBits`: what a decoder makes of the bytes an encoder has filled.
-/

namespace Jpv2g

namespace Bitstream

/-- The bits that have been used. -/
def content (s : Bitstream) : List Bool := bitsBetween s.data 0 s.pos

/-- The unused bits of the current byte are zero, once it is in use. -/
def Clean (s : Bitstream) : Prop :=
  0 < s.bitCount → ∀ i, s.pos ≤ i → i < 8 * (s.bytePos + 1) → bitAt s.data i = false

/-- The bytes that have been filled. -/
def output (s : Bitstream) : List UInt8 := (List.range s.getLength).map s.data

theorem clean_init (data : ℕ → UInt8) (dataSize : ℕ) : (init data dataSize).Clean :=
  fun h => absurd h (Nat.lt_irrefl 0)

end Bitstream

namespace OpenBitstream

variable {t : OpenBitstream} {bit : Bool}

/-- The bits of the current byte: those in front of the next one as they were, the next one as it
is written, and zeros behind it. -/
theorem testBit_writtenByte (hclean : t.1.Clean) {j : ℕ} (hj : j < 8) :
    (t.writtenByte bit).toNat.testBit (7 - j) =
      if j < t.1.bitCount then bitAt t.1.data (8 * t.1.bytePos + j)
      else j = t.1.bitCount && bit := by
  have hopen := t.2
  have hbyte : bitAt t.1.data (8 * t.1.bytePos + j) =
      (t.1.data t.1.bytePos).toNat.testBit (7 - j) := by
    have hdiv : (8 * t.1.bytePos + j) / 8 = t.1.bytePos := by omega
    have hmod : (8 * t.1.bytePos + j) % 8 = j := by omega
    rw [bitAt, hdiv, hmod]
  -- the byte before the bit goes in
  obtain ⟨current, hcurrent⟩ : ∃ current : UInt8,
      current = if t.1.bitCount = 0 then 0 else t.1.data t.1.bytePos := ⟨_, rfl⟩
  have hold : current.toNat.testBit (7 - j) =
      if j < t.1.bitCount then bitAt t.1.data (8 * t.1.bytePos + j) else false := by
    rw [hcurrent, hbyte]
    by_cases hzero : t.1.bitCount = 0
    · rw [if_pos hzero, hzero, if_neg (Nat.not_lt_zero j)]
      exact Nat.zero_testBit _
    · rw [if_neg hzero]
      by_cases hlt : j < t.1.bitCount
      · rw [if_pos hlt]
      · have hbehind := hclean (Nat.pos_of_ne_zero hzero) (8 * t.1.bytePos + j)
          (by rw [Bitstream.pos]; omega) (by omega)
        rw [if_neg hlt, ← hbyte, hbehind]
  rw [writtenByte, ← hcurrent]
  cases bit with
  | false =>
    rw [if_neg Bool.false_ne_true, hold]
    simp
  | true =>
    have hmask : (UInt8.ofNat (1 <<< (8 - (t.1.bitCount + 1)))).toNat =
        2 ^ (7 - t.1.bitCount) := by
      have hpow : 2 ^ (7 - t.1.bitCount) < 2 ^ 8 :=
        Nat.pow_lt_pow_right (by omega) (by omega)
      have hshift : 8 - (t.1.bitCount + 1) = 7 - t.1.bitCount := by omega
      rw [UInt8.toNat_ofNat', hshift, Nat.shiftLeft_eq, Nat.one_mul, Nat.mod_eq_of_lt hpow]
    have hbit : (2 ^ (7 - t.1.bitCount)).testBit (7 - j) = decide (j = t.1.bitCount) := by
      rw [Nat.testBit_two_pow]
      exact decide_eq_decide.mpr (by omega)
    rw [if_pos rfl, UInt8.toNat_or, Nat.testBit_or, hmask, hbit, hold]
    by_cases hlt : j < t.1.bitCount
    · have hne : j ≠ t.1.bitCount := by omega
      simp [hlt, hne]
    · simp [hlt]

/-- The bits of the memory once the next bit has been written. -/
theorem bitAt_write (hclean : t.1.Clean) (i : ℕ) (hi : i < 8 * (t.1.bytePos + 1)) :
    bitAt (t.write bit).data i =
      if i < t.1.pos then bitAt t.1.data i else i = t.1.pos && bit := by
  have hpos : t.1.pos = 8 * t.1.bytePos + t.1.bitCount := rfl
  have hdata : (t.write bit).data =
      Function.update t.1.data t.1.bytePos (t.writtenByte bit) := rfl
  by_cases hbyte : i / 8 = t.1.bytePos
  · obtain ⟨j, rfl⟩ : ∃ j, i = 8 * t.1.bytePos + j := ⟨i - 8 * t.1.bytePos, by omega⟩
    have hmod : (8 * t.1.bytePos + j) % 8 = j := by omega
    rw [bitAt, hdata, hbyte, Function.update_self, hmod, testBit_writtenByte hclean (by omega),
      hpos]
    simp only [Nat.add_lt_add_iff_left, Nat.add_left_cancel_iff]
  · have hlt : i < t.1.pos := by omega
    rw [if_pos hlt, bitAt, hdata, Function.update_of_ne hbyte, ← bitAt]

end OpenBitstream

namespace Bitstream

/-- A bit that is put down comes behind the bits before it. -/
theorem content_push {s : Bitstream} (hclean : s.Clean) (hroom : 0 < s.room) (bit : Bool) :
    (s.push bit).content = s.content ++ [bit] ∧ (s.push bit).Clean := by
  -- there is room, so a byte is open for the bit
  rcases s.hasOverflow_cases with ⟨-, hfull⟩ | ⟨t, hover, hpos, hdata, -, -, hwhere⟩
  · rw [room, hfull, Nat.sub_self] at hroom
    exact absurd hroom (Nat.lt_irrefl 0)
  · have hopen : t.1.Clean := by
      rcases hwhere with ⟨hbyte, hcount⟩ | hcount
      · rw [Clean, hcount, hbyte, hpos, hdata]
        exact hclean
      · exact fun h => absurd h (by omega)
    have hpush : s.push bit = t.write bit := by rw [push, hover]
    have hbits := t.2
    have hend : t.1.pos < 8 * (t.1.bytePos + 1) := by
      rw [pos]
      omega
    -- the bit that is written, and the bits before it, which stay
    have hlast : bitsBetween (t.write bit).data t.1.pos (t.1.pos + 1) = [bit] := by
      rw [bitsBetween_of_lt (Nat.lt_succ_self _), bitsBetween_of_le le_rfl,
        OpenBitstream.bitAt_write hopen _ hend, if_neg (Nat.lt_irrefl _)]
      simp
    have hfirst : bitsBetween (t.write bit).data 0 t.1.pos = s.content := by
      rw [content, ← hpos, ← hdata]
      refine bitsBetween_congr fun i _ hi => ?_
      rw [OpenBitstream.bitAt_write hopen i (hi.trans hend), if_pos hi]
    have hwritten : (t.write bit).content =
        bitsBetween (t.write bit).data 0 (t.1.pos + 1) := rfl
    refine ⟨?_, ?_⟩
    · rw [hpush, hwritten, ← bitsBetween_append (Nat.zero_le t.1.pos) (Nat.le_succ _), hfirst,
        hlast]
    · rw [hpush]
      -- behind the bit that was written the byte is still clear
      intro _ i hlow hhigh
      have hlow' : t.1.pos + 1 ≤ i := hlow
      have hbehind : ¬i = t.1.pos := by omega
      rw [OpenBitstream.bitAt_write hopen i hhigh, if_neg (by omega), decide_eq_false hbehind,
        Bool.false_and]

/-- Bits that are put down come behind the bits before them. -/
theorem content_pushAll {s : Bitstream} (hclean : s.Clean) {bits : List Bool}
    (hroom : bits.length ≤ s.room) :
    (sink.pushAll s bits).content = s.content ++ bits ∧ (sink.pushAll s bits).Clean := by
  induction bits generalizing s with
  | nil =>
    rw [sink.pushAll_nil, List.append_nil]
    exact ⟨rfl, hclean⟩
  | cons bit bits ih =>
    rw [List.length_cons] at hroom
    obtain ⟨hcontent, hclean'⟩ := content_push hclean (by omega) bit
    have hroom' : bits.length ≤ (s.push bit).room := by
      rw [room_push]
      omega
    obtain ⟨hall, hclean''⟩ := ih hclean' hroom'
    rw [sink.pushAll_cons]
    refine ⟨hall.trans ?_, hclean''⟩
    rw [hcontent, List.append_assoc, List.singleton_append]

/-- The bits of the bytes that have been filled: the bits used and the padding. -/
theorem bytesBits_output {s : Bitstream} (hclean : s.Clean) :
    bytesBits s.output =
      s.content ++ List.replicate (8 * s.getLength - s.pos) false ∧
      s.getLength = (s.pos + 7) / 8 := by
  have hbits := s.bitCount_le
  have hlength : s.getLength = (s.pos + 7) / 8 := by
    rw [getLength, pos]
    split_ifs <;> omega
  refine ⟨?_, hlength⟩
  have hend : s.pos ≤ 8 * s.getLength := by omega
  rw [output, bytesBits_range, ← bitsBetween_append (Nat.zero_le s.pos) hend, ← content]
  congr 1
  refine List.eq_replicate_iff.mpr ⟨bitsBetween_length _ _ _, fun b hb => ?_⟩
  obtain ⟨i, hi, rfl⟩ := List.mem_map.mp hb
  obtain ⟨hlow, hhigh⟩ := List.mem_range'_1.mp hi
  -- there is padding only in a byte that is in use
  have hused : 0 < s.bitCount := by
    by_contra hzero
    rw [getLength, if_neg hzero] at hhigh
    rw [pos] at hlow hhigh
    omega
  refine hclean hused i hlow ?_
  rw [getLength, if_pos hused] at hhigh
  rw [pos] at hlow hhigh
  omega

/-- An encoder that starts at the beginning of a buffer fills the bytes of its bits. -/
theorem output_pushAll_init {data : ℕ → UInt8} {dataSize : ℕ} {bits : List Bool}
    (hroom : bits.length ≤ 8 * (dataSize + 1)) :
    (sink.pushAll (init data dataSize) bits).output = packBits bits := by
  have hcapacity : (init data dataSize).room = 8 * (dataSize + 1) := rfl
  obtain ⟨hcontent, hclean⟩ :=
    content_pushAll (clean_init data dataSize) (hcapacity ▸ hroom : bits.length ≤ _)
  have hempty : (init data dataSize).content = [] := rfl
  rw [hempty, List.nil_append] at hcontent
  obtain ⟨hbits, hlength⟩ := bytesBits_output hclean
  have hpos : (sink.pushAll (init data dataSize) bits).pos = bits.length := by
    have hcount := congrArg List.length hcontent
    rwa [content, bitsBetween_length, Nat.sub_zero] at hcount
  refine bytesBits_injective ?_
  rw [hbits, bytesBits_packBits, hcontent, hlength, hpos]

/-- Putting a bit down changes no byte behind those in use, of which there is never one less. -/
theorem push_frame (s : Bitstream) (bit : Bool) :
    (s.push bit).dataSize = s.dataSize ∧ s.getLength ≤ (s.push bit).getLength ∧
      ∀ k, (s.push bit).getLength ≤ k → (s.push bit).data k = s.data k := by
  rcases s.hasOverflow_cases with ⟨hover, -⟩ | ⟨t, hover, -, hdata, hsize, hmono, -⟩
  · have hkept : s.push bit = s := by rw [push, hover]
    rw [hkept]
    exact ⟨rfl, le_rfl, fun _ _ => rfl⟩
  · have hpush : s.push bit = t.write bit := by rw [push, hover]
    have hlength : (t.write bit).getLength = t.1.bytePos + 1 := by
      rw [getLength]
      exact congrArg _ (if_pos (Nat.succ_pos t.1.bitCount))
    rw [hpush, hlength]
    refine ⟨hsize, ?_, fun k hk => ?_⟩
    · rw [getLength]
      split_ifs <;> omega
    · have hne : k ≠ t.1.bytePos := by omega
      exact (Function.update_of_ne hne _ _).trans (congrFun hdata k)

/-- Putting bits down changes no byte behind those in use. -/
theorem pushAll_frame (s : Bitstream) (bits : List Bool) :
    (sink.pushAll s bits).dataSize = s.dataSize ∧ s.getLength ≤ (sink.pushAll s bits).getLength ∧
      ∀ k, (sink.pushAll s bits).getLength ≤ k → (sink.pushAll s bits).data k = s.data k := by
  induction bits generalizing s with
  | nil => exact ⟨rfl, le_rfl, fun _ _ => rfl⟩
  | cons bit bits ih =>
    obtain ⟨hsize, hlength, hdata⟩ := s.push_frame bit
    obtain ⟨hsize', hlength', hdata'⟩ := ih (s.push bit)
    rw [sink.pushAll_cons]
    refine ⟨hsize'.trans hsize, hlength.trans hlength', fun k hk => ?_⟩
    exact (hdata' k hk).trans (hdata k (hlength'.trans hk))

/-- No more than the buffer and one byte is ever filled. -/
theorem getLength_le (s : Bitstream) : s.getLength ≤ s.dataSize + 1 := by
  have hbyte := s.bytePos_le
  rw [getLength]
  split_ifs <;> omega

@[simp]
theorem output_length (s : Bitstream) : s.output.length = s.getLength := by
  rw [output, List.length_map, List.length_range]

/-- The bytes that have been filled stand at the beginning of the memory. -/
theorem data_of_output {s : Bitstream} {bytes : List UInt8} (h : s.output = bytes) {k : ℕ}
    (hk : k < bytes.length) : s.data k = bytes[k] := by
  subst h
  simp [output]

end Bitstream

/-! ## Buffers -/

/-- Run an encoder on a buffer of `outLen` bytes (the calls of `cbv2g_codec.c`): the bytes it
fills. `memory` is what the memory from the buffer on held before. -/
def exiEncode (e : Encoder Unit) (memory : ℕ → UInt8) (outLen : ℕ) : Except Errno (List UInt8) :=
  match e.run (.init memory outLen) with
  | .error _ => .error .eio
  | .ok ((), s) => .ok s.output

/-- The memory from a buffer on: its bytes, and then one that none has been written to. -/
def bufferMemory (bytes : List UInt8) (stale : UInt8) (i : ℕ) : UInt8 := bytes.getD i stale

/-- Run a decoder on the bytes of a buffer (the calls of `cbv2g_codec.c`). `stale` is what the
memory holds behind them. -/
def exiDecode {α : Type} (d : Decoder α) (bytes : List UInt8) (stale : UInt8) :
    Except ExiError α :=
  match d.run (.init (bufferMemory bytes stale) bytes.length) with
  | .error e => .error e
  | .ok (a, _) => .ok a

/-- An encoder fills the bytes of its bits, whatever the memory held before, unless they do not
fit into one byte more than the buffer has. -/
theorem exiEncode_of_writes {e : Encoder Unit} {bits : List Bool} (h : e.Writes bits ())
    (memory : ℕ → UInt8) (outLen : ℕ) :
    exiEncode e memory outLen =
      if 8 * (outLen + 1) < bits.length then .error .eio else .ok (packBits bits) := by
  have hroom : Bitstream.sink.room (.init memory outLen) = 8 * (outLen + 1) := rfl
  rw [exiEncode]
  split_ifs with hfull
  · rw [h.run_of_full (hroom ▸ hfull)]
  · rw [h.run_of_room (hroom ▸ Nat.not_lt.mp hfull)]
    exact congrArg Except.ok (Bitstream.output_pushAll_init (Nat.not_lt.mp hfull))

/-- A document that the encoder gives up is not encoded, whatever the buffer is. -/
theorem exiEncode_of_givesUp {e : Encoder Unit} {err : ExiError} (h : e.GivesUp err)
    (memory : ℕ → UInt8) (outLen : ℕ) : exiEncode e memory outLen = .error .eio := by
  rw [exiEncode]
  split
  · rfl
  next s hs => exact absurd hs (h.run_ne_ok _ _)

/-- The bits ahead of a decoder are those of the bytes and of the one behind them. -/
theorem ahead_bufferMemory (bytes : List UInt8) (stale : UInt8) :
    (Bitstream.init (bufferMemory bytes stale) bytes.length).ahead =
      bytesBits (bytes ++ [stale]) := by
  have hahead : (Bitstream.init (bufferMemory bytes stale) bytes.length).ahead =
      bitsBetween (bufferMemory bytes stale) 0 (8 * (bytes.length + 1)) := rfl
  rw [hahead, ← bytesBits_range]
  congr 1
  refine List.ext_getElem (by simp) fun i hi _ => ?_
  rw [List.getElem_map, List.getElem_range, bufferMemory, List.getElem_append]
  split_ifs with hlt
  · exact List.getD_eq_getElem _ _ hlt
  · rw [List.getD_eq_default _ _ (Nat.not_lt.mp hlt)]
    simp

/-- Bytes that begin with a form of a value decode to it. -/
theorem exiDecode_of_reads {α : Type} {d : Decoder α} {bits : List Bool} {a : α}
    (h : d.Reads bits a) {bytes : List UInt8} {stale : UInt8}
    (hbits : bits <+: bytesBits (bytes ++ [stale])) : exiDecode d bytes stale = .ok a := by
  rw [← ahead_bufferMemory] at hbits
  rw [exiDecode, h (.init (bufferMemory bytes stale) bytes.length) _ ⟨hbits, rfl⟩]

/-- Bytes that begin with what a decoder refuses do not decode. -/
theorem exiDecode_of_refuses {α : Type} {d : Decoder α} {bits : List Bool} {e : ExiError}
    (h : d.Refuses bits e) {bytes : List UInt8} {stale : UInt8}
    (hbits : bits <+: bytesBits (bytes ++ [stale])) : exiDecode d bytes stale = .error e := by
  rw [← ahead_bufferMemory] at hbits
  rw [exiDecode, h (.init (bufferMemory bytes stale) bytes.length) _ ⟨hbits, rfl⟩]

/-- The bytes that a form of a value fills decode to it, whatever comes behind them. -/
theorem exiDecode_packBits {α : Type} {d : Decoder α} {bits : List Bool} {a : α}
    (h : d.Reads bits a) (rest : List UInt8) (stale : UInt8) :
    exiDecode d (packBits bits ++ rest) stale = .ok a := by
  refine exiDecode_of_reads h ?_
  rw [List.append_assoc, bytesBits_append, bytesBits_packBits, List.append_assoc]
  exact List.prefix_append _ _

/-- Bytes that decode begin with a form of the value, or do so with the byte behind them. -/
theorem reads_of_exiDecode {α : Type} {d : Decoder α} {bytes : List UInt8} {stale : UInt8} {a : α}
    (h : exiDecode d bytes stale = .ok a) :
    ∃ bits s, bits <+: bytesBits (bytes ++ [stale]) ∧ d.Reads bits a ∧
      d.run (.init (bufferMemory bytes stale) bytes.length) = .ok (a, s) := by
  rw [exiDecode] at h
  split at h
  · cases h
  next a' s hrun =>
    obtain rfl := Except.ok.inj h
    obtain ⟨bits, ⟨hahead, -⟩, hreads⟩ := Reader.reads_of_run hrun
    exact ⟨bits, s, ahead_bufferMemory bytes stale ▸ hahead, hreads, hrun⟩

end Jpv2g
