import Jpv2g.Exi.Buffer
import Jpv2g.Exi.Forms

/-!
# The Memory the EXI Codec Reaches

How far the encoders and decoders of the EXI codec reach beyond their buffers: the check of
`exi_bitstream_has_overflow` lets the size of the buffer itself pass as a position.

## Main results

* `exiEncode_frame`: what an encoder changes.
* `exiDecode_congr`: what a decoder goes by.
* `bitstream_reach`: both reach exactly one byte beyond the buffer.
-/

namespace Jpv2g

open ExiBasetypes

/-- An encoder that has succeeded has filled at most one byte more than the buffer has, and has
changed nothing behind the bytes it has filled. -/
theorem exiEncode_frame {e : Encoder Unit} {memory : ℕ → UInt8} {outLen : ℕ} {s : Bitstream}
    (h : e.run (.init memory outLen) = .ok ((), s)) :
    s.output.length ≤ outLen + 1 ∧ ∀ k, s.output.length ≤ k → s.data k = memory k := by
  obtain ⟨bits, -, -, rfl⟩ := Writer.writes_of_run h
  obtain ⟨hsize, -, hdata⟩ := (Bitstream.init memory outLen).pushAll_frame bits
  rw [Bitstream.output_length]
  refine ⟨?_, hdata⟩
  have hlength := (Bitstream.sink.pushAll (.init memory outLen) bits).getLength_le
  rwa [hsize] at hlength

/-- Of the bytes behind the buffer a decoder goes by the first one alone. -/
theorem exiDecode_congr {α : Type} (d : Decoder α) {memory memory' : ℕ → UInt8} {len : ℕ}
    (h : ∀ k ≤ len, memory k = memory' k) :
    (d.run (.init memory len)).map Prod.fst = (d.run (.init memory' len)).map Prod.fst := by
  have hahead : Bitstream.source.ahead (.init memory len) =
      Bitstream.source.ahead (.init memory' len) := by
    refine bitsBetween_congr fun i _ hi => ?_
    have hsize : i < 8 * (len + 1) := hi
    have hbyte : i / 8 ≤ len := by omega
    have hdata : (Bitstream.init memory len).data (i / 8) =
        (Bitstream.init memory' len).data (i / 8) := h (i / 8) hbyte
    rw [bitAt, bitAt, hdata]
  rcases d.run_congr hahead with ⟨a, bits, s, s', hrun, hrun', -⟩ | ⟨e, hrun, hrun'⟩
  · rw [hrun, hrun']
    rfl
  · rw [hrun, hrun']

/-- **The codec reaches exactly one byte beyond its buffer.** No encoder that succeeds fills more
than the buffer and one byte, or changes what is behind the bytes it fills; no decoder goes by
what is behind the buffer and one byte. On a buffer of any size there is an encoder that succeeds
and overwrites that byte, and a decoder whose result it decides. -/
theorem bitstream_reach (len : ℕ) :
    (∀ (e : Encoder Unit) memory s, e.run (.init memory len) = .ok ((), s) →
      s.output.length ≤ len + 1 ∧ ∀ k, s.output.length ≤ k → s.data k = memory k) ∧
    (∀ (α : Type) (d : Decoder α) memory memory', (∀ k ≤ len, memory k = memory' k) →
      (d.run (.init memory len)).map Prod.fst = (d.run (.init memory' len)).map Prod.fst) ∧
    (∃ e : Encoder Unit, ∀ memory, ∃ s, e.run (.init memory len) = .ok ((), s) ∧
      ∀ k, s.data k = if k ≤ len then 0xFF else memory k) ∧
    ∃ d : Decoder UInt8, ∀ memory,
      (d.run (.init memory len)).map Prod.fst = .ok (memory len) := by
  refine ⟨fun e memory s => exiEncode_frame, fun α d memory memory' => exiDecode_congr d,
    ⟨encoderWriteUnsigned (List.replicate (len + 1) 0xFF), fun memory => ?_⟩,
    ⟨do let _ ← readBytes len; readOctet, fun memory => ?_⟩⟩
  -- an encoder that fills one byte more than the buffer has
  · have hroom : (bytesBits (List.replicate (len + 1) 0xFF)).length ≤ 8 * (len + 1) := by
      rw [bytesBits_length, List.length_replicate]
    have hrun := (encoderWriteUnsigned_writes (List.replicate (len + 1) 0xFF)).run_of_room
      (s := .init memory len) hroom
    have houtput := @Bitstream.output_pushAll_init memory len _ hroom
    rw [packBits_bytesBits] at houtput
    refine ⟨_, hrun, fun k => ?_⟩
    split_ifs with hk
    · exact Bitstream.data_of_output houtput (by rw [List.length_replicate]; omega)
        |>.trans (List.getElem_replicate _)
    · refine (exiEncode_frame hrun).2 k ?_
      rw [houtput, List.length_replicate]
      omega
  -- a decoder that skips the buffer and returns the byte behind it
  · have hreads : (do let _ ← readBytes len; readOctet : Decoder UInt8).Reads
        (bytesBits ((List.range len).map memory) ++ byteBits (memory len)) (memory len) := by
      have hbytes := readBytes_reads ((List.range len).map memory)
      rw [List.length_map, List.length_range] at hbytes
      exact hbytes.bind (readOctet_reads (memory len))
    have hahead : bytesBits ((List.range len).map memory) ++ byteBits (memory len) =
        (Bitstream.init memory len).ahead := by
      have hinit : (Bitstream.init memory len).ahead = bitsBetween memory 0 (8 * (len + 1)) := rfl
      rw [hinit, ← bytesBits_range, List.range_succ, List.map_append, bytesBits_append]
      exact congrArg _ (List.append_nil _).symm
    rw [hreads (.init memory len) _ ⟨hahead ▸ List.prefix_rfl, rfl⟩]
    rfl

/-- Two octets written to a buffer of one byte, and one read from an empty buffer. -/
theorem bitstream_reach_sample :
    (∃ s, (encoderWriteUnsigned [0xAC, 0x02]).run (.init (fun _ => 0) 1) = .ok ((), s) ∧
      s.output.length ≤ 2 ∧ ∀ k, s.output.length ≤ k → s.data k = 0) ∧
    (readOctet.run (.init (fun _ => 7) 0)).map Prod.fst =
      (readOctet.run (.init (fun k => if k = 0 then 7 else 9) 0)).map Prod.fst := by
  have hrun := (encoderWriteUnsigned_writes [0xAC, 0x02]).run_of_room
    (s := .init (fun _ => 0) 1) (by decide)
  refine ⟨⟨_, hrun, (bitstream_reach 1).1 _ _ _ hrun⟩,
    (bitstream_reach 0).2.1 _ readOctet _ _ fun k hk => ?_⟩
  rw [if_pos (Nat.le_zero.mp hk)]

end Jpv2g
