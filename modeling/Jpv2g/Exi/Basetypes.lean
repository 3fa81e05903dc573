import Jpv2g.Exi.Bitstream
import Mathlib.Data.Nat.Digits.Defs

/-!
# The Base Types of the EXI Codec

The integers, bytes and characters of the EXI codec (`exi_basetypes.c`, `exi_basetypes_decoder.c`,
`exi_basetypes_encoder.c`, `exi_types_decoder.c`). An unsigned integer is a sequence of octets of
seven bits each, the least significant ones first, in which every octet but the last is flagged.

## Main definitions

* `convertToUnsigned`, `convertFromUnsigned`: an integer and its octets.
* `decoderUint8` .. `decoderInteger64`, `encoderUint8` .. `encoderInteger64`: the integers.
* `decoderCharacters`, `encoderCharacters`: the strings.
* `decodeExiType`: a value between its two events.
* `Terminated`: the octet sequences that stand for an integer.

## Main results

* `decoderUint_reads`, `decoderUint_run`: what the decoder of an integer makes of an octet
  sequence, and that it accepts no other bits.
* `encoderUint_writes`: the octets of an integer that fits.
* `decoderCharacters_reads`, `encoderCharacters_writes`: the octets of a string.
-/

namespace Jpv2g

namespace ExiBasetypes

/-! ## Octets -/

/-- `EXI_BASETYPES_MAX_OCTETS_SUPPORTED`. -/
def maxOctetsSupported : ℕ := 29

/-- The loop that cuts a number into octets, for at most `count` of them. -/
def toOctets : ℕ → ℕ → List UInt8
  | 0, _ => []
  | count + 1, dummy =>
    if dummy >>> 7 = 0 then [UInt8.ofNat (dummy &&& 0x7F)]
    else UInt8.ofNat (dummy &&& 0x7F ||| 0x80) :: toOctets count (dummy >>> 7)

/-- The octets of a number, if there are at most `maxOctets`. -/
def convertTo (count value maxOctets : ℕ) : Except ExiError (List UInt8) :=
  if (toOctets count value).length ≤ maxOctets then .ok (toOctets count value)
  else .error .octetCountLargerThanTypeSupports

/-- `exi_basetypes_convert_to_unsigned`. -/
def convertToUnsigned (value : UInt32) (maxOctets : ℕ) : Except ExiError (List UInt8) :=
  convertTo 5 value.toNat maxOctets

/-- `exi_basetypes_convert_64_to_unsigned`. -/
def convert64ToUnsigned (value : UInt64) : Except ExiError (List UInt8) :=
  convertTo 10 value.toNat 10

/-- The loop that adds up octets in an integer of `width` bits, from octet `n` on. -/
def fromOctets (width : ℕ) : ℕ → ℕ → List UInt8 → ℕ
  | _, value, [] => value
  | n, value, octet :: octets =>
    fromOctets width (n + 1) ((value + (octet.toNat &&& 0x7F) <<< (n * 7)) % 2 ^ width) octets

/-- The number that at most `maxOctets` octets stand for. -/
def convertFrom (width maxOctets : ℕ) (exiUnsigned : List UInt8) : Except ExiError ℕ :=
  if maxOctets < exiUnsigned.length then .error .octetCountLargerThanTypeSupports
  else .ok (fromOctets width 0 0 exiUnsigned)

/-- `exi_basetypes_convert_from_unsigned`. -/
def convertFromUnsigned (exiUnsigned : List UInt8) (maxOctets : ℕ) : Except ExiError ℕ :=
  convertFrom 32 maxOctets exiUnsigned

/-- `exi_basetypes_convert_64_from_unsigned`. -/
def convert64FromUnsigned (exiUnsigned : List UInt8) : Except ExiError ℕ :=
  convertFrom 64 10 exiUnsigned

/-! ## Decoders -/

/-- The loop that reads octets up to the first one without the flag, and at most `count`. -/
def readOctets : ℕ → Decoder (List UInt8)
  | 0 => .fail .supportedMaxOctetsOverrun
  | count + 1 => do
    let octet ← readOctet
    if octet &&& 0x80 = 0 then return [octet]
    else
      let octets ← readOctets count
      return octet :: octets

/-- `exi_basetypes_decoder_read_unsigned`. -/
def decoderReadUnsigned : Decoder (List UInt8) := readOctets maxOctetsSupported

/-- `exi_basetypes_decoder_bool`. -/
def decoderBool : Decoder Bool := do
  let bit ← readBits 1
  return bit != 0

/-- The loop of `exi_basetypes_decoder_bytes`. -/
def readBytes : ℕ → Decoder (List UInt8)
  | 0 => pure []
  | count + 1 => do
    let byte ← readOctet
    let bytes ← readBytes count
    return byte :: bytes

/-- `exi_basetypes_decoder_bytes`, into a buffer of `bytesSize` bytes. -/
def decoderBytes (bytesLen bytesSize : ℕ) : Decoder (List UInt8) :=
  if bytesSize < bytesLen then .fail .byteBufferTooSmall else readBytes bytesLen

/-- `exi_basetypes_decoder_nbit_uint`. -/
def decoderNbitUint (bitCount : ℕ) : Decoder ℕ := readBits bitCount

/-- Read the octets of an unsigned integer, and convert them. -/
def decoderUint (convert : List UInt8 → Except ExiError ℕ) : Decoder ℕ := do
  let exiUnsigned ← decoderReadUnsigned
  .lift (convert exiUnsigned)

/-- `exi_basetypes_decoder_uint_8`. -/
def decoderUint8 : Decoder UInt8 := do
  let result ← decoderUint (convertFromUnsigned · 2)
  return UInt8.ofNat result

/-- `exi_basetypes_decoder_uint_16`. -/
def decoderUint16 : Decoder UInt16 := do
  let result ← decoderUint (convertFromUnsigned · 3)
  return UInt16.ofNat result

/-- `exi_basetypes_decoder_uint_32`. -/
def decoderUint32 : Decoder UInt32 := do
  let result ← decoderUint (convertFromUnsigned · 5)
  return UInt32.ofNat result

/-- `exi_basetypes_decoder_uint_64`. -/
def decoderUint64 : Decoder UInt64 := do
  let result ← decoderUint convert64FromUnsigned
  return UInt64.ofNat result

/-- Read the sign of a signed integer and its magnitude. -/
def decoderInteger {υ ν : Type} (decoder : Decoder υ) (toSigned : υ → ν) (complement : ν → ν) :
    Decoder ν := do
  let sign ← decoderBool
  let value ← decoder
  return if sign then complement (toSigned value) else toSigned value

/-- `exi_basetypes_decoder_integer_8`. -/
def decoderInteger8 : Decoder Int8 :=
  decoderInteger decoderUint8 UInt8.toInt8 fun value => -(value + 1)

/-- `exi_basetypes_decoder_integer_16`. -/
def decoderInteger16 : Decoder Int16 :=
  decoderInteger decoderUint16 UInt16.toInt16 fun value => -(value + 1)

/-- `exi_basetypes_decoder_integer_32`. -/
def decoderInteger32 : Decoder Int32 :=
  decoderInteger decoderUint32 UInt32.toInt32 fun value => -(value + 1)

/-- `exi_basetypes_decoder_integer_64`. -/
def decoderInteger64 : Decoder Int64 :=
  decoderInteger decoderUint64 UInt64.toInt64 fun value => -(value + 1)

/-- `ASCII_MAX_VALUE`. -/
def asciiMaxValue : ℕ := 127

/-- The loop of `exi_basetypes_decoder_characters`. -/
def readCharacters : ℕ → Decoder (List Char)
  | 0 => pure []
  | count + 1 => do
    let currentChar ← readOctet
    if asciiMaxValue < currentChar.toNat then .fail .unsupportedCharacterValue
    else
      let characters ← readCharacters count
      return Char.ofNat currentChar.toNat :: characters

/-- `exi_basetypes_decoder_characters`, into a buffer of `charactersSize` characters. -/
def decoderCharacters (charactersLen charactersSize : ℕ) : Decoder (List Char) :=
  -- the terminator needs room too
  if charactersSize < charactersLen + 1 then .fail .characterBufferTooSmall
  else readCharacters charactersLen

/-- Read the next event code, which must be zero. -/
def decoderEvent (bitCount : ℕ) (error : ExiError) : Decoder Unit := do
  let eventCode ← decoderNbitUint bitCount
  if eventCode = 0 then pure () else .fail error

/-- A value between its start and its end (`decode_exi_type_uint8` and its siblings). -/
def decodeExiType {α : Type} (value : Decoder α) : Decoder α := do
  decoderEvent 1 .unsupportedSubEvent
  let a ← value
  decoderEvent 1 .deviantsNotSupported
  return a

/-- `decode_exi_type_hex_binary`, into a buffer of `valueBufferSize` bytes. -/
def decodeExiTypeHexBinary (valueBufferSize : ℕ) : Decoder (List UInt8) :=
  decodeExiType do
    let valueLen ← decoderUint16
    decoderBytes valueLen.toNat valueBufferSize

/-! ## Encoders -/

/-- `exi_basetypes_encoder_write_unsigned`. -/
def encoderWriteUnsigned : List UInt8 → Encoder Unit
  | [] => pure ()
  | octet :: octets => do
    writeOctet octet
    encoderWriteUnsigned octets

/-- `exi_basetypes_encoder_bool`. -/
def encoderBool (value : Bool) : Encoder Unit := writeBits 1 (if value then 1 else 0)

/-- `exi_basetypes_encoder_bytes`, from a buffer of `bytesSize` bytes. -/
def encoderBytes (bytes : List UInt8) (bytesSize : ℕ) : Encoder Unit :=
  if bytesSize < bytes.length then .fail .byteBufferTooSmall else encoderWriteUnsigned bytes

/-- `exi_basetypes_encoder_nbit_uint`. -/
def encoderNbitUint (bitCount value : ℕ) : Encoder Unit := writeBits bitCount value

/-- Write the octets that an unsigned integer has been converted to. -/
def encoderUint (converted : Except ExiError (List UInt8)) : Encoder Unit := do
  let exiUnsigned ← .lift converted
  encoderWriteUnsigned exiUnsigned

/-- `exi_basetypes_encoder_uint_8`. -/
def encoderUint8 (value : UInt8) : Encoder Unit :=
  encoderUint (convertToUnsigned value.toUInt32 2)

/-- `exi_basetypes_encoder_uint_16`. -/
def encoderUint16 (value : UInt16) : Encoder Unit :=
  encoderUint (convertToUnsigned value.toUInt32 3)

/-- `exi_basetypes_encoder_uint_32`. -/
def encoderUint32 (value : UInt32) : Encoder Unit := encoderUint (convertToUnsigned value 5)

/-- `exi_basetypes_encoder_uint_64`. -/
def encoderUint64 (value : UInt64) : Encoder Unit := encoderUint (convert64ToUnsigned value)

/-- Write the sign of a signed integer and its magnitude. -/
def encoderInteger {υ ν : Type} (encoder : υ → Encoder Unit) (toUnsigned : ν → υ)
    (complement : ν → ν) (sign : Bool) (value : ν) : Encoder Unit := do
  encoderBool sign
  encoder (toUnsigned (if sign then complement value else value))

/-- `exi_basetypes_encoder_integer_8`. -/
def encoderInteger8 (value : Int8) : Encoder Unit :=
  encoderInteger encoderUint8 Int8.toUInt8 (fun value => -value - 1) (value < 0) value

/-- `exi_basetypes_encoder_integer_16`. -/
def encoderInteger16 (value : Int16) : Encoder Unit :=
  encoderInteger encoderUint16 Int16.toUInt16 (fun value => -value - 1) (value < 0) value

/-- `exi_basetypes_encoder_integer_32`. -/
def encoderInteger32 (value : Int32) : Encoder Unit :=
  encoderInteger encoderUint32 Int32.toUInt32 (fun value => -value - 1) (value < 0) value

/-- `exi_basetypes_encoder_integer_64`. -/
def encoderInteger64 (value : Int64) : Encoder Unit :=
  encoderInteger encoderUint64 Int64.toUInt64 (fun value => -value - 1) (value < 0) value

/-- The loop of `exi_basetypes_encoder_characters`. -/
def writeCharacters : List Char → Encoder Unit
  | [] => pure ()
  | currentChar :: characters =>
    if asciiMaxValue < currentChar.toNat then .fail .unsupportedCharacterValue
    else do
      writeOctet (UInt8.ofNat currentChar.toNat)
      writeCharacters characters

/-- `exi_basetypes_encoder_characters`, from a buffer of `charactersSize` characters. -/
def encoderCharacters (characters : List Char) (charactersSize : ℕ) : Encoder Unit :=
  if charactersSize < characters.length then .fail .characterBufferTooSmall
  else writeCharacters characters

/-! ## The octets of a number -/

/-- Octets of which the last one alone has no flag. -/
inductive Terminated : List UInt8 → Prop where
  | last {octet : UInt8} (h : octet.toNat < 128) : Terminated [octet]
  | more {octet : UInt8} {octets : List UInt8} (h : 128 ≤ octet.toNat)
      (hrest : Terminated octets) : Terminated (octet :: octets)

/-- The number that octets stand for. -/
def octetsValue (octets : List UInt8) : ℕ :=
  Nat.ofDigits 128 (octets.map fun octet => octet.toNat % 128)

@[simp]
theorem octetsValue_nil : octetsValue [] = 0 := rfl

theorem octetsValue_cons (octet : UInt8) (octets : List UInt8) :
    octetsValue (octet :: octets) = octet.toNat % 128 + 128 * octetsValue octets := by
  rw [octetsValue, List.map_cons, Nat.ofDigits_cons, octetsValue]

/-- An octet has no flag when it is below `0x80`. -/
theorem flag_eq_zero_iff (octet : UInt8) : octet &&& 0x80 = 0 ↔ octet.toNat < 128 := by
  have hlt : octet.toNat < 2 ^ 8 := octet.toNat_lt
  have hflag : (octet &&& 0x80).toNat = (octet.toNat.testBit 7).toNat * 2 ^ 7 := by
    rw [UInt8.toNat_and]
    exact Nat.and_two_pow octet.toNat 7
  rw [← UInt8.toNat_inj, hflag, Nat.testBit_eq_decide_div_mod_eq]
  by_cases h : octet.toNat < 128
  · have hbit : octet.toNat / 128 % 2 = 0 := by omega
    simp [h, hbit]
  · have hbit : octet.toNat / 128 % 2 = 1 := by omega
    simp [h, hbit]

theorem and_0x7F (n : ℕ) : n &&& 0x7F = n % 128 := Nat.and_two_pow_sub_one_eq_mod n 7

theorem shiftRight_seven (n : ℕ) : n >>> 7 = n / 128 := Nat.shiftRight_eq_div_pow n 7

/-- The flag stands above the seven bits of an octet. -/
theorem or_0x80 {n : ℕ} (h : n < 128) : n ||| 0x80 = n + 128 := by
  have hor : 128 + n = 128 ||| n := Nat.shiftLeft_add_eq_or_of_lt (i := 7) h 1
  rw [Nat.or_comm, ← hor, Nat.add_comm]

/-- The octets of a number that fits stand for it. -/
theorem toOctets_spec {count value : ℕ} (hcount : 0 < count) (hvalue : value < 128 ^ count) :
    Terminated (toOctets count value) ∧ octetsValue (toOctets count value) = value := by
  induction count generalizing value with
  | zero => exact absurd hcount (Nat.lt_irrefl 0)
  | succ count ih =>
    have hlow : value % 128 < 128 := Nat.mod_lt value (by omega)
    rw [toOctets, and_0x7F, shiftRight_seven, or_0x80 hlow]
    -- the last octet holds what is left, the others seven bits each
    split_ifs with hlast
    · have hoctet : (UInt8.ofNat (value % 128)).toNat = value := by
        rw [UInt8.toNat_ofNat']
        omega
      refine ⟨.last (by omega), ?_⟩
      rw [octetsValue_cons, octetsValue_nil, hoctet]
      omega
    · have hoctet : (UInt8.ofNat (value % 128 + 128)).toNat = value % 128 + 128 := by
        rw [UInt8.toNat_ofNat']
        omega
      have hrest : value / 128 < 128 ^ count := by
        rw [pow_succ] at hvalue
        omega
      have hpos : 0 < count := by
        by_contra hzero
        obtain rfl : count = 0 := by omega
        omega
      obtain ⟨hterminated, hoctets⟩ := ih hpos hrest
      refine ⟨.more (by omega) hterminated, ?_⟩
      rw [octetsValue_cons, hoctets, hoctet]
      omega

/-- A value below `128 ^ n` takes at most `n` octets. -/
theorem toOctets_length_le {count maxOctets value : ℕ} (hmax : 0 < maxOctets)
    (hvalue : value < 128 ^ maxOctets) : (toOctets count value).length ≤ maxOctets := by
  induction count generalizing maxOctets value with
  | zero => exact Nat.zero_le _
  | succ count ih =>
    rw [toOctets, shiftRight_seven]
    split_ifs with hlast
    · exact hmax
    · obtain ⟨m, rfl⟩ : ∃ m, maxOctets = m + 1 := ⟨maxOctets - 1, by omega⟩
      rw [pow_succ] at hvalue
      have hpos : 0 < m := by
        by_contra hzero
        obtain rfl : m = 0 := by omega
        omega
      rw [List.length_cons]
      exact Nat.succ_le_succ (ih hpos (by omega))

/-- The octets are summed up modulo the width of the integer. -/
theorem fromOctets_eq {width n value : ℕ} (hvalue : value < 2 ^ width) (octets : List UInt8) :
    fromOctets width n value octets = (value + 128 ^ n * octetsValue octets) % 2 ^ width := by
  induction octets generalizing n value with
  | nil =>
    rw [fromOctets, octetsValue_nil, Nat.mul_zero, Nat.add_zero, Nat.mod_eq_of_lt hvalue]
  | cons octet octets ih =>
    have hshift : ∀ m, m <<< (n * 7) = m * 128 ^ n := fun m => by
      rw [Nat.shiftLeft_eq, Nat.mul_comm n 7, pow_mul]
      rfl
    rw [fromOctets, ih (Nat.mod_lt _ (by positivity)), and_0x7F, hshift, octetsValue_cons,
      Nat.mod_add_mod]
    congr 1
    ring

/-- Octets add up to the number they stand for, as far as the integer holds it. -/
theorem convertFrom_eq_ok {width maxOctets n : ℕ} {octets : List UInt8} :
    convertFrom width maxOctets octets = .ok n ↔
      octets.length ≤ maxOctets ∧ n = octetsValue octets % 2 ^ width := by
  have hloop : fromOctets width 0 0 octets = octetsValue octets % 2 ^ width := by
    rw [fromOctets_eq (by positivity), pow_zero, Nat.one_mul, Nat.zero_add]
  rw [convertFrom, hloop]
  split_ifs with hmany
  · exact iff_of_false (fun h => nomatch h) fun h => absurd h.1 (by omega)
  · rw [Except.ok.injEq, and_iff_right (Nat.not_lt.mp hmany), eq_comm]

/-! ## Octet sequences on the stream -/

/-- Octets are written as they are. -/
theorem encoderWriteUnsigned_writes (octets : List UInt8) :
    (encoderWriteUnsigned octets).Writes (bytesBits octets) () := by
  induction octets with
  | nil => exact Writer.writes_pure ()
  | cons octet octets ih => exact (writeOctet_writes octet).bind ih

/-- Terminated octets are read, up to the count. -/
theorem readOctets_reads {octets : List UInt8} (h : Terminated octets) {count : ℕ}
    (hcount : octets.length ≤ count) : (readOctets count).Reads (bytesBits octets) octets := by
  induction h generalizing count with
  | @last octet hlast =>
    obtain ⟨k, rfl⟩ : ∃ k, count = k + 1 := ⟨count - 1, by simp at hcount; omega⟩
    rw [readOctets]
    refine (readOctet_reads octet).bind ?_
    rw [if_pos ((flag_eq_zero_iff octet).mpr hlast)]
    exact Reader.reads_pure _
  | @more octet octets hmore hrest ih =>
    rw [List.length_cons] at hcount
    obtain ⟨k, rfl⟩ : ∃ k, count = k + 1 := ⟨count - 1, by omega⟩
    rw [readOctets, bytesBits_cons]
    refine (readOctet_reads octet).bind ?_
    rw [if_neg fun hflag => absurd ((flag_eq_zero_iff octet).mp hflag) (by omega)]
    exact (ih (by omega)).bind_pure (octet :: ·)

/-- What is read are terminated octets, up to the count. -/
theorem readOctets_run {count : ℕ} {s s' : Bitstream} {octets : List UInt8}
    (h : (readOctets count).run s = .ok (octets, s')) :
    Terminated octets ∧ octets.length ≤ count ∧
      Bitstream.source.Takes s (bytesBits octets) s' := by
  induction count generalizing s octets with
  | zero => cases h
  | succ count ih =>
    obtain ⟨octet, t, hoctet, hrest⟩ := Reader.run_bind_eq_ok.mp h
    have htakes := readOctet_run hoctet
    -- the flag of an octet tells whether another one follows
    split_ifs at hrest with hflag
    · obtain ⟨rfl, rfl⟩ := Prod.mk.inj (Except.ok.inj hrest)
      refine ⟨.last ((flag_eq_zero_iff octet).mp hflag), Nat.succ_le_succ (Nat.zero_le _), ?_⟩
      rwa [bytesBits_cons, bytesBits_nil, List.append_nil]
    · obtain ⟨octets, u, hoctets, hpure⟩ := Reader.run_bind_eq_ok.mp hrest
      obtain ⟨rfl, rfl⟩ := Prod.mk.inj (Except.ok.inj hpure)
      obtain ⟨hterminated, hlength, htakes'⟩ := ih hoctets
      have hmore : 128 ≤ octet.toNat := by
        by_contra hlt
        exact hflag ((flag_eq_zero_iff octet).mpr (by omega))
      exact ⟨.more hmore hterminated, Nat.succ_le_succ hlength, htakes.append htakes'⟩

/-- The decoder of an integer accepts every terminated octet sequence that is short enough. -/
theorem decoderUint_reads {width maxOctets : ℕ} {octets : List UInt8} (h : Terminated octets)
    (hlength : octets.length ≤ maxOctets) (hmax : maxOctets ≤ maxOctetsSupported) :
    (decoderUint (convertFrom width maxOctets)).Reads (bytesBits octets)
      (octetsValue octets % 2 ^ width) := by
  rw [← List.append_nil (bytesBits octets)]
  refine (readOctets_reads h (hlength.trans hmax)).bind ?_
  rw [convertFrom_eq_ok.mpr ⟨hlength, rfl⟩]
  exact Reader.reads_pure _

/-- The decoder of an integer accepts nothing else. -/
theorem decoderUint_run {width maxOctets : ℕ} {s s' : Bitstream} {n : ℕ}
    (h : (decoderUint (convertFrom width maxOctets)).run s = .ok (n, s')) :
    ∃ octets, Terminated octets ∧ octets.length ≤ maxOctets ∧
      Bitstream.source.Takes s (bytesBits octets) s' ∧ n = octetsValue octets % 2 ^ width := by
  obtain ⟨octets, t, hoctets, hlift⟩ := Reader.run_bind_eq_ok.mp h
  obtain ⟨hterminated, -, htakes⟩ := readOctets_run hoctets
  obtain ⟨hconvert, rfl⟩ := Reader.run_lift_eq_ok.mp hlift
  obtain ⟨hlength, hvalue⟩ := convertFrom_eq_ok.mp hconvert
  exact ⟨octets, hterminated, hlength, htakes, hvalue⟩

/-- The encoder of an integer that fits writes its octets. -/
theorem encoderUint_writes {count maxOctets value : ℕ} (hmax : 0 < maxOctets)
    (hvalue : value < 128 ^ maxOctets) :
    (encoderUint (convertTo count value maxOctets)).Writes (bytesBits (toOctets count value))
      () := by
  rw [encoderUint, convertTo, if_pos (toOctets_length_le hmax hvalue)]
  exact (Writer.writes_pure (toOctets count value)).bind (encoderWriteUnsigned_writes _)

/-- An integer is read back from the octets it is written as. -/
theorem decoderUint_reads_toOctets {width count maxOctets value : ℕ} (hmax : 0 < maxOctets)
    (hcount : maxOctets ≤ count) (hsupported : maxOctets ≤ maxOctetsSupported)
    (hvalue : value < 128 ^ maxOctets) (hwidth : value < 2 ^ width) :
    (decoderUint (convertFrom width maxOctets)).Reads (bytesBits (toOctets count value)) value := by
  have hfits : value < 128 ^ count := hvalue.trans_le (Nat.pow_le_pow_right (by omega) hcount)
  obtain ⟨hterminated, hoctets⟩ := toOctets_spec (hmax.trans_le hcount) hfits
  have hlength := @toOctets_length_le count _ _ hmax hvalue
  have h : (decoderUint (convertFrom width maxOctets)).Reads (bytesBits (toOctets count value))
      (octetsValue (toOctets count value) % 2 ^ width) :=
    decoderUint_reads hterminated hlength hsupported
  rwa [hoctets, Nat.mod_eq_of_lt hwidth] at h

end ExiBasetypes

end Jpv2g
