import Jpv2g.Exi.Basetypes
import Jpv2g.ToMathlib.Transmission

/-!
# The Forms of EXI Values

What the encoders of the base types write and what their decoders make of it: events, integers,
strings and binaries, at every position of a stream and with anything behind them.

## Main definitions

* `simpleForm`: the bits of a value between its two events.
* `charactersBits`: the bits of the characters of a string.

## Main results

* `integers_roundTrip`: every integer is read back from the octets it is written as.
* `uintDecoders_accept_iff`: what the decoders of the unsigned integers accept, and what they
  make of it.
* `encoderCharacters_writes`, `decoderCharacters_iff`: the strings that are written, and the octets
  that are accepted as a string.
* `decoderBytes_iff`: the octets that are accepted as bytes.
-/

namespace Jpv2g

namespace ExiBasetypes

/-! ## Events -/

/-- The event code zero is read. -/
theorem decoderEvent_reads {bitCount : ℕ} (hcount : bitCount ≤ 32) (error : ExiError) :
    (decoderEvent bitCount error).Reads (bitsOf bitCount 0) () := by
  rw [← List.append_nil (bitsOf bitCount 0)]
  refine (readBits_reads_bitsOf hcount (by positivity)).bind ?_
  rw [if_pos rfl]
  exact Reader.reads_pure ()

/-- Nothing but the event code zero is accepted. -/
theorem decoderEvent_run {bitCount : ℕ} {error : ExiError} {s s' : Bitstream} {u : Unit}
    (h : (decoderEvent bitCount error).run s = .ok (u, s')) :
    Bitstream.source.Takes s (bitsOf bitCount 0) s' := by
  obtain ⟨eventCode, t, hcode, hrest⟩ := Reader.run_bind_eq_ok.mp h
  obtain ⟨-, htakes⟩ := readBits_run hcode
  split_ifs at hrest with hzero
  · obtain ⟨-, rfl⟩ := Prod.mk.inj (Except.ok.inj hrest)
    exact hzero ▸ htakes
  · cases hrest

/-- The bits of a value between its two events. -/
def simpleForm (bits : List Bool) : List Bool := bitsOf 1 0 ++ (bits ++ bitsOf 1 0)

/-- A simple value has two more bits than what it holds. -/
@[simp]
theorem simpleForm_length (bits : List Bool) : (simpleForm bits).length = bits.length + 2 := by
  rw [simpleForm, List.length_append, List.length_append, bitsOf_length]
  omega

/-- A simple value is read between its two events. -/
theorem decodeExiType_reads {α : Type} {value : Decoder α} {bits : List Bool} {a : α}
    (h : value.Reads bits a) : (decodeExiType value).Reads (simpleForm bits) a :=
  (decoderEvent_reads (by omega) _).bind
    (h.bind ((decoderEvent_reads (by omega) _).bind_pure fun _ => a))

/-- What is accepted as a simple value stands between its two events. -/
theorem decodeExiType_run {α : Type} {value : Decoder α} {s s' : Bitstream} {a : α}
    (h : (decodeExiType value).run s = .ok (a, s')) :
    ∃ t t', value.run t = .ok (a, t') ∧
      ∀ bits, Bitstream.source.Takes t bits t' →
        Bitstream.source.Takes s (simpleForm bits) s' := by
  obtain ⟨_, t, hstart, hrest⟩ := Reader.run_bind_eq_ok.mp h
  obtain ⟨a', t', hvalue, hrest⟩ := Reader.run_bind_eq_ok.mp hrest
  obtain ⟨_, u, hend, hpure⟩ := Reader.run_bind_eq_ok.mp hrest
  obtain ⟨rfl, rfl⟩ := Prod.mk.inj (Except.ok.inj hpure)
  refine ⟨t, t', hvalue, fun bits htakes => ?_⟩
  exact (decoderEvent_run hstart).append (htakes.append (decoderEvent_run hend))

/-! ## Integers -/

/-- A `UInt8` is written in its octets. -/
theorem encoderUint8_writes (v : UInt8) :
    (encoderUint8 v).Writes (bytesBits (toOctets 5 v.toNat)) () :=
  encoderUint_writes (by omega) (v.toNat_lt.trans_le (by decide))

/-- A `UInt16` is written in its octets. -/
theorem encoderUint16_writes (v : UInt16) :
    (encoderUint16 v).Writes (bytesBits (toOctets 5 v.toNat)) () :=
  encoderUint_writes (by omega) (v.toNat_lt.trans_le (by decide))

/-- A `UInt32` is written in its octets. -/
theorem encoderUint32_writes (v : UInt32) :
    (encoderUint32 v).Writes (bytesBits (toOctets 5 v.toNat)) () :=
  encoderUint_writes (by omega) (v.toNat_lt.trans_le (by decide))

/-- A `UInt64` is written in its octets. -/
theorem encoderUint64_writes (v : UInt64) :
    (encoderUint64 v).Writes (bytesBits (toOctets 10 v.toNat)) () :=
  encoderUint_writes (by omega) (v.toNat_lt.trans_le (by decide))

/-- A `UInt8` is read from its octets. -/
theorem decoderUint8_reads (v : UInt8) :
    decoderUint8.Reads (bytesBits (toOctets 5 v.toNat)) v := by
  have hvalue : (decoderUint (convertFrom 32 2)).Reads (bytesBits (toOctets 5 v.toNat)) v.toNat :=
    decoderUint_reads_toOctets (by omega) (by omega) (by decide) (v.toNat_lt.trans_le (by decide))
      (v.toNat_lt.trans_le (by decide))
  have h : decoderUint8.Reads _ (UInt8.ofNat v.toNat) := hvalue.bind_pure UInt8.ofNat
  rwa [UInt8.ofNat_toNat] at h

/-- A `UInt16` is read from its octets. -/
theorem decoderUint16_reads (v : UInt16) :
    decoderUint16.Reads (bytesBits (toOctets 5 v.toNat)) v := by
  have hvalue : (decoderUint (convertFrom 32 3)).Reads (bytesBits (toOctets 5 v.toNat)) v.toNat :=
    decoderUint_reads_toOctets (by omega) (by omega) (by decide) (v.toNat_lt.trans_le (by decide))
      (v.toNat_lt.trans_le (by decide))
  have h : decoderUint16.Reads _ (UInt16.ofNat v.toNat) := hvalue.bind_pure UInt16.ofNat
  rwa [UInt16.ofNat_toNat] at h

/-- A `UInt32` is read from its octets. -/
theorem decoderUint32_reads (v : UInt32) :
    decoderUint32.Reads (bytesBits (toOctets 5 v.toNat)) v := by
  have hvalue : (decoderUint (convertFrom 32 5)).Reads (bytesBits (toOctets 5 v.toNat)) v.toNat :=
    decoderUint_reads_toOctets (by omega) (by omega) (by decide) (v.toNat_lt.trans_le (by decide))
      v.toNat_lt
  have h : decoderUint32.Reads _ (UInt32.ofNat v.toNat) := hvalue.bind_pure UInt32.ofNat
  rwa [UInt32.ofNat_toNat] at h

/-- A `UInt64` is read from its octets. -/
theorem decoderUint64_reads (v : UInt64) :
    decoderUint64.Reads (bytesBits (toOctets 10 v.toNat)) v := by
  have hvalue : (decoderUint (convertFrom 64 10)).Reads (bytesBits (toOctets 10 v.toNat)) v.toNat :=
    decoderUint_reads_toOctets (by omega) (by omega) (by decide) (v.toNat_lt.trans_le (by decide))
      v.toNat_lt
  have h : decoderUint64.Reads _ (UInt64.ofNat v.toNat) := hvalue.bind_pure UInt64.ofNat
  rwa [UInt64.ofNat_toNat] at h

/-- A truth value is written as its bit. -/
theorem encoderBool_writes (value : Bool) : (encoderBool value).Writes [value] () := by
  have h : (encoderBool value).Writes (bitsOf 1 (if value then 1 else 0)) () :=
    writeBits_writes (by omega) _
  cases value <;> exact h

/-- A truth value is read from its bit. -/
theorem decoderBool_reads (value : Bool) : decoderBool.Reads [value] value := by
  have hbit : (readBits 1).Reads [value] (bitsValue [value]) := readBits_reads rfl (by omega)
  have h : decoderBool.Reads [value] (bitsValue [value] != 0) := hbit.bind_pure (· != 0)
  cases value <;> exact h

/-- The bits of a signed integer, from those of its magnitude. -/
def integerForm {υ ν : Type} (form : υ → List Bool) (toUnsigned : ν → υ) (complement : ν → ν)
    (sign : ν → Bool) (value : ν) : List Bool :=
  [sign value] ++ form (toUnsigned (if sign value then complement value else value))

/-- A signed integer is read back from its sign and its magnitude. -/
theorem integer_conveys {υ ν : Type} {encoder : υ → Encoder Unit} {decoder : Decoder υ}
    {form : υ → List Bool} (h : Conveys encoder decoder form fun _ => True)
    {toUnsigned : ν → υ} {toSigned : υ → ν} {complement complement' : ν → ν}
    (hsigned : ∀ v, toSigned (toUnsigned v) = v)
    (hcomplement : ∀ v, complement' (complement v) = v) (sign : ν → Bool) :
    Conveys (fun v => encoderInteger encoder toUnsigned complement (sign v) v)
      (decoderInteger decoder toSigned complement') (integerForm form toUnsigned complement sign)
      fun _ => True where
  writes {v} _ _ := (encoderBool_writes (sign v)).bind (h.writes trivial trivial)
  reads {v} _ _ := by
    -- the sign tells whether the value or its complement was written
    have hback : (if sign v then
        complement' (toSigned (toUnsigned (if sign v then complement v else v)))
        else toSigned (toUnsigned (if sign v then complement v else v))) = v := by
      cases sign v with
      | false => exact hsigned v
      | true => exact (congrArg complement' (hsigned _)).trans (hcomplement v)
    have hrest := (h.reads (g := toUnsigned (if sign v then complement v else v)) trivial
      trivial).bind_pure fun value =>
        if sign v then complement' (toSigned value) else toSigned value
    rw [hback] at hrest
    exact (decoderBool_reads (sign v)).bind hrest
  accepts _ := ⟨trivial, fun _ => trivial⟩

/-- Every `UInt8` is conveyed. -/
theorem uint8_conveys :
    Conveys encoderUint8 decoderUint8 (fun v => bytesBits (toOctets 5 v.toNat)) fun _ => True where
  writes _ _ := encoderUint8_writes _
  reads _ _ := decoderUint8_reads _
  accepts _ := ⟨trivial, fun _ => trivial⟩

/-- Every `UInt16` is conveyed. -/
theorem uint16_conveys :
    Conveys encoderUint16 decoderUint16 (fun v => bytesBits (toOctets 5 v.toNat))
      fun _ => True where
  writes _ _ := encoderUint16_writes _
  reads _ _ := decoderUint16_reads _
  accepts _ := ⟨trivial, fun _ => trivial⟩

/-- Every `UInt32` is conveyed. -/
theorem uint32_conveys :
    Conveys encoderUint32 decoderUint32 (fun v => bytesBits (toOctets 5 v.toNat))
      fun _ => True where
  writes _ _ := encoderUint32_writes _
  reads _ _ := decoderUint32_reads _
  accepts _ := ⟨trivial, fun _ => trivial⟩

/-- Every `UInt64` is conveyed. -/
theorem uint64_conveys :
    Conveys encoderUint64 decoderUint64 (fun v => bytesBits (toOctets 10 v.toNat))
      fun _ => True where
  writes _ _ := encoderUint64_writes _
  reads _ _ := decoderUint64_reads _
  accepts _ := ⟨trivial, fun _ => trivial⟩

/-- Every `Int8` is conveyed. -/
theorem integer8_conveys :
    Conveys encoderInteger8 decoderInteger8
      (integerForm (fun v => bytesBits (toOctets 5 v.toNat)) Int8.toUInt8
        (fun value => -value - 1) fun value => value < 0) fun _ => True :=
  integer_conveys uint8_conveys Int8.toInt8_toUInt8 (fun v => by grind) fun value => value < 0

/-- Every `Int16` is conveyed. -/
theorem integer16_conveys :
    Conveys encoderInteger16 decoderInteger16
      (integerForm (fun v => bytesBits (toOctets 5 v.toNat)) Int16.toUInt16
        (fun value => -value - 1) fun value => value < 0) fun _ => True :=
  integer_conveys uint16_conveys Int16.toInt16_toUInt16 (fun v => by grind) fun value => value < 0

/-- Every `Int32` is conveyed. -/
theorem integer32_conveys :
    Conveys encoderInteger32 decoderInteger32
      (integerForm (fun v => bytesBits (toOctets 5 v.toNat)) Int32.toUInt32
        (fun value => -value - 1) fun value => value < 0) fun _ => True :=
  integer_conveys uint32_conveys Int32.toInt32_toUInt32 (fun v => by grind) fun value => value < 0

/-- Every `Int64` is conveyed. -/
theorem integer64_conveys :
    Conveys encoderInteger64 decoderInteger64
      (integerForm (fun v => bytesBits (toOctets 10 v.toNat)) Int64.toUInt64
        (fun value => -value - 1) fun value => value < 0) fun _ => True :=
  integer_conveys uint64_conveys Int64.toInt64_toUInt64 (fun v => by grind) fun value => value < 0

/-- What is carried has a form that is written and read. -/
theorem form_of_conveys {ν : Type} {encoder : ν → Encoder Unit} {decoder : Decoder ν}
    {form : ν → List Bool} (h : Conveys encoder decoder form fun _ => True) (v : ν) :
    ∃ bits, (encoder v).Writes bits () ∧ decoder.Reads bits v :=
  ⟨form v, h.writes trivial trivial, h.reads trivial trivial⟩

/-- Every integer is read back from the bits it is written as, wherever they stand on a stream and
whatever comes behind them. The most negative integers of 32 and 64 bits rest on the wrap-around of
the negations, which overflow there. -/
theorem integers_roundTrip :
    (∀ v : UInt8, ∃ bits, (encoderUint8 v).Writes bits () ∧ decoderUint8.Reads bits v) ∧
    (∀ v : UInt16, ∃ bits, (encoderUint16 v).Writes bits () ∧ decoderUint16.Reads bits v) ∧
    (∀ v : UInt32, ∃ bits, (encoderUint32 v).Writes bits () ∧ decoderUint32.Reads bits v) ∧
    (∀ v : UInt64, ∃ bits, (encoderUint64 v).Writes bits () ∧ decoderUint64.Reads bits v) ∧
    (∀ v : Int8, ∃ bits, (encoderInteger8 v).Writes bits () ∧ decoderInteger8.Reads bits v) ∧
    (∀ v : Int16, ∃ bits, (encoderInteger16 v).Writes bits () ∧ decoderInteger16.Reads bits v) ∧
    (∀ v : Int32, ∃ bits, (encoderInteger32 v).Writes bits () ∧ decoderInteger32.Reads bits v) ∧
    ∀ v : Int64, ∃ bits, (encoderInteger64 v).Writes bits () ∧ decoderInteger64.Reads bits v := by
  refine ⟨?_, ?_, ?_, ?_, ?_, ?_, ?_, ?_⟩
  · exact form_of_conveys uint8_conveys
  · exact form_of_conveys uint16_conveys
  · exact form_of_conveys uint32_conveys
  · exact form_of_conveys uint64_conveys
  · exact form_of_conveys integer8_conveys
  · exact form_of_conveys integer16_conveys
  · exact form_of_conveys integer32_conveys
  · exact form_of_conveys integer64_conveys

/-- An integer of a fixed width is what a terminated octet sequence that is short enough stands
for, as far as it holds that; no other bits are accepted. -/
theorem typedDecoder_iff {υ : Type} {width maxOctets : ℕ} {ofNat : ℕ → υ}
    (hmax : maxOctets ≤ maxOctetsSupported) (hmod : ∀ n, ofNat (n % 2 ^ width) = ofNat n)
    {s s' : Bitstream} {v : υ} :
    (do
      let result ← decoderUint (convertFrom width maxOctets)
      return ofNat result : Decoder υ).run s = .ok (v, s') ↔
      ∃ octets, Terminated octets ∧ octets.length ≤ maxOctets ∧
        Bitstream.source.Takes s (bytesBits octets) s' ∧ v = ofNat (octetsValue octets) := by
  constructor
  · intro h
    obtain ⟨n, t, hvalue, hpure⟩ := Reader.run_bind_eq_ok.mp h
    obtain ⟨rfl, rfl⟩ := Prod.mk.inj (Except.ok.inj hpure)
    obtain ⟨octets, hterminated, hlength, htakes, rfl⟩ := decoderUint_run hvalue
    exact ⟨octets, hterminated, hlength, htakes, hmod _⟩
  · rintro ⟨octets, hterminated, hlength, htakes, rfl⟩
    rw [← hmod]
    exact (decoderUint_reads hterminated hlength hmax).bind_pure ofNat s s' htakes

/-- On every stream: the decoders of the unsigned integers accept exactly the terminated sequences
of at most two, three, five and ten octets, redundant ones among them, and return what they stand
for modulo the width of the integer. -/
theorem uintDecoders_accept_iff (s s' : Bitstream) :
    (∀ v, decoderUint8.run s = .ok (v, s') ↔ ∃ octets, Terminated octets ∧ octets.length ≤ 2 ∧
      Bitstream.source.Takes s (bytesBits octets) s' ∧ v = UInt8.ofNat (octetsValue octets)) ∧
    (∀ v, decoderUint16.run s = .ok (v, s') ↔ ∃ octets, Terminated octets ∧ octets.length ≤ 3 ∧
      Bitstream.source.Takes s (bytesBits octets) s' ∧ v = UInt16.ofNat (octetsValue octets)) ∧
    (∀ v, decoderUint32.run s = .ok (v, s') ↔ ∃ octets, Terminated octets ∧ octets.length ≤ 5 ∧
      Bitstream.source.Takes s (bytesBits octets) s' ∧ v = UInt32.ofNat (octetsValue octets)) ∧
    ∀ v, decoderUint64.run s = .ok (v, s') ↔ ∃ octets, Terminated octets ∧ octets.length ≤ 10 ∧
      Bitstream.source.Takes s (bytesBits octets) s' ∧ v = UInt64.ofNat (octetsValue octets) := by
  -- the decoders differ in the octets they read and in the width they cut to
  refine ⟨fun v => ?_, fun v => ?_, fun v => ?_, fun v => ?_⟩
  · refine typedDecoder_iff (by decide) fun n => ?_
    rw [← UInt8.toNat_inj, UInt8.toNat_ofNat', UInt8.toNat_ofNat']
    omega
  · refine typedDecoder_iff (by decide) fun n => ?_
    rw [← UInt16.toNat_inj, UInt16.toNat_ofNat', UInt16.toNat_ofNat']
    omega
  · refine typedDecoder_iff (by decide) fun n => ?_
    rw [← UInt32.toNat_inj, UInt32.toNat_ofNat', UInt32.toNat_ofNat', Nat.mod_mod]
  · refine typedDecoder_iff (by decide) fun n => ?_
    rw [← UInt64.toNat_inj, UInt64.toNat_ofNat', UInt64.toNat_ofNat', Nat.mod_mod]

/-! ## Strings -/

/-- The bits of the characters of a string. -/
def charactersBits (characters : List Char) : List Bool :=
  bytesBits (characters.map fun c => UInt8.ofNat c.toNat)

@[simp]
theorem charactersBits_length (characters : List Char) :
    (charactersBits characters).length = 8 * characters.length := by
  rw [charactersBits, bytesBits_length, List.length_map]

/-- Every character is one the codec supports. -/
def Ascii (characters : List Char) : Prop := ∀ c ∈ characters, c.toNat ≤ asciiMaxValue

-- by the characters of the list, rather than by all characters there are
instance (characters : List Char) : Decidable (Ascii characters) :=
  decidable_of_iff (characters.all fun c => decide (c.toNat ≤ asciiMaxValue))
    (by simp [Ascii])

/-- An ASCII character is its own byte. -/
theorem ofNat_toNat_of_ascii {c : Char} (h : c.toNat ≤ asciiMaxValue) :
    (UInt8.ofNat c.toNat).toNat = c.toNat := by
  rw [asciiMaxValue] at h
  rw [UInt8.toNat_ofNat', Nat.mod_eq_of_lt (by omega)]

/-- ASCII characters are written byte by byte. -/
theorem writeCharacters_writes {characters : List Char} (h : Ascii characters) :
    (writeCharacters characters).Writes (charactersBits characters) () := by
  induction characters with
  | nil => exact Writer.writes_pure ()
  | cons c characters ih =>
    obtain ⟨hc, hrest⟩ := List.forall_mem_cons.mp h
    rw [writeCharacters, if_neg (Nat.not_lt.mpr hc)]
    exact (writeOctet_writes _).bind (ih hrest)

/-- The first character beyond ASCII ends the writing. -/
theorem writeCharacters_givesUp {characters : List Char} (h : ¬Ascii characters) :
    (writeCharacters characters).GivesUp .unsupportedCharacterValue := by
  induction characters with
  | nil => exact absurd (fun c hc => absurd hc List.not_mem_nil) h
  | cons c characters ih =>
    rw [writeCharacters]
    split_ifs with hc
    · exact Writer.givesUp_fail _
    · refine (writeOctet_writes _).bind_givesUp (ih fun hrest => h ?_)
      exact List.forall_mem_cons.mpr ⟨Nat.not_lt.mp hc, hrest⟩

/-- A string that fits and consists of supported characters is written. -/
theorem encoderCharacters_writes {characters : List Char} {charactersSize : ℕ}
    (hlength : characters.length ≤ charactersSize) (h : Ascii characters) :
    (encoderCharacters characters charactersSize).Writes (charactersBits characters) () := by
  rw [encoderCharacters, if_neg (Nat.not_lt.mpr hlength)]
  exact writeCharacters_writes h

/-- No other string is. -/
theorem encoderCharacters_givesUp {characters : List Char} {charactersSize : ℕ}
    (h : ¬(characters.length ≤ charactersSize ∧ Ascii characters)) :
    ∃ err, (encoderCharacters characters charactersSize).GivesUp err := by
  rw [encoderCharacters]
  split_ifs with hlength
  · exact ⟨_, Writer.givesUp_fail _⟩
  · exact ⟨_, writeCharacters_givesUp fun hascii => h ⟨Nat.not_lt.mp hlength, hascii⟩⟩

/-- Characters are read from their bytes. -/
theorem readCharacters_reads {characters : List Char} (h : Ascii characters) :
    (readCharacters characters.length).Reads (charactersBits characters) characters := by
  induction characters with
  | nil => exact Reader.reads_pure []
  | cons c characters ih =>
    obtain ⟨hc, hrest⟩ := List.forall_mem_cons.mp h
    have hoctet := ofNat_toNat_of_ascii hc
    refine (readOctet_reads (UInt8.ofNat c.toNat)).bind ?_
    rw [if_neg (by rw [hoctet]; exact Nat.not_lt.mpr hc), hoctet, Char.ofNat_toNat]
    exact (ih hrest).bind_pure (c :: ·)

/-- What is read are ASCII characters, as many as asked for. -/
theorem readCharacters_run {count : ℕ} {s s' : Bitstream} {characters : List Char}
    (h : (readCharacters count).run s = .ok (characters, s')) :
    characters.length = count ∧ Ascii characters ∧
      Bitstream.source.Takes s (charactersBits characters) s' := by
  induction count generalizing s characters with
  | zero =>
    obtain ⟨rfl, rfl⟩ := Prod.mk.inj (Except.ok.inj h)
    exact ⟨rfl, fun c hc => absurd hc List.not_mem_nil, Source.takes_nil _ s⟩
  | succ count ih =>
    obtain ⟨octet, t, hoctet, hrest⟩ := Reader.run_bind_eq_ok.mp h
    split_ifs at hrest with hlarge
    · cases hrest
    · obtain ⟨characters, u, hcharacters, hpure⟩ := Reader.run_bind_eq_ok.mp hrest
      obtain ⟨rfl, rfl⟩ := Prod.mk.inj (Except.ok.inj hpure)
      obtain ⟨rfl, hascii, htakes⟩ := ih hcharacters
      have hsmall := Nat.not_lt.mp hlarge
      rw [asciiMaxValue] at hsmall
      -- a small number is the code of its character
      have hvalid : octet.toNat.isValidChar := .inl (by omega)
      have hchar : (Char.ofNat octet.toNat).toNat = octet.toNat := by
        rw [Char.ofNat, dif_pos hvalid]
        rfl
      refine ⟨rfl, List.forall_mem_cons.mpr ⟨?_, hascii⟩, ?_⟩
      · rw [hchar, asciiMaxValue]
        exact hsmall
      · have htakes' := (readOctet_run hoctet).append htakes
        rwa [charactersBits, List.map_cons, hchar, UInt8.ofNat_toNat]

/-- The octets that are accepted as a string: as many as announced, with room for the terminator,
and all of them supported characters. -/
theorem decoderCharacters_iff {charactersLen charactersSize : ℕ} {s s' : Bitstream}
    {characters : List Char} :
    (decoderCharacters charactersLen charactersSize).run s = .ok (characters, s') ↔
      charactersLen + 1 ≤ charactersSize ∧ characters.length = charactersLen ∧
        Ascii characters ∧ Bitstream.source.Takes s (charactersBits characters) s' := by
  rw [decoderCharacters]
  split_ifs with hroom
  · exact iff_of_false (fun h => nomatch h) fun h => absurd h.1 (Nat.not_le.mpr hroom)
  · rw [and_iff_right (Nat.not_lt.mp hroom)]
    refine ⟨readCharacters_run, ?_⟩
    rintro ⟨rfl, hascii, htakes⟩
    exact readCharacters_reads hascii s s' htakes

/-- Characters that leave room for a terminator are read. -/
theorem decoderCharacters_reads {characters : List Char} {charactersSize : ℕ}
    (hroom : characters.length + 1 ≤ charactersSize) (h : Ascii characters) :
    (decoderCharacters characters.length charactersSize).Reads (charactersBits characters)
      characters :=
  fun _ _ htakes => decoderCharacters_iff.mpr ⟨hroom, rfl, h, htakes⟩

/-! ## Binaries -/

/-- Bytes are read as they are. -/
theorem readBytes_reads (bytes : List UInt8) :
    (readBytes bytes.length).Reads (bytesBits bytes) bytes := by
  induction bytes with
  | nil => exact Reader.reads_pure []
  | cons byte bytes ih => exact (readOctet_reads byte).bind (ih.bind_pure (byte :: ·))

/-- What is read are bytes, as many as asked for. -/
theorem readBytes_run {count : ℕ} {s s' : Bitstream} {bytes : List UInt8}
    (h : (readBytes count).run s = .ok (bytes, s')) :
    bytes.length = count ∧ Bitstream.source.Takes s (bytesBits bytes) s' := by
  induction count generalizing s bytes with
  | zero =>
    obtain ⟨rfl, rfl⟩ := Prod.mk.inj (Except.ok.inj h)
    exact ⟨rfl, Source.takes_nil _ s⟩
  | succ count ih =>
    obtain ⟨byte, t, hbyte, hrest⟩ := Reader.run_bind_eq_ok.mp h
    obtain ⟨bytes, u, hbytes, hpure⟩ := Reader.run_bind_eq_ok.mp hrest
    obtain ⟨rfl, rfl⟩ := Prod.mk.inj (Except.ok.inj hpure)
    obtain ⟨rfl, htakes⟩ := ih hbytes
    exact ⟨rfl, (readOctet_run hbyte).append htakes⟩

/-- The octets that are accepted as bytes: as many as announced, if the buffer holds them. -/
theorem decoderBytes_iff {bytesLen bytesSize : ℕ} {s s' : Bitstream} {bytes : List UInt8} :
    (decoderBytes bytesLen bytesSize).run s = .ok (bytes, s') ↔
      bytesLen ≤ bytesSize ∧ bytes.length = bytesLen ∧
        Bitstream.source.Takes s (bytesBits bytes) s' := by
  rw [decoderBytes]
  split_ifs with hroom
  · exact iff_of_false (fun h => nomatch h) fun h => absurd h.1 (Nat.not_le.mpr hroom)
  · rw [and_iff_right (Nat.not_lt.mp hroom)]
    refine ⟨readBytes_run, ?_⟩
    rintro ⟨rfl, htakes⟩
    exact readBytes_reads bytes s s' htakes

end ExiBasetypes

end Jpv2g
