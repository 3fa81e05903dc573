import Jpv2g.Exi.Forms

/-!
# Elements of EXI Documents

What the grammars of the documents have in common: the header of a document (`exi_header.c`), and
the elements with a simple value, which stand between a start and an end.

## Main definitions

* `exiHeaderWrite`, `exiHeaderReadAndCheck`: the header.
* `encodeElement`, `decodeElement`: an element that is the only one its grammar allows.
* `encodeString`, `decodeString`, `encodeHexBinary`: values that begin with their length.

## Main results

* `nbitUint_conveys`, `string_conveys`, `hexBinary_conveys`: the writers and the readers of the
  simple values agree.
* `element_conveys`: and they do for elements.
-/

namespace Jpv2g

open ExiBasetypes

/-! ## The header -/

/-- `EXI_SIMPLE_HEADER_VALUE`. -/
def exiSimpleHeaderValue : ℕ := 0x80

/-- `exi_header_write`. -/
def exiHeaderWrite : Encoder Unit := writeBits 8 exiSimpleHeaderValue

/-- `exi_header_read_and_check`. -/
def exiHeaderReadAndCheck : Decoder Unit := do
  let header ← readBits 8
  if header ≠ exiSimpleHeaderValue then .fail .headerIncorrect else pure ()

/-! ## Elements -/

/-- A value between its start and its end. -/
def encodeExiType (value : Encoder Unit) : Encoder Unit := do
  encoderNbitUint 1 0
  value
  encoderNbitUint 1 0

/-- An element that is the only one its grammar allows. -/
def encodeElement (value : Encoder Unit) : Encoder Unit := do
  encoderNbitUint 1 0
  encodeExiType value

/-- The length and the characters of a string, from a buffer of `size` characters. -/
def encodeString (characters : List Char) (size : ℕ) : Encoder Unit := do
  -- a length that is not that of a string in the table is two more
  encoderUint16 (UInt16.ofNat (characters.length + 2))
  encoderCharacters characters size

/-- The length and the bytes of a binary, from a buffer of `size` bytes. -/
def encodeHexBinary (bytes : List UInt8) (size : ℕ) : Encoder Unit := do
  encoderUint16 (UInt16.ofNat bytes.length)
  encoderBytes bytes size

/-- An element that is the only one its grammar allows. -/
def decodeElement {α : Type} (value : Decoder α) : Decoder α := do
  decoderEvent 1 .unknownEventCode
  decodeExiType value

/-- The length and the characters of a string, into a buffer of `size` characters. -/
def decodeString (size : ℕ) : Decoder (List Char) := do
  let charactersLen ← decoderUint16
  -- string tables are not supported
  if charactersLen < 2 then .fail .stringvaluesNotSupported
  else decoderCharacters (charactersLen - 2).toNat size

/-! ## Forms -/

/-- The bits of an element. -/
def elementForm (bits : List Bool) : List Bool := bitsOf 1 0 ++ simpleForm bits

/-- The bits of a string. -/
def stringForm (characters : List Char) : List Bool :=
  bytesBits (toOctets 5 (UInt16.ofNat (characters.length + 2)).toNat) ++ charactersBits characters

/-- The bits of a binary. -/
def binaryForm (bytes : List UInt8) : List Bool :=
  bytesBits (toOctets 5 (UInt16.ofNat bytes.length).toNat) ++ bytesBits bytes

/-- An element has three more bits than its value. -/
theorem elementForm_length (bits : List Bool) : (elementForm bits).length = bits.length + 3 := by
  rw [elementForm, List.length_append, bitsOf_length, simpleForm_length]
  omega

/-- A value below `128 ^ n` takes at most `n` octets. -/
theorem toOctets_bits_le {count maxOctets value : ℕ} (hmax : 0 < maxOctets)
    (hvalue : value < 128 ^ maxOctets) :
    (bytesBits (toOctets count value)).length ≤ 8 * maxOctets := by
  rw [bytesBits_length]
  exact Nat.mul_le_mul_left 8 (toOctets_length_le hmax hvalue)

/-! ## Writing and reading -/

/-- The header is eight bits. -/
theorem exiHeaderWrite_writes : exiHeaderWrite.Writes (bitsOf 8 exiSimpleHeaderValue) () :=
  writeBits_writes (by omega) _

/-- A number is written in as many bits as asked for. -/
theorem encoderNbitUint_writes {bitCount : ℕ} (hcount : bitCount ≤ 32) (value : ℕ) :
    (encoderNbitUint bitCount value).Writes (bitsOf bitCount value) () :=
  writeBits_writes hcount value

/-- A value is written between its two events. -/
theorem encodeExiType_writes {value : Encoder Unit} {bits : List Bool}
    (h : value.Writes bits ()) : (encodeExiType value).Writes (simpleForm bits) () :=
  (encoderNbitUint_writes (by omega) 0).bind (h.bind (encoderNbitUint_writes (by omega) 0))

/-- An element is its event and its value. -/
theorem encodeElement_writes {value : Encoder Unit} {bits : List Bool}
    (h : value.Writes bits ()) : (encodeElement value).Writes (elementForm bits) () :=
  (encoderNbitUint_writes (by omega) 0).bind (encodeExiType_writes h)

/-- An element is given up with its value. -/
theorem encodeElement_givesUp {value : Encoder Unit} {err : ExiError} (h : value.GivesUp err) :
    (encodeElement value).GivesUp err :=
  (encoderNbitUint_writes (by omega) 0).bind_givesUp
    ((encoderNbitUint_writes (by omega) 0).bind_givesUp h.bind)

/-- An ASCII string that the buffer holds is written. -/
theorem encodeString_writes {characters : List Char} {size : ℕ} (hlength : characters.length ≤ size)
    (h : Ascii characters) : (encodeString characters size).Writes (stringForm characters) () :=
  (encoderUint16_writes _).bind (encoderCharacters_writes hlength h)

/-- No other string is written. -/
theorem encodeString_givesUp {characters : List Char} {size : ℕ}
    (h : ¬(characters.length ≤ size ∧ Ascii characters)) :
    ∃ err, (encodeString characters size).GivesUp err := by
  obtain ⟨err, hcharacters⟩ := encoderCharacters_givesUp h
  exact ⟨err, (encoderUint16_writes _).bind_givesUp hcharacters⟩

/-- An element is read from its event and its value. -/
theorem decodeElement_reads {α : Type} {value : Decoder α} {bits : List Bool} {a : α}
    (h : value.Reads bits a) : (decodeElement value).Reads (elementForm bits) a :=
  (decoderEvent_reads (by omega) _).bind (decodeExiType_reads h)

/-- What is accepted as an element has a value. -/
theorem decodeElement_run {α : Type} {value : Decoder α} {s s' : Bitstream} {a : α}
    (h : (decodeElement value).run s = .ok (a, s')) :
    ∃ t t', value.run t = .ok (a, t') := by
  obtain ⟨_, _, -, hvalue⟩ := Reader.run_bind_eq_ok.mp h
  obtain ⟨t, t', hrun, -⟩ := decodeExiType_run hvalue
  exact ⟨t, t', hrun⟩

/-- A number of few bits is read as the part that fits. -/
theorem decoderNbitUint_reads {bitCount : ℕ} (hcount : bitCount ≤ 32) (value : ℕ) :
    (decoderNbitUint bitCount).Reads (bitsOf bitCount value) (value % 2 ^ bitCount) := by
  rw [← bitsValue_bitsOf_mod]
  exact readBits_reads (bitsOf_length bitCount value) hcount

/-- The header is read. -/
theorem exiHeaderReadAndCheck_reads :
    exiHeaderReadAndCheck.Reads (bitsOf 8 exiSimpleHeaderValue) () := by
  rw [← List.append_nil (bitsOf 8 _)]
  exact (decoderNbitUint_reads (by omega) exiSimpleHeaderValue).bind (Reader.reads_pure ())

/-- An ASCII string is read where there is room for it and its terminator. -/
theorem decodeString_reads {characters : List Char} {size : ℕ} (hsize : size < 2 ^ 16 - 1)
    (hroom : characters.length + 1 ≤ size) (h : Ascii characters) :
    (decodeString size).Reads (stringForm characters) characters := by
  have hlength : (UInt16.ofNat (characters.length + 2)).toNat = characters.length + 2 := by
    rw [UInt16.toNat_ofNat', Nat.mod_eq_of_lt (by omega)]
  have htwo : ¬UInt16.ofNat (characters.length + 2) < 2 := by
    rw [UInt16.lt_iff_toNat_lt, hlength]
    exact Nat.not_lt.mpr (Nat.le_add_left 2 _)
  have hsub : (UInt16.ofNat (characters.length + 2) - 2).toNat = characters.length := by
    rw [UInt16.toNat_sub_of_le _ _ (UInt16.not_lt.mp htwo), hlength]
    exact Nat.add_sub_cancel _ _
  refine (decoderUint16_reads _).bind ?_
  rw [if_neg htwo, hsub]
  exact decoderCharacters_reads hroom h

/-- No other string is accepted. -/
theorem decodeString_run {size : ℕ} {s s' : Bitstream} {characters : List Char}
    (h : (decodeString size).run s = .ok (characters, s')) :
    characters.length + 1 ≤ size ∧ Ascii characters := by
  obtain ⟨charactersLen, t, -, hrest⟩ := Reader.run_bind_eq_ok.mp h
  split_ifs at hrest
  · cases hrest
  · obtain ⟨hroom, hlength, hascii, -⟩ := decoderCharacters_iff.mp hrest
    exact ⟨hlength ▸ hroom, hascii⟩

/-! ## What is conveyed -/

/-- A number is conveyed by as many bits as it fits into. -/
theorem nbitUint_conveys {bitCount : ℕ} (hcount : bitCount ≤ 32) :
    Conveys (encoderNbitUint bitCount) (decoderNbitUint bitCount) (bitsOf bitCount)
      fun value => value < 2 ^ bitCount where
  writes _ _ := encoderNbitUint_writes hcount _
  reads {value} _ hf := by
    have hreads := decoderNbitUint_reads hcount value
    rwa [Nat.mod_eq_of_lt hf] at hreads
  accepts hrun := ⟨trivial, fun _ => (readBits_run hrun).1⟩

/-- Every truth value is conveyed. -/
theorem bool_conveys : Conveys encoderBool decoderBool (fun value => [value]) fun _ => True where
  writes _ _ := encoderBool_writes _
  reads _ _ := decoderBool_reads _
  accepts _ := ⟨trivial, fun _ => trivial⟩

/-- ASCII strings are conveyed that leave room for a terminator. -/
theorem string_conveys {size : ℕ} (hsize : size < 2 ^ 16 - 1) :
    Conveys (encodeString · size) (decodeString size) stringForm
      fun characters => characters.length + 1 ≤ size ∧ Ascii characters where
  writes _ hf := encodeString_writes (Nat.le_of_succ_le hf.1) hf.2
  reads _ hf := decodeString_reads hsize hf.1 hf.2
  accepts hrun := ⟨trivial, fun _ => decodeString_run hrun⟩

variable {α : Type} {e : α → Encoder Unit} {d : Decoder α} {form : α → List Bool} {fits : α → Prop}

/-- What conveys a value conveys it between its two events. -/
theorem exiType_conveys (h : Conveys e d form fits) :
    Conveys (fun a => encodeExiType (e a)) (decodeExiType d) (fun a => simpleForm (form a))
      fits where
  writes _ hf := encodeExiType_writes (h.writes trivial hf)
  reads _ hf := decodeExiType_reads (h.reads trivial hf)
  accepts hrun := by
    obtain ⟨t, t', hvalue, -⟩ := decodeExiType_run hrun
    exact h.accepts hvalue

/-- What conveys a value conveys it as an element. -/
theorem element_conveys (h : Conveys e d form fits) :
    Conveys (fun a => encodeElement (e a)) (decodeElement d) (fun a => elementForm (form a))
      fits where
  writes _ hf := encodeElement_writes (h.writes trivial hf)
  reads _ hf := decodeElement_reads (h.reads trivial hf)
  accepts hrun := by
    obtain ⟨t, t', hvalue⟩ := decodeElement_run hrun
    exact h.accepts hvalue

/-- A binary that the buffer holds is conveyed between its events. -/
theorem hexBinary_conveys {size : ℕ} (hsize : size < 2 ^ 16) :
    Conveys (fun bytes => encodeExiType (encodeHexBinary bytes size))
      (decodeExiTypeHexBinary size) (fun bytes => simpleForm (binaryForm bytes))
      fun bytes => bytes.length ≤ size := by
  refine exiType_conveys ⟨fun {bytes} _ hf => ?_, fun {bytes} _ hf => ?_, fun hrun => ?_⟩
  · refine (encoderUint16_writes _).bind ?_
    rw [encoderBytes, if_neg (Nat.not_lt.mpr hf)]
    exact encoderWriteUnsigned_writes bytes
  · have hlength : (UInt16.ofNat bytes.length).toNat = bytes.length := by
      rw [UInt16.toNat_ofNat', Nat.mod_eq_of_lt (by omega)]
    refine (decoderUint16_reads _).bind fun s s' htakes => ?_
    rw [hlength]
    exact decoderBytes_iff.mpr ⟨hf, rfl, htakes⟩
  · obtain ⟨bytesLen, t, -, hbytes⟩ := Reader.run_bind_eq_ok.mp hrun
    obtain ⟨hroom, hlength, -⟩ := decoderBytes_iff.mp hbytes
    exact ⟨trivial, fun _ => hlength ▸ hroom⟩

end Jpv2g
