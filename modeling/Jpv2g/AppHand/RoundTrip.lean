import Jpv2g.AppHand
import Jpv2g.Exi.Buffer

/-!
# Handshake Documents on the Wire

The bits of a document of the supportedAppProtocol handshake, what the encoder makes of a document
and what the decoder makes of bits.

## Main definitions

* `AppHandExiDocument.form`: the bits of a document.
* `AppHandExiDocument.onWire`: the document as its bits carry it.
* `AppHandExiDocument.Encodable`, `Transmittable`, `WellFormed`: what is encoded, what is decoded
  again, and what the decoder returns.

## Main results

* `encodeAppHandExiDocument_writes`, `encodeAppHandExiDocument_givesUp`: a document is encoded
  exactly when it is encodable.
* `decodeAppHandExiDocument_reads`: the bits of a transmittable document are decoded.
* `wellFormed_of_run`: what is decoded is well formed.
* `appHand_roundTrip`, `appHand_accepted`: the two on buffers.
-/

namespace Jpv2g

open ExiBasetypes

/-! ## Forms -/

namespace AppProtocol

/-- The bits of an offer. -/
def form (ap : AppProtocol) : List Bool :=
  elementForm (stringForm ap.protocolNamespace) ++
    (elementForm (bytesBits (toOctets 5 ap.versionNumberMajor.toNat)) ++
      (elementForm (bytesBits (toOctets 5 ap.versionNumberMinor.toNat)) ++
        (elementForm (bitsOf 8 ap.schemaId.toNat) ++
          (elementForm (bitsOf 5 (ap.priority.toUInt32 - 1).toNat) ++ bitsOf 1 0))))

/-- The offer as its bits carry it: of the priority only five bits are left. -/
def onWire (ap : AppProtocol) : AppProtocol :=
  { ap with priority := UInt8.ofNat ((ap.priority.toUInt32 - 1).toNat % 32 + 1) }

/-- The encoder supports the namespace. -/
def Encodable (ap : AppProtocol) : Prop :=
  ap.protocolNamespace.length ≤ protocolNamespaceCharacterSize ∧ Ascii ap.protocolNamespace

/-- The decoder supports the namespace: there is room for the terminator too. -/
def Transmittable (ap : AppProtocol) : Prop :=
  ap.protocolNamespace.length + 1 ≤ protocolNamespaceCharacterSize ∧ Ascii ap.protocolNamespace

instance (ap : AppProtocol) : Decidable ap.Encodable := by
  unfold Encodable
  infer_instance

instance (ap : AppProtocol) : Decidable ap.Transmittable := by
  unfold Transmittable
  infer_instance

/-- What can be transmitted can be encoded. -/
theorem Transmittable.encodable {ap : AppProtocol} (h : ap.Transmittable) : ap.Encodable :=
  ⟨by have := h.1; omega, h.2⟩

end AppProtocol

/-- The bits of the offers from the second one on. -/
def offersForm : List AppProtocol → List Bool
  | [] => bitsOf 2 1
  | ap :: offers => bitsOf 2 0 ++ (ap.form ++ offersForm offers)

/-- The bits of a supportedAppProtocolReq. -/
def supportedAppProtocolReqForm : List AppProtocol → List Bool
  | [] => []
  | ap :: offers => bitsOf 1 0 ++ (ap.form ++ offersForm offers)

/-- The bits of a supportedAppProtocolRes. -/
def SupportedAppProtocolRes.form (res : SupportedAppProtocolRes) : List Bool :=
  elementForm (bitsOf 2 res.responseCode) ++
    match res.schemaId with
    | some schemaId => bitsOf 2 0 ++ (simpleForm (bitsOf 8 schemaId.toNat) ++ bitsOf 1 0)
    | none => bitsOf 2 1

namespace AppHandExiDocument

/-- The bits of a document. -/
def form : AppHandExiDocument → List Bool
  | supportedAppProtocolReq offers =>
    bitsOf 8 exiSimpleHeaderValue ++ (bitsOf 2 0 ++ supportedAppProtocolReqForm offers)
  | supportedAppProtocolRes res =>
    bitsOf 8 exiSimpleHeaderValue ++ (bitsOf 2 1 ++ res.form)

/-- The document as its bits carry it. -/
def onWire : AppHandExiDocument → AppHandExiDocument
  | supportedAppProtocolReq offers => supportedAppProtocolReq (offers.map AppProtocol.onWire)
  | supportedAppProtocolRes res =>
    supportedAppProtocolRes { res with responseCode := res.responseCode % 4 }

/-- The document is one the encoder supports. -/
def Encodable : AppHandExiDocument → Prop
  | supportedAppProtocolReq offers =>
    (offers ≠ [] ∧ offers.length ≤ appProtocolArraySize) ∧ ∀ ap ∈ offers, ap.Encodable
  | supportedAppProtocolRes _ => True

/-- The document is one that both sides support. -/
def Transmittable : AppHandExiDocument → Prop
  | supportedAppProtocolReq offers =>
    (offers ≠ [] ∧ offers.length ≤ appProtocolArraySize) ∧ ∀ ap ∈ offers, ap.Transmittable
  | supportedAppProtocolRes _ => True

instance : (doc : AppHandExiDocument) → Decidable doc.Encodable
  | supportedAppProtocolReq offers => by
    unfold Encodable
    infer_instance
  | supportedAppProtocolRes _ => .isTrue trivial

instance : (doc : AppHandExiDocument) → Decidable doc.Transmittable
  | supportedAppProtocolReq offers => by
    unfold Transmittable
    infer_instance
  | supportedAppProtocolRes _ => .isTrue trivial

/-- What can be transmitted can be encoded. -/
theorem Transmittable.encodable {doc : AppHandExiDocument} (h : doc.Transmittable) :
    doc.Encodable := by
  cases doc with
  | supportedAppProtocolReq offers => exact ⟨h.1, fun ap hap => (h.2 ap hap).encodable⟩
  | supportedAppProtocolRes res => exact trivial

end AppHandExiDocument

/-! ## Encoding -/

/-- An offer with a namespace the encoder supports is written. -/
theorem encodeAppProtocolType_writes {ap : AppProtocol} (h : ap.Encodable) :
    (encodeAppProtocolType ap).Writes ap.form () :=
  (encodeElement_writes (encodeString_writes h.1 h.2)).bind
    ((encodeElement_writes (encoderUint32_writes _)).bind
      ((encodeElement_writes (encoderUint32_writes _)).bind
        ((encodeElement_writes (encoderNbitUint_writes (by omega) _)).bind
          ((encodeElement_writes (encoderNbitUint_writes (by omega) _)).bind
            (encoderNbitUint_writes (by omega) 0)))))

/-- Any other offer stops the encoder. -/
theorem encodeAppProtocolType_givesUp {ap : AppProtocol} (h : ¬ap.Encodable) :
    ∃ err, (encodeAppProtocolType ap).GivesUp err := by
  obtain ⟨err, hnamespace⟩ := encodeString_givesUp h
  exact ⟨err, (encodeElement_givesUp hnamespace).bind⟩

/-- Offers are written one after the other. -/
theorem encodeOffers_writes {offers : List AppProtocol} (h : ∀ ap ∈ offers, ap.Encodable) :
    (encodeOffers offers).Writes (offersForm offers) () := by
  induction offers with
  | nil => exact encoderNbitUint_writes (by omega) 1
  | cons ap offers ih =>
    obtain ⟨hap, hoffers⟩ := List.forall_mem_cons.mp h
    exact (encoderNbitUint_writes (by omega) 0).bind
      ((encodeAppProtocolType_writes hap).bind (ih hoffers))

/-- The first offer that cannot be encoded ends the writing. -/
theorem encodeOffers_givesUp {offers : List AppProtocol} (h : ¬∀ ap ∈ offers, ap.Encodable) :
    ∃ err, (encodeOffers offers).GivesUp err := by
  induction offers with
  | nil => exact absurd (fun ap hap => absurd hap List.not_mem_nil) h
  | cons ap offers ih =>
    by_cases hap : ap.Encodable
    · obtain ⟨err, hrest⟩ := ih fun hoffers => h (List.forall_mem_cons.mpr ⟨hap, hoffers⟩)
      exact ⟨err, (encoderNbitUint_writes (by omega) 0).bind_givesUp
        ((encodeAppProtocolType_writes hap).bind_givesUp hrest)⟩
    · obtain ⟨err, hstop⟩ := encodeAppProtocolType_givesUp hap
      exact ⟨err, (encoderNbitUint_writes (by omega) 0).bind_givesUp hstop.bind⟩

/-- Every response is written. -/
theorem encodeSupportedAppProtocolRes_writes (res : SupportedAppProtocolRes) :
    (encodeSupportedAppProtocolRes res).Writes res.form () := by
  refine (encodeElement_writes (encoderNbitUint_writes (by omega) _)).bind ?_
  cases res.schemaId with
  | none => exact encoderNbitUint_writes (by omega) 1
  | some schemaId =>
    exact (encoderNbitUint_writes (by omega) 0).bind
      ((encodeExiType_writes (encoderNbitUint_writes (by omega) _)).bind
        (encoderNbitUint_writes (by omega) 0))

/-- A request with an offer is written unless it has too many of them. -/
theorem encodeSupportedAppProtocolReq_cons (ap : AppProtocol) (offers : List AppProtocol) :
    encodeSupportedAppProtocolReq (ap :: offers) =
      if appProtocolArraySize < (ap :: offers).length then .fail .arrayOutOfBounds
      else (do
        encoderNbitUint 1 0
        encodeAppProtocolType ap
        encodeOffers offers) := by
  unfold encodeSupportedAppProtocolReq
  simp only [List.length_cons, Nat.add_eq_zero_iff, Nat.one_ne_zero, and_false, false_or]

/-- One to twenty offers the encoder supports are written. -/
theorem encodeSupportedAppProtocolReq_writes {offers : List AppProtocol} (hne : offers ≠ [])
    (hlength : offers.length ≤ appProtocolArraySize) (h : ∀ ap ∈ offers, ap.Encodable) :
    (encodeSupportedAppProtocolReq offers).Writes (supportedAppProtocolReqForm offers) () := by
  cases offers with
  | nil => exact absurd rfl hne
  | cons ap offers =>
    obtain ⟨hap, hoffers⟩ := List.forall_mem_cons.mp h
    rw [encodeSupportedAppProtocolReq_cons, if_neg (Nat.not_lt.mpr hlength)]
    exact (encoderNbitUint_writes (by omega) 0).bind
      ((encodeAppProtocolType_writes hap).bind (encodeOffers_writes hoffers))

/-- No other offers are. -/
theorem encodeSupportedAppProtocolReq_givesUp {offers : List AppProtocol}
    (h : ¬((offers ≠ [] ∧ offers.length ≤ appProtocolArraySize) ∧ ∀ ap ∈ offers, ap.Encodable)) :
    ∃ err, (encodeSupportedAppProtocolReq offers).GivesUp err := by
  cases offers with
  | nil => exact ⟨_, Writer.givesUp_fail _⟩
  | cons ap offers =>
    rw [encodeSupportedAppProtocolReq_cons]
    split_ifs with hlength
    · exact ⟨_, Writer.givesUp_fail _⟩
    · have hoffers : ¬∀ ap' ∈ ap :: offers, ap'.Encodable := fun hall =>
        h ⟨⟨List.cons_ne_nil ap offers, Nat.not_lt.mp hlength⟩, hall⟩
      by_cases hap : ap.Encodable
      · obtain ⟨err, hrest⟩ := encodeOffers_givesUp fun hrest =>
          hoffers (List.forall_mem_cons.mpr ⟨hap, hrest⟩)
        exact ⟨err, (encoderNbitUint_writes (by omega) 0).bind_givesUp
          ((encodeAppProtocolType_writes hap).bind_givesUp hrest)⟩
      · obtain ⟨err, hstop⟩ := encodeAppProtocolType_givesUp hap
        exact ⟨err, (encoderNbitUint_writes (by omega) 0).bind_givesUp hstop.bind⟩

/-- An encodable document is written. -/
theorem encodeAppHandExiDocument_writes {doc : AppHandExiDocument} (h : doc.Encodable) :
    (encodeAppHandExiDocument doc).Writes doc.form () := by
  cases doc with
  | supportedAppProtocolReq offers =>
    exact exiHeaderWrite_writes.bind ((encoderNbitUint_writes (by omega) 0).bind
      (encodeSupportedAppProtocolReq_writes h.1.1 h.1.2 h.2))
  | supportedAppProtocolRes res =>
    exact exiHeaderWrite_writes.bind ((encoderNbitUint_writes (by omega) 1).bind
      (encodeSupportedAppProtocolRes_writes res))

/-- Any other document stops the encoder. -/
theorem encodeAppHandExiDocument_givesUp {doc : AppHandExiDocument} (h : ¬doc.Encodable) :
    ∃ err, (encodeAppHandExiDocument doc).GivesUp err := by
  cases doc with
  | supportedAppProtocolReq offers =>
    obtain ⟨err, hstop⟩ := encodeSupportedAppProtocolReq_givesUp h
    exact ⟨err, exiHeaderWrite_writes.bind_givesUp
      ((encoderNbitUint_writes (by omega) 0).bind_givesUp hstop)⟩
  | supportedAppProtocolRes res => exact absurd trivial h

/-! ## Decoding -/

/-- The bits of a transmittable offer are decoded. -/
theorem decodeAppProtocolType_reads {ap : AppProtocol} (h : ap.Transmittable) :
    decodeAppProtocolType.Reads ap.form ap.onWire := by
  refine (decodeElement_reads (decodeString_reads (by decide) h.1 h.2)).bind
    ((decodeElement_reads (decoderUint32_reads _)).bind
      ((decodeElement_reads (decoderUint32_reads _)).bind
        ((decodeElement_reads (decoderNbitUint_reads (by omega) _)).bind
          ((decodeElement_reads (decoderNbitUint_reads (by omega) _)).bind ?_))))
  have hid : UInt8.ofNat (ap.schemaId.toNat % 2 ^ 8) = ap.schemaId := by
    rw [Nat.mod_eq_of_lt ap.schemaId.toNat_lt, UInt8.ofNat_toNat]
  rw [hid]
  exact (decoderEvent_reads (by omega) _).bind_pure fun _ => ap.onWire

/-- The bits of transmittable offers are decoded, as far as the array has room; of a full array
the last bit is left. -/
theorem decodeOffers_reads {offers : List AppProtocol} (h : ∀ ap ∈ offers, ap.Transmittable)
    {room : ℕ} (hroom : offers.length ≤ room) :
    ∃ bits, bits <+: offersForm offers ∧
      (decodeOffers room).Reads bits (offers.map AppProtocol.onWire) := by
  induction offers generalizing room with
  | nil =>
    cases room with
    | zero =>
      -- with no room left the decoder reads one bit of the two, and stops
      exact ⟨bitsOf 1 0, ⟨[true], rfl⟩, (decoderEvent_reads (by omega) _).bind_pure fun _ => []⟩
    | succ room =>
      refine ⟨bitsOf 2 1 ++ [], by rw [List.append_nil]; exact List.prefix_rfl, ?_⟩
      exact (decoderNbitUint_reads (by omega) 1).bind (Reader.reads_pure [])
  | cons ap offers ih =>
    obtain ⟨room, rfl⟩ : ∃ k, room = k + 1 := ⟨room - 1, by rw [List.length_cons] at hroom; omega⟩
    obtain ⟨hap, hoffers⟩ := List.forall_mem_cons.mp h
    obtain ⟨bits, hahead, hreads⟩ := ih hoffers (Nat.le_of_succ_le_succ hroom)
    refine ⟨bitsOf 2 0 ++ (ap.form ++ bits), ?_, ?_⟩
    · exact (List.prefix_append_right_inj _).mpr ((List.prefix_append_right_inj _).mpr hahead)
    · exact (decoderNbitUint_reads (by omega) 0).bind
        ((decodeAppProtocolType_reads hap).bind (hreads.bind_pure (ap.onWire :: ·)))

/-- A response is read with the two low bits of its code. -/
theorem decodeSupportedAppProtocolRes_reads (res : SupportedAppProtocolRes) :
    decodeSupportedAppProtocolRes.Reads res.form
      { res with responseCode := res.responseCode % 4 } := by
  obtain ⟨responseCode, schemaId⟩ := res
  refine (decodeElement_reads (decoderNbitUint_reads (by omega) responseCode)).bind ?_
  cases schemaId with
  | none =>
    dsimp only
    rw [← List.append_nil (bitsOf 2 1)]
    exact (decoderNbitUint_reads (by decide) 1).bind (Reader.reads_pure _)
  | some schemaId =>
    refine (decoderNbitUint_reads (by decide) 0).bind
      ((decodeExiType_reads (decoderNbitUint_reads (by omega) _)).bind ?_)
    have hid : UInt8.ofNat (schemaId.toNat % 2 ^ 8) = schemaId := by
      rw [Nat.mod_eq_of_lt schemaId.toNat_lt, UInt8.ofNat_toNat]
    rw [hid]
    exact (decoderEvent_reads (by omega) _).bind_pure fun _ => _

/-- The bits of a transmittable document are decoded. -/
theorem decodeAppHandExiDocument_reads {doc : AppHandExiDocument} (h : doc.Transmittable) :
    ∃ bits, bits <+: doc.form ∧ decodeAppHandExiDocument.Reads bits doc.onWire := by
  cases doc with
  | supportedAppProtocolReq offers =>
    obtain ⟨⟨hne, hlength⟩, hoffers⟩ := h
    cases offers with
    | nil => exact absurd rfl hne
    | cons ap offers =>
      obtain ⟨hap, hrest⟩ := List.forall_mem_cons.mp hoffers
      have hroom : offers.length ≤ appProtocolArraySize - 1 := Nat.le_sub_one_of_lt hlength
      -- the decoder stops behind the last offer it has room for
      obtain ⟨bits, hahead, hreads⟩ := decodeOffers_reads hrest hroom
      have hreq : decodeSupportedAppProtocolReq.Reads (bitsOf 1 0 ++ (ap.form ++ bits))
          (ap.onWire :: offers.map AppProtocol.onWire) :=
        (decoderEvent_reads (by omega) _).bind
          ((decodeAppProtocolType_reads hap).bind (hreads.bind_pure (ap.onWire :: ·)))
      refine ⟨bitsOf 8 exiSimpleHeaderValue ++ (bitsOf 2 0 ++ (bitsOf 1 0 ++ (ap.form ++ bits))),
        ?_, ?_⟩
      · exact (List.prefix_append_right_inj _).mpr ((List.prefix_append_right_inj _).mpr
          ((List.prefix_append_right_inj _).mpr ((List.prefix_append_right_inj _).mpr hahead)))
      · exact exiHeaderReadAndCheck_reads.bind ((decoderNbitUint_reads (by decide) 0).bind
          (hreq.bind_pure AppHandExiDocument.supportedAppProtocolReq))
  | supportedAppProtocolRes res =>
    refine ⟨_, List.prefix_rfl, ?_⟩
    exact exiHeaderReadAndCheck_reads.bind ((decoderNbitUint_reads (by decide) 1).bind
      ((decodeSupportedAppProtocolRes_reads res).bind_pure
        AppHandExiDocument.supportedAppProtocolRes))

/-! ## What is decoded -/

/-- An offer the decoder returns. -/
def AppProtocol.WellFormed (ap : AppProtocol) : Prop :=
  ap.Transmittable ∧ 1 ≤ ap.priority.toNat ∧ ap.priority.toNat ≤ 32

/-- A document the decoder returns. -/
def AppHandExiDocument.WellFormed : AppHandExiDocument → Prop
  | supportedAppProtocolReq offers =>
    (offers ≠ [] ∧ offers.length ≤ appProtocolArraySize) ∧ ∀ ap ∈ offers, ap.WellFormed
  | supportedAppProtocolRes res => res.responseCode < 4

/-- The bits of a well-formed offer carry all of it. -/
theorem AppProtocol.WellFormed.onWire_eq {ap : AppProtocol} (h : ap.WellFormed) :
    ap.onWire = ap := by
  obtain ⟨-, hlow, hhigh⟩ := h
  have hone : ¬ap.priority.toUInt32 < 1 := by
    rw [UInt32.lt_iff_toNat_lt, UInt8.toNat_toUInt32]
    exact Nat.not_lt.mpr hlow
  have hsub : (ap.priority.toUInt32 - 1).toNat = ap.priority.toNat - 1 := by
    rw [UInt32.toNat_sub_of_le _ _ (UInt32.not_lt.mp hone), UInt8.toNat_toUInt32]
    rfl
  have hback : (ap.priority.toUInt32 - 1).toNat % 32 + 1 = ap.priority.toNat := by omega
  rw [onWire, hback, UInt8.ofNat_toNat]

/-- A well-formed document can be transmitted. -/
theorem AppHandExiDocument.WellFormed.transmittable {doc : AppHandExiDocument}
    (h : doc.WellFormed) : doc.Transmittable := by
  cases doc with
  | supportedAppProtocolReq offers => exact ⟨h.1, fun ap hap => (h.2 ap hap).1⟩
  | supportedAppProtocolRes res => exact trivial

/-- The bits of a well-formed document carry all of it. -/
theorem AppHandExiDocument.WellFormed.onWire_eq {doc : AppHandExiDocument} (h : doc.WellFormed) :
    doc.onWire = doc := by
  cases doc with
  | supportedAppProtocolReq offers =>
    have hmap : offers.map AppProtocol.onWire = offers :=
      (List.map_congr_left fun ap hap => (h.2 ap hap).onWire_eq).trans (List.map_id offers)
    rw [onWire, hmap]
  | supportedAppProtocolRes res => rw [onWire, Nat.mod_eq_of_lt h]

/-- An offer that is accepted is well formed. -/
theorem decodeAppProtocolType_run {s s' : Bitstream} {ap : AppProtocol}
    (h : decodeAppProtocolType.run s = .ok (ap, s')) : ap.WellFormed := by
  obtain ⟨protocolNamespace, s₁, hnamespace, h⟩ := Reader.run_bind_eq_ok.mp h
  obtain ⟨versionNumberMajor, s₂, -, h⟩ := Reader.run_bind_eq_ok.mp h
  obtain ⟨versionNumberMinor, s₃, -, h⟩ := Reader.run_bind_eq_ok.mp h
  obtain ⟨schemaId, s₄, -, h⟩ := Reader.run_bind_eq_ok.mp h
  obtain ⟨priority, s₅, hpriority, h⟩ := Reader.run_bind_eq_ok.mp h
  obtain ⟨_, s₆, -, hpure⟩ := Reader.run_bind_eq_ok.mp h
  obtain ⟨rfl, rfl⟩ := Prod.mk.inj (Except.ok.inj hpure)
  obtain ⟨t, t', hcharacters⟩ := decodeElement_run hnamespace
  obtain ⟨u, u', hvalue⟩ := decodeElement_run hpriority
  have hlt := (readBits_run hvalue).1
  have hone : (UInt8.ofNat (priority + 1)).toNat = priority + 1 := by
    rw [UInt8.toNat_ofNat', Nat.mod_eq_of_lt (by omega)]
  refine ⟨decodeString_run hcharacters, ?_, ?_⟩ <;> rw [hone] <;> omega

/-- The further offers that are accepted are well formed. -/
theorem decodeOffers_run {room : ℕ} {s s' : Bitstream} {offers : List AppProtocol}
    (h : (decodeOffers room).run s = .ok (offers, s')) :
    offers.length ≤ room ∧ ∀ ap ∈ offers, ap.WellFormed := by
  induction room generalizing s offers with
  | zero =>
    obtain ⟨_, t, -, hpure⟩ := Reader.run_bind_eq_ok.mp h
    obtain ⟨rfl, rfl⟩ := Prod.mk.inj (Except.ok.inj hpure)
    exact ⟨le_rfl, fun ap hap => absurd hap List.not_mem_nil⟩
  | succ room ih =>
    obtain ⟨eventCode, t, -, hrest⟩ := Reader.run_bind_eq_ok.mp h
    -- event code 0 is another offer, 1 the end, and the others are refused
    split at hrest
    · obtain ⟨ap, u, hap, hrest⟩ := Reader.run_bind_eq_ok.mp hrest
      obtain ⟨offers, v, hoffers, hpure⟩ := Reader.run_bind_eq_ok.mp hrest
      obtain ⟨rfl, rfl⟩ := Prod.mk.inj (Except.ok.inj hpure)
      obtain ⟨hlength, hall⟩ := ih hoffers
      exact ⟨Nat.succ_le_succ hlength,
        List.forall_mem_cons.mpr ⟨decodeAppProtocolType_run hap, hall⟩⟩
    · obtain ⟨rfl, rfl⟩ := Prod.mk.inj (Except.ok.inj hrest)
      exact ⟨Nat.zero_le _, fun ap hap => absurd hap List.not_mem_nil⟩
    · cases hrest

/-- A response that is accepted has a code of two bits. -/
theorem decodeSupportedAppProtocolRes_run {s s' : Bitstream} {res : SupportedAppProtocolRes}
    (h : decodeSupportedAppProtocolRes.run s = .ok (res, s')) : res.responseCode < 4 := by
  obtain ⟨responseCode, t, hcode, h⟩ := Reader.run_bind_eq_ok.mp h
  obtain ⟨u, u', hvalue⟩ := decodeElement_run hcode
  have hlt := (readBits_run hvalue).1
  obtain ⟨eventCode, v, -, hrest⟩ := Reader.run_bind_eq_ok.mp h
  split at hrest
  · obtain ⟨schemaId, w, -, hrest⟩ := Reader.run_bind_eq_ok.mp hrest
    obtain ⟨_, x, -, hpure⟩ := Reader.run_bind_eq_ok.mp hrest
    obtain ⟨rfl, rfl⟩ := Prod.mk.inj (Except.ok.inj hpure)
    exact hlt
  · obtain ⟨rfl, rfl⟩ := Prod.mk.inj (Except.ok.inj hrest)
    exact hlt
  · cases hrest

/-- What is decoded is well formed. -/
theorem wellFormed_of_run {s s' : Bitstream} {doc : AppHandExiDocument}
    (h : decodeAppHandExiDocument.run s = .ok (doc, s')) : doc.WellFormed := by
  obtain ⟨_, t, -, h⟩ := Reader.run_bind_eq_ok.mp h
  obtain ⟨eventCode, u, -, hrest⟩ := Reader.run_bind_eq_ok.mp h
  split at hrest
  · obtain ⟨offers, v, hreq, hpure⟩ := Reader.run_bind_eq_ok.mp hrest
    obtain ⟨rfl, rfl⟩ := Prod.mk.inj (Except.ok.inj hpure)
    obtain ⟨_, w, -, hreq⟩ := Reader.run_bind_eq_ok.mp hreq
    obtain ⟨ap, x, hap, hreq⟩ := Reader.run_bind_eq_ok.mp hreq
    obtain ⟨offers, y, hoffers, hpure⟩ := Reader.run_bind_eq_ok.mp hreq
    obtain ⟨rfl, rfl⟩ := Prod.mk.inj (Except.ok.inj hpure)
    obtain ⟨hlength, hall⟩ := decodeOffers_run hoffers
    refine ⟨⟨List.cons_ne_nil ap offers, ?_⟩,
      List.forall_mem_cons.mpr ⟨decodeAppProtocolType_run hap, hall⟩⟩
    rw [appProtocolArraySize] at hlength ⊢
    exact Nat.succ_le_succ hlength
  · obtain ⟨res, v, hres, hpure⟩ := Reader.run_bind_eq_ok.mp hrest
    obtain ⟨rfl, rfl⟩ := Prod.mk.inj (Except.ok.inj hpure)
    exact decodeSupportedAppProtocolRes_run hres
  · cases hrest

/-! ## Buffers -/

/-- The most bits an offer takes. -/
theorem AppProtocol.form_length_le {ap : AppProtocol} (h : ap.Transmittable) :
    ap.form.length ≤ 925 := by
  have hnamespace := h.1
  have hlen : (bytesBits (toOctets 5
      (UInt16.ofNat (ap.protocolNamespace.length + 2)).toNat)).length ≤ 8 * 3 :=
    toOctets_bits_le (by omega) ((UInt16.toNat_lt _).trans_le (by decide))
  have hmajor : (bytesBits (toOctets 5 ap.versionNumberMajor.toNat)).length ≤ 8 * 5 :=
    toOctets_bits_le (by omega) (ap.versionNumberMajor.toNat_lt.trans_le (by decide))
  have hminor : (bytesBits (toOctets 5 ap.versionNumberMinor.toNat)).length ≤ 8 * 5 :=
    toOctets_bits_le (by omega) (ap.versionNumberMinor.toNat_lt.trans_le (by decide))
  rw [protocolNamespaceCharacterSize] at hnamespace
  simp only [form, stringForm, List.length_append, elementForm_length, bitsOf_length,
    charactersBits_length]
  omega

theorem offersForm_length_le {offers : List AppProtocol} (h : ∀ ap ∈ offers, ap.Transmittable) :
    (offersForm offers).length ≤ 927 * offers.length + 2 := by
  induction offers with
  | nil => simp [offersForm]
  | cons ap offers ih =>
    obtain ⟨hap, hoffers⟩ := List.forall_mem_cons.mp h
    have hform := ap.form_length_le hap
    have hrest := ih hoffers
    simp only [offersForm, List.length_append, bitsOf_length, List.length_cons]
    omega

/-- A transmittable document takes at most 2319 bytes. -/
theorem AppHandExiDocument.form_length_le {doc : AppHandExiDocument} (h : doc.Transmittable) :
    doc.form.length ≤ 8 * 2319 := by
  cases doc with
  | supportedAppProtocolReq offers =>
    obtain ⟨⟨hne, hlength⟩, hoffers⟩ := h
    cases offers with
    | nil => exact absurd rfl hne
    | cons ap offers =>
      obtain ⟨hap, hrest⟩ := List.forall_mem_cons.mp hoffers
      have hform := ap.form_length_le hap
      have hoffers := offersForm_length_le hrest
      rw [List.length_cons, appProtocolArraySize] at hlength
      simp only [form, supportedAppProtocolReqForm, List.length_append, bitsOf_length]
      omega
  | supportedAppProtocolRes res =>
    simp only [form, SupportedAppProtocolRes.form, List.length_append, elementForm_length,
      bitsOf_length]
    cases res.schemaId <;> simp

/-- A document is encoded exactly when it is encodable and its bits fit into one byte more than
the buffer has. -/
theorem exiEncode_appHand (doc : AppHandExiDocument) (memory : ℕ → UInt8) (outLen : ℕ) :
    exiEncode (encodeAppHandExiDocument doc) memory outLen =
      if doc.Encodable ∧ doc.form.length ≤ 8 * (outLen + 1) then .ok (packBits doc.form)
      else .error .eio := by
  by_cases hdoc : doc.Encodable
  · rw [exiEncode_of_writes (encodeAppHandExiDocument_writes hdoc)]
    by_cases hfits : doc.form.length ≤ 8 * (outLen + 1)
    · rw [if_neg (Nat.not_lt.mpr hfits), if_pos ⟨hdoc, hfits⟩]
    · rw [if_pos (Nat.not_le.mp hfits), if_neg fun h => hfits h.2]
  · obtain ⟨err, hstop⟩ := encodeAppHandExiDocument_givesUp hdoc
    rw [exiEncode_of_givesUp hstop, if_neg fun h => hdoc h.1]

/-- The bytes of a transmittable document are decoded, whatever follows them. -/
theorem exiDecode_appHand {doc : AppHandExiDocument} (h : doc.Transmittable) (rest : List UInt8)
    (stale : UInt8) :
    exiDecode decodeAppHandExiDocument (packBits doc.form ++ rest) stale = .ok doc.onWire := by
  obtain ⟨bits, hahead, hreads⟩ := decodeAppHandExiDocument_reads h
  refine exiDecode_of_reads hreads (hahead.trans ?_)
  rw [List.append_assoc, bytesBits_append, bytesBits_packBits, List.append_assoc]
  exact List.prefix_append _ _

/-- A document whose event code is none of the two is refused. -/
theorem decodeAppHandExiDocument_refuses :
    decodeAppHandExiDocument.Refuses (bitsOf 8 exiSimpleHeaderValue ++ (bitsOf 2 2 ++ []))
      .unsupportedSubEvent :=
  exiHeaderReadAndCheck_reads.bind_refuses
    ((decoderNbitUint_reads (by decide) 2).bind_refuses (Reader.refuses_fail _))

/-- Every handshake document, on every buffer and whatever memory held before: it is encoded
exactly when it is encodable and its bits fit into one byte more than the buffer has; and the bytes
of a transmittable document, whatever follows them, are decoded to the document, with the
priorities and the response code cut to the bits that carry them. -/
theorem appHand_roundTrip (doc : AppHandExiDocument) :
    (∀ memory outLen, exiEncode (encodeAppHandExiDocument doc) memory outLen =
      if doc.Encodable ∧ doc.form.length ≤ 8 * (outLen + 1) then .ok (packBits doc.form)
      else .error .eio) ∧
    (doc.Transmittable → ∀ rest stale,
      exiDecode decodeAppHandExiDocument (packBits doc.form ++ rest) stale = .ok doc.onWire) :=
  ⟨exiEncode_appHand doc, fun h => exiDecode_appHand h⟩

/-- A request with two offers. -/
def sampleHandshakeReq : AppHandExiDocument :=
  .supportedAppProtocolReq
    [{ protocolNamespace := "urn:iso:15118:2:2013:MsgDef".toList
       versionNumberMajor := 2
       versionNumberMinor := 0
       schemaId := 1
       priority := 1 },
      { protocolNamespace := "urn:din:70121:2012:MsgDef".toList
        versionNumberMajor := 2
        versionNumberMinor := 0
        schemaId := 2
        priority := 2 }]

theorem sampleHandshakeReq_transmittable : sampleHandshakeReq.Transmittable := by
  refine ⟨⟨List.cons_ne_nil _ _, by decide⟩, fun ap hap => ?_⟩
  rcases List.mem_pair.mp hap with rfl | rfl <;> decide

/-- The two offers cross the wire, with another byte behind them. -/
theorem appHand_roundTrip_sample :
    exiDecode decodeAppHandExiDocument (packBits sampleHandshakeReq.form ++ [0x55]) 0 =
      .ok sampleHandshakeReq :=
  (appHand_roundTrip sampleHandshakeReq).2 sampleHandshakeReq_transmittable [0x55] 0

/-- What the decoder accepts is well formed, and comes back unchanged when it is encoded again,
for which the buffers of the stack are large enough. -/
theorem appHand_accepted {bytes : List UInt8} {stale : UInt8} {doc : AppHandExiDocument}
    (h : exiDecode decodeAppHandExiDocument bytes stale = .ok doc) :
    doc.WellFormed ∧ ∀ memory outLen, 2318 ≤ outLen →
      ∃ bytes', exiEncode (encodeAppHandExiDocument doc) memory outLen = .ok bytes' ∧
        ∀ rest stale', exiDecode decodeAppHandExiDocument (bytes' ++ rest) stale' = .ok doc := by
  obtain ⟨bits, s, -, -, hrun⟩ := reads_of_exiDecode h
  have hdoc := wellFormed_of_run hrun
  refine ⟨hdoc, fun memory outLen hroom => ⟨packBits doc.form, ?_, fun rest stale' => ?_⟩⟩
  · have hlength := doc.form_length_le hdoc.transmittable
    rw [exiEncode_appHand, if_pos ⟨hdoc.transmittable.encodable, by omega⟩]
  · rw [exiDecode_appHand hdoc.transmittable, hdoc.onWire_eq]

/-- The two offers, out of the bytes that carry them. -/
theorem appHand_accepted_sample :
    ∃ bytes, exiEncode (encodeAppHandExiDocument sampleHandshakeReq) (fun _ => 0) 2318 =
        .ok bytes ∧
      ∀ rest stale, exiDecode decodeAppHandExiDocument (bytes ++ rest) stale =
        .ok sampleHandshakeReq := by
  have h : exiDecode decodeAppHandExiDocument (packBits sampleHandshakeReq.form ++ []) 0 =
      .ok sampleHandshakeReq :=
    exiDecode_appHand sampleHandshakeReq_transmittable [] 0
  exact (appHand_accepted h).2 (fun _ => 0) 2318 le_rfl

end Jpv2g
