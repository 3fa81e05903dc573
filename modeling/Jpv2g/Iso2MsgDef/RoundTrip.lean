import Mathlib.Tactic.IntervalCases
import Jpv2g.Exi.Buffer
import Jpv2g.Iso2MsgDef

/-!
# ISO 15118-2 Messages on the Wire

The bits of a message of ISO 15118-2, and that its encoder and its decoder agree on them.

## Main definitions

* `V2gMessage.form`: the bits of a message.
* `V2gMessage.Fits`: every member is in the range that its bits have.
* `V2gMessage.Given`: the grammar of the message is given.

## Main results

* `body_transmits`, `document_transmits`: what is written is what is read, and what is read fits.
* `iso2_roundTrip`, `iso2_accepted`: messages on buffers.
-/

namespace Jpv2g

namespace Iso2MsgDef

open ExiBasetypes

/-! ## Forms -/

/-- The bits of a short integer. -/
def integer16Form : Int16 → List Bool :=
  integerForm (fun v => bytesBits (toOctets 5 v.toNat)) Int16.toUInt16 (fun value => -value - 1)
    fun value => value < 0

/-- The bits of a long integer. -/
def integer64Form : Int64 → List Bool :=
  integerForm (fun v => bytesBits (toOctets 10 v.toNat)) Int64.toUInt64 (fun value => -value - 1)
    fun value => value < 0

/-- The bits of an element of a type that ends its own grammar. -/
def typedForm (bits : List Bool) : List Bool := bitsOf 1 0 ++ bits

/-- The number that stands for a multiplier. -/
def multiplierCode (multiplier : Int8) : ℕ := (multiplier.toInt32.toUInt32 + 3).toNat

namespace PhysicalValueType

/-- The bits of a physical value. -/
def form (pv : PhysicalValueType) : List Bool :=
  elementForm (bitsOf 3 (multiplierCode pv.multiplier)) ++
    (elementForm (bitsOf 3 pv.unit) ++ (elementForm (integer16Form pv.value) ++ bitsOf 1 0))

/-- Three bits hold the multiplier and the unit. -/
def Fits (pv : PhysicalValueType) : Prop :=
  (-3 ≤ pv.multiplier ∧ pv.multiplier ≤ 4) ∧ pv.unit < 8

end PhysicalValueType

namespace DcEvStatusType

/-- The bits of the status of a vehicle. -/
def form (status : DcEvStatusType) : List Bool :=
  elementForm [status.evReady] ++
    (elementForm (bitsOf 4 status.evErrorCode) ++
      (elementForm (bitsOf 7 status.evRessSoc.toInt32.toUInt32.toNat) ++ bitsOf 1 0))

/-- Four bits hold the error code, and seven the state of charge. -/
def Fits (status : DcEvStatusType) : Prop := status.evErrorCode < 16 ∧ 0 ≤ status.evRessSoc

end DcEvStatusType

namespace DcEvseStatusType

/-- The bits of the status of a station. -/
def form (status : DcEvseStatusType) : List Bool :=
  elementForm (bytesBits (toOctets 5 status.notificationMaxDelay.toNat)) ++
    (elementForm (bitsOf 2 status.evseNotification) ++
      match status.evseIsolationStatus with
      | some isolation =>
        bitsOf 2 0 ++ (simpleForm (bitsOf 3 isolation) ++
          (elementForm (bitsOf 4 status.evseStatusCode) ++ bitsOf 1 0))
      | none => bitsOf 2 1 ++ (simpleForm (bitsOf 4 status.evseStatusCode) ++ bitsOf 1 0))

/-- The codes fit into their bits. -/
def Fits (status : DcEvseStatusType) : Prop :=
  status.evseNotification < 4 ∧ (∀ isolation ∈ status.evseIsolationStatus, isolation < 8) ∧
    status.evseStatusCode < 16

end DcEvseStatusType

namespace NotificationType

/-- The bits of a notification. -/
def form (notification : NotificationType) : List Bool :=
  elementForm (bitsOf 2 notification.faultCode) ++
    match notification.faultMsg with
    | some faultMsg => bitsOf 2 0 ++ (simpleForm (stringForm faultMsg) ++ bitsOf 1 0)
    | none => bitsOf 2 1

/-- The fault code fits into its bits, and the decoder supports the message. -/
def Fits (notification : NotificationType) : Prop :=
  notification.faultCode < 4 ∧
    ∀ faultMsg ∈ notification.faultMsg,
      faultMsg.length + 1 ≤ faultMsgCharacterSize ∧ Ascii faultMsg

end NotificationType

namespace SessionSetupResType

/-- The bits of a SessionSetupRes. -/
def form (res : SessionSetupResType) : List Bool :=
  elementForm (bitsOf 5 res.responseCode) ++
    (elementForm (stringForm res.evseId) ++
      match res.evseTimeStamp with
      | some evseTimeStamp =>
        bitsOf 2 0 ++ (simpleForm (integer64Form evseTimeStamp) ++ bitsOf 1 0)
      | none => bitsOf 2 1)

/-- The response code fits into its bits, and the decoder supports the identifier. -/
def Fits (res : SessionSetupResType) : Prop :=
  res.responseCode < 32 ∧ res.evseId.length + 1 ≤ evseIdCharacterSize ∧ Ascii res.evseId

end SessionSetupResType

namespace CableCheckResType

/-- The bits of a CableCheckRes. -/
def form (res : CableCheckResType) : List Bool :=
  elementForm (bitsOf 5 res.responseCode) ++
    (typedForm res.dcEvseStatus.form ++ (elementForm (bitsOf 2 res.evseProcessing) ++ bitsOf 1 0))

/-- The codes fit into their bits. -/
def Fits (res : CableCheckResType) : Prop :=
  res.responseCode < 32 ∧ res.dcEvseStatus.Fits ∧ res.evseProcessing < 4

end CableCheckResType

namespace PreChargeReqType

/-- The bits of a PreChargeReq. -/
def form (req : PreChargeReqType) : List Bool :=
  typedForm req.dcEvStatus.form ++
    (typedForm req.evTargetVoltage.form ++ (typedForm req.evTargetCurrent.form ++ bitsOf 1 0))

/-- The members fit into their bits. -/
def Fits (req : PreChargeReqType) : Prop :=
  req.dcEvStatus.Fits ∧ req.evTargetVoltage.Fits ∧ req.evTargetCurrent.Fits

end PreChargeReqType

namespace PresentVoltageResType

/-- The bits of a PreChargeRes or a WeldingDetectionRes. -/
def form (res : PresentVoltageResType) : List Bool :=
  elementForm (bitsOf 5 res.responseCode) ++
    (typedForm res.dcEvseStatus.form ++ (typedForm res.evsePresentVoltage.form ++ bitsOf 1 0))

/-- The members fit into their bits. -/
def Fits (res : PresentVoltageResType) : Prop :=
  res.responseCode < 32 ∧ res.dcEvseStatus.Fits ∧ res.evsePresentVoltage.Fits

end PresentVoltageResType

namespace BodyType

variable {β : Type}

/-- The bits of the element of a body. -/
def elementBits : BodyType β → List Bool
  | cableCheckReq dcEvStatus => typedForm dcEvStatus.form ++ bitsOf 1 0
  | cableCheckRes res => res.form
  | preChargeReq req => req.form
  | preChargeRes res => res.form
  | sessionSetupReq evccId => elementForm (binaryForm evccId) ++ bitsOf 1 0
  | sessionSetupRes res => res.form
  | sessionStopReq chargingSession => elementForm (bitsOf 1 chargingSession) ++ bitsOf 1 0
  | sessionStopRes responseCode => elementForm (bitsOf 5 responseCode) ++ bitsOf 1 0
  | weldingDetectionReq dcEvStatus => typedForm dcEvStatus.form ++ bitsOf 1 0
  | weldingDetectionRes res => res.form
  | other _ => []

/-- The grammar of the body is given. -/
def Given : BodyType β → Prop
  | other _ => False
  | _ => True

/-- The grammar of the body is given, and its members fit. -/
def Fits : BodyType β → Prop
  | cableCheckReq dcEvStatus => dcEvStatus.Fits
  | cableCheckRes res => res.Fits
  | preChargeReq req => req.Fits
  | preChargeRes res => res.Fits
  | sessionSetupReq evccId => evccId.length ≤ evccIdTypeBytesSize
  | sessionSetupRes res => res.Fits
  | sessionStopReq chargingSession => chargingSession < 2
  | sessionStopRes responseCode => responseCode < 32
  | weldingDetectionReq dcEvStatus => dcEvStatus.Fits
  | weldingDetectionRes res => res.Fits
  | other _ => False

/-- Only a given body can fit. -/
theorem Fits.given {body : BodyType β} (h : body.Fits) : body.Given := by
  cases body with
  | other body => exact h
  | _ => exact trivial

variable {σ : Type} (grammar : Grammar σ β)

/-- The bits of a body. -/
def form (body : BodyType β) : List Bool :=
  bitsOf 6 (body.eventCode grammar) ++ (body.elementBits ++ bitsOf 1 0)

end BodyType

namespace MessageHeaderType

variable {σ : Type}

/-- The bits of a header without a signature. -/
def form (header : MessageHeaderType σ) : List Bool :=
  elementForm (binaryForm header.sessionId) ++
    match header.notification with
    | some notification => bitsOf 2 0 ++ (notification.form ++ bitsOf 2 1)
    | none => bitsOf 2 2

/-- There is no signature, and the members fit. -/
def Fits (header : MessageHeaderType σ) : Prop :=
  header.sessionId.length ≤ sessionIdTypeBytesSize ∧
    (∀ notification ∈ header.notification, notification.Fits) ∧ header.signature = none

end MessageHeaderType

namespace V2gMessage

variable {σ β : Type}

/-- The grammar of the message is given. -/
def Given (msg : V2gMessage σ β) : Prop := msg.header.signature = none ∧ msg.body.Given

/-- The grammar of the message is given, and its members fit. -/
def Fits (msg : V2gMessage σ β) : Prop := msg.header.Fits ∧ msg.body.Fits

variable (grammar : Grammar σ β)

/-- The bits of a message. -/
def form (msg : V2gMessage σ β) : List Bool :=
  bitsOf 8 exiSimpleHeaderValue ++ (bitsOf 7 76 ++
    (typedForm msg.header.form ++ (typedForm (msg.body.form grammar) ++ bitsOf 1 0)))

end V2gMessage

/-! ## Members -/

variable {α γ : Type}

/-- What transmits a type transmits it as an element. -/
theorem typed_transmits {scope known : α → Prop} {e : α → Encoder Unit} {d : Decoder α}
    {form : α → List Bool} {fits : α → Prop} (h : Transmits scope known e d form fits) :
    Transmits scope known (fun a => encodeTyped (e a)) (decodeTyped d)
      (fun a => typedForm (form a)) fits :=
  h.token (encoderNbitUint_writes (by omega) 0) (decoderEvent_reads (by omega) _)

/-- A member that may be left out: an event code tells whether it is there. -/
theorem optional_transmits {scope known : γ → Prop} (field : γ → Option α) {e : α → Encoder Unit}
    {d : Decoder α} {form : α → List Bool} {fits : α → Prop} (h : Conveys e d form fits)
    {eSome eNone : γ → Encoder Unit} {dSome : α → Decoder γ} {dNone : Decoder γ}
    {formSome formNone : γ → List Bool} {fitsSome fitsNone : γ → Prop}
    (hsome : ∀ a, fits a →
      Transmits scope (fun g => known g ∧ field g = some a) eSome (dSome a) formSome fitsSome)
    (hnone : Transmits scope (fun g => known g ∧ field g = none) eNone dNone formNone fitsNone)
    {next : ℕ → Decoder γ} (hzero : next 0 = d >>= dSome) (hone : next 1 = dNone)
    (hother : ∀ code, next (code + 2) = .fail .unknownEventCode) :
    Transmits scope known
      (fun g => (field g).elim (encoderNbitUint 2 1 >>= fun _ => eNone g)
        fun a => encoderNbitUint 2 0 >>= fun _ => e a >>= fun _ => eSome g)
      (decoderNbitUint 2 >>= next)
      (fun g => (field g).elim (bitsOf 2 1 ++ formNone g)
        fun a => bitsOf 2 0 ++ (form a ++ formSome g))
      (fun g => (field g).elim (fitsNone g) fun a => fits a ∧ fitsSome g) where
  -- the event code 0 announces the member, 1 skips it
  writes {g} hg hf := by
    cases hfield : field g with
    | none =>
      rw [hfield] at hf
      exact (encoderNbitUint_writes (by omega) 1).bind (hnone.writes ⟨hg, hfield⟩ hf)
    | some a =>
      rw [hfield] at hf
      exact (encoderNbitUint_writes (by omega) 0).bind
        ((h.writes trivial hf.1).bind ((hsome a hf.1).writes ⟨hg, hfield⟩ hf.2))
  reads {g} hg hf := by
    cases hfield : field g with
    | none =>
      rw [hfield] at hf
      refine (decoderNbitUint_reads (by omega) 1).bind ?_
      rw [Nat.mod_eq_of_lt (by decide), hone]
      exact hnone.reads ⟨hg, hfield⟩ hf
    | some a =>
      rw [hfield] at hf
      refine (decoderNbitUint_reads (by omega) 0).bind ?_
      rw [Nat.zero_mod, hzero]
      exact (h.reads trivial hf.1).bind ((hsome a hf.1).reads ⟨hg, hfield⟩ hf.2)
  accepts {s g s'} hrun := by
    obtain ⟨code, t, -, hnext⟩ := Reader.run_bind_eq_ok.mp hrun
    -- any other event code is refused
    match code, hnext with
    | 0, hnext =>
      rw [hzero] at hnext
      obtain ⟨a, u, hfirst, hthen⟩ := Reader.run_bind_eq_ok.mp hnext
      have ha := (h.accepts hfirst).2 trivial
      obtain ⟨⟨hg, hfield⟩, hf⟩ := (hsome a ha).accepts hthen
      rw [hfield]
      exact ⟨hg, fun hs => ⟨ha, hf hs⟩⟩
    | 1, hnext =>
      rw [hone] at hnext
      obtain ⟨⟨hg, hfield⟩, hf⟩ := hnone.accepts hnext
      rw [hfield]
      exact ⟨hg, hf⟩
    | code + 2, hnext =>
      rw [hother] at hnext
      cases hnext

/-- Of the eight multipliers that three bits hold, the least is minus three. -/
theorem multiplier_conveys :
    Conveys (fun multiplier => encoderNbitUint 3 (multiplierCode multiplier))
      (do
        let value ← decoderNbitUint 3
        return (UInt32.ofNat value - 3).toInt32.toInt8)
      (fun multiplier => bitsOf 3 (multiplierCode multiplier))
      fun multiplier => -3 ≤ multiplier ∧ multiplier ≤ 4 := by
  refine (nbitUint_conveys (by omega)).map multiplierCode _ (fun m hm => ?_) fun code hcode => ?_
  · obtain ⟨hlow, hhigh⟩ := hm
    rw [Int8.le_iff_toInt_le] at hlow hhigh
    change -3 ≤ m.toInt at hlow
    change m.toInt ≤ 4 at hhigh
    rw [← Int8.ofInt_toInt m]
    interval_cases m.toInt <;> decide
  · change code < 8 at hcode
    interval_cases code <;> decide

/-- Seven bits hold the states of charge from zero on. -/
theorem evRessSoc_conveys :
    Conveys (fun evRessSoc : Int8 => encoderNbitUint 7 evRessSoc.toInt32.toUInt32.toNat)
      (do
        let value ← decoderNbitUint 7
        return Int8.ofNat value)
      (fun evRessSoc => bitsOf 7 evRessSoc.toInt32.toUInt32.toNat)
      fun evRessSoc => 0 ≤ evRessSoc := by
  refine (nbitUint_conveys (by omega)).map (fun soc : Int8 => soc.toInt32.toUInt32.toNat) _
    (fun soc hsoc => ?_) fun code hcode => ?_
  · have hsoc' : (0 : Int32) ≤ soc.toInt32 := by
      rw [Int32.le_iff_toInt_le, Int8.toInt_toInt32]
      rwa [Int8.le_iff_toInt_le] at hsoc
    rw [Int32.toNat_toUInt32_of_le hsoc', Int8.toNatClampNeg_toInt32]
    exact ⟨soc.toNatClampNeg_lt, soc.ofNat_toNatClampNeg hsoc⟩
  · rw [Int8.le_iff_toInt_le, Int8.toInt_ofNat_of_lt hcode]
    exact Int.natCast_nonneg code

/-! ## Types -/

/-- Physical values. -/
theorem physicalValue_conveys :
    Conveys encodePhysicalValueType decodePhysicalValueType PhysicalValueType.form
      PhysicalValueType.Fits := by
  unfold decodePhysicalValueType
  refine Transmits.congr
    (.bind (element_conveys multiplier_conveys) PhysicalValueType.multiplier fun multiplier _ =>
      .bind (element_conveys (nbitUint_conveys (by omega))) PhysicalValueType.unit fun unit _ =>
      .bind (element_conveys integer16_conveys) PhysicalValueType.value fun value _ =>
      .last (encoderNbitUint_writes (by omega) 0) (decoderEvent_reads (by omega) _) ?_) ?_ ?_ ?_
  · rintro ⟨_, _, _⟩
    simp [and_assoc]
  · intro pv _
    rfl
  · intro pv _
    rfl
  · intro pv _
    simp [PhysicalValueType.Fits]

/-- The status of a vehicle. -/
theorem dcEvStatus_conveys :
    Conveys encodeDcEvStatusType decodeDcEvStatusType DcEvStatusType.form DcEvStatusType.Fits := by
  unfold decodeDcEvStatusType
  refine Transmits.congr
    (.bind (element_conveys bool_conveys) DcEvStatusType.evReady fun evReady _ =>
      .bind (element_conveys (nbitUint_conveys (by omega))) DcEvStatusType.evErrorCode fun _ _ =>
      .bind (element_conveys evRessSoc_conveys) DcEvStatusType.evRessSoc fun evRessSoc _ =>
      .last (encoderNbitUint_writes (by omega) 0) (decoderEvent_reads (by omega) _) ?_) ?_ ?_ ?_
  · rintro ⟨_, _, _⟩
    simp [and_assoc]
  · intro status _
    rfl
  · intro status _
    rfl
  · intro status _
    simp [DcEvStatusType.Fits]

/-- The status of a station, with its isolation status and without. -/
theorem dcEvseStatus_conveys :
    Conveys encodeDcEvseStatusType decodeDcEvseStatusType DcEvseStatusType.form
      DcEvseStatusType.Fits := by
  unfold decodeDcEvseStatusType
  refine Transmits.congr
    (.bind (element_conveys uint16_conveys) DcEvseStatusType.notificationMaxDelay fun delay _ =>
      .bind (element_conveys (nbitUint_conveys (by omega))) DcEvseStatusType.evseNotification
        fun notification _ =>
      optional_transmits DcEvseStatusType.evseIsolationStatus
        (exiType_conveys (nbitUint_conveys (by omega)))
        (fun isolation _ =>
          .bind (element_conveys (nbitUint_conveys (by omega))) DcEvseStatusType.evseStatusCode
            fun evseStatusCode _ =>
          .last (encoderNbitUint_writes (by omega) 0) (decoderEvent_reads (by omega) _) ?_)
        (.bind (exiType_conveys (nbitUint_conveys (by omega))) DcEvseStatusType.evseStatusCode
            fun evseStatusCode _ =>
          .last (encoderNbitUint_writes (by omega) 0) (decoderEvent_reads (by omega) _) ?_)
        rfl rfl fun _ => rfl) ?_ ?_ ?_
  · rintro ⟨_, _, _, _⟩
    simp [and_assoc]
  · rintro ⟨_, _, _, _⟩
    simp [and_assoc]
  · rintro ⟨_, _, isolation, _⟩ _
    cases isolation <;> rfl
  · rintro ⟨_, _, isolation, _⟩ _
    cases isolation <;> rfl
  · rintro ⟨_, _, isolation, _⟩ _
    cases isolation <;> simp [DcEvseStatusType.Fits]

/-- Notifications, with a message and without. -/
theorem notification_conveys :
    Conveys encodeNotificationType decodeNotificationType NotificationType.form
      NotificationType.Fits := by
  unfold decodeNotificationType
  refine Transmits.congr
    (.bind (element_conveys (nbitUint_conveys (by omega))) NotificationType.faultCode
        fun faultCode _ =>
      optional_transmits NotificationType.faultMsg
        (exiType_conveys (string_conveys (by decide)))
        (fun faultMsg _ =>
          .last (encoderNbitUint_writes (by omega) 0) (decoderEvent_reads (by omega) _) ?_)
        (.done ?_) rfl rfl fun _ => rfl) ?_ ?_ ?_
  · rintro ⟨_, _⟩
    simp
  · rintro ⟨_, _⟩
    simp
  · rintro ⟨_, faultMsg⟩ _
    cases faultMsg with
    | none => exact congrArg _ (funext fun _ => (Writer.bind_pure _).symm)
    | some faultMsg => rfl
  · rintro ⟨_, faultMsg⟩ _
    cases faultMsg with
    | none => simp [NotificationType.form]
    | some faultMsg => rfl
  · rintro ⟨_, faultMsg⟩ _
    cases faultMsg <;> simp [NotificationType.Fits]

/-- The response to a setup, with a time stamp and without. -/
theorem sessionSetupRes_conveys :
    Conveys encodeSessionSetupResType decodeSessionSetupResType SessionSetupResType.form
      SessionSetupResType.Fits := by
  unfold decodeSessionSetupResType
  refine Transmits.congr
    (.bind (element_conveys (nbitUint_conveys (by omega))) SessionSetupResType.responseCode
        fun responseCode _ =>
      .bind (element_conveys (string_conveys (by decide))) SessionSetupResType.evseId
        fun evseId _ =>
      optional_transmits SessionSetupResType.evseTimeStamp (exiType_conveys integer64_conveys)
        (fun evseTimeStamp _ =>
          .last (encoderNbitUint_writes (by omega) 0) (decoderEvent_reads (by omega) _) ?_)
        (.done ?_) rfl rfl fun _ => rfl) ?_ ?_ ?_
  · rintro ⟨_, _, _⟩
    simp [and_assoc]
  · rintro ⟨_, _, _⟩
    simp [and_assoc]
  · rintro ⟨_, _, evseTimeStamp⟩ _
    cases evseTimeStamp with
    | none =>
      exact congrArg _ (funext fun _ => congrArg _ (funext fun _ => (Writer.bind_pure _).symm))
    | some evseTimeStamp => rfl
  · rintro ⟨_, _, evseTimeStamp⟩ _
    cases evseTimeStamp with
    | none => simp [SessionSetupResType.form]
    | some evseTimeStamp => rfl
  · rintro ⟨_, _, evseTimeStamp⟩ _
    cases evseTimeStamp <;> simp [SessionSetupResType.Fits]

/-- A type with one member. -/
theorem single_conveys {e : α → Encoder Unit} {d : Decoder α} {form : α → List Bool}
    {fits : α → Prop} (h : Conveys e d form fits) :
    Conveys (fun a => e a >>= fun _ => encoderNbitUint 1 0)
      (d >>= fun a => decoderEvent 1 .unknownEventCode >>= fun _ => pure a)
      (fun a => form a ++ bitsOf 1 0) fits :=
  h.trail (encoderNbitUint_writes (by omega) 0) (decoderEvent_reads (by omega) _)

/-- The response to a cable check. -/
theorem cableCheckRes_conveys :
    Conveys encodeCableCheckResType decodeCableCheckResType CableCheckResType.form
      CableCheckResType.Fits := by
  unfold decodeCableCheckResType
  refine Transmits.congr
    (.bind (element_conveys (nbitUint_conveys (by omega))) CableCheckResType.responseCode
        fun responseCode _ =>
      .bind (typed_transmits dcEvseStatus_conveys) CableCheckResType.dcEvseStatus
        fun dcEvseStatus _ =>
      .bind (element_conveys (nbitUint_conveys (by omega))) CableCheckResType.evseProcessing
        fun evseProcessing _ =>
      .last (encoderNbitUint_writes (by omega) 0) (decoderEvent_reads (by omega) _) ?_) ?_ ?_ ?_
  · rintro ⟨_, _, _⟩
    simp [and_assoc]
  · intro res _
    rfl
  · intro res _
    rfl
  · intro res _
    simp [CableCheckResType.Fits]

/-- The request for a voltage. -/
theorem preChargeReq_conveys :
    Conveys encodePreChargeReqType decodePreChargeReqType PreChargeReqType.form
      PreChargeReqType.Fits := by
  unfold decodePreChargeReqType
  refine Transmits.congr
    (.bind (typed_transmits dcEvStatus_conveys) PreChargeReqType.dcEvStatus fun dcEvStatus _ =>
      .bind (typed_transmits physicalValue_conveys) PreChargeReqType.evTargetVoltage
        fun evTargetVoltage _ =>
      .bind (typed_transmits physicalValue_conveys) PreChargeReqType.evTargetCurrent
        fun evTargetCurrent _ =>
      .last (encoderNbitUint_writes (by omega) 0) (decoderEvent_reads (by omega) _) ?_) ?_ ?_ ?_
  · rintro ⟨_, _, _⟩
    simp [and_assoc]
  · intro req _
    rfl
  · intro req _
    rfl
  · intro req _
    simp [PreChargeReqType.Fits]

/-- The two responses with the present voltage. -/
theorem presentVoltageRes_conveys :
    Conveys encodePresentVoltageResType decodePresentVoltageResType PresentVoltageResType.form
      PresentVoltageResType.Fits := by
  unfold decodePresentVoltageResType
  refine Transmits.congr
    (.bind (element_conveys (nbitUint_conveys (by omega))) PresentVoltageResType.responseCode
        fun responseCode _ =>
      .bind (typed_transmits dcEvseStatus_conveys) PresentVoltageResType.dcEvseStatus
        fun dcEvseStatus _ =>
      .bind (typed_transmits physicalValue_conveys) PresentVoltageResType.evsePresentVoltage
        fun evsePresentVoltage _ =>
      .last (encoderNbitUint_writes (by omega) 0) (decoderEvent_reads (by omega) _) ?_) ?_ ?_ ?_
  · rintro ⟨_, _, _⟩
    simp [and_assoc]
  · intro res _
    rfl
  · intro res _
    rfl
  · intro res _
    simp [PresentVoltageResType.Fits]

/-! ## Messages -/

section Parameter

variable {σ β : Type} (grammar : Grammar σ β)

/-- Headers, out of those without a signature. -/
theorem header_transmits :
    Transmits (fun header : MessageHeaderType σ => header.signature = none) (fun _ => True)
      (encodeMessageHeaderType grammar) (decodeMessageHeaderType grammar) MessageHeaderType.form
      MessageHeaderType.Fits where
  writes {header} _ hf := by
    obtain ⟨sessionId, notification, signature⟩ := header
    obtain ⟨hsessionId, hnotification, rfl⟩ := hf
    refine ((typed_transmits (hexBinary_conveys (by decide))).writes trivial hsessionId).bind ?_
    -- event codes of the header: 0 a notification, 1 a signature, 2 neither
    cases notification with
    | none => exact encoderNbitUint_writes (by omega) 2
    | some notification =>
      exact (encoderNbitUint_writes (by omega) 0).bind
        ((notification_conveys.writes trivial (hnotification _ rfl)).bind
          (encoderNbitUint_writes (by omega) 1))
  reads {header} _ hf := by
    obtain ⟨sessionId, notification, signature⟩ := header
    obtain ⟨hsessionId, hnotification, rfl⟩ := hf
    refine ((typed_transmits (hexBinary_conveys (by decide))).reads trivial hsessionId).bind ?_
    cases notification with
    | none =>
      rw [← List.append_nil (bitsOf 2 2)]
      exact (decoderNbitUint_reads (by decide) 2).bind (Reader.reads_pure _)
    | some notification =>
      refine (decoderNbitUint_reads (by decide) 0).bind
        ((notification_conveys.reads trivial (hnotification _ rfl)).bind ?_)
      rw [← List.append_nil (bitsOf 2 1)]
      exact (decoderNbitUint_reads (by decide) 1).bind (Reader.reads_pure _)
  accepts {s header s'} hrun := by
    refine ⟨trivial, fun hsignature => ?_⟩
    obtain ⟨sessionId, t, hfirst, hrest⟩ := Reader.run_bind_eq_ok.mp hrun
    have hsessionId :=
      ((typed_transmits (hexBinary_conveys (by decide))).accepts hfirst).2 trivial
    obtain ⟨eventCode, u, -, hrest⟩ := Reader.run_bind_eq_ok.mp hrest
    -- the paths through a signature do not decode to a header without one
    split at hrest
    · obtain ⟨notification, v, hsecond, hrest⟩ := Reader.run_bind_eq_ok.mp hrest
      have hnotification := (notification_conveys.accepts hsecond).2 trivial
      obtain ⟨eventCode, w, -, hrest⟩ := Reader.run_bind_eq_ok.mp hrest
      split at hrest
      · obtain ⟨signature, x, -, hrest⟩ := Reader.run_bind_eq_ok.mp hrest
        obtain ⟨_, y, -, hpure⟩ := Reader.run_bind_eq_ok.mp hrest
        obtain ⟨rfl, -⟩ := Prod.mk.inj (Except.ok.inj hpure)
        cases hsignature
      · obtain ⟨rfl, -⟩ := Prod.mk.inj (Except.ok.inj hrest)
        exact ⟨hsessionId, by rintro _ ⟨⟩; exact hnotification, rfl⟩
      · cases hrest
    · obtain ⟨signature, x, -, hrest⟩ := Reader.run_bind_eq_ok.mp hrest
      obtain ⟨_, y, -, hpure⟩ := Reader.run_bind_eq_ok.mp hrest
      obtain ⟨rfl, -⟩ := Prod.mk.inj (Except.ok.inj hpure)
      cases hsignature
    · obtain ⟨rfl, -⟩ := Prod.mk.inj (Except.ok.inj hrest)
      exact ⟨hsessionId, by rintro _ ⟨⟩, rfl⟩
    · cases hrest

/-- A given body is transmitted like the type of its element. -/
theorem given_transmits {e : α → Encoder Unit} {d : Decoder α} {form : α → List Bool}
    {fits : α → Prop} {eventCode : ℕ} (ctor : α → BodyType β) (h : Conveys e d form fits)
    (honly : ∀ body : BodyType β, body.Given → body.eventCode grammar = eventCode →
      ∃ a, body = ctor a)
    (hcode : ∀ a, (ctor a).eventCode grammar = eventCode)
    (he : ∀ a, encodeBodyElement grammar (ctor a) = e a)
    (hform : ∀ a, (ctor a).elementBits = form a) (hfits : ∀ a, (ctor a).Fits ↔ fits a) :
    Transmits BodyType.Given (fun body => body.Given → body.eventCode grammar = eventCode)
      (encodeBodyElement grammar) (ctor <$> d) BodyType.elementBits BodyType.Fits :=
  h.inject ctor (fun body hknown hf => honly body hf.given (hknown hf.given))
    (fun a _ => hcode a) he hform hfits

/-- The elements of the bodies, each after its event code. -/
theorem bodyElement_transmits (eventCode : ℕ) :
    Transmits BodyType.Given
      (fun body : BodyType β => body.Given → body.eventCode grammar = eventCode)
      (encodeBodyElement grammar) (decodeBodyElement grammar eventCode) BodyType.elementBits
      BodyType.Fits := by
  -- one case for each event code of the table, which determines the element
  unfold decodeBodyElement
  split
  · refine given_transmits grammar BodyType.cableCheckReq
      (single_conveys (typed_transmits dcEvStatus_conveys)) ?_
      (fun _ => rfl) (fun _ => rfl) (fun _ => rfl) fun _ => Iff.rfl
    rintro ⟨⟩ <;> simp [BodyType.Given, BodyType.eventCode]
  · refine given_transmits grammar BodyType.cableCheckRes
      cableCheckRes_conveys ?_
      (fun _ => rfl) (fun _ => rfl) (fun _ => rfl) fun _ => Iff.rfl
    rintro ⟨⟩ <;> simp [BodyType.Given, BodyType.eventCode]
  · refine given_transmits grammar BodyType.preChargeReq
      preChargeReq_conveys ?_
      (fun _ => rfl) (fun _ => rfl) (fun _ => rfl) fun _ => Iff.rfl
    rintro ⟨⟩ <;> simp [BodyType.Given, BodyType.eventCode]
  · refine given_transmits grammar BodyType.preChargeRes
      presentVoltageRes_conveys ?_
      (fun _ => rfl) (fun _ => rfl) (fun _ => rfl) fun _ => Iff.rfl
    rintro ⟨⟩ <;> simp [BodyType.Given, BodyType.eventCode]
  · refine given_transmits grammar BodyType.sessionSetupReq
      (single_conveys (typed_transmits (hexBinary_conveys (by decide)))) ?_
      (fun _ => rfl) (fun _ => rfl) (fun _ => rfl) fun _ => Iff.rfl
    rintro ⟨⟩ <;> simp [BodyType.Given, BodyType.eventCode]
  · refine given_transmits grammar BodyType.sessionSetupRes
      sessionSetupRes_conveys ?_
      (fun _ => rfl) (fun _ => rfl) (fun _ => rfl) fun _ => Iff.rfl
    rintro ⟨⟩ <;> simp [BodyType.Given, BodyType.eventCode]
  · refine given_transmits grammar BodyType.sessionStopReq
      (single_conveys (element_conveys (nbitUint_conveys (by omega)))) ?_
      (fun _ => rfl) (fun _ => rfl) (fun _ => rfl) fun _ => Iff.rfl
    rintro ⟨⟩ <;> simp [BodyType.Given, BodyType.eventCode]
  · refine given_transmits grammar BodyType.sessionStopRes
      (single_conveys (element_conveys (nbitUint_conveys (by omega)))) ?_
      (fun _ => rfl) (fun _ => rfl) (fun _ => rfl) fun _ => Iff.rfl
    rintro ⟨⟩ <;> simp [BodyType.Given, BodyType.eventCode]
  · refine given_transmits grammar BodyType.weldingDetectionReq
      (single_conveys (typed_transmits dcEvStatus_conveys)) ?_
      (fun _ => rfl) (fun _ => rfl) (fun _ => rfl) fun _ => Iff.rfl
    rintro ⟨⟩ <;> simp [BodyType.Given, BodyType.eventCode]
  · refine given_transmits grammar BodyType.weldingDetectionRes
      presentVoltageRes_conveys ?_
      (fun _ => rfl) (fun _ => rfl) (fun _ => rfl) fun _ => Iff.rfl
    rintro ⟨⟩ <;> simp [BodyType.Given, BodyType.eventCode]
  next h₁ h₂ h₃ h₄ h₅ h₆ h₇ h₈ h₉ h₁₀ =>
    -- another event code belongs to none of the elements modelled
    have hother : ∀ body : BodyType β, body.Given → body.eventCode grammar ≠ eventCode := by
      rintro ⟨⟩ hgiven rfl
      exacts [h₁ rfl, h₂ rfl, h₃ rfl, h₄ rfl, h₅ rfl, h₆ rfl, h₇ rfl, h₈ rfl, h₉ rfl, h₁₀ rfl,
        hgiven]
    refine ⟨fun hknown hf => ?_, fun hknown hf => ?_, fun {s body s'} hrun => ?_⟩
    · exact absurd (hknown hf.given) (hother _ hf.given)
    · exact absurd (hknown hf.given) (hother _ hf.given)
    · split_ifs at hrun
      · obtain ⟨body, t, -, hpure⟩ := Reader.run_bind_eq_ok.mp hrun
        obtain ⟨rfl, -⟩ := Prod.mk.inj (Except.ok.inj hpure)
        exact ⟨fun hgiven => hgiven.elim, fun hgiven => hgiven.elim⟩
      · cases hrun

/-- A given body has an event code of its own. -/
theorem BodyType.Given.eventCode_lt {body : BodyType β} (h : body.Given) :
    body.eventCode grammar < 35 := by
  cases body with
  | other body => exact h.elim
  | _ => simp [BodyType.eventCode]

/-- Bodies, out of those whose grammar is given. -/
theorem body_transmits :
    Transmits BodyType.Given (fun _ => True) (encodeBodyType grammar) (decodeBodyType grammar)
      (BodyType.form grammar) BodyType.Fits := by
  have helement : ∀ eventCode, Transmits BodyType.Given _ _ _ _ _ := fun eventCode =>
    (bodyElement_transmits grammar eventCode).trail (@encoderNbitUint_writes 1 (by omega) 0)
      (@decoderEvent_reads 1 (by omega) .unknownEventCode)
  refine ⟨fun {body} _ hf => ?_, fun {body} _ hf => ?_, fun {s body s'} hrun => ?_⟩
  · exact (encoderNbitUint_writes (by omega) _).bind ((helement _).writes (fun _ => rfl) hf)
  · refine (decoderNbitUint_reads (by omega) _).bind ?_
    rw [Nat.mod_eq_of_lt ((hf.given.eventCode_lt grammar).trans (by decide))]
    exact (helement _).reads (fun _ => rfl) hf
  · obtain ⟨eventCode, t, -, hrest⟩ := Reader.run_bind_eq_ok.mp hrun
    exact ⟨trivial, ((helement eventCode).accepts hrest).2⟩

/-- Messages, out of those whose grammar is given. -/
theorem message_transmits :
    Transmits V2gMessage.Given (fun _ => True) (encodeV2gMessage grammar)
      (decodeV2gMessage grammar)
      (fun msg => typedForm msg.header.form ++ (typedForm (msg.body.form grammar) ++ bitsOf 1 0))
      V2gMessage.Fits := by
  unfold decodeV2gMessage
  refine ((Transmits.bindScope (typed_transmits (header_transmits grammar)) V2gMessage.header
      fun header _ =>
    .bindScope (typed_transmits (body_transmits grammar)) V2gMessage.body fun body _ =>
    .last (encoderNbitUint_writes (by omega) 0) (decoderEvent_reads (by omega) _) ?_).restrict
      fun msg hgiven => show _ ∧ _ ∧ True from ⟨hgiven.1, hgiven.2, trivial⟩).congr ?_ ?_ ?_
  · rintro ⟨_, _⟩
    simp
  · intro msg _
    rfl
  · intro msg _
    rfl
  · intro msg _
    simp [V2gMessage.Fits]

/-- Documents, out of those with a message whose grammar is given. -/
theorem document_transmits :
    Transmits V2gMessage.Given (fun _ => True) (encodeExiDocument grammar)
      (decodeExiDocument grammar) (V2gMessage.form grammar) V2gMessage.Fits := by
  refine .token exiHeaderWrite_writes exiHeaderReadAndCheck_reads
    ⟨fun _ hf => ?_, fun _ hf => ?_, fun {s msg s'} hrun => ?_⟩
  · exact (encoderNbitUint_writes (by omega) 76).bind
      ((message_transmits grammar).writes trivial hf)
  · refine (decoderNbitUint_reads (by omega) 76).bind ?_
    rw [if_pos (.inr (by decide))]
    exact (message_transmits grammar).reads trivial hf
  · obtain ⟨eventCode, t, -, hrest⟩ := Reader.run_bind_eq_ok.mp hrun
    split_ifs at hrest
    · exact (message_transmits grammar).accepts hrest
    · cases hrest

end Parameter

/-! ## Lengths -/

/-- A `UInt16` takes at most three octets. -/
theorem uint16Form_length_le (v : UInt16) : (bytesBits (toOctets 5 v.toNat)).length ≤ 24 :=
  @toOctets_bits_le 5 3 _ (by omega) (v.toNat_lt.trans_le (by decide))

/-- A short integer takes its sign and at most three octets. -/
theorem integer16Form_length_le (value : Int16) : (integer16Form value).length ≤ 25 := by
  have hmagnitude := uint16Form_length_le (if value < 0 then -value - 1 else value).toUInt16
  simp only [integer16Form, integerForm, List.length_append, List.length_singleton,
    decide_eq_true_eq]
  omega

/-- A long integer takes its sign and at most ten octets. -/
theorem integer64Form_length_le (value : Int64) : (integer64Form value).length ≤ 81 := by
  have hmagnitude : (bytesBits (toOctets 10
      (if value < 0 then -value - 1 else value).toUInt64.toNat)).length ≤ 80 :=
    @toOctets_bits_le 10 10 _ (by omega) ((UInt64.toNat_lt _).trans_le (by decide))
  simp only [integer64Form, integerForm, List.length_append, List.length_singleton,
    decide_eq_true_eq]
  omega

/-- A string takes its length and one byte for each character. -/
theorem stringForm_length_le (characters : List Char) :
    (stringForm characters).length ≤ 24 + 8 * characters.length := by
  have hlength := uint16Form_length_le (.ofNat (characters.length + 2))
  rw [stringForm, List.length_append, charactersBits_length]
  omega

/-- A binary takes its length and its bytes. -/
theorem binaryForm_length_le (bytes : List UInt8) :
    (binaryForm bytes).length ≤ 24 + 8 * bytes.length := by
  have hlength := uint16Form_length_le (.ofNat bytes.length)
  rw [binaryForm, List.length_append, bytesBits_length bytes]
  omega

theorem PhysicalValueType.form_length_le (pv : PhysicalValueType) : pv.form.length ≤ 41 := by
  have hvalue := integer16Form_length_le pv.value
  simp only [form, List.length_append, elementForm_length, bitsOf_length]
  omega

theorem DcEvStatusType.form_length (status : DcEvStatusType) : status.form.length = 22 := by
  simp only [form, List.length_append, elementForm_length, bitsOf_length, List.length_singleton]

theorem DcEvseStatusType.form_length_le (status : DcEvseStatusType) : status.form.length ≤ 47 := by
  have hdelay := uint16Form_length_le status.notificationMaxDelay
  simp only [form, List.length_append, elementForm_length, bitsOf_length]
  cases status.evseIsolationStatus <;>
    simp only [List.length_append, elementForm_length, simpleForm_length, bitsOf_length] <;> omega

theorem NotificationType.Fits.form_length_le {notification : NotificationType}
    (h : notification.Fits) : notification.form.length ≤ 546 := by
  obtain ⟨-, hmsg⟩ := h
  simp only [form, List.length_append, elementForm_length, bitsOf_length]
  cases hfault : notification.faultMsg with
  | none =>
    simp only [bitsOf_length]
    omega
  | some faultMsg =>
    have hlength := stringForm_length_le faultMsg
    have hsize := (hmsg faultMsg hfault).1
    rw [faultMsgCharacterSize] at hsize
    simp only [List.length_append, simpleForm_length, bitsOf_length]
    omega

theorem MessageHeaderType.Fits.form_length_le {σ : Type} {header : MessageHeaderType σ}
    (h : header.Fits) : header.form.length ≤ 641 := by
  obtain ⟨hsize, hnotification, -⟩ := h
  have hlength := binaryForm_length_le header.sessionId
  rw [sessionIdTypeBytesSize] at hsize
  simp only [form, List.length_append, elementForm_length]
  cases hfault : header.notification with
  | none =>
    simp only [bitsOf_length]
    omega
  | some notification =>
    have hform := (hnotification notification hfault).form_length_le
    simp only [List.length_append, bitsOf_length]
    omega

theorem SessionSetupResType.Fits.form_length_le {res : SessionSetupResType} (h : res.Fits) :
    res.form.length ≤ 417 := by
  obtain ⟨-, hsize, -⟩ := h
  have hlength := stringForm_length_le res.evseId
  rw [evseIdCharacterSize] at hsize
  simp only [form, List.length_append, elementForm_length, bitsOf_length]
  cases res.evseTimeStamp with
  | none =>
    simp only [bitsOf_length]
    omega
  | some evseTimeStamp =>
    have hstamp := integer64Form_length_le evseTimeStamp
    simp only [List.length_append, simpleForm_length, bitsOf_length]
    omega

/-- The longest element is that of a SessionSetupRes. -/
theorem BodyType.Fits.elementBits_length_le {β : Type} {body : BodyType β} (h : body.Fits) :
    body.elementBits.length ≤ 417 := by
  cases body with
  | cableCheckReq dcEvStatus | weldingDetectionReq dcEvStatus =>
    simp only [elementBits, typedForm, List.length_append, bitsOf_length,
      dcEvStatus.form_length]
    omega
  | cableCheckRes res =>
    have hstatus := res.dcEvseStatus.form_length_le
    simp only [elementBits, CableCheckResType.form, typedForm, List.length_append, bitsOf_length,
      elementForm_length]
    omega
  | preChargeReq req =>
    have hvoltage := req.evTargetVoltage.form_length_le
    have hcurrent := req.evTargetCurrent.form_length_le
    simp only [elementBits, PreChargeReqType.form, typedForm, List.length_append, bitsOf_length,
      req.dcEvStatus.form_length]
    omega
  | preChargeRes res | weldingDetectionRes res =>
    have hstatus := res.dcEvseStatus.form_length_le
    have hvoltage := res.evsePresentVoltage.form_length_le
    simp only [elementBits, PresentVoltageResType.form, typedForm, List.length_append,
      bitsOf_length, elementForm_length]
    omega
  | sessionSetupReq evccId =>
    have hlength := binaryForm_length_le evccId
    change evccId.length ≤ 6 at h
    simp only [elementBits, List.length_append, elementForm_length, bitsOf_length]
    omega
  | sessionSetupRes res => exact SessionSetupResType.Fits.form_length_le h
  | sessionStopReq chargingSession | sessionStopRes responseCode =>
    simp only [elementBits, List.length_append, elementForm_length, bitsOf_length]
    omega
  | other body => exact h.elim

/-- A message that fits takes at most 136 bytes. -/
theorem V2gMessage.Fits.form_length_le {σ β : Type} (grammar : Grammar σ β)
    {msg : V2gMessage σ β} (h : msg.Fits) : (msg.form grammar).length ≤ 8 * 136 := by
  have hheader := h.1.form_length_le
  have hbody := h.2.elementBits_length_le
  simp only [form, BodyType.form, typedForm, List.length_append, bitsOf_length]
  omega

/-! ## Buffers -/

section Parameter

variable {σ β : Type} (grammar : Grammar σ β)

/-- A message that fits is encoded exactly when its bits fit into one byte more than the buffer
has. -/
theorem exiEncode_message {msg : V2gMessage σ β} (h : msg.Fits) (memory : ℕ → UInt8)
    (outLen : ℕ) :
    exiEncode (encodeExiDocument grammar msg) memory outLen =
      if (msg.form grammar).length ≤ 8 * (outLen + 1) then .ok (packBits (msg.form grammar))
      else .error .eio := by
  rw [exiEncode_of_writes ((document_transmits grammar).writes trivial h)]
  split_ifs with hfull hroom hroom
  · omega
  · rfl
  · rfl
  · omega

/-- The bytes of a message that fits are decoded, whatever follows them. -/
theorem exiDecode_message {msg : V2gMessage σ β} (h : msg.Fits) (rest : List UInt8)
    (stale : UInt8) :
    exiDecode (decodeExiDocument grammar) (packBits (msg.form grammar) ++ rest) stale = .ok msg :=
  exiDecode_packBits ((document_transmits grammar).reads trivial h) rest stale

/-- Whatever the rest of the grammar is, every message whose grammar is given and whose members
fit, on every buffer and whatever memory held before: it is encoded exactly when its bits fit into
one byte more than the buffer has, and its bytes, whatever follows them, are decoded to it. -/
theorem iso2_roundTrip {msg : V2gMessage σ β} (h : msg.Fits) :
    (∀ memory outLen, exiEncode (encodeExiDocument grammar msg) memory outLen =
      if (msg.form grammar).length ≤ 8 * (outLen + 1) then .ok (packBits (msg.form grammar))
      else .error .eio) ∧
    ∀ rest stale,
      exiDecode (decodeExiDocument grammar) (packBits (msg.form grammar) ++ rest) stale =
        .ok msg :=
  ⟨exiEncode_message grammar h, exiDecode_message grammar h⟩

end Parameter

/-- A grammar with no other bodies and no signatures. -/
def emptyGrammar : Grammar Empty Empty where
  encodeSignatureType := nofun
  decodeSignatureType := .fail .unknownEventCode
  eventCode := nofun
  encodeBodyElement := nofun
  decodeBodyElement _ := .fail .unknownEventCode

/-- A PreChargeReq for 400 V and 1.6 A, with a notification in its header. -/
def samplePreChargeMessage : V2gMessage Empty Empty where
  header :=
    { sessionId := [1, 2, 3, 4, 5, 6, 7, 8]
      notification := some { faultCode := 1, faultMsg := some "heated".toList }
      signature := none }
  body := .preChargeReq
    { dcEvStatus := { evReady := true, evErrorCode := 0, evRessSoc := 60 }
      evTargetVoltage := { multiplier := 0, unit := 4, value := 400 }
      evTargetCurrent := { multiplier := -1, unit := 3, value := 16 } }

theorem samplePreChargeMessage_fits : samplePreChargeMessage.Fits := by
  refine ⟨⟨by decide, fun notification hmem => ?_, rfl⟩, ?_⟩
  · obtain rfl := Option.some.inj hmem
    refine ⟨by decide, fun faultMsg hfault => ?_⟩
    obtain rfl := Option.some.inj hfault
    exact ⟨by decide, by decide⟩
  · exact ⟨⟨by decide, by decide⟩, ⟨by decide, by decide⟩, by decide, by decide⟩

/-- The message as it is sent, with a byte behind it. -/
theorem iso2_roundTrip_sample :
    exiDecode (decodeExiDocument emptyGrammar)
        (packBits (samplePreChargeMessage.form emptyGrammar) ++ [0x55]) 0 =
      .ok samplePreChargeMessage :=
  (iso2_roundTrip emptyGrammar samplePreChargeMessage_fits).2 [0x55] 0

section Parameter

variable {σ β : Type} (grammar : Grammar σ β)

/-- Whatever the rest of the grammar is, the members of a message that the decoder accepts fit, when
its grammar is given, and the message comes back unchanged when it is encoded again, for which the
buffers of the stack are large enough. -/
theorem iso2_accepted {bytes : List UInt8} {stale : UInt8} {msg : V2gMessage σ β}
    (h : exiDecode (decodeExiDocument grammar) bytes stale = .ok msg) (hgiven : msg.Given) :
    msg.Fits ∧ ∀ memory outLen, 135 ≤ outLen →
      ∃ bytes', exiEncode (encodeExiDocument grammar msg) memory outLen = .ok bytes' ∧
        ∀ rest stale', exiDecode (decodeExiDocument grammar) (bytes' ++ rest) stale' = .ok msg := by
  obtain ⟨bits, s, -, -, hrun⟩ := reads_of_exiDecode h
  have hfits := ((document_transmits grammar).accepts hrun).2 hgiven
  refine ⟨hfits, fun memory outLen hroom =>
    ⟨packBits (msg.form grammar), ?_, exiDecode_message grammar hfits⟩⟩
  have hlength := hfits.form_length_le grammar
  rw [exiEncode_message grammar hfits, if_pos (by omega)]

end Parameter

/-- The message, out of the bytes that carry it. -/
theorem iso2_accepted_sample :
    ∃ bytes, exiEncode (encodeExiDocument emptyGrammar samplePreChargeMessage) (fun _ => 0) 135 =
        .ok bytes ∧
      ∀ rest stale, exiDecode (decodeExiDocument emptyGrammar) (bytes ++ rest) stale =
        .ok samplePreChargeMessage := by
  have h := exiDecode_message emptyGrammar samplePreChargeMessage_fits [] 0
  exact (iso2_accepted emptyGrammar h ⟨rfl, trivial⟩).2 (fun _ => 0) 135 le_rfl

end Iso2MsgDef

end Jpv2g
