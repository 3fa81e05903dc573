import Jpv2g.Secc.HandlerFacts
import Jpv2g.Secc.Stream
import Jpv2g.ToMathlib.Argmin

/-!
# What the Negotiation Selects

The selection loop returns the first supported offer of the highest priority, the handler answers
with that offer, and the stream switches to its protocol.

## Main definitions

* `classifyOffer`, `offerSupported`: what an offer stands for and whether the station serves it.
* `Selects`: the selection a list of offers calls for.

## Main results

* `selectAppProtocol_eq`: the loop computes the first minimum of the supported offers.
* `selectAppProtocol_selects`, `selectAppProtocol_perm`: the rule, and that the order of the offers
  does not matter without ties.
* `appProtocol_selection`: handler and stream follow the same selection.
-/

namespace Jpv2g

/-- The protocol the namespace of an offer stands for. -/
def classifyOffer (build : Build) (registered : Bool) (ap : AppProtocol) : Protocol :=
  if (nsContains ap.protocolNamespace "iso:15118:2".toList ||
      nsContains ap.protocolNamespace "iso:15118-2".toList) &&
      nsContains ap.protocolNamespace "2013".toList then .iso15118_2
  else if nsContains ap.protocolNamespace "din:70121".toList then .din70121
  else if build.iso20 && registered && ap.protocolNamespace == iso20DcNamespace then
    .iso15118_20_dc
  else .unknown

/-- The station serves the offer. -/
def offerSupported (build : Build) (registered : Bool) (ap : AppProtocol) : Bool :=
  classifyOffer build registered ap ≠ .unknown &&
    protocolEnabled build (classifyOffer build registered ap) &&
    ap.versionNumberMajor ==
      (if classifyOffer build registered ap = .iso15118_20_dc then 1 else 2)

/-- The response code for a supported offer. -/
def successCode (ap : AppProtocol) : AppResponseCode :=
  if ap.versionNumberMinor = 0 then .okSuccessfulNegotiation
  else .okSuccessfulNegotiationWithMinorDeviation

/-- The selection a list of offers calls for: the first supported offer of minimal Priority, or
none. -/
inductive Selects (build : Build) (registered : Bool) (offers : List AppProtocol) :
    AppSelection → Prop
  | failed (h : ∀ ap ∈ offers, offerSupported build registered ap = false) :
    Selects build registered offers
      { protocol := .unknown, offer := none, responseCode := .failedNoNegotiation }
  | selected {before after : List AppProtocol} {best : AppProtocol}
    (hsplit : offers = before ++ best :: after)
    (hsupported : offerSupported build registered best = true)
    (hbefore : ∀ ap ∈ before, offerSupported build registered ap = true →
      best.priority < ap.priority)
    (hafter : ∀ ap ∈ after, offerSupported build registered ap = true →
      best.priority ≤ ap.priority) :
    Selects build registered offers
      { protocol := classifyOffer build registered best, offer := some best,
        responseCode := successCode best }

/-! ## One offer -/

/-- The selection of a best offer so far. -/
def selectionOf (build : Build) (registered : Bool) : Option AppProtocol → AppSelection
  | none => .none
  | some best =>
    { protocol := classifyOffer build registered best, offer := some best,
      responseCode := successCode best }

section Offer

variable {build : Build} {registered : Bool} {ap : AppProtocol}

/-- The namespace of ISO 15118-20 is neither of ISO 15118-2 nor of DIN 70121. -/
theorem matches_of_iso20 (h : appProtocolOfferMatches build registered ap .iso15118_20_dc = true) :
    build.iso20 = true ∧ appProtocolOfferMatches build registered ap .iso15118_2 = false ∧
      appProtocolOfferMatches build registered ap .din70121 = false := by
  rw [appProtocolOfferMatches, Bool.and_eq_true, Bool.and_eq_true, beq_iff_eq] at h
  obtain ⟨⟨hiso20, -⟩, hns⟩ := h
  rw [appProtocolOfferMatches, appProtocolOfferMatches, hns]
  exact ⟨hiso20, by decide, by decide⟩

/-- The candidate is the protocol the namespace stands for, unless the mask excludes it. -/
theorem offerCandidate_eq :
    offerCandidate build registered ap =
      if protocolEnabled build (classifyOffer build registered ap) then
        classifyOffer build registered ap
      else .unknown := by
  have hclassify : classifyOffer build registered ap =
      if appProtocolOfferMatches build registered ap .iso15118_2 then .iso15118_2
      else if appProtocolOfferMatches build registered ap .din70121 then .din70121
      else if appProtocolOfferMatches build registered ap .iso15118_20_dc then .iso15118_20_dc
      else .unknown := rfl
  rw [hclassify, offerCandidate]
  -- the code tries ISO 15118-20 last, whatever the first two tests gave
  by_cases hdc : appProtocolOfferMatches build registered ap .iso15118_20_dc = true
  · obtain ⟨hiso20, hiso2, hdin⟩ := matches_of_iso20 hdc
    simp [hdc, hiso20, hiso2, hdin, protocolEnabled]
  · rw [Bool.not_eq_true] at hdc
    simp only [hdc, Bool.false_eq_true, and_false, if_false]
    split_ifs <;> simp_all [protocolEnabled]

/-- The loop takes an offer for supported when the station serves it. -/
theorem offerSupported_iff :
    offerSupported build registered ap = true ↔
      offerCandidate build registered ap ≠ .unknown ∧
        ap.versionNumberMajor = supportedMajor (offerCandidate build registered ap) := by
  rw [offerCandidate_eq, offerSupported, Bool.and_eq_true, Bool.and_eq_true, beq_iff_eq,
    decide_eq_true_eq]
  by_cases henabled : protocolEnabled build (classifyOffer build registered ap) = true
  · rw [if_pos henabled, and_iff_left henabled]
    cases classifyOffer build registered ap <;> simp [supportedMajor]
  · simp [henabled]

/-- The candidate of a supported offer is the protocol its namespace stands for. -/
theorem offerCandidate_of_supported (h : offerSupported build registered ap = true) :
    offerCandidate build registered ap = classifyOffer build registered ap := by
  rw [offerSupported, Bool.and_eq_true, Bool.and_eq_true] at h
  rw [offerCandidate_eq, if_pos h.1.2]

/-- Looking at one more offer keeps the best one so far or replaces it by a better supported
one. -/
theorem selectOffer_selectionOf (best : Option AppProtocol) :
    selectOffer build registered (selectionOf build registered best) ap =
      selectionOf build registered
        (if offerSupported build registered ap = true then
          List.argAux (fun a b => a.priority.toNat < b.priority.toNat) best ap
        else best) := by
  have hoffer : (selectionOf build registered best).offer = best := by cases best <;> rfl
  rw [selectOffer, hoffer]
  by_cases hsupported : offerSupported build registered ap = true
  · obtain ⟨hknown, hmajor⟩ := offerSupported_iff.mp hsupported
    have hserved : ¬(offerCandidate build registered ap = .unknown ∨
        ap.versionNumberMajor ≠ supportedMajor (offerCandidate build registered ap)) := by
      rw [not_or, not_not]
      exact ⟨hknown, hmajor⟩
    -- a supported offer replaces the best one so far only when its Priority is lower
    rw [if_pos hsupported, if_neg hserved, offerCandidate_of_supported hsupported]
    cases best with
    | none => rfl
    | some best =>
      have hle : (some best).any (fun best => decide (best.priority ≤ ap.priority)) = true ↔
          ¬ap.priority.toNat < best.priority.toNat := by
        rw [Option.any_some, decide_eq_true_eq, UInt8.le_iff_toNat_le, not_lt]
      show _ = selectionOf build registered
        (if ap.priority.toNat < best.priority.toNat then some ap else some best)
      by_cases hbetter : ap.priority.toNat < best.priority.toNat
      · rw [if_neg (fun h => hle.mp h hbetter), if_pos hbetter]
        rfl
      · rw [if_pos (hle.mpr hbetter), if_neg hbetter]
  -- an offer that is not supported is passed over
  · have hskipped : offerCandidate build registered ap = .unknown ∨
        ap.versionNumberMajor ≠ supportedMajor (offerCandidate build registered ap) := by
      by_contra hserved
      rw [not_or, not_not] at hserved
      exact hsupported (offerSupported_iff.mpr hserved)
    rw [if_neg hsupported, if_pos hskipped, ite_self]

end Offer

/-! ## All offers -/

/-- The loop computes the first minimum of the supported offers. -/
theorem selectAppProtocol_eq (build : Build) (registered : Bool)
    (offers : Option (List AppProtocol)) :
    selectAppProtocol build registered offers =
      selectionOf build registered
        (((appProtocolOffers offers).filter (offerSupported build registered)).argmin
          fun ap => ap.priority.toNat) := by
  have hfold : ∀ (aps : List AppProtocol) (best : Option AppProtocol),
      aps.foldl (selectOffer build registered) (selectionOf build registered best) =
        selectionOf build registered ((aps.filter (offerSupported build registered)).foldl
          (List.argAux fun a b => a.priority.toNat < b.priority.toNat) best) := by
    intro aps
    -- along the offers, for whichever was the best one before them
    induction aps with
    | nil => exact fun _ => rfl
    | cons ap aps ih =>
      intro best
      rw [List.foldl_cons, selectOffer_selectionOf, ih]
      by_cases hsupported : offerSupported build registered ap = true
      · rw [if_pos hsupported, List.filter_cons_of_pos hsupported, List.foldl_cons]
      · rw [if_neg hsupported, List.filter_cons_of_neg hsupported]
  exact hfold (appProtocolOffers offers) none

/-- The negotiation selects what the offers call for. -/
theorem selectAppProtocol_selects (build : Build) (registered : Bool)
    (offers : Option (List AppProtocol)) :
    Selects build registered (appProtocolOffers offers)
      (selectAppProtocol build registered offers) := by
  rw [selectAppProtocol_eq]
  cases hbest : ((appProtocolOffers offers).filter (offerSupported build registered)).argmin
      fun ap => ap.priority.toNat with
  | none =>
    apply Selects.failed
    intro ap hap
    rw [List.argmin_eq_none, List.filter_eq_nil_iff] at hbest
    exact Bool.eq_false_iff.mpr (hbest ap hap)
  | some best =>
    obtain ⟨hsupported, before, after, hsplit, hbefore, hafter⟩ :=
      List.exists_split_of_argmin_filter hbest
    refine .selected hsplit hsupported ?_ ?_
    · exact fun ap hap h => UInt8.lt_iff_toNat_lt.mpr (hbefore ap hap h)
    · exact fun ap hap h => UInt8.le_iff_toNat_le.mpr (hafter ap hap h)

/-- Among the offers with the SchemaID of the one selected, the selection is the same. -/
theorem selectAppProtocol_filter {build : Build} {registered : Bool}
    {offers : Option (List AppProtocol)} {best : AppProtocol}
    (hbest : (selectAppProtocol build registered offers).offer = some best) :
    selectAppProtocol build registered
        (some ((appProtocolOffers offers).filter (·.schemaId = best.schemaId))) =
      selectAppProtocol build registered offers := by
  have hshort : ((appProtocolOffers offers).filter (·.schemaId = best.schemaId)).length ≤ 20 :=
    (List.length_filter_le _ _).trans (List.length_take_le _ _)
  have hall : appProtocolOffers
      (some ((appProtocolOffers offers).filter (·.schemaId = best.schemaId))) =
        (appProtocolOffers offers).filter (·.schemaId = best.schemaId) :=
    List.take_of_length_le hshort
  -- the best of all supported offers is among those with its SchemaID
  have hmin : ((appProtocolOffers offers).filter (offerSupported build registered)).argmin
      (fun ap => ap.priority.toNat) = some best := by
    rw [selectAppProtocol_eq] at hbest
    cases hmin : ((appProtocolOffers offers).filter (offerSupported build registered)).argmin
      fun ap => ap.priority.toNat with
    | none => rw [hmin] at hbest; cases hbest
    | some ap =>
      rw [hmin] at hbest
      exact hbest
  rw [selectAppProtocol_eq, selectAppProtocol_eq, hall, hmin, List.filter_comm,
    List.argmin_filter_of_pos hmin (by simp)]

/-- When a protocol is selected among some of the offers, one is selected among all of them. -/
theorem selectAppProtocol_of_filter {build : Build} {registered : Bool}
    {offers : Option (List AppProtocol)} {p : AppProtocol → Bool}
    (h : (selectAppProtocol build registered
      (some ((appProtocolOffers offers).filter p))).protocol ≠ .unknown) :
    (selectAppProtocol build registered offers).protocol ≠ .unknown := by
  have hall := selectAppProtocol_selects build registered offers
  have hsome := selectAppProtocol_selects build registered
    (some ((appProtocolOffers offers).filter p))
  generalize selectAppProtocol build registered offers = selection at hall ⊢
  generalize selectAppProtocol build registered (some ((appProtocolOffers offers).filter p)) = some'
    at hsome h
  -- were nothing selected among all, nothing would be supported among those that are left
  cases hall with
  | selected _ hsupported =>
    obtain ⟨hknown, -⟩ := offerSupported_iff.mp hsupported
    rwa [offerCandidate_of_supported hsupported] at hknown
  | failed hnone =>
    cases hsome with
    | failed => exact absurd rfl h
    | @selected before after best hsplit hsupported =>
      have hmem : best ∈ (appProtocolOffers offers).filter p := by
        refine List.mem_of_mem_take (i := 20) ?_
        show best ∈ appProtocolOffers (some ((appProtocolOffers offers).filter p))
        simp [hsplit]
      cases (hnone best (List.mem_filter.mp hmem).1).symm.trans hsupported

/-- Without two supported offers of the same Priority their order does not matter. -/
theorem selectAppProtocol_perm {build : Build} {registered : Bool}
    {offers other : Option (List AppProtocol)}
    (hperm : (appProtocolOffers offers).Perm (appProtocolOffers other))
    (hdistinct : (((appProtocolOffers offers).filter (offerSupported build registered)).map
      (·.priority)).Nodup) :
    selectAppProtocol build registered other = selectAppProtocol build registered offers := by
  have hnodup : (((appProtocolOffers offers).filter (offerSupported build registered)).map
      fun ap => ap.priority.toNat).Nodup := by
    rw [← Function.comp_def UInt8.toNat, ← List.map_map]
    exact hdistinct.map fun _ _ => UInt8.toNat_inj.mp
  rw [selectAppProtocol_eq, selectAppProtocol_eq, (hperm.filter _).argmin_eq hnodup]

/-- The response to a supportedAppProtocolReq carries the offer selected. -/
theorem defaultHandle_suppAppProtocol_res {codec : Codec} {env : HandlerEnv} {secc : Secc}
    {statics : HandlerStatics} {request : Request} {build : Build} {registered : Bool}
    (htype : request.type = .suppAppProtocolReq) :
    (defaultHandle codec env secc statics request build registered).res =
      some (.sapp
        (((selectAppProtocol build registered request.appOffers).offer.map (·.schemaId)).getD 0)
        (selectAppProtocol build registered request.appOffers).responseCode) := by
  obtain ⟨sid, -, hhandle⟩ :=
    @defaultHandle_suppAppProtocol codec env secc statics request build registered htype
  rw [hhandle]
  rfl

/-- **The negotiation follows one rule everywhere.** The selection is the first supported offer of
minimal Priority among the first twenty, and does not depend on their order when no two supported
offers share a Priority; the response carries its SchemaID and its code; and the stream that
decodes the offers turns to the protocol the handler selects. -/
theorem appProtocol_selection (build : Build) (registered : Bool)
    (offers : Option (List AppProtocol)) :
    let selection := selectAppProtocol build registered offers
    Selects build registered ((offers.getD []).take 20) selection ∧
      (∀ codec env secc statics request, request.type = .suppAppProtocolReq →
        request.appOffers = offers →
        (defaultHandle codec env secc statics request build registered).res =
          some (.sapp ((selection.offer.map (·.schemaId)).getD 0) selection.responseCode)) ∧
      (∀ codec station stream payload, station.s20.isSome = registered →
        codec.decodeAppHand payload = offers → offers.isSome = true →
        ∃ request, decodeAppHand build codec station stream payload = some request ∧
          request.type = .suppAppProtocolReq ∧ request.appOffers = offers ∧
          request.protocol =
            if selection.protocol = .unknown then stream.protocol else selection.protocol) ∧
      (∀ other, (appProtocolOffers offers).Perm (appProtocolOffers other) →
        (((appProtocolOffers offers).filter (offerSupported build registered)).map
          (·.priority)).Nodup →
        selectAppProtocol build registered other = selection) := by
  refine ⟨selectAppProtocol_selects build registered offers, ?_, ?_,
    fun other hperm hdistinct => selectAppProtocol_perm hperm hdistinct⟩
  · rintro codec env secc statics request htype rfl
    exact defaultHandle_suppAppProtocol_res htype
  -- the decoder of the stream runs the same selection as the handler
  · rintro codec station stream payload rfl rfl hdecoded
    obtain ⟨aps, haps⟩ := Option.isSome_iff_exists.mp hdecoded
    rw [haps]
    refine ⟨_, by rw [decodeAppHand, haps, Option.map_some], rfl, rfl, ?_⟩
    simp only [ne_eq, ite_not]

/-- An offer of DIN 70121 that the vehicle prefers less. -/
def sampleDinOffer : AppProtocol :=
  { protocolNamespace := "urn:din:70121:2012:MsgDef".toList
    versionNumberMajor := 2
    versionNumberMinor := 1
    schemaId := 2
    priority := 5 }

/-- ISO 15118-2 is selected before DIN 70121, whichever is offered first. -/
theorem appProtocol_selection_witness :
    (defaultHandle sampleCodec (sampleEnv true) (.init ⟨false, []⟩ true false) .init
        { type := .suppAppProtocolReq, protocol := .iso15118_2, header := none, dinHeader := none,
          body := some (.app [sampleDinOffer, sampleOffer]) } sampleBuild false).res =
        some (.sapp 1 .okSuccessfulNegotiation) ∧
      (decodeAppHand sampleBuild sampleCodec ⟨.init ⟨false, []⟩ true false, .init, none⟩ .init
        [0]).map (·.protocol) = some .iso15118_2 ∧
      selectAppProtocol sampleBuild false (some [sampleOffer, sampleDinOffer]) =
        selectAppProtocol sampleBuild false (some [sampleDinOffer, sampleOffer]) := by
  obtain ⟨-, hres, -, hperm⟩ :=
    appProtocol_selection sampleBuild false (some [sampleDinOffer, sampleOffer])
  obtain ⟨-, -, hstream, -⟩ := appProtocol_selection sampleBuild false (some [sampleOffer])
  obtain ⟨request, hdecode, -, -, hprotocol⟩ :=
    hstream sampleCodec ⟨.init ⟨false, []⟩ true false, .init, none⟩ .init [0] rfl rfl rfl
  refine ⟨?_, ?_, hperm _ (by decide) (by decide)⟩
  · exact hres _ _ _ _ _ rfl rfl
  · rw [hdecode, Option.map_some, hprotocol]
    decide

end Jpv2g
