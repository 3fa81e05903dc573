import Jpv2g.Messages

/-!
# SupportedAppProtocol Negotiation

The selection of one of the vehicle's protocol offers (`select_app_protocol` of `secc.c`).

## Main definitions

* `Build`: the compile-time and process-wide settings.
* `selectAppProtocol`: the selected protocol, the offer and the response code.
-/

namespace Jpv2g

/-- The settings that are fixed while streams are handled. -/
structure Build where
  /-- The library is built with `JPV2G_ENABLE_ISO20`. -/
  iso20 : Bool
  /-- The protocols this station negotiates (`s_protocol_mask`). -/
  protocolMask : UInt32
deriving DecidableEq, Repr

/-- The mask bit of DIN 70121 (`JPV2G_PROTOCOL_MASK_DIN`). -/
def protocolMaskDin : UInt32 := 0x01

/-- The mask bit of ISO 15118-2 (`JPV2G_PROTOCOL_MASK_ISO2`). -/
def protocolMaskIso2 : UInt32 := 0x02

/-- The mask admits the protocol; ISO 15118-20 has its own gate. -/
def protocolEnabled (build : Build) : Protocol → Bool
  | .din70121 => build.protocolMask &&& protocolMaskDin != 0
  | .iso15118_2 => build.protocolMask &&& protocolMaskIso2 != 0
  | .unknown | .iso15118_20_dc => true

/-- The characters occur consecutively in the namespace. -/
def nsContains (haystack needle : List Char) : Bool :=
  needle ≠ [] && haystack.tails.any (needle.isPrefixOf ·)

/-- The namespace of the ISO 15118-20 DC offer (`JPV2G_SECC20_NAMESPACE_DC`). -/
def iso20DcNamespace : List Char := "urn:iso:std:iso:15118:-20:DC".toList

/-- The offer is one of the given protocol. `registered` says that an ISO 15118-20 session
context is registered. -/
def appProtocolOfferMatches (build : Build) (registered : Bool) (ap : AppProtocol) :
    Protocol → Bool
  | .iso15118_2 =>
    (nsContains ap.protocolNamespace "iso:15118:2".toList ||
      nsContains ap.protocolNamespace "iso:15118-2".toList) &&
      nsContains ap.protocolNamespace "2013".toList
  | .din70121 => nsContains ap.protocolNamespace "din:70121".toList
  | .iso15118_20_dc => build.iso20 && registered && ap.protocolNamespace == iso20DcNamespace
  | .unknown => false

/-- The offers that are looked at: the array holds at most twenty. -/
def appProtocolOffers (offers : Option (List AppProtocol)) : List AppProtocol :=
  (offers.getD []).take 20

/-- The outcome of the negotiation (`secc_app_selection_t`). -/
structure AppSelection where
  protocol : Protocol
  offer : Option AppProtocol
  responseCode : AppResponseCode
deriving DecidableEq, Repr

/-- The protocol an offer stands for, or `unknown` when the station cannot serve it. -/
def offerCandidate (build : Build) (registered : Bool) (ap : AppProtocol) : Protocol :=
  let candidate : Protocol :=
    if appProtocolOfferMatches build registered ap .iso15118_2 then .iso15118_2
    else if appProtocolOfferMatches build registered ap .din70121 then .din70121
    else .unknown
  -- a masked-out protocol is treated as one the station does not implement
  if candidate ≠ .unknown ∧ ¬protocolEnabled build candidate then .unknown
  else if build.iso20 ∧ appProtocolOfferMatches build registered ap .iso15118_20_dc then
    .iso15118_20_dc
  else candidate

/-- The major version negotiated for a protocol. -/
def supportedMajor : Protocol → UInt32
  | .iso15118_20_dc => 1
  | .unknown | .iso15118_2 | .din70121 => 2

/-- Take the next offer into account: it replaces the selection when it is supported and of a
strictly higher priority. -/
def selectOffer (build : Build) (registered : Bool) (selection : AppSelection)
    (ap : AppProtocol) : AppSelection :=
  -- of two offers with the same priority the first one stays selected
  if selection.offer.any fun best => best.priority ≤ ap.priority then selection
  else if offerCandidate build registered ap = .unknown ∨
      ap.versionNumberMajor ≠ supportedMajor (offerCandidate build registered ap) then selection
  else
    { protocol := offerCandidate build registered ap
      offer := some ap
      responseCode :=
        -- a minor version the station does not know is only a deviation
        if ap.versionNumberMinor = 0 then .okSuccessfulNegotiation
        else .okSuccessfulNegotiationWithMinorDeviation }

/-- The selection before any offer has been looked at. -/
def AppSelection.none : AppSelection :=
  { protocol := .unknown, offer := Option.none, responseCode := .failedNoNegotiation }

/-- Select the vehicle's highest-priority offer the station supports
(`select_app_protocol`). -/
def selectAppProtocol (build : Build) (registered : Bool) (offers : Option (List AppProtocol)) :
    AppSelection :=
  (appProtocolOffers offers).foldl (selectOffer build registered) .none

/-- A selection carries a protocol, an offer and a success code together, or none of them. -/
def AppSelection.Coherent (selection : AppSelection) : Prop :=
  (selection.protocol = .unknown ↔ selection.responseCode = .failedNoNegotiation) ∧
    (selection.protocol = .unknown ↔ selection.offer = Option.none)

/-- Looking at one more offer keeps the selection or selects the offer's candidate. -/
theorem selectOffer_cases (build : Build) (registered : Bool) (selection : AppSelection)
    (ap : AppProtocol) :
    selectOffer build registered selection ap = selection ∨
      offerCandidate build registered ap ≠ .unknown ∧
        ∃ code, code ≠ .failedNoNegotiation ∧
          selectOffer build registered selection ap =
            { protocol := offerCandidate build registered ap, offer := some ap,
              responseCode := code } := by
  unfold selectOffer
  split_ifs with hbest hunsupported hminor
  · exact .inl rfl
  · exact .inl rfl
  all_goals
    rw [not_or] at hunsupported
    exact .inr ⟨hunsupported.1, _, by simp, rfl⟩

/-- The negotiation fails exactly when it selects no protocol. -/
theorem selectAppProtocol_coherent (build : Build) (registered : Bool)
    (offers : Option (List AppProtocol)) :
    (selectAppProtocol build registered offers).Coherent := by
  refine List.foldlRecOn _ _ (by simp [AppSelection.Coherent, AppSelection.none]) ?_
  intro selection h ap _
  rcases selectOffer_cases build registered selection ap with heq | ⟨hknown, code, hcode, heq⟩ <;>
    rw [heq]
  · exact h
  · simp [AppSelection.Coherent, hknown, hcode]

/-- Without an ISO 15118-20 build and a registered session context, no offer stands for
ISO 15118-20. -/
theorem offerCandidate_ne_iso20 {build : Build} {registered : Bool}
    (h : (build.iso20 && registered) = false) (ap : AppProtocol) :
    offerCandidate build registered ap ≠ .iso15118_20_dc := by
  have hmatch : appProtocolOfferMatches build registered ap .iso15118_20_dc = false := by
    simp [appProtocolOfferMatches, h]
  simp only [offerCandidate, hmatch]
  split_ifs <;> simp_all

/-- Without an ISO 15118-20 build and a registered session context, ISO 15118-20 is never
selected. -/
theorem selectAppProtocol_ne_iso20 {build : Build} {registered : Bool}
    (h : (build.iso20 && registered) = false) (offers : Option (List AppProtocol)) :
    (selectAppProtocol build registered offers).protocol ≠ .iso15118_20_dc := by
  unfold selectAppProtocol
  refine List.foldlRecOn
    (motive := fun selection : AppSelection => selection.protocol ≠ .iso15118_20_dc)
    _ _ (by simp [AppSelection.none]) ?_
  intro selection hsel ap _
  rcases selectOffer_cases build registered selection ap with heq | ⟨-, code, -, heq⟩ <;> rw [heq]
  · exact hsel
  · exact offerCandidate_ne_iso20 h ap

end Jpv2g
