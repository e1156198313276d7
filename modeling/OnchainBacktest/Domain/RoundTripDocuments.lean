import OnchainBacktest.Domain.RoundTripCodec

/-!
# What the codec of round-trip records keeps

Encoding is not injective: the display prefix of a digest is left out.  `RoundTripRecord.bare` is
the record without the prefixes, and what decoding the document of a constructed record gives is
that, or a refusal when a leg is kept under the other side (`fromDocument_document`,
`sidesFit_of_fromDocument`).  The other way round there is nothing to lose: what is accepted is the
document of the record it is decoded to.
-/

set_option autoImplicit false

namespace OnchainBacktest

open Checked

/-! ## Reading values back -/

section

variable {field name message : String} {expected : List String}

@[simp] theorem string_text (s : String) : string (.text s) field = .ok s := by
  rw [string, Document.readText_text]

@[simp] theorem integer_integer (i : Int) : integer (.integer i) field = .ok i := by
  rw [integer, Document.readInteger_integer]

@[simp] theorem integer_count (n : Nat) : integer (.count n) field = .ok n := by
  rw [integer, Document.count, Document.readInteger_integer]

@[simp] theorem optionalInteger_optionalInteger (i : Option Int) :
    optionalInteger (.optionalInteger i) field = .ok i :=
  Document.readOptionalInteger_optionalInteger i

@[simp] theorem optionalInteger_optionalCount (n : Option Nat) :
    optionalInteger (.optionalCount n) field = .ok (n.map Int.ofNat) := by
  cases n <;> rfl

@[simp] theorem count_count (n : Nat) : count (.count n) field name = .ok n :=
  Document.readCount_count n

@[simp] theorem optionalCount_optionalCount (n : Option Nat) :
    optionalCount (.optionalCount n) field name = .ok n :=
  Document.readOptionalCount_optionalCount n

@[simp] theorem componentCount_count (n : Nat) :
    componentCount (.count n) field name = .ok n :=
  Document.readCount_count n

/-- An object with the expected keys is read. -/
theorem objectOf_object {document : List (String × Document)}
    (h : document.map Prod.fst = expected) :
    objectOf (.object document) field expected message = .ok document := by
  rw [objectOf, Document.readObject_object, ok_bind, refuseIf_of_not (not_not.mpr h), ok_bind]

end

/-- The constructor gives back a position from its own coordinates. -/
theorem ChainPosition.ofIntegers_self (p : ChainPosition) :
    ofIntegers p.networkId p.positionSchemaId p.blockOrdinal p.transactionIndex
      (p.eventIndex.map Int.ofNat) = .ok p := by
  have hevent : ¬ ∃ e ∈ p.eventIndex.map Int.ofNat, e < 0 := by
    rintro ⟨e, he, hlt⟩
    obtain ⟨n, _, rfl⟩ := Option.mem_map.mp he
    exact absurd hlt (not_lt.mpr (Int.natCast_nonneg n))
  have hmap : (p.eventIndex.map Int.ofNat).map Int.toNat = p.eventIndex := by
    cases p.eventIndex <;> rfl
  rw [ofIntegers, refuseIf_of_not (not_not.mpr p.schema_supported), ok_bind,
    refuseIf_of_not (not_lt.mpr (Int.natCast_nonneg _)), ok_bind, Int.toNat_natCast]
  have hplain := p.withoutEvent.make_self
  rw [withoutEvent_networkId, withoutEvent_blockOrdinal, withoutEvent_transactionIndex,
    withoutEvent_eventIndex] at hplain
  rw [show p.positionSchemaId = p.withoutEvent.positionSchemaId from rfl, hplain, ok_bind,
    refuseIf_of_not hevent, ok_bind, hmap]
  exact p.make_self

theorem positionFromDocument_document (p : ChainPosition) :
    positionFromDocument p.networkId p.positionSchemaId (.object (positionDocument p)) = .ok p := by
  have hkeys : (positionDocument p).map Prod.fst
      = ["block_ordinal", "boundary_ordinal", "event_index", "transaction_index"] := rfl
  have hblock : Document.entry (positionDocument p) "block_ordinal" = .count p.blockOrdinal := rfl
  have htransaction : Document.entry (positionDocument p) "transaction_index"
      = .integer p.transactionIndex := rfl
  have hevent : Document.entry (positionDocument p) "event_index"
      = .optionalCount p.eventIndex := rfl
  have hboundary : Document.entry (positionDocument p) "boundary_ordinal"
      = .count p.boundaryOrdinal := rfl
  rw [positionFromDocument, objectOf_object hkeys, ok_bind, hblock, integer_count, ok_bind,
    htransaction, integer_integer, ok_bind, hevent, optionalInteger_optionalCount, ok_bind,
    p.ofIntegers_self, ok_bind, hboundary, integer_count, ok_bind,
    refuseIf_of_not (not_not.mpr rfl), ok_bind]

theorem liquidityFromDocument_document {e : QuoteLiquidityEvidenceRecord}
    (hasset : checkIdentifier e.assetId.value = .ok ()) (hinit : e.postInit = .ok ()) :
    liquidityFromDocument (.object e.document) = .ok e := by
  have hkeys : e.document.map Prod.fst
      = ["asset_id", "observed_available_output_atomic", "policy_id", "required_output_atomic",
        "synthetic_shortfall_atomic"] := rfl
  have hpolicy : Document.entry e.document "policy_id" = .text e.policyId := rfl
  have hassetId : Document.entry e.document "asset_id" = .text e.assetId.value := rfl
  have hrequired : Document.entry e.document "required_output_atomic"
      = .count e.requiredOutputAtomic := rfl
  have hobserved : Document.entry e.document "observed_available_output_atomic"
      = .count e.observedAvailableOutputAtomic := rfl
  have hshortfall : Document.entry e.document "synthetic_shortfall_atomic"
      = .count e.syntheticShortfallAtomic := rfl
  have hmake : AssetId.make e.assetId.value = .ok e.assetId := by rw [AssetId.make, hasset, ok_bind]
  have hchecked : e.checked = .ok e := by
    rw [QuoteLiquidityEvidenceRecord.checked, hinit, ok_bind]
  rw [liquidityFromDocument, objectOf_object hkeys, ok_bind, hpolicy, string_text, ok_bind,
    hassetId, string_text, ok_bind, hmake, ok_bind, hrequired, count_count, ok_bind, hobserved,
    count_count, ok_bind, hshortfall, count_count, ok_bind, hchecked, ok_bind,
    refuseIf_of_not (not_not.mpr rfl), ok_bind]

namespace AccountComponentRecord

/-- The record, without the display prefix of its digest. -/
def bare (r : AccountComponentRecord) : AccountComponentRecord :=
  { r with attributionId := r.attributionId.bare }

theorem postInit_bare (r : AccountComponentRecord) : r.bare.postInit = r.postInit := rfl

theorem document_bare (r : AccountComponentRecord) : r.bare.document = r.document := rfl

end AccountComponentRecord

/-- A component is read back without the display prefix. -/
theorem accountComponentFromDocument_document {r : AccountComponentRecord}
    (hasset : checkIdentifier r.assetId.value = .ok ()) (hinit : r.postInit = .ok ()) :
    accountComponentFromDocument (.object r.document) = .ok r.bare := by
  have hkeys : r.document.map Prod.fst
      = ["asset_id", "attribution_id", "attribution_kind", "lifecycle", "locked_delta_atomic",
        "maximum_reserved_atomic", "paid_atomic", "refunded_atomic", "release_policy",
        "released_atomic", "requirement_schema_id", "scope"] := rfl
  have hschema : Document.entry r.document "requirement_schema_id"
      = .text r.requirementSchemaId := rfl
  have hassetId : Document.entry r.document "asset_id" = .text r.assetId.value := rfl
  have hscope : Document.entry r.document "scope" = .text r.scope.value := rfl
  have hpolicy : Document.entry r.document "release_policy" = .text r.releasePolicy.value := rfl
  have hmaximum : Document.entry r.document "maximum_reserved_atomic"
      = .count r.maximumReservedAtomic := rfl
  have hpaid : Document.entry r.document "paid_atomic" = .count r.paidAtomic := rfl
  have hreleased : Document.entry r.document "released_atomic" = .count r.releasedAtomic := rfl
  have hrefunded : Document.entry r.document "refunded_atomic" = .count r.refundedAtomic := rfl
  have hlocked : Document.entry r.document "locked_delta_atomic"
      = .integer r.lockedDeltaAtomic := rfl
  have hlifecycle : Document.entry r.document "lifecycle" = .text r.lifecycle.value := rfl
  have hkind : Document.entry r.document "attribution_kind"
      = .text r.attributionKind.value := rfl
  have hid : Document.entry r.document "attribution_id"
      = .text r.attributionId.spelling := rfl
  have hmake : AssetId.make r.assetId.value = .ok r.assetId := by rw [AssetId.make, hasset, ok_bind]
  have hchecked : r.bare.checked = .ok r.bare :=
    AccountComponentRecord.checked_eq_ok.mpr ⟨r.postInit_bare.trans hinit, rfl⟩
  rw [accountComponentFromDocument, objectOf_object hkeys, ok_bind, hschema, string_text, ok_bind,
    hassetId, string_text, ok_bind, hmake, ok_bind, hscope, string_text, ok_bind,
    AccountRequirementScope.ofValue_value, ok_bind, hpolicy, string_text, ok_bind,
    AccountReleasePolicy.ofValue_value, ok_bind, hmaximum, componentCount_count, ok_bind, hpaid,
    componentCount_count, ok_bind, hreleased, componentCount_count, ok_bind, hrefunded,
    componentCount_count, ok_bind, hlocked, integer_integer, ok_bind, hlifecycle, string_text,
    ok_bind, AccountComponentLifecycle.ofValue_value, ok_bind, hkind, string_text, ok_bind,
    LedgerCorrelationKind.ofValue_value, ok_bind, hid, string_text, ok_bind,
    ContentDigest.make_spelling, ok_bind]
  change (r.bare.checked >>= _) = _
  rw [hchecked, ok_bind, refuseIf_of_not (not_not.mpr (congrArg _ r.document_bare)), ok_bind]

namespace RoundTripLegRecord

variable {leg : RoundTripLegRecord}

/-- The two positions of a leg are on one chain. -/
theorem landing_chain (hinit : leg.postInit = .ok ()) {landing : ChainPosition}
    (h : leg.landingPosition = some landing) :
    landing.networkId = leg.decisionPosition.networkId ∧
      landing.positionSchemaId = leg.decisionPosition.positionSchemaId := by
  obtain ⟨hlanding, _⟩ := check_bind_eq_ok.mp hinit
  rw [checkLanding, h] at hlanding
  obtain ⟨hchain, _⟩ := check_bind_eq_ok.mp hlanding
  rw [refuseIf_eq_ok, not_or, not_not, not_not] at hchain
  exact hchain

theorem keys_document (leg : RoundTripLegRecord) : leg.document.map Prod.fst
    = ["amount_in_atomic", "creator_fee_atomic", "decision_position", "failure_code",
      "landing_out_atomic", "landing_position", "minimum_out_atomic", "network_base_fee_atomic",
      "network_priority_fee_atomic", "protocol_fee_atomic", "reference_out_atomic", "side",
      "signed_slippage_atomic"] := rfl

theorem side_document (leg : RoundTripLegRecord) :
    Document.entry leg.document "side" = .text leg.side.value := rfl

end RoundTripLegRecord

section

variable {networkId : NetworkId} {positionSchemaId : PositionSchemaId} {side : RoundTripLegSide}
  {leg : RoundTripLegRecord}

/-- A leg kept under the other side is refused. -/
theorem legFromDocument_of_ne (h : leg.side ≠ side) :
    legFromDocument networkId positionSchemaId side (.object leg.document)
      = .error (.value "round-trip leg appears under the wrong side") := by
  rw [legFromDocument, objectOf_object leg.keys_document, ok_bind, leg.side_document, string_text,
    ok_bind, RoundTripLegSide.ofValue_value, ok_bind, refuseIf_of h, error_bind]

/-- A leg kept under its own side is read back. -/
theorem legFromDocument_document (hside : leg.side = side)
    (hnetwork : leg.decisionPosition.networkId = networkId)
    (hschema : leg.decisionPosition.positionSchemaId = positionSchemaId)
    (hinit : leg.postInit = .ok ()) :
    legFromDocument networkId positionSchemaId side (.object leg.document) = .ok leg := by
  have hdecision : Document.entry leg.document "decision_position"
      = .object (positionDocument leg.decisionPosition) := rfl
  have hlanding : Document.entry leg.document "landing_position"
      = .optional (fun p => .object (positionDocument p)) leg.landingPosition := rfl
  have hamount : Document.entry leg.document "amount_in_atomic"
      = .optionalCount leg.amountInAtomic := rfl
  have hreference : Document.entry leg.document "reference_out_atomic"
      = .count leg.referenceOutAtomic := rfl
  have hout : Document.entry leg.document "landing_out_atomic"
      = .optionalCount leg.landingOutAtomic := rfl
  have hminimum : Document.entry leg.document "minimum_out_atomic"
      = .count leg.minimumOutAtomic := rfl
  have hslippage : Document.entry leg.document "signed_slippage_atomic"
      = .optionalInteger leg.signedSlippageAtomic := rfl
  have hprotocol : Document.entry leg.document "protocol_fee_atomic"
      = .count leg.protocolFeeAtomic := rfl
  have hcreator : Document.entry leg.document "creator_fee_atomic"
      = .count leg.creatorFeeAtomic := rfl
  have hbase : Document.entry leg.document "network_base_fee_atomic"
      = .count leg.networkBaseFeeAtomic := rfl
  have hpriority : Document.entry leg.document "network_priority_fee_atomic"
      = .count leg.networkPriorityFeeAtomic := rfl
  have hfailure : Document.entry leg.document "failure_code"
      = .optional .text leg.failureCode := rfl
  have hreadDecision : positionFromDocument networkId positionSchemaId
      (.object (positionDocument leg.decisionPosition)) = .ok leg.decisionPosition := by
    rw [← hnetwork, ← hschema]
    exact positionFromDocument_document _
  have hreadLanding : Document.readOptional (positionFromDocument networkId positionSchemaId)
      (.optional (fun p => .object (positionDocument p)) leg.landingPosition)
        = .ok leg.landingPosition := by
    refine Document.readOptional_optional fun landing h => ?_
    obtain ⟨h1, h2⟩ := leg.landing_chain hinit h
    rw [← hnetwork, ← hschema, ← h1, ← h2]
    exact positionFromDocument_document landing
  have hreadFailure : Document.readOptional (fun value => string value "failure code")
      (.optional .text leg.failureCode) = .ok leg.failureCode := by
    cases leg.failureCode <;> rfl
  have hchecked : leg.checked = .ok leg := by rw [RoundTripLegRecord.checked, hinit, ok_bind]
  rw [legFromDocument, objectOf_object leg.keys_document, ok_bind, leg.side_document, string_text,
    ok_bind, RoundTripLegSide.ofValue_value, ok_bind, refuseIf_of_not (not_not.mpr hside), ok_bind,
    hdecision, hreadDecision, ok_bind, hlanding, hreadLanding, ok_bind, hamount,
    optionalCount_optionalCount, ok_bind, hreference, count_count, ok_bind, hout,
    optionalCount_optionalCount, ok_bind, hminimum, count_count, ok_bind, hslippage,
    optionalInteger_optionalInteger, ok_bind, hprotocol, count_count, ok_bind, hcreator,
    count_count, ok_bind, hbase, count_count, ok_bind, hpriority, count_count, ok_bind, hfailure,
    hreadFailure, ok_bind]
  exact hchecked

end

/-! ## Records -/

namespace RoundTripRecord

/-- The record, without the display prefixes of its digests. -/
def bare (r : RoundTripRecord) : RoundTripRecord :=
  { r with
    roundtripId := r.roundtripId.bare
    targetEventId := r.targetEventId.bare
    accountComponents := r.accountComponents.map AccountComponentRecord.bare }

/-- Every constructor a record was built with accepted: of its identifiers, of the records in it,
and its own. -/
structure Constructed (r : RoundTripRecord) : Prop where
  network : checkNetwork r.networkId.value = .ok ()
  positionSchema : checkPositionSchema r.positionSchemaId.value = .ok ()
  developer : AccountId.make r.developerId.value = .ok r.developerId
  creationUser : AccountId.make r.creationUserId.value = .ok r.creationUserId
  asset : checkIdentifier r.assetId.value = .ok ()
  quoteAsset : checkIdentifier r.quoteAssetId.value = .ok ()
  venue : checkIdentifier r.venueId.value = .ok ()
  legs : ∀ leg ∈ r.legs, leg.postInit = .ok ()
  components : ∀ item ∈ r.accountComponents,
    checkIdentifier item.assetId.value = .ok () ∧ item.postInit = .ok ()
  liquidity : ∀ item ∈ r.liquidityValues,
    checkIdentifier item.assetId.value = .ok () ∧ item.postInit = .ok ()
  record : r.postInit = .ok ()

/-- Every leg is kept under its own side. -/
def SidesFit (r : RoundTripRecord) : Prop :=
  (∀ leg ∈ r.buy, leg.side = .buy) ∧ ∀ leg ∈ r.sell, leg.side = .sell

/-- No digest of the record has the display prefix. -/
def DigestsBare (r : RoundTripRecord) : Prop :=
  r.roundtripId.prefixed = false ∧ r.targetEventId.prefixed = false ∧
    ∀ item ∈ r.accountComponents, item.attributionId.prefixed = false

variable {r : RoundTripRecord}

theorem document_bare (r : RoundTripRecord) : r.bare.document = r.document := by
  have hfields : r.bare.fields = r.fields := by
    rw [fields, fields, bare]
    simp only [List.map_map]
    rfl
  rw [document, document, hfields]
  rfl

theorem filter_bare (p : AccountComponentRecord → Bool) (hp : ∀ item, p item.bare = p item)
    (items : List AccountComponentRecord) :
    (items.map AccountComponentRecord.bare).filter p
      = (items.filter p).map AccountComponentRecord.bare := by
  rw [List.filter_map]
  exact congrArg _ (List.filter_congr fun item _ => hp item)

theorem checkComponents_bare (r : RoundTripRecord) :
    r.bare.checkComponents = r.checkComponents := by
  have hmint : r.bare.mintComponents = r.mintComponents.map AccountComponentRecord.bare :=
    filter_bare _ (fun _ => rfl) _
  have hwallet : r.bare.walletComponents = r.walletComponents.map AccountComponentRecord.bare :=
    filter_bare _ (fun _ => rfl) _
  have hall : r.bare.accountComponents = r.accountComponents.map AccountComponentRecord.bare := rfl
  have hlifecycle : ∀ item : AccountComponentRecord, item.bare.lifecycle = item.lifecycle :=
    fun _ => rfl
  simp only [checkComponents, hmint, hwallet, hall, List.length_map, ne_eq, List.map_eq_nil_iff,
    List.mem_map, exists_exists_and_eq_and, hlifecycle]
  rfl

/-- The constructor does not look at the display prefix of a digest. -/
theorem postInit_bare (h : r.postInit = .ok ()) : r.bare.postInit = .ok () := by
  have hsorted : r.bare.accountComponents.Pairwise (fun a b => accountComponentLe a b = true)
      ↔ r.accountComponents.Pairwise fun a b => accountComponentLe a b = true := List.pairwise_map
  have hkeys : r.bare.accountComponents.map accountComponentKey
      = r.accountComponents.map accountComponentKey := List.map_map
  simp only [postInit, check_bind_eq_ok, refuseIf_eq_ok, hsorted, hkeys, r.checkComponents_bare]
    at h ⊢
  exact h

/-- A record has no display prefix exactly when taking them off leaves it alone. -/
theorem bare_eq_self : r.bare = r ↔ r.DigestsBare := by
  have hdigest : ∀ d : ContentDigest, d.bare = d ↔ d.prefixed = false := by
    intro d
    cases d
    simp [ContentDigest.bare, eq_comm]
  have hcomponent : ∀ item : AccountComponentRecord, item.bare = item ↔
      item.attributionId.prefixed = false := by
    intro item
    rw [← hdigest, AccountComponentRecord.bare]
    cases item
    simp
  have hcomponents : r.accountComponents.map AccountComponentRecord.bare = r.accountComponents ↔
      ∀ item ∈ r.accountComponents, item.attributionId.prefixed = false := by
    have hmap := List.map_eq_map_iff (f := AccountComponentRecord.bare) (g := id)
      (l := r.accountComponents)
    rw [List.map_id] at hmap
    simp only [hmap, hcomponent, id]
  rw [DigestsBare, ← hcomponents, ← hdigest, ← hdigest, bare]
  cases r
  simp

/-- The two positions of a record's legs are on the record's chain. -/
theorem leg_chain (h : r.postInit = .ok ()) : ∀ leg ∈ r.legs,
    leg.decisionPosition.networkId = r.networkId ∧
      leg.decisionPosition.positionSchemaId = r.positionSchemaId := by
  simp only [postInit, check_bind_eq_ok, refuseIf_eq_ok] at h
  obtain ⟨htarget, _, _, _, _, _, _, hlegs, _⟩ := h
  rw [not_or, not_not, not_not] at htarget
  intro leg hleg
  by_contra hne
  refine hlegs ⟨leg, hleg, ?_⟩
  rw [htarget.1, htarget.2]
  tauto

theorem target_chain (h : r.postInit = .ok ()) : r.targetPosition.networkId = r.networkId ∧
    r.targetPosition.positionSchemaId = r.positionSchemaId := by
  obtain ⟨htarget, _⟩ := check_bind_eq_ok.mp h
  rw [refuseIf_eq_ok, not_or, not_not, not_not] at htarget
  exact htarget

end RoundTripRecord

theorem accountComponentsFromDocument_document {items : List AccountComponentRecord}
    (h : ∀ item ∈ items, checkIdentifier item.assetId.value = .ok () ∧ item.postInit = .ok ()) :
    accountComponentsFromDocument (.array (items.map fun item => .object item.document))
      = .ok (items.map AccountComponentRecord.bare) := by
  rw [accountComponentsFromDocument, Document.readArray_array, ok_bind]
  induction items with
  | nil => rfl
  | cons item rest ih =>
    obtain ⟨hasset, hinit⟩ := h item List.mem_cons_self
    rw [List.map_cons, List.mapM_cons, accountComponentFromDocument_document hasset hinit, ok_bind,
      ih fun item hitem => h item (List.mem_cons_of_mem _ hitem), ok_bind, List.map_cons]
    rfl

/-- An optional leg of a record is read back when it is kept under its own side. -/
theorem readOptional_leg {r : RoundTripRecord} {leg : Option RoundTripLegRecord}
    {side : RoundTripLegSide} (hr : r.Constructed) (hleg : ∀ l ∈ leg, l ∈ r.legs)
    (hside : ∀ l ∈ leg, l.side = side) :
    Document.readOptional (legFromDocument r.networkId r.positionSchemaId side) (legDocument leg)
      = .ok leg := by
  refine Document.readOptional_optional fun l hl => ?_
  obtain ⟨hnetwork, hschema⟩ := r.leg_chain hr.record l (hleg l hl)
  exact legFromDocument_document (hside l hl) hnetwork hschema (hr.legs l (hleg l hl))

/-- An optional liquidity observation of a record is read back. -/
theorem readOptional_liquidity {r : RoundTripRecord}
    {value : Option QuoteLiquidityEvidenceRecord} (hr : r.Constructed)
    (hvalue : ∀ e ∈ value, e ∈ r.liquidityValues) :
    Document.readOptional liquidityFromDocument (liquidityDocument value) = .ok value := by
  refine Document.readOptional_optional fun e he => ?_
  obtain ⟨hasset, hinit⟩ := hr.liquidity e (hvalue e he)
  exact liquidityFromDocument_document hasset hinit

namespace RoundTripRecord

variable {r : RoundTripRecord}

theorem mem_legs_buy : ∀ leg ∈ r.buy, leg ∈ r.legs := fun _ h =>
  List.mem_append_left _ (Option.mem_toList.mpr h)

theorem mem_legs_sell : ∀ leg ∈ r.sell, leg ∈ r.legs := fun _ h =>
  List.mem_append_right _ (Option.mem_toList.mpr h)

theorem mem_liquidityValues_reference : ∀ e ∈ r.sellReferenceLiquidity, e ∈ r.liquidityValues :=
  fun _ h => List.mem_append_left _ (List.mem_append_left _ (Option.mem_toList.mpr h))

theorem mem_liquidityValues_landing : ∀ e ∈ r.sellLandingLiquidity, e ∈ r.liquidityValues :=
  fun _ h => List.mem_append_left _ (List.mem_append_right _ (Option.mem_toList.mpr h))

theorem mem_liquidityValues_mtm : ∀ e ∈ r.mtmLiquidity, e ∈ r.liquidityValues :=
  fun _ h => List.mem_append_right _ (Option.mem_toList.mpr h)

/-- The current schema is not the old one. -/
theorem schema_ne : ROUNDTRIP_RESULT_SCHEMA_V4 ≠ ROUNDTRIP_RESULT_SCHEMA_V3 := by decide

theorem document_eq_fields (h : r.sourceSchemaId = ROUNDTRIP_RESULT_SCHEMA_V4) :
    r.document = .object r.fields := by
  rw [document, if_neg (by rw [h]; exact schema_ne)]

/-- The validator is for the current schema. -/
theorem source_of_v4 (h : r.validateRoundtripRecordV4 = .ok ()) :
    r.sourceSchemaId = ROUNDTRIP_RESULT_SCHEMA_V4 := by
  obtain ⟨h, _⟩ := check_bind_eq_ok.mp h
  exact not_not.mp (refuseIf_eq_ok.mp h)

theorem keys_fields (r : RoundTripRecord) : r.fields.map Prod.fst = V4_EXPECTED := rfl

end RoundTripRecord

section

variable {α β : Type} {read : Except Fault α} {legacy : α}

@[simp] theorem sinceV4_v4 : sinceV4 ROUNDTRIP_RESULT_SCHEMA_V4 legacy read = read :=
  if_neg RoundTripRecord.schema_ne

end

/-- What an encoded record describes: the record without its display prefixes, once its two legs
are read. -/
theorem recordOf_fields {r : RoundTripRecord} (hr : r.Constructed)
    (hsource : r.sourceSchemaId = ROUNDTRIP_RESULT_SCHEMA_V4) :
    recordOf ROUNDTRIP_RESULT_SCHEMA_V4 r.fields = (do
      let buy ← Document.readOptional (legFromDocument r.networkId r.positionSchemaId .buy)
        (legDocument r.buy)
      let sell ← Document.readOptional (legFromDocument r.networkId r.positionSchemaId .sell)
        (legDocument r.sell)
      RoundTripRecord.checked { r.bare with buy, sell }) := by
  have hnetworkId : Document.entry r.fields "network_id" = .text r.networkId.value := rfl
  have hschemaId : Document.entry r.fields "position_schema_id"
      = .text r.positionSchemaId.value := rfl
  have hroundtripId : Document.entry r.fields "roundtrip_id" = .text r.roundtripId.spelling := rfl
  have htargetId : Document.entry r.fields "target_event_id"
      = .text r.targetEventId.spelling := rfl
  have htarget : Document.entry r.fields "target_position"
      = .object (positionDocument r.targetPosition) := rfl
  have htime : Document.entry r.fields "target_time_ns" = .count r.targetTimeNs := rfl
  have hdeveloper : Document.entry r.fields "developer_id" = .text r.developerId.value := rfl
  have hcreation : Document.entry r.fields "creation_user_id"
      = .text r.creationUserId.value := rfl
  have hassetId : Document.entry r.fields "asset_id" = .text r.assetId.value := rfl
  have hquoteId : Document.entry r.fields "quote_asset_id" = .text r.quoteAssetId.value := rfl
  have hvenueId : Document.entry r.fields "venue_id" = .text r.venueId.value := rfl
  have hconsumed : Document.entry r.fields "cooldown_consumed"
      = .boolean r.cooldownConsumed := rfl
  have huntil : Document.entry r.fields "cooldown_until_ns"
      = .optionalCount r.cooldownUntilNs := rfl
  have hstatus : Document.entry r.fields "status" = .text r.status.value := rfl
  have hbuy : Document.entry r.fields "buy" = legDocument r.buy := rfl
  have hsell : Document.entry r.fields "sell" = legDocument r.sell := rfl
  have hacquired : Document.entry r.fields "acquired_token_amount_atomic"
      = .count r.acquiredTokenAmountAtomic := rfl
  have hcashback : Document.entry r.fields "cashback_receivable_atomic"
      = .count r.cashbackReceivableAtomic := rfl
  have hrealized : Document.entry r.fields "realized_cash_pnl_atomic"
      = .optionalInteger r.realizedCashPnlAtomic := rfl
  have hmtm : Document.entry r.fields "mtm_status" = .text r.mtmStatus.value := rfl
  have hvalue : Document.entry r.fields "mtm_liquidation_value_atomic"
      = .optionalInteger r.mtmLiquidationValueAtomic := rfl
  have hpnl : Document.entry r.fields "mtm_cash_pnl_atomic"
      = .optionalInteger r.mtmCashPnlAtomic := rfl
  have heconomic : Document.entry r.fields "economic_pnl_atomic"
      = .optionalInteger r.economicPnlAtomic := rfl
  have hprofile : Document.entry r.fields "account_profile_id" = .text r.accountProfileId := rfl
  have hcomponents : Document.entry r.fields "account_components"
      = .array (r.accountComponents.map fun item => .object item.document) := rfl
  have hmode : Document.entry r.fields "execution_mode" = .text r.executionMode.value := rfl
  have hreference : Document.entry r.fields "sell_reference_liquidity"
      = liquidityDocument r.sellReferenceLiquidity := rfl
  have hlanding : Document.entry r.fields "sell_landing_liquidity"
      = liquidityDocument r.sellLandingLiquidity := rfl
  have hmtmLiquidity : Document.entry r.fields "mtm_liquidity"
      = liquidityDocument r.mtmLiquidity := rfl
  have hvenueFunded : Document.entry r.fields "settled_venue_funded_atomic"
      = .count r.settledVenueFundedAtomic := rfl
  have hsyntheticFunded : Document.entry r.fields "settled_synthetic_funded_atomic"
      = .count r.settledSyntheticFundedAtomic := rfl
  have hmakeNetwork : NetworkId.make r.networkId.value = .ok r.networkId := by
    rw [NetworkId.make, hr.network, ok_bind]
  have hmakeSchema : PositionSchemaId.make r.positionSchemaId.value = .ok r.positionSchemaId := by
    rw [PositionSchemaId.make, hr.positionSchema, ok_bind]
  have hmakeAsset : AssetId.make r.assetId.value = .ok r.assetId := by
    rw [AssetId.make, hr.asset, ok_bind]
  have hmakeQuote : AssetId.make r.quoteAssetId.value = .ok r.quoteAssetId := by
    rw [AssetId.make, hr.quoteAsset, ok_bind]
  have hmakeVenue : VenueId.make r.venueId.value = .ok r.venueId := by
    rw [VenueId.make, hr.venue, ok_bind]
  have hposition : positionFromDocument r.networkId r.positionSchemaId
      (.object (positionDocument r.targetPosition)) = .ok r.targetPosition := by
    obtain ⟨h1, h2⟩ := r.target_chain hr.record
    rw [← h1, ← h2]
    exact positionFromDocument_document _
  have hreadReference := readOptional_liquidity hr r.mem_liquidityValues_reference
  have hreadLanding := readOptional_liquidity hr r.mem_liquidityValues_landing
  have hreadMtm := readOptional_liquidity hr r.mem_liquidityValues_mtm
  rw [recordOf, hnetworkId,
    string_text, ok_bind, hmakeNetwork, ok_bind, hschemaId, string_text, ok_bind, hmakeSchema,
    ok_bind, hroundtripId, string_text, ok_bind, ContentDigest.make_spelling, ok_bind, htargetId,
    string_text, ok_bind, ContentDigest.make_spelling, ok_bind, htarget, hposition, ok_bind, htime,
    count_count, ok_bind, hdeveloper, string_text, ok_bind, hr.developer, ok_bind, hcreation,
    string_text, ok_bind, hr.creationUser, ok_bind, hassetId, string_text, ok_bind, hmakeAsset,
    ok_bind, hquoteId, string_text, ok_bind, hmakeQuote, ok_bind, hvenueId, string_text, ok_bind,
    hmakeVenue, ok_bind, hconsumed, Document.readBoolean_boolean, ok_bind, huntil,
    optionalCount_optionalCount, ok_bind, hstatus, string_text, ok_bind,
    RoundTripStatus.ofValue_value, ok_bind, hbuy, hsell]
  refine bind_congr fun buy => bind_congr fun sell => ?_
  rw [hacquired, count_count,
    ok_bind, hcashback, count_count, ok_bind, hrealized, optionalInteger_optionalInteger, ok_bind,
    hmtm, string_text, ok_bind, MtmStatus.ofValue_value, ok_bind, hvalue,
    optionalInteger_optionalInteger, ok_bind, hpnl, optionalInteger_optionalInteger, ok_bind,
    heconomic, optionalInteger_optionalInteger, ok_bind, hprofile, string_text, ok_bind,
    hcomponents, accountComponentsFromDocument_document hr.components, ok_bind, sinceV4_v4, hmode,
    string_text, ok_bind, ExecutionMode.ofValue_value, ok_bind, sinceV4_v4, hreference,
    hreadReference, ok_bind, sinceV4_v4, hlanding, hreadLanding, ok_bind, sinceV4_v4,
    hmtmLiquidity, hreadMtm, ok_bind, sinceV4_v4, hvenueFunded, count_count, ok_bind, sinceV4_v4,
    hsyntheticFunded, count_count, ok_bind, ← hsource]
  rfl

/-- Decoding the document of a record of the current schema decodes its entries. -/
theorem fromDocument_eq {r : RoundTripRecord}
    (hsource : r.sourceSchemaId = ROUNDTRIP_RESULT_SCHEMA_V4) :
    roundtripRecordFromDocument ROUNDTRIP_RESULT_SCHEMA_V4 r.document = (do
      let result ← recordOf ROUNDTRIP_RESULT_SCHEMA_V4 r.fields
      result.validateRoundtripRecordV4
      refuseIf (result.document ≠ r.document)
        (.value "round-trip record does not round-trip exactly")
      .ok result) := by
  rw [r.document_eq_fields hsource, roundtripRecordFromDocument, Document.readObject_object,
    ok_bind, refuseIf_of_not (fun h => h.2 rfl), ok_bind,
    refuseIf_of_not (not_not.mpr (by rw [if_pos rfl]; exact r.keys_fields)), ok_bind]
  refine bind_congr fun result => ?_
  rw [if_pos rfl]

/-- **Decoding the document of a record gives the record, without its display prefixes**, when its
legs are kept under their own sides. -/
theorem fromDocument_document {r : RoundTripRecord} (hr : r.Constructed) (hsides : r.SidesFit)
    (hv4 : r.validateRoundtripRecordV4 = .ok ()) :
    roundtripRecordFromDocument ROUNDTRIP_RESULT_SCHEMA_V4 r.document = .ok r.bare := by
  have hsource := r.source_of_v4 hv4
  have hchecked : r.bare.checked = .ok r.bare := by
    rw [RoundTripRecord.checked, r.postInit_bare hr.record, ok_bind]
  rw [fromDocument_eq hsource, recordOf_fields hr hsource,
    readOptional_leg hr r.mem_legs_buy hsides.1, ok_bind,
    readOptional_leg hr r.mem_legs_sell hsides.2, ok_bind]
  change (r.bare.checked >>= _) = _
  rw [hchecked, ok_bind]
  change (r.validateRoundtripRecordV4 >>= _) = _
  rw [hv4, ok_bind, refuseIf_of_not (not_not.mpr r.document_bare), ok_bind]

/-- A leg of a record is read only when it is kept under its own side. -/
theorem side_of_readOptional {r : RoundTripRecord} {leg leg' : Option RoundTripLegRecord}
    {side : RoundTripLegSide}
    (h : Document.readOptional (legFromDocument r.networkId r.positionSchemaId side)
      (legDocument leg) = .ok leg') : ∀ l ∈ leg, l.side = side := by
  intro l hl
  by_contra hne
  rw [Option.mem_def.mp hl] at h
  change some <$> legFromDocument _ _ _ (.object l.document) = _ at h
  rw [legFromDocument_of_ne hne] at h
  cases h

/-- Decoding the document of a record fails when a leg is kept under the other side. -/
theorem sidesFit_of_fromDocument {r r' : RoundTripRecord} (hr : r.Constructed)
    (hv4 : r.validateRoundtripRecordV4 = .ok ())
    (h : roundtripRecordFromDocument ROUNDTRIP_RESULT_SCHEMA_V4 r.document = .ok r') :
    r.SidesFit := by
  have hsource := r.source_of_v4 hv4
  rw [fromDocument_eq hsource, recordOf_fields hr hsource] at h
  obtain ⟨result, h, _⟩ := bind_eq_ok.mp h
  obtain ⟨buy, hbuy, h⟩ := bind_eq_ok.mp h
  obtain ⟨sell, hsell, _⟩ := bind_eq_ok.mp h
  exact ⟨side_of_readOptional hbuy, side_of_readOptional hsell⟩

/-- A row that is accepted is the document of the record it was decoded to. -/
theorem document_of_fromDocument {schemaId : String} {value : Document} {r : RoundTripRecord}
    (h : roundtripRecordFromDocument schemaId value = .ok r) : r.document = value := by
  obtain ⟨document, _, h⟩ := bind_eq_ok.mp h
  obtain ⟨_, h⟩ := check_bind_eq_ok.mp h
  obtain ⟨_, h⟩ := check_bind_eq_ok.mp h
  obtain ⟨result, _, h⟩ := bind_eq_ok.mp h
  obtain ⟨_, h⟩ := check_bind_eq_ok.mp h
  obtain ⟨hsame, h⟩ := check_bind_eq_ok.mp h
  cases h
  exact not_not.mp (refuseIf_eq_ok.mp hsame)

/-- **The codec of round-trip records.**  A record that its constructors and the validator admit
is what its document decodes to exactly when its legs are kept under their own sides and its
digests have no display prefix; and a row that is accepted is the document of its record. -/
theorem roundtrip_codec (r : RoundTripRecord) :
    (r.Constructed → r.validateRoundtripRecordV4 = .ok () →
      (roundtripRecordFromDocument ROUNDTRIP_RESULT_SCHEMA_V4 r.document = .ok r ↔
        r.SidesFit ∧ r.DigestsBare)) ∧
    ∀ (schemaId : String) (value : Document),
      roundtripRecordFromDocument schemaId value = .ok r → r.document = value := by
  refine ⟨fun hr hv4 => ?_, fun schemaId value => document_of_fromDocument⟩
  constructor
  · intro h
    have hsides := sidesFit_of_fromDocument hr hv4 h
    rw [fromDocument_document hr hsides hv4, Except.ok.injEq] at h
    exact ⟨hsides, RoundTripRecord.bare_eq_self.mp h⟩
  · rintro ⟨hsides, hbare⟩
    rw [fromDocument_document hr hsides hv4, RoundTripRecord.bare_eq_self.mpr hbare]

/-! ## A leg under the wrong side -/

/-- A position of the mainnet. -/
def mainnetPosition (blockOrdinal : Nat) (h : blockOrdinal ≤ UINT32_MAX) : ChainPosition where
  networkId := ⟨"solana:5eykt4UsFv8P8NJdTREpY1vzqKqZKvdpKuc147dw2N9d"⟩
  positionSchemaId := BLOCK32_TRANSACTION32_POSITION_SCHEMA_ID
  blockOrdinal := blockOrdinal
  transactionIndex := 0
  eventIndex := none
  schema_supported := rfl
  block_le := h
  neg_one_le := ChainPosition.first_ge
  transaction_lt := ChainPosition.first_lt
  event_le := ChainPosition.eventless_le

/-- A rejected buy, whose leg says it is a sell. -/
def mislabelledRecord : RoundTripRecord where
  roundtripId := { hex := 1 }
  networkId := ⟨"solana:5eykt4UsFv8P8NJdTREpY1vzqKqZKvdpKuc147dw2N9d"⟩
  positionSchemaId := BLOCK32_TRANSACTION32_POSITION_SCHEMA_ID
  targetEventId := { hex := 2 }
  targetPosition := mainnetPosition 1 (by decide)
  targetTimeNs := 0
  developerId := .address "developer"
  creationUserId := .address "developer"
  assetId := ⟨"mint"⟩
  quoteAssetId := ⟨"SOL"⟩
  venueId := ⟨"curve"⟩
  cooldownConsumed := false
  cooldownUntilNs := none
  status := .buyReferenceRejected
  buy := some
    { side := .sell
      decisionPosition := mainnetPosition 1 (by decide)
      landingPosition := none
      amountInAtomic := none
      referenceOutAtomic := 0
      landingOutAtomic := none
      minimumOutAtomic := 0
      signedSlippageAtomic := none
      protocolFeeAtomic := 0
      creatorFeeAtomic := 0
      networkBaseFeeAtomic := 0
      networkPriorityFeeAtomic := 0
      failureCode := none }
  sell := none
  acquiredTokenAmountAtomic := 0
  cashbackReceivableAtomic := 0
  realizedCashPnlAtomic := none
  mtmStatus := .notApplicable
  mtmLiquidationValueAtomic := none
  mtmCashPnlAtomic := none
  economicPnlAtomic := none
  accountProfileId := "profile"
  accountComponents := []
  executionMode := .exogenousReplay
  sellReferenceLiquidity := none
  sellLandingLiquidity := none
  mtmLiquidity := none
  settledVenueFundedAtomic := 0
  settledSyntheticFundedAtomic := 0
  sourceSchemaId := ROUNDTRIP_RESULT_SCHEMA_V4

theorem mislabelledRecord_constructed : mislabelledRecord.Constructed where
  network := by decide +kernel
  positionSchema := by decide
  developer := by rw [show mislabelledRecord.developerId.value = "developer" from rfl]; rfl
  creationUser := by rw [show mislabelledRecord.creationUserId.value = "developer" from rfl]; rfl
  asset := by decide
  quoteAsset := by decide
  venue := by decide
  legs := by
    intro leg hleg
    rw [List.mem_singleton.mp hleg]
    decide
  components := fun _ h => nomatch h
  liquidity := fun _ h => nomatch h
  record := by decide

/-- The constructors and the validator admit the record, and its decoder refuses its document. -/
theorem mislabelledRecord_refused : mislabelledRecord.Constructed ∧
    mislabelledRecord.validateRoundtripRecordV4 = .ok () ∧
    roundtripRecordFromDocument ROUNDTRIP_RESULT_SCHEMA_V4 mislabelledRecord.document
      = .error (.value "round-trip leg appears under the wrong side") := by
  have hv4 : mislabelledRecord.validateRoundtripRecordV4 = .ok () := by decide
  have hsource := mislabelledRecord.source_of_v4 hv4
  refine ⟨mislabelledRecord_constructed, hv4, ?_⟩
  rw [fromDocument_eq hsource, recordOf_fields mislabelledRecord_constructed hsource]
  rfl

end OnchainBacktest
