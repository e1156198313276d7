import OnchainBacktest.Lib.Document
import OnchainBacktest.Domain.IdentifierTexts
import OnchainBacktest.Domain.RoundTrips

/-!
# The codec of round-trip records

A record is stored as a dictionary of integers, texts and truth values, and a stored row is
decoded strictly: the keys are exactly the expected ones, every value has its type, every
constructor accepts, a row of the current schema passes its validator, and the document of the
result is the document that was read.

Where the source reads a negative integer and the constructor refuses it, the decoders here refuse
it when it is read, with the constructor's message.
-/

set_option autoImplicit false

namespace OnchainBacktest

open Checked

/-! ## Spellings -/

def RoundTripStatus.value : RoundTripStatus → String
  | cooldownSkipped => "COOLDOWN_SKIPPED"
  | buyReferenceRejected => "BUY_REFERENCE_REJECTED"
  | buyPreSubmitInsufficientFunds => "BUY_PRE_SUBMIT_INSUFFICIENT_FUNDS"
  | buyLandedFailed => "BUY_LANDED_FAILED"
  | sellReferenceUnavailableOpen => "SELL_REFERENCE_UNAVAILABLE_OPEN"
  | sellPreSubmitInsufficientFundsOpen => "SELL_PRE_SUBMIT_INSUFFICIENT_FUNDS_OPEN"
  | sellLandedFailedOpen => "SELL_LANDED_FAILED_OPEN"
  | openAtHorizon => "OPEN_AT_HORIZON"
  | closed => "CLOSED"

def RoundTripLegSide.value : RoundTripLegSide → String
  | buy => "BUY"
  | sell => "SELL"

def MtmStatus.value : MtmStatus → String
  | notApplicable => "NOT_APPLICABLE"
  | executable => "EXECUTABLE"
  | stalePreMigration => "STALE_PRE_MIGRATION"
  | unavailable => "UNAVAILABLE"

def AccountComponentLifecycle.value : AccountComponentLifecycle → String
  | notCreated => "NOT_CREATED"
  | reservationReleased => "RESERVATION_RELEASED"
  | prewarmed => "PREWARMED"
  | existingRunLocked => "EXISTING_RUN_LOCKED"
  | createdLocked => "CREATED_LOCKED"
  | closedRefunded => "CLOSED_REFUNDED"

/-! ## Enumerations -/

def RoundTripStatus.ofValue (value : String) : Except Fault RoundTripStatus :=
  Document.readMember Fault.value
    [.cooldownSkipped, .buyReferenceRejected, .buyPreSubmitInsufficientFunds, .buyLandedFailed,
      .sellReferenceUnavailableOpen, .sellPreSubmitInsufficientFundsOpen, .sellLandedFailedOpen,
      .openAtHorizon, .closed]
    RoundTripStatus.value "RoundTripStatus" value

def RoundTripLegSide.ofValue (value : String) : Except Fault RoundTripLegSide :=
  Document.readMember Fault.value [.buy, .sell] RoundTripLegSide.value "RoundTripLegSide" value

def MtmStatus.ofValue (value : String) : Except Fault MtmStatus :=
  Document.readMember Fault.value [.notApplicable, .executable, .stalePreMigration, .unavailable]
    MtmStatus.value "MtmStatus" value

def ExecutionMode.ofValue (value : String) : Except Fault ExecutionMode :=
  Document.readMember Fault.value
    [.exogenousReplay, .exogenousVirtualSettlement, .shadowStateReplay, .conditionalProtocolReplay]
    ExecutionMode.value "ExecutionMode" value

def AccountRequirementScope.ofValue (value : String) : Except Fault AccountRequirementScope :=
  Document.readMember Fault.value [.mint, .wallet] AccountRequirementScope.value
    "AccountRequirementScope" value

def AccountReleasePolicy.ofValue (value : String) : Except Fault AccountReleasePolicy :=
  Document.readMember Fault.value [.closeOnSuccessfulSell, .runLocked] AccountReleasePolicy.value
    "AccountReleasePolicy" value

def AccountComponentLifecycle.ofValue (value : String) : Except Fault AccountComponentLifecycle :=
  Document.readMember Fault.value
    [.notCreated, .reservationReleased, .prewarmed, .existingRunLocked, .createdLocked,
      .closedRefunded]
    AccountComponentLifecycle.value "AccountComponentLifecycle" value

def LedgerCorrelationKind.ofValue (value : String) : Except Fault LedgerCorrelationKind :=
  Document.readMember Fault.value [.order, .roundtrip] LedgerCorrelationKind.value
    "LedgerCorrelationKind" value

@[simp] theorem RoundTripStatus.ofValue_value (s : RoundTripStatus) : ofValue s.value = .ok s := by
  cases s <;> rfl

@[simp] theorem RoundTripLegSide.ofValue_value (s : RoundTripLegSide) :
    ofValue s.value = .ok s := by
  cases s <;> rfl

@[simp] theorem MtmStatus.ofValue_value (s : MtmStatus) : ofValue s.value = .ok s := by
  cases s <;> rfl

@[simp] theorem ExecutionMode.ofValue_value (m : ExecutionMode) : ofValue m.value = .ok m := by
  cases m <;> rfl

@[simp] theorem AccountRequirementScope.ofValue_value (s : AccountRequirementScope) :
    ofValue s.value = .ok s := by
  cases s <;> rfl

@[simp] theorem AccountReleasePolicy.ofValue_value (p : AccountReleasePolicy) :
    ofValue p.value = .ok p := by
  cases p <;> rfl

@[simp] theorem AccountComponentLifecycle.ofValue_value (l : AccountComponentLifecycle) :
    ofValue l.value = .ok l := by
  cases l <;> rfl

@[simp] theorem LedgerCorrelationKind.ofValue_value (k : LedgerCorrelationKind) :
    ofValue k.value = .ok k := by
  cases k <;> rfl

/-! ## Encoding -/

/-- The entries of a position; its chain is the record's. -/
def positionDocument (p : ChainPosition) : List (String × Document) :=
  [("block_ordinal", .count p.blockOrdinal),
    ("boundary_ordinal", .count p.boundaryOrdinal),
    ("event_index", .optionalCount p.eventIndex),
    ("transaction_index", .integer p.transactionIndex)]

/-- The canonical integer-only storage projection. -/
def QuoteLiquidityEvidenceRecord.document (e : QuoteLiquidityEvidenceRecord) :
    List (String × Document) :=
  [("asset_id", .text e.assetId.value),
    ("observed_available_output_atomic", .count e.observedAvailableOutputAtomic),
    ("policy_id", .text e.policyId),
    ("required_output_atomic", .count e.requiredOutputAtomic),
    ("synthetic_shortfall_atomic", .count e.syntheticShortfallAtomic)]

def RoundTripLegRecord.document (leg : RoundTripLegRecord) : List (String × Document) :=
  [("amount_in_atomic", .optionalCount leg.amountInAtomic),
    ("creator_fee_atomic", .count leg.creatorFeeAtomic),
    ("decision_position", .object (positionDocument leg.decisionPosition)),
    ("failure_code", .optional .text leg.failureCode),
    ("landing_out_atomic", .optionalCount leg.landingOutAtomic),
    ("landing_position", .optional (fun p => .object (positionDocument p)) leg.landingPosition),
    ("minimum_out_atomic", .count leg.minimumOutAtomic),
    ("network_base_fee_atomic", .count leg.networkBaseFeeAtomic),
    ("network_priority_fee_atomic", .count leg.networkPriorityFeeAtomic),
    ("protocol_fee_atomic", .count leg.protocolFeeAtomic),
    ("reference_out_atomic", .count leg.referenceOutAtomic),
    ("side", .text leg.side.value),
    ("signed_slippage_atomic", .optionalInteger leg.signedSlippageAtomic)]

/-- The nested record of one account requirement. -/
def AccountComponentRecord.document (r : AccountComponentRecord) : List (String × Document) :=
  [("asset_id", .text r.assetId.value),
    ("attribution_id", .text r.attributionId.spelling),
    ("attribution_kind", .text r.attributionKind.value),
    ("lifecycle", .text r.lifecycle.value),
    ("locked_delta_atomic", .integer r.lockedDeltaAtomic),
    ("maximum_reserved_atomic", .count r.maximumReservedAtomic),
    ("paid_atomic", .count r.paidAtomic),
    ("refunded_atomic", .count r.refundedAtomic),
    ("release_policy", .text r.releasePolicy.value),
    ("released_atomic", .count r.releasedAtomic),
    ("requirement_schema_id", .text r.requirementSchemaId),
    ("scope", .text r.scope.value)]

/-- The entries a row of the old schema does not have. -/
def V4_FIELDS : List String :=
  ["execution_mode", "mtm_liquidity", "sell_landing_liquidity", "sell_reference_liquidity",
    "settled_synthetic_funded_atomic", "settled_venue_funded_atomic"]

def liquidityDocument (value : Option QuoteLiquidityEvidenceRecord) : Document :=
  .optional (fun e => .object e.document) value

def legDocument (value : Option RoundTripLegRecord) : Document :=
  .optional (fun leg => .object leg.document) value

/-- The entries of a row of the current schema. -/
def RoundTripRecord.fields (r : RoundTripRecord) : List (String × Document) :=
  [("account_components", .array (r.accountComponents.map fun item => .object item.document)),
    ("account_profile_id", .text r.accountProfileId),
    ("acquired_token_amount_atomic", .count r.acquiredTokenAmountAtomic),
    ("asset_id", .text r.assetId.value),
    ("buy", legDocument r.buy),
    ("cashback_receivable_atomic", .count r.cashbackReceivableAtomic),
    ("cooldown_consumed", .boolean r.cooldownConsumed),
    ("cooldown_until_ns", .optionalCount r.cooldownUntilNs),
    ("creation_user_id", .text r.creationUserId.value),
    ("developer_id", .text r.developerId.value),
    ("economic_pnl_atomic", .optionalInteger r.economicPnlAtomic),
    ("execution_mode", .text r.executionMode.value),
    ("mtm_cash_pnl_atomic", .optionalInteger r.mtmCashPnlAtomic),
    ("mtm_liquidation_value_atomic", .optionalInteger r.mtmLiquidationValueAtomic),
    ("mtm_liquidity", liquidityDocument r.mtmLiquidity),
    ("mtm_status", .text r.mtmStatus.value),
    ("network_id", .text r.networkId.value),
    ("position_schema_id", .text r.positionSchemaId.value),
    ("quote_asset_id", .text r.quoteAssetId.value),
    ("realized_cash_pnl_atomic", .optionalInteger r.realizedCashPnlAtomic),
    ("roundtrip_id", .text r.roundtripId.spelling),
    ("sell", legDocument r.sell),
    ("sell_landing_liquidity", liquidityDocument r.sellLandingLiquidity),
    ("sell_reference_liquidity", liquidityDocument r.sellReferenceLiquidity),
    ("settled_synthetic_funded_atomic", .count r.settledSyntheticFundedAtomic),
    ("settled_venue_funded_atomic", .count r.settledVenueFundedAtomic),
    ("status", .text r.status.value),
    ("target_event_id", .text r.targetEventId.spelling),
    ("target_position", .object (positionDocument r.targetPosition)),
    ("target_time_ns", .count r.targetTimeNs),
    ("venue_id", .text r.venueId.value)]

/-- The canonical storage projection of a record. -/
def RoundTripRecord.document (r : RoundTripRecord) : Document :=
  if r.sourceSchemaId = ROUNDTRIP_RESULT_SCHEMA_V3 then
    .object (r.fields.filter fun entry => !V4_FIELDS.contains entry.1)
  else .object r.fields

/-! ## Decoding -/

def string (value : Document) (field : String) : Except Fault String :=
  Document.readText Fault.value value field

def integer (value : Document) (field : String) : Except Fault Int :=
  Document.readInteger Fault.value value field

def optionalInteger (value : Document) (field : String) : Except Fault (Option Int) :=
  Document.readOptionalInteger Fault.value value field

/-- An integer whose constructor refuses a negative one under its own name. -/
def count (value : Document) (field name : String) : Except Fault Nat :=
  Document.readCount Fault.value value field (.value (name ++ " must be a non-negative integer"))

def optionalCount (value : Document) (field name : String) : Except Fault (Option Nat) :=
  Document.readOptionalCount Fault.value value field
    (.value (name ++ " must be a non-negative integer"))

/-- An amount of an account component. -/
def componentCount (value : Document) (field name : String) : Except Fault Nat :=
  Document.readCount Fault.value value field
    (.value (name ++ " must be an unsigned 64-bit integer >= 0"))

/-- The entries of an object that has exactly the expected keys. -/
def objectOf (value : Document) (field : String) (expected : List String) (message : String) :
    Except Fault (List (String × Document)) := do
  let document ← Document.readObject Fault.value value field
  refuseIf (document.map Prod.fst ≠ expected) (.value message)
  .ok document

/-- The constructor of a position, from any integers. -/
def ChainPosition.ofIntegers (networkId : NetworkId) (positionSchemaId : PositionSchemaId)
    (blockOrdinal transactionIndex : Int) (eventIndex : Option Int) :
    Except Fault ChainPosition := do
  refuseIf (positionSchemaId ≠ BLOCK32_TRANSACTION32_POSITION_SCHEMA_ID) .unsupportedPositionSchema
  refuseIf (blockOrdinal < 0) (.value "block_ordinal must be non-negative")
  let _ ← make networkId positionSchemaId blockOrdinal.toNat transactionIndex none
  refuseIf (∃ e ∈ eventIndex, e < 0) (.value "event_index must be non-negative")
  make networkId positionSchemaId blockOrdinal.toNat transactionIndex (eventIndex.map Int.toNat)

def positionFromDocument (networkId : NetworkId) (positionSchemaId : PositionSchemaId)
    (value : Document) : Except Fault ChainPosition := do
  let document ← objectOf value "chain position"
    ["block_ordinal", "boundary_ordinal", "event_index", "transaction_index"]
    "chain position schema is invalid"
  let blockOrdinal ← integer (.entry document "block_ordinal") "block ordinal"
  let transactionIndex ← integer (.entry document "transaction_index") "transaction index"
  let eventIndex ← optionalInteger (.entry document "event_index") "event index"
  let result ← ChainPosition.ofIntegers networkId positionSchemaId blockOrdinal transactionIndex
    eventIndex
  let boundary ← integer (.entry document "boundary_ordinal") "boundary ordinal"
  refuseIf ((result.boundaryOrdinal : Int) ≠ boundary)
    (.value "chain position boundary ordinal is inconsistent")
  .ok result

/-- Decode one strict liquidity evidence object. -/
def liquidityFromDocument (value : Document) : Except Fault QuoteLiquidityEvidenceRecord := do
  let document ← objectOf value "quote liquidity evidence"
    ["asset_id", "observed_available_output_atomic", "policy_id", "required_output_atomic",
      "synthetic_shortfall_atomic"]
    "quote liquidity evidence schema is invalid"
  let policyId ← string (.entry document "policy_id") "liquidity policy ID"
  let assetId ← AssetId.make (← string (.entry document "asset_id") "liquidity asset ID")
  let requiredOutputAtomic ← count (.entry document "required_output_atomic") "required output"
    "required_output_atomic"
  let observedAvailableOutputAtomic ← count (.entry document "observed_available_output_atomic")
    "observed available output" "observed_available_output_atomic"
  let syntheticShortfallAtomic ← count (.entry document "synthetic_shortfall_atomic")
    "synthetic shortfall" "synthetic_shortfall_atomic"
  let result ← QuoteLiquidityEvidenceRecord.checked
    { policyId, assetId, requiredOutputAtomic, observedAvailableOutputAtomic,
      syntheticShortfallAtomic }
  refuseIf (Document.object result.document ≠ .object document)
    (.value "quote liquidity evidence does not round-trip exactly")
  .ok result

/-- Strictly decode a nested account-component document. -/
def accountComponentFromDocument (value : Document) : Except Fault AccountComponentRecord := do
  let document ← objectOf value "account component"
    ["asset_id", "attribution_id", "attribution_kind", "lifecycle", "locked_delta_atomic",
      "maximum_reserved_atomic", "paid_atomic", "refunded_atomic", "release_policy",
      "released_atomic", "requirement_schema_id", "scope"]
    "account component schema is invalid"
  let requirementSchemaId ← string (.entry document "requirement_schema_id")
    "requirement schema ID"
  let assetId ← AssetId.make (← string (.entry document "asset_id") "account deposit asset ID")
  let scope ← AccountRequirementScope.ofValue
    (← string (.entry document "scope") "account requirement scope")
  let releasePolicy ← AccountReleasePolicy.ofValue
    (← string (.entry document "release_policy") "account release policy")
  let maximumReservedAtomic ← componentCount (.entry document "maximum_reserved_atomic")
    "maximum reserved" "maximum_reserved_atomic"
  let paidAtomic ← componentCount (.entry document "paid_atomic") "paid account deposit"
    "paid_atomic"
  let releasedAtomic ← componentCount (.entry document "released_atomic") "released reservation"
    "released_atomic"
  let refundedAtomic ← componentCount (.entry document "refunded_atomic")
    "refunded account deposit" "refunded_atomic"
  let lockedDeltaAtomic ← integer (.entry document "locked_delta_atomic") "locked account delta"
  let lifecycle ← AccountComponentLifecycle.ofValue
    (← string (.entry document "lifecycle") "account component lifecycle")
  let attributionKind ← LedgerCorrelationKind.ofValue
    (← string (.entry document "attribution_kind") "account attribution kind")
  let attributionId ← ContentDigest.make
    (← string (.entry document "attribution_id") "account attribution ID")
  let result ← AccountComponentRecord.checked
    { requirementSchemaId, assetId, scope, releasePolicy, maximumReservedAtomic, paidAtomic,
      releasedAtomic, refundedAtomic, lockedDeltaAtomic, lifecycle, attributionKind,
      attributionId }
  refuseIf (Document.object result.document ≠ value)
    (.value "account component does not round-trip exactly")
  .ok result

def accountComponentsFromDocument (value : Document) :
    Except Fault (List AccountComponentRecord) := do
  let items ← Document.readArray Fault.value value "account components"
  items.mapM accountComponentFromDocument

def legField : RoundTripLegSide → String
  | .buy => "buy leg"
  | .sell => "sell leg"

/-- Decode a leg that is kept under a side. -/
def legFromDocument (networkId : NetworkId) (positionSchemaId : PositionSchemaId)
    (expectedSide : RoundTripLegSide) (value : Document) : Except Fault RoundTripLegRecord := do
  let document ← objectOf value (legField expectedSide)
    ["amount_in_atomic", "creator_fee_atomic", "decision_position", "failure_code",
      "landing_out_atomic", "landing_position", "minimum_out_atomic", "network_base_fee_atomic",
      "network_priority_fee_atomic", "protocol_fee_atomic", "reference_out_atomic", "side",
      "signed_slippage_atomic"]
    "round-trip leg schema is invalid"
  let side ← RoundTripLegSide.ofValue (← string (.entry document "side") "round-trip leg side")
  refuseIf (side ≠ expectedSide) (.value "round-trip leg appears under the wrong side")
  let decisionPosition ← positionFromDocument networkId positionSchemaId
    (.entry document "decision_position")
  let landingPosition ← Document.readOptional (positionFromDocument networkId positionSchemaId)
    (.entry document "landing_position")
  let amountInAtomic ← optionalCount (.entry document "amount_in_atomic") "leg input amount"
    "amount_in_atomic"
  let referenceOutAtomic ← count (.entry document "reference_out_atomic") "reference output"
    "reference_out_atomic"
  let landingOutAtomic ← optionalCount (.entry document "landing_out_atomic") "landing output"
    "landing_out_atomic"
  let minimumOutAtomic ← count (.entry document "minimum_out_atomic") "minimum output"
    "minimum_out_atomic"
  let signedSlippageAtomic ← optionalInteger (.entry document "signed_slippage_atomic")
    "signed slippage"
  let protocolFeeAtomic ← count (.entry document "protocol_fee_atomic") "protocol fee"
    "protocol_fee_atomic"
  let creatorFeeAtomic ← count (.entry document "creator_fee_atomic") "creator fee"
    "creator_fee_atomic"
  let networkBaseFeeAtomic ← count (.entry document "network_base_fee_atomic") "network base fee"
    "network_base_fee_atomic"
  let networkPriorityFeeAtomic ← count (.entry document "network_priority_fee_atomic")
    "network priority fee" "network_priority_fee_atomic"
  let failureCode ← Document.readOptional (fun value => string value "failure code")
    (.entry document "failure_code")
  RoundTripLegRecord.checked
    { side, decisionPosition, landingPosition, amountInAtomic, referenceOutAtomic,
      landingOutAtomic, minimumOutAtomic, signedSlippageAtomic, protocolFeeAtomic,
      creatorFeeAtomic, networkBaseFeeAtomic, networkPriorityFeeAtomic, failureCode }

/-- The keys of a row of the current schema. -/
def V4_EXPECTED : List String :=
  ["account_components", "account_profile_id", "acquired_token_amount_atomic", "asset_id", "buy",
    "cashback_receivable_atomic", "cooldown_consumed", "cooldown_until_ns", "creation_user_id",
    "developer_id", "economic_pnl_atomic", "execution_mode", "mtm_cash_pnl_atomic",
    "mtm_liquidation_value_atomic", "mtm_liquidity", "mtm_status", "network_id",
    "position_schema_id", "quote_asset_id", "realized_cash_pnl_atomic", "roundtrip_id", "sell",
    "sell_landing_liquidity", "sell_reference_liquidity", "settled_synthetic_funded_atomic",
    "settled_venue_funded_atomic", "status", "target_event_id", "target_position",
    "target_time_ns", "venue_id"]

/-- The keys of a row of the old schema. -/
def LEGACY_EXPECTED : List String := V4_EXPECTED.filter fun key => !V4_FIELDS.contains key

/-- An entry of the current schema, or what the old one implies. -/
def sinceV4 {α : Type} (schemaId : String) (legacy : α) (read : Except Fault α) : Except Fault α :=
  if schemaId = ROUNDTRIP_RESULT_SCHEMA_V3 then .ok legacy else read

/-- The record an object of the expected keys describes. -/
def recordOf (schemaId : String) (document : List (String × Document)) :
    Except Fault RoundTripRecord := do
  let networkId ← NetworkId.make (← string (.entry document "network_id") "network ID")
  let positionSchemaId ← PositionSchemaId.make
    (← string (.entry document "position_schema_id") "position schema ID")
  let roundtripId ← ContentDigest.make (← string (.entry document "roundtrip_id") "roundtrip ID")
  let targetEventId ← ContentDigest.make
    (← string (.entry document "target_event_id") "target event ID")
  let targetPosition ← positionFromDocument networkId positionSchemaId
    (.entry document "target_position")
  let targetTimeNs ← count (.entry document "target_time_ns") "target time" "target_time_ns"
  let developerId ← AccountId.make (← string (.entry document "developer_id") "developer ID")
  let creationUserId ← AccountId.make
    (← string (.entry document "creation_user_id") "creation user ID")
  let assetId ← AssetId.make (← string (.entry document "asset_id") "asset ID")
  let quoteAssetId ← AssetId.make (← string (.entry document "quote_asset_id") "quote asset ID")
  let venueId ← VenueId.make (← string (.entry document "venue_id") "venue ID")
  let cooldownConsumed ← Document.readBoolean Fault.value (.entry document "cooldown_consumed")
    "cooldown consumed"
  let cooldownUntilNs ← optionalCount (.entry document "cooldown_until_ns") "cooldown expiry"
    "cooldown_until_ns"
  let status ← RoundTripStatus.ofValue (← string (.entry document "status") "round-trip status")
  let buy ← Document.readOptional (legFromDocument networkId positionSchemaId .buy)
    (.entry document "buy")
  let sell ← Document.readOptional (legFromDocument networkId positionSchemaId .sell)
    (.entry document "sell")
  let acquiredTokenAmountAtomic ← count (.entry document "acquired_token_amount_atomic")
    "acquired token amount" "acquired_token_amount_atomic"
  let cashbackReceivableAtomic ← count (.entry document "cashback_receivable_atomic")
    "cashback receivable" "cashback_receivable_atomic"
  let realizedCashPnlAtomic ← optionalInteger (.entry document "realized_cash_pnl_atomic")
    "realized cash PnL"
  let mtmStatus ← MtmStatus.ofValue (← string (.entry document "mtm_status") "MTM status")
  let mtmLiquidationValueAtomic ← optionalInteger (.entry document "mtm_liquidation_value_atomic")
    "MTM liquidation value"
  let mtmCashPnlAtomic ← optionalInteger (.entry document "mtm_cash_pnl_atomic") "MTM cash PnL"
  let economicPnlAtomic ← optionalInteger (.entry document "economic_pnl_atomic") "economic PnL"
  let accountProfileId ← string (.entry document "account_profile_id") "account profile ID"
  let accountComponents ← accountComponentsFromDocument (.entry document "account_components")
  let executionMode ← sinceV4 schemaId ExecutionMode.exogenousReplay do
    ExecutionMode.ofValue (← string (.entry document "execution_mode") "execution mode")
  let sellReferenceLiquidity ← sinceV4 schemaId none
    (Document.readOptional liquidityFromDocument (.entry document "sell_reference_liquidity"))
  let sellLandingLiquidity ← sinceV4 schemaId none
    (Document.readOptional liquidityFromDocument (.entry document "sell_landing_liquidity"))
  let mtmLiquidity ← sinceV4 schemaId none
    (Document.readOptional liquidityFromDocument (.entry document "mtm_liquidity"))
  let settledVenueFundedAtomic ← sinceV4 schemaId 0
    (count (.entry document "settled_venue_funded_atomic") "settled venue funding"
      "settled_venue_funded_atomic")
  let settledSyntheticFundedAtomic ← sinceV4 schemaId 0
    (count (.entry document "settled_synthetic_funded_atomic") "settled synthetic funding"
      "settled_synthetic_funded_atomic")
  RoundTripRecord.checked
    { roundtripId, networkId, positionSchemaId, targetEventId, targetPosition, targetTimeNs,
      developerId, creationUserId, assetId, quoteAssetId, venueId, cooldownConsumed,
      cooldownUntilNs, status, buy, sell, acquiredTokenAmountAtomic, cashbackReceivableAtomic,
      realizedCashPnlAtomic, mtmStatus, mtmLiquidationValueAtomic, mtmCashPnlAtomic,
      economicPnlAtomic, accountProfileId, accountComponents, executionMode,
      sellReferenceLiquidity, sellLandingLiquidity, mtmLiquidity, settledVenueFundedAtomic,
      settledSyntheticFundedAtomic, sourceSchemaId := schemaId }

/-- Strictly reconstruct one version-dispatched canonical result row. -/
def roundtripRecordFromDocument (schemaId : String) (value : Document) :
    Except Fault RoundTripRecord := do
  let document ← Document.readObject Fault.value value "round-trip record"
  refuseIf (schemaId ≠ ROUNDTRIP_RESULT_SCHEMA_V3 ∧ schemaId ≠ ROUNDTRIP_RESULT_SCHEMA_V4)
    (.value "unsupported round-trip record schema")
  refuseIf (document.map Prod.fst ≠
      if schemaId = ROUNDTRIP_RESULT_SCHEMA_V4 then V4_EXPECTED else LEGACY_EXPECTED)
    (.value "round-trip record schema is invalid")
  let result ← recordOf schemaId document
  (if schemaId = ROUNDTRIP_RESULT_SCHEMA_V4 then result.validateRoundtripRecordV4 else .ok ())
  refuseIf (result.document ≠ value) (.value "round-trip record does not round-trip exactly")
  .ok result

end OnchainBacktest
