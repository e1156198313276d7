import OnchainBacktest.Engine.SnipingOrders

/-!
# The results of a sniping run

How a round trip becomes its record once the run is over, and the aggregates over all records.

An open position is valued at the last time of the clock.  A rejected valuation leaves it
unvalued; the aggregates then carry the value of the others only.
-/

set_option autoImplicit false

namespace OnchainBacktest

open Checked

/-! ## Legs -/

/-- What a leg was charged by the network; nothing before it landed. -/
def chargedNetwork (position : Option ChainPosition) (network : Option NetworkCostQuote) :
    Option NetworkCostQuote :=
  if position ≠ none then network else none

/-- `_buy_leg`, before its checks. -/
def buyLegRecord (state : RoundTripState) (intent : RoundTripIntent) (reference : ProtocolQuote) :
    RoundTripLegRecord :=
  let network := chargedNetwork state.buyLandingPosition state.buyNetworkCost
  let filled := if 0 < state.acquiredTokenAmountAtomic then state.buyLanding else none
  { side := .buy
    decisionPosition := intent.targetPosition
    landingPosition := state.buyLandingPosition
    amountInAtomic := filled.map (·.amountInAtomic)
    referenceOutAtomic := reference.amountOutAtomic
    landingOutAtomic := state.buyLanding.map (·.amountOutAtomic)
    minimumOutAtomic := state.buyMinimumOutAtomic
    signedSlippageAtomic :=
      state.buyLanding.map fun landing => (landing.amountOutAtomic : Int) - reference.amountOutAtomic
    protocolFeeAtomic := (filled.map (·.protocolFeeAtomic)).getD 0
    creatorFeeAtomic := (filled.map (·.creatorFeeAtomic)).getD 0
    networkBaseFeeAtomic := (network.map (·.baseFeeAtomic)).getD 0
    networkPriorityFeeAtomic := (network.map (·.priorityFeeAtomic)).getD 0
    failureCode := state.buyFailureCode }

/-- `_buy_leg`. -/
def buyLeg (state : RoundTripState) : Except Fault (Option RoundTripLegRecord) :=
  match state.intent, state.buyReference with
  | some intent, some reference => do
    let leg ← (buyLegRecord state intent reference).checked
    .ok (some leg)
  | _, _ => .ok none

/-- `_sell_leg`, before its checks. -/
def sellLegRecord (state : RoundTripState) (reference : ProtocolQuote)
    (decision : ChainPosition) : RoundTripLegRecord :=
  let network := chargedNetwork state.sellLandingPosition state.sellNetworkCost
  let filled := if state.status = .closed then state.sellLanding else none
  { side := .sell
    decisionPosition := decision
    landingPosition := state.sellLandingPosition
    amountInAtomic := if state.status = .closed then some state.acquiredTokenAmountAtomic else none
    referenceOutAtomic := reference.amountOutAtomic
    landingOutAtomic := state.sellLanding.map (·.amountOutAtomic)
    minimumOutAtomic := state.sellMinimumOutAtomic
    signedSlippageAtomic :=
      state.sellLanding.map fun landing =>
        (landing.amountOutAtomic : Int) - reference.amountOutAtomic
    protocolFeeAtomic := (filled.map (·.protocolFeeAtomic)).getD 0
    creatorFeeAtomic := (filled.map (·.creatorFeeAtomic)).getD 0
    networkBaseFeeAtomic := (network.map (·.baseFeeAtomic)).getD 0
    networkPriorityFeeAtomic := (network.map (·.priorityFeeAtomic)).getD 0
    failureCode := state.sellFailureCode }

/-- `_sell_leg`. -/
def sellLeg (state : RoundTripState) : Except Fault (Option RoundTripLegRecord) :=
  match state.sellReference, state.sellDecisionPosition with
  | some reference, some decision => do
    let leg ← (sellLegRecord state reference decision).checked
    .ok (some leg)
  | _, _ => .ok none

/-! ## Liquidity evidence -/

/-- Project exact protocol quote evidence into the versioned result row. -/
def quoteLiquidityRecord (quote : ProtocolQuote) : Except Fault QuoteLiquidityEvidenceRecord :=
  match quote.liquidityEvidence with
  | none => .error (.snipingEngine .quoteContractMismatch)
  | some evidence => QuoteLiquidityEvidenceRecord.checked
    { policyId := evidence.policyId
      assetId := evidence.assetId
      requiredOutputAtomic := evidence.requiredOutputAtomic
      observedAvailableOutputAtomic := evidence.observedAvailableOutputAtomic
      syntheticShortfallAtomic := evidence.syntheticShortfallAtomic }

def optionalQuoteLiquidityRecord (quote : Option ProtocolQuote) :
    Except Fault (Option QuoteLiquidityEvidenceRecord) :=
  match quote with
  | none => .ok none
  | some quote => do
    let record ← quoteLiquidityRecord quote
    .ok (some record)

/-- What the venue and the synthetic source settled: `(venue, synthetic)`. -/
def settledFundedAtomic (state : RoundTripState) : Except Fault (Nat × Nat) :=
  match state.status, state.sellLanding with
  | .closed, some landing =>
    match landing.liquidityEvidence with
    | none => .error (.snipingEngine .quoteContractMismatch)
    | some evidence => .ok
      (evidence.requiredOutputAtomic - evidence.syntheticShortfallAtomic,
        evidence.syntheticShortfallAtomic)
  | _, _ => .ok (0, 0)

/-! ## The record of a round trip -/

/-- The value of a round trip at the end of the run. -/
structure RoundTripValuation where
  realized : Option Int
  mtmStatus : MtmStatus
  mtmValue : Option Int
  mtmPnl : Option Int
  mtmLiquidity : Option QuoteLiquidityEvidenceRecord
  economic : Option Int
  deriving DecidableEq

/-- A round trip with nothing left to value. -/
def RoundTripValuation.settled (cash receivable : Int) : RoundTripValuation :=
  ⟨some cash, .notApplicable, none, none, none, some (cash + receivable)⟩

/-- An acquired position no quote values. -/
def RoundTripValuation.unavailable : RoundTripValuation :=
  ⟨none, .unavailable, none, none, none, none⟩

/-- What a sell at the valuation quote would bring, after its fee and with the deposits it frees. -/
def liquidationValue (intent : RoundTripIntent) (components : List AccountComponentRecord)
    (quote : ProtocolQuote) (network : NetworkCostQuote) : Int :=
  (quote.amountOutAtomic : Int)
    - amountIfAsset network.feeAssetId intent.quoteAssetId network.transactionFeeAtomic
    + assetAmount (refundableMintDeposits components) intent.quoteAssetId

/-- Value an acquired position; `receivable` is what the round trip still has to its credit. -/
def valueOpenPosition (market : Market) (state : RoundTripState) (cash receivable : Int)
    (finalTimeUnixS : Nat) : Except Fault RoundTripValuation := do
  let intent ← requirePart state.intent
  match ← expectRejection (market.protocol.valuationQuote intent.toPositionIntent
      state.acquiredTokenAmountAtomic finalTimeUnixS) with
  | .error _ => .ok .unavailable
  | .ok none => .ok .unavailable
  | .ok (some valuation) => do
    let network ← market.networkCosts.quoteSell finalTimeUnixS
    let liquidity ← quoteLiquidityRecord valuation.quote
    let value := liquidationValue intent state.accountComponents valuation.quote network
    .ok ⟨none, if valuation.stalePreMigration then .stalePreMigration else .executable,
      some value, some (cash + value), some liquidity, some (cash + value + receivable)⟩

/-- Value a round trip. -/
def valueRoundtrip (market : Market) (state : RoundTripState) (cash : Int)
    (finalTimeUnixS : Nat) : Except Fault RoundTripValuation :=
  let receivable : Int := (state.cashbackReceivableAtomic : Int)
    + assetAmount (runLockedValue state.accountComponents) state.target.quoteAssetId
  if state.status = .closed then .ok (.settled cash receivable)
  else if 0 < state.acquiredTokenAmountAtomic then
    valueOpenPosition market state cash receivable finalTimeUnixS
  else .ok (.settled cash receivable)

/-- The record of a round trip, before its checks. -/
def roundTripRecord (accountProfileId : String) (executionMode : ExecutionMode)
    (roundtripId : ContentDigest) (state : RoundTripState)
    (buy sell : Option RoundTripLegRecord) (valuation : RoundTripValuation)
    (sellReferenceLiquidity sellLandingLiquidity : Option QuoteLiquidityEvidenceRecord)
    (settled : Nat × Nat) : RoundTripRecord where
  roundtripId := roundtripId
  networkId := state.target.position.networkId
  positionSchemaId := state.target.position.positionSchemaId
  targetEventId := state.target.targetEventId
  targetPosition := state.target.position
  targetTimeNs := state.targetTimeNs
  developerId := state.target.developerId
  creationUserId := state.target.creationUserId
  assetId := state.target.assetId
  quoteAssetId := state.target.quoteAssetId
  venueId := state.target.venueId
  cooldownConsumed := state.cooldownConsumed
  cooldownUntilNs := state.cooldownUntilNs
  status := state.status
  buy := buy
  sell := sell
  acquiredTokenAmountAtomic := state.acquiredTokenAmountAtomic
  cashbackReceivableAtomic := state.cashbackReceivableAtomic
  realizedCashPnlAtomic := valuation.realized
  mtmStatus := valuation.mtmStatus
  mtmLiquidationValueAtomic := valuation.mtmValue
  mtmCashPnlAtomic := valuation.mtmPnl
  economicPnlAtomic := valuation.economic
  accountProfileId := accountProfileId
  accountComponents := state.accountComponents
  executionMode := executionMode
  sellReferenceLiquidity := sellReferenceLiquidity
  sellLandingLiquidity := sellLandingLiquidity
  mtmLiquidity := valuation.mtmLiquidity
  settledVenueFundedAtomic := settled.1
  settledSyntheticFundedAtomic := settled.2
  sourceSchemaId := ROUNDTRIP_RESULT_SCHEMA_V4

/-- `_finalize_roundtrip`. -/
def finalizeRoundtrip (market : Market) (accountProfileId : String)
    (executionMode : ExecutionMode) (roundtripId : ContentDigest) (state : RoundTripState)
    (committedQuoteCashflowAtomic : Int) (finalTimeUnixS : Nat) :
    Except Fault RoundTripRecord := do
  let buy ← buyLeg state
  let sell ← sellLeg state
  let valuation ← valueRoundtrip market state committedQuoteCashflowAtomic finalTimeUnixS
  let reference ← optionalQuoteLiquidityRecord state.sellReference
  let landing ← optionalQuoteLiquidityRecord state.sellLanding
  let settled ← settledFundedAtomic state
  (roundTripRecord accountProfileId executionMode roundtripId state buy sell valuation reference
    landing settled).checked

/-! ## Aggregates -/

/-- The totals over all records. -/
structure RoundTripAggregates where
  closedCount : Nat := 0
  openCount : Nat := 0
  acceptedSellCount : Nat := 0
  rejectedBuyCount : Nat := 0
  rejectedSellCount : Nat := 0
  realizedCashPnlAtomic : Int := 0
  valuedEconomicPnlSubtotalAtomic : Int := 0
  unvaluedOpenPositionCount : Nat := 0
  cashbackReceivableAtomic : Nat := 0
  protocolFeePaidAtomic : Nat := 0
  creatorFeePaidAtomic : Nat := 0
  networkBaseFeePaidAtomic : Nat := 0
  networkPriorityFeePaidAtomic : Nat := 0
  accountDepositPaidAtomic : Nat := 0
  accountDepositRefundedAtomic : Nat := 0
  accountDepositLockedAtomic : Int := 0
  favorableSlippageCount : Nat := 0
  adverseSlippageCount : Nat := 0
  buySlippageFailureCount : Nat := 0
  sellSlippageFailureCount : Nat := 0
  filledSellCount : Nat := 0
  realLiquiditySufficientFilledSellCount : Nat := 0
  syntheticLiquidityUsedSellCount : Nat := 0
  grossSellSettlementAtomic : Nat := 0
  venueFundedSellAtomic : Nat := 0
  syntheticFundedSellAtomic : Nat := 0
  deriving DecidableEq

/-- A record of a closed round trip. -/
def RoundTripRecord.isClosed (r : RoundTripRecord) : Bool := r.status == .closed

/-- A record of a position that is still held. -/
def RoundTripRecord.isOpen (r : RoundTripRecord) : Bool :=
  decide (0 < r.acquiredTokenAmountAtomic) && !r.isClosed

/-- A sell that was submitted. -/
def RoundTripRecord.sellLanded (r : RoundTripRecord) : Bool :=
  r.sell.any fun sell => sell.landingPosition.isSome

def RoundTripRecord.buyRejected (r : RoundTripRecord) : Bool :=
  r.status == .buyReferenceRejected || r.status == .buyPreSubmitInsufficientFunds

def RoundTripRecord.sellRejected (r : RoundTripRecord) : Bool :=
  r.status == .sellReferenceUnavailableOpen || r.status == .sellPreSubmitInsufficientFundsOpen

/-- A leg that missed its minimum. -/
def missedMinimum (leg : Option RoundTripLegRecord) : Bool :=
  leg.any fun leg => leg.failureCode == some "MINIMUM_OUTPUT_NOT_MET"

/-- `_RoundTripAggregateAccumulator.append`. -/
def RoundTripAggregates.append (a : RoundTripAggregates) (r : RoundTripRecord) :
    RoundTripAggregates where
  closedCount := a.closedCount + r.isClosed.toNat
  openCount := a.openCount + r.isOpen.toNat
  acceptedSellCount := a.acceptedSellCount + r.sellLanded.toNat
  rejectedBuyCount := a.rejectedBuyCount + r.buyRejected.toNat
  rejectedSellCount := a.rejectedSellCount + r.sellRejected.toNat
  realizedCashPnlAtomic := a.realizedCashPnlAtomic + r.realizedCashPnlAtomic.getD 0
  valuedEconomicPnlSubtotalAtomic :=
    a.valuedEconomicPnlSubtotalAtomic + r.economicPnlAtomic.getD 0
  unvaluedOpenPositionCount :=
    a.unvaluedOpenPositionCount + if r.economicPnlAtomic = none then r.isOpen.toNat else 0
  cashbackReceivableAtomic := a.cashbackReceivableAtomic + r.cashbackReceivableAtomic
  protocolFeePaidAtomic := a.protocolFeePaidAtomic + (r.legs.map (·.protocolFeeAtomic)).sum
  creatorFeePaidAtomic := a.creatorFeePaidAtomic + (r.legs.map (·.creatorFeeAtomic)).sum
  networkBaseFeePaidAtomic :=
    a.networkBaseFeePaidAtomic + (r.legs.map (·.networkBaseFeeAtomic)).sum
  networkPriorityFeePaidAtomic :=
    a.networkPriorityFeePaidAtomic + (r.legs.map (·.networkPriorityFeeAtomic)).sum
  accountDepositPaidAtomic :=
    a.accountDepositPaidAtomic + (r.accountComponents.map (·.paidAtomic)).sum
  accountDepositRefundedAtomic :=
    a.accountDepositRefundedAtomic + (r.accountComponents.map (·.refundedAtomic)).sum
  accountDepositLockedAtomic :=
    a.accountDepositLockedAtomic + (r.accountComponents.map (·.lockedDeltaAtomic)).sum
  favorableSlippageCount := a.favorableSlippageCount +
    r.legs.countP fun leg => leg.signedSlippageAtomic.any fun slippage => decide (0 < slippage)
  adverseSlippageCount := a.adverseSlippageCount +
    r.legs.countP fun leg => leg.signedSlippageAtomic.any fun slippage => decide (slippage < 0)
  buySlippageFailureCount := a.buySlippageFailureCount + (missedMinimum r.buy).toNat
  sellSlippageFailureCount := a.sellSlippageFailureCount + (missedMinimum r.sell).toNat
  filledSellCount := a.filledSellCount + r.isClosed.toNat
  realLiquiditySufficientFilledSellCount := a.realLiquiditySufficientFilledSellCount +
    (r.isClosed && decide (r.settledSyntheticFundedAtomic = 0)).toNat
  syntheticLiquidityUsedSellCount := a.syntheticLiquidityUsedSellCount +
    (r.isClosed && decide (r.settledSyntheticFundedAtomic ≠ 0)).toNat
  grossSellSettlementAtomic := a.grossSellSettlementAtomic +
    if r.isClosed then r.settledVenueFundedAtomic + r.settledSyntheticFundedAtomic else 0
  venueFundedSellAtomic :=
    a.venueFundedSellAtomic + if r.isClosed then r.settledVenueFundedAtomic else 0
  syntheticFundedSellAtomic :=
    a.syntheticFundedSellAtomic + if r.isClosed then r.settledSyntheticFundedAtomic else 0

/-- `_roundtrip_aggregates`. -/
def roundtripAggregates (records : List RoundTripRecord) : RoundTripAggregates :=
  records.foldl RoundTripAggregates.append {}

/-- The economic result, unless a position could not be valued. -/
def RoundTripAggregates.economicPnlAtomic (a : RoundTripAggregates) : Option Int :=
  if a.unvaluedOpenPositionCount ≠ 0 then none else some a.valuedEconomicPnlSubtotalAtomic

end OnchainBacktest
