import OnchainBacktest.Domain.AccountRequirements
import OnchainBacktest.Domain.Intents

/-!
# Round-trip result records

One record for each target of a run, with one leg for each side that reached a decision.  The
records are kept raw; the checks of their constructors (`postInit`) and the validator every newly
written row has to pass (`validateRoundtripRecordV4`) stand beside them.
-/

set_option autoImplicit false

namespace OnchainBacktest

open Checked

inductive RoundTripStatus
  | cooldownSkipped
  | buyReferenceRejected
  | buyPreSubmitInsufficientFunds
  | buyLandedFailed
  | sellReferenceUnavailableOpen
  | sellPreSubmitInsufficientFundsOpen
  | sellLandedFailedOpen
  | openAtHorizon
  | closed
  deriving DecidableEq, Repr

inductive RoundTripLegSide
  | buy
  | sell
  deriving DecidableEq, Repr

inductive MtmStatus
  | notApplicable
  | executable
  | stalePreMigration
  | unavailable
  deriving DecidableEq, Repr

def ROUNDTRIP_RESULT_SCHEMA_V3 : String := "pumpfun-roundtrips/v3"

def ROUNDTRIP_RESULT_SCHEMA_V4 : String := "pumpfun-roundtrips/v4"

/-- Exact sell-output funding evidence at one causal quote boundary. -/
structure QuoteLiquidityEvidenceRecord where
  policyId : String
  assetId : AssetId
  requiredOutputAtomic : Nat
  observedAvailableOutputAtomic : Nat
  syntheticShortfallAtomic : Nat
  deriving DecidableEq

/-- The checks of the constructor. -/
def QuoteLiquidityEvidenceRecord.postInit (e : QuoteLiquidityEvidenceRecord) :
    Except Fault Unit := do
  refuseIf (stableName e.policyId = false)
    (.value "liquidity policy ID must be non-empty, trimmed and NUL-free")
  refuseIf (e.requiredOutputAtomic = 0) (.value "liquidity required output must be positive")
  refuseIf (e.syntheticShortfallAtomic ≠
      e.requiredOutputAtomic - e.observedAvailableOutputAtomic)
    (.value "synthetic shortfall differs from required-observed liquidity")

/-- The constructor: the record, once its checks pass. -/
def QuoteLiquidityEvidenceRecord.checked (e : QuoteLiquidityEvidenceRecord) :
    Except Fault QuoteLiquidityEvidenceRecord := do
  e.postInit
  .ok e

/-- Exact decision/landing quote and fee evidence for one side. -/
structure RoundTripLegRecord where
  side : RoundTripLegSide
  decisionPosition : ChainPosition
  landingPosition : Option ChainPosition
  amountInAtomic : Option Nat
  referenceOutAtomic : Nat
  landingOutAtomic : Option Nat
  minimumOutAtomic : Nat
  signedSlippageAtomic : Option Int
  protocolFeeAtomic : Nat
  creatorFeeAtomic : Nat
  networkBaseFeeAtomic : Nat
  networkPriorityFeeAtomic : Nat
  failureCode : Option String
  deriving DecidableEq

namespace RoundTripLegRecord

/-- The landing of a leg is strictly after its decision. -/
def checkLanding (leg : RoundTripLegRecord) : Except Fault Unit :=
  match leg.landingPosition with
  | none => .ok ()
  | some landing => do
    refuseIf (landing.networkId ≠ leg.decisionPosition.networkId ∨
        landing.positionSchemaId ≠ leg.decisionPosition.positionSchemaId)
      (.chainIdentityMismatch
        "chain positions use different network or position schema identities")
    refuseIf (landing.boundaryOrdinal ≤ leg.decisionPosition.boundaryOrdinal)
      (.value "leg landing must be strictly after its decision")

/-- A slippage is what the landing gave over the reference. -/
def checkSlippage (leg : RoundTripLegRecord) : Except Fault Unit :=
  match leg.signedSlippageAtomic, leg.landingOutAtomic with
  | none, _ => .ok ()
  | some _, none => .error (.value "signed slippage requires a landing output")
  | some slippage, some landing =>
    refuseIf (slippage ≠ (landing : Int) - leg.referenceOutAtomic)
      (.value "signed slippage does not match landing-reference")

/-- The checks of the constructor. -/
def postInit (leg : RoundTripLegRecord) : Except Fault Unit := do
  leg.checkLanding
  leg.checkSlippage
  refuseIf (∃ code ∈ leg.failureCode, stableToken code = false)
    (.value "failure_code must be a stable token")

/-- The constructor: the record, once its checks pass. -/
def checked (leg : RoundTripLegRecord) : Except Fault RoundTripLegRecord := do
  leg.postInit
  .ok leg

end RoundTripLegRecord

/-- One target's complete deterministic lifecycle and valuation record. -/
structure RoundTripRecord where
  roundtripId : ContentDigest
  networkId : NetworkId
  positionSchemaId : PositionSchemaId
  targetEventId : ContentDigest
  targetPosition : ChainPosition
  targetTimeNs : Nat
  developerId : AccountId
  creationUserId : AccountId
  assetId : AssetId
  quoteAssetId : AssetId
  venueId : VenueId
  cooldownConsumed : Bool
  cooldownUntilNs : Option Nat
  status : RoundTripStatus
  buy : Option RoundTripLegRecord
  sell : Option RoundTripLegRecord
  acquiredTokenAmountAtomic : Nat
  cashbackReceivableAtomic : Nat
  realizedCashPnlAtomic : Option Int
  mtmStatus : MtmStatus
  mtmLiquidationValueAtomic : Option Int
  mtmCashPnlAtomic : Option Int
  economicPnlAtomic : Option Int
  accountProfileId : String
  accountComponents : List AccountComponentRecord
  executionMode : ExecutionMode
  sellReferenceLiquidity : Option QuoteLiquidityEvidenceRecord
  sellLandingLiquidity : Option QuoteLiquidityEvidenceRecord
  mtmLiquidity : Option QuoteLiquidityEvidenceRecord
  settledVenueFundedAtomic : Nat
  settledSyntheticFundedAtomic : Nat
  sourceSchemaId : String
  deriving DecidableEq

def LedgerCorrelationKind.value : LedgerCorrelationKind → String
  | order => "ORDER"
  | roundtrip => "ROUNDTRIP"

/-- The key components are ordered by. -/
def accountComponentKey (item : AccountComponentRecord) : String × String × String × Nat :=
  (item.scope.value, item.requirementSchemaId, item.attributionKind.value,
    item.attributionId.hex.val)

/-- `a <= b` on component keys. -/
def accountComponentLe (a b : AccountComponentRecord) : Bool :=
  let x := accountComponentKey a
  let y := accountComponentKey b
  toLex (x.1, toLex (x.2.1, toLex (x.2.2.1, x.2.2.2)))
    ≤ toLex (y.1, toLex (y.2.1, toLex (y.2.2.1, y.2.2.2)))

namespace RoundTripRecord

/-- The legs that are there. -/
def legs (r : RoundTripRecord) : List RoundTripLegRecord := r.buy.toList ++ r.sell.toList

/-- The liquidity evidence that is there. -/
def liquidityValues (r : RoundTripRecord) : List QuoteLiquidityEvidenceRecord :=
  r.sellReferenceLiquidity.toList ++ r.sellLandingLiquidity.toList ++ r.mtmLiquidity.toList

def mintComponents (r : RoundTripRecord) : List AccountComponentRecord :=
  r.accountComponents.filter fun item => item.scope == .mint

def walletComponents (r : RoundTripRecord) : List AccountComponentRecord :=
  r.accountComponents.filter fun item => item.scope == .wallet

/-- The sell leg of a closed round trip that landed without a failure. -/
def successfulSell (r : RoundTripRecord) : Prop :=
  r.status = .closed ∧ ∃ sell ∈ r.sell, sell.failureCode = none ∧ sell.landingPosition ≠ none

instance (r : RoundTripRecord) : Decidable r.successfulSell :=
  inferInstanceAs (Decidable (_ ∧ _))

/-- Constrain actual synthetic funding to one successful sell landing. -/
def validateSettledLiquidity (r : RoundTripRecord) : Except Fault Unit := do
  refuseIf (r.settledVenueFundedAtomic + r.settledSyntheticFundedAtomic ≠ 0 ∧ ¬ r.successfulSell)
    (.value "only a successful closed sell may use settlement funding")
  if r.successfulSell then
    match r.sellLandingLiquidity with
    | none => .ok ()
    | some evidence => do
      refuseIf (r.settledSyntheticFundedAtomic ≠ evidence.syntheticShortfallAtomic)
        (.value "settled synthetic funding differs from landing shortfall")
      refuseIf ((r.settledVenueFundedAtomic : Int) ≠
          (evidence.requiredOutputAtomic : Int) - evidence.syntheticShortfallAtomic)
        (.value "settled venue funding differs from landing available output")
  else .ok ()

/-- Allow only the compatibility values old rows imply. -/
def validateLegacyV3Projection (r : RoundTripRecord) : Except Fault Unit := do
  refuseIf (r.executionMode ≠ .exogenousReplay)
    (.value "legacy round trips require strict exogenous replay")
  refuseIf (r.liquidityValues ≠ [])
    (.value "legacy round trips cannot invent liquidity evidence")
  refuseIf (r.settledVenueFundedAtomic ≠ 0 ∨ r.settledSyntheticFundedAtomic ≠ 0)
    (.value "legacy round trips cannot invent settlement funding")

/-- The account components of a record fit its lifecycle. -/
def checkComponents (r : RoundTripRecord) : Except Fault Unit := do
  refuseIf (r.cooldownConsumed = true ∧
      (r.mintComponents.length ≠ 1 ∨ r.walletComponents.length ≠ 1))
    (.value "a consumed target must record one mint and one wallet requirement")
  refuseIf (r.cooldownConsumed = false ∧ r.accountComponents ≠ [])
    (.value "a suppressed target cannot carry account requirements")
  refuseIf (0 < r.acquiredTokenAmountAtomic ∧ ¬ ∃ item ∈ r.mintComponents,
      item.lifecycle = .createdLocked ∨ item.lifecycle = .closedRefunded)
    (.value "acquired tokens require a successfully created mint account")
  refuseIf ((∃ item ∈ r.mintComponents, item.lifecycle = .closedRefunded) ∧ r.status ≠ .closed)
    (.value "a refunded mint account requires a closed round trip")

/-- The checks of the constructor. -/
def postInit (r : RoundTripRecord) : Except Fault Unit := do
  refuseIf (r.targetPosition.networkId ≠ r.networkId ∨
      r.targetPosition.positionSchemaId ≠ r.positionSchemaId)
    (.value "target position does not match round-trip chain identity")
  refuseIf (r.assetId = r.quoteAssetId) (.value "round-trip assets must differ")
  refuseIf (∃ until_ ∈ r.cooldownUntilNs, until_ ≤ r.targetTimeNs)
    (.value "cooldown expiry must be after target time")
  refuseIf (r.sourceSchemaId ≠ ROUNDTRIP_RESULT_SCHEMA_V3 ∧
      r.sourceSchemaId ≠ ROUNDTRIP_RESULT_SCHEMA_V4)
    (.value "unsupported round-trip source schema")
  refuseIf (stableName r.accountProfileId = false)
    (.value "account_profile_id must be non-empty, trimmed and NUL-free")
  refuseIf (¬ r.accountComponents.Pairwise fun a b => accountComponentLe a b = true)
    (.value "account components must be canonically ordered")
  refuseIf (¬ (r.accountComponents.map accountComponentKey).Nodup)
    (.value "account components must be unique")
  refuseIf (∃ leg ∈ r.legs, leg.decisionPosition.networkId ≠ r.targetPosition.networkId ∨
      leg.decisionPosition.positionSchemaId ≠ r.targetPosition.positionSchemaId)
    (.chainIdentityMismatch "chain positions use different network or position schema identities")
  r.checkComponents
  refuseIf (r.mtmStatus = .notApplicable ∧
      (r.mtmLiquidationValueAtomic ≠ none ∨ r.mtmCashPnlAtomic ≠ none))
    (.value "not-applicable MTM cannot carry valuation amounts")
  refuseIf (∃ item ∈ r.liquidityValues, item.assetId ≠ r.quoteAssetId)
    (.value "liquidity evidence asset differs from the quote asset")
  refuseIf (∃ a ∈ r.liquidityValues, ∃ b ∈ r.liquidityValues, a.policyId ≠ b.policyId)
    (.value "round-trip liquidity evidence mixes settlement policies")
  r.validateSettledLiquidity
  if r.sourceSchemaId = ROUNDTRIP_RESULT_SCHEMA_V3 then r.validateLegacyV3Projection else .ok ()

/-- The constructor: the record, once its checks pass. -/
def checked (r : RoundTripRecord) : Except Fault RoundTripRecord := do
  r.postInit
  .ok r

/-- A successful sell reconciles the landed gross funding split. -/
def validateClosedSell (r : RoundTripRecord) : Except Fault Unit :=
  if r.status = .closed then
    match r.sell with
    | none => .error (.value "a closed round trip requires one successful landed sell")
    | some sell =>
      match sell.failureCode, sell.landingPosition, sell.landingOutAtomic with
      | none, some _, some landingOut =>
        match r.sellLandingLiquidity with
        | none => .error (.value "a successful sell requires landing liquidity evidence")
        | some landed => do
          refuseIf (landed.requiredOutputAtomic ≠
              landingOut + sell.protocolFeeAtomic + sell.creatorFeeAtomic)
            (.value "landing liquidity gross output differs from net output plus Pump fees")
          refuseIf (r.settledVenueFundedAtomic + r.settledSyntheticFundedAtomic ≠
              landed.requiredOutputAtomic)
            (.value "settled sell funding does not equal landing required output")
      | _, _, _ => .error (.value "a closed round trip requires one successful landed sell")
  else .ok ()

/-- A materialized quote retains evidence from the same causal boundary. -/
def validateEvidencePresence (r : RoundTripRecord) : Except Fault Unit := do
  refuseIf (r.sell = none ∧ (r.sellReferenceLiquidity ≠ none ∨ r.sellLandingLiquidity ≠ none))
    (.value "sell liquidity evidence requires a sell result leg")
  refuseIf (r.sell ≠ none ∧ r.sellReferenceLiquidity = none)
    (.value "a sell result leg requires reference liquidity evidence")
  refuseIf ((∃ sell ∈ r.sell, sell.landingOutAtomic ≠ none) ∧ r.sellLandingLiquidity = none)
    (.value "a materialized sell landing requires liquidity evidence")
  refuseIf (r.sellLandingLiquidity ≠ none ∧ ¬ ∃ sell ∈ r.sell, sell.landingPosition ≠ none)
    (.value "landing liquidity evidence requires a landed sell result leg")
  refuseIf (r.mtmStatus = .notApplicable ∧ r.mtmLiquidity ≠ none)
    (.value "not-applicable MTM cannot carry liquidity evidence")
  refuseIf (r.mtmLiquidity ≠ none ∧ (r.status = .closed ∨ r.acquiredTokenAmountAtomic = 0))
    (.value "MTM liquidity evidence requires an open acquired position")

/-- The liquidity policy of an execution mode. -/
def expectedLiquidityPolicy : ExecutionMode → Except Fault String
  | .exogenousReplay => .ok "real-reserve-capped-v1"
  | .exogenousVirtualSettlement =>
    .ok "virtual-reserve-output-with-explicit-synthetic-shortfall-v1"
  | _ => .error (.value "unsupported round-trip execution mode")

/-- Evidence completeness, required for every newly written v4 row. -/
def validateRoundtripRecordV4 (r : RoundTripRecord) : Except Fault Unit := do
  refuseIf (r.sourceSchemaId ≠ ROUNDTRIP_RESULT_SCHEMA_V4)
    (.value "new result writes require the round-trip v4 schema")
  let expectedPolicy ← expectedLiquidityPolicy r.executionMode
  r.validateEvidencePresence
  refuseIf (∃ item ∈ r.liquidityValues, item.policyId ≠ expectedPolicy)
    (.value "liquidity evidence policy differs from execution mode")
  refuseIf (r.executionMode = .exogenousReplay ∧
      ∃ item ∈ r.liquidityValues, item.syntheticShortfallAtomic ≠ 0)
    (.value "strict exogenous replay cannot record synthetic shortfall")
  r.validateClosedSell

end RoundTripRecord

end OnchainBacktest
