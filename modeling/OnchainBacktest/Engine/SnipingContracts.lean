import OnchainBacktest.Domain.AccountRequirements
import OnchainBacktest.Domain.Intents
import OnchainBacktest.Domain.MarketEvents

/-!
# Sniping contracts

The values and ports of a launchpad round-trip replay that the engine owns: launch targets,
launch decisions, protocol quotes with their liquidity evidence, and network costs.

A quote is only ever seen through its constructor's checks, so `ProtocolQuote` and
`ProtocolLiquidityEvidence` carry them.  `ProtocolView` is the protocol port at one moment of a
run: what the runtime answers with the curves it has then.
-/

set_option autoImplicit false

namespace OnchainBacktest

open Checked

def REAL_RESERVE_CAPPED_LIQUIDITY_POLICY_ID : String := "real-reserve-capped-v1"

def VIRTUAL_RESERVE_EXPLICIT_SHORTFALL_LIQUIDITY_POLICY_ID : String :=
  "virtual-reserve-output-with-explicit-synthetic-shortfall-v1"

/-- Resolve the closed sniping mode to its liquidity policy. -/
def liquidityPolicyIdForExecutionMode : ExecutionMode → Except Fault String
  | .exogenousReplay => .ok REAL_RESERVE_CAPPED_LIQUIDITY_POLICY_ID
  | .exogenousVirtualSettlement => .ok VIRTUAL_RESERVE_EXPLICIT_SHORTFALL_LIQUIDITY_POLICY_ID
  | _ => .error (.value "unsupported Pump.fun Sniping execution mode")

section Digests

variable [DomainDigest]

/-- Derive one versioned synthetic source.  The namespace has to be a lowercase token. -/
def syntheticLiquidityAccountId (protocolNamespace : String) (networkId : NetworkId)
    (venueId : VenueId) : Except Fault AccountId := do
  let stable := protocolNamespace.toList.filter (· != '-')
  refuseIf (stable = [] ∨ ¬ (stable.all fun c => c.isLower || c.isDigit) = true)
    (.value "protocol_namespace must be a lowercase ASCII token")
  .ok (.syntheticLiquidity protocolNamespace
    (domainDigest ("backtest." ++ protocolNamespace ++ "-synthetic-liquidity-account.v1")
      [("network_id", .text networkId.value), ("venue_id", .text venueId.value)]))

end Digests

/-! ## Launches -/

inductive LaunchDecisionStatus
  | eligible
  | cooldownSuppressed
  deriving DecidableEq, Repr

structure LaunchTarget where
  targetEventId : ContentDigest
  position : ChainPosition
  assetId : AssetId
  developerId : AccountId
  creationUserId : AccountId
  venueId : VenueId
  quoteAssetId : AssetId
  deriving DecidableEq

/-- Only an eligible decision carries an intent. -/
structure LaunchDecision where
  roundtripId : ContentDigest
  status : LaunchDecisionStatus
  cooldownUntilNs : Option Nat
  intent : Option RoundTripIntent
  eligible_iff : status = .eligible ↔ intent ≠ none
  deriving DecidableEq

/-- The order of launches at one boundary: event index, then the identity of the event. -/
def launchTargetLe (a b : LaunchTarget) : Bool :=
  let eventIndexKey (t : LaunchTarget) : Int :=
    match t.position.eventIndex with
    | none => -1
    | some index => index
  toLex (a.position.boundaryOrdinal, toLex (eventIndexKey a, a.targetEventId.hex.val))
    ≤ toLex (b.position.boundaryOrdinal, toLex (eventIndexKey b, b.targetEventId.hex.val))

/-- Canonicalize the launches of a group without hiding duplicate target ids. -/
def ensureSingleLaunch (launches : List LaunchTarget) : Except Fault (List LaunchTarget) := do
  refuseIf (¬ (launches.map LaunchTarget.targetEventId).Nodup)
    (.protocolContract .inconsistentVenueIdentity)
  .ok (launches.insertionSort fun a b => launchTargetLe a b = true)

/-! ## Quotes -/

inductive ProtocolQuoteSide
  | buy
  | sell
  deriving DecidableEq, Repr

def ProtocolQuoteSide.value : ProtocolQuoteSide → String
  | buy => "BUY"
  | sell => "SELL"

/-- Exact sell-funding evidence carried from quote through settlement. -/
structure ProtocolLiquidityEvidenceFields where
  policyId : String
  assetId : AssetId
  requiredOutputAtomic : Nat
  observedAvailableOutputAtomic : Nat
  syntheticShortfallAtomic : Nat
  syntheticSourceAccountId : Option AccountId
  deriving DecidableEq

/-- The checks of the constructor. -/
def ProtocolLiquidityEvidenceFields.postInit (e : ProtocolLiquidityEvidenceFields) :
    Except Fault Unit := do
  refuseIf (nonemptyTrimmed e.policyId = false)
    (.value "liquidity policy ID must be non-empty and trimmed")
  refuseIf (128 < e.policyId.length ∨
      (e.policyId.toList.any fun c => c.toNat < 32 || 126 < c.toNat) = true)
    (.value "liquidity policy ID must be printable ASCII up to 128 characters")
  refuseIf (e.requiredOutputAtomic = 0) (.value "required liquidity output must be positive")
  refuseIf (e.syntheticShortfallAtomic ≠
      e.requiredOutputAtomic - e.observedAvailableOutputAtomic)
    (.value "synthetic shortfall is inconsistent with observed liquidity")
  refuseIf (0 < e.syntheticShortfallAtomic ∧ e.syntheticSourceAccountId = none)
    (.value "positive synthetic shortfall requires an AccountId source")
  refuseIf (e.syntheticShortfallAtomic = 0 ∧ e.syntheticSourceAccountId ≠ none)
    (.value "zero synthetic shortfall must not carry a source account")

structure ProtocolLiquidityEvidence extends ProtocolLiquidityEvidenceFields where
  valid : toProtocolLiquidityEvidenceFields.postInit = .ok ()
  deriving DecidableEq

/-- The constructor of liquidity evidence. -/
def ProtocolLiquidityEvidence.make (fields : ProtocolLiquidityEvidenceFields) :
    Except Fault ProtocolLiquidityEvidence :=
  construct fields.postInit fun h => ⟨fields, h⟩

/-- Launchpad-neutral exact quote with separately routed component fees. -/
structure ProtocolQuoteFields where
  side : ProtocolQuoteSide
  inputAssetId : AssetId
  outputAssetId : AssetId
  amountInAtomic : Nat
  amountOutAtomic : Nat
  venueInputAtomic : Nat
  venueOutputAtomic : Nat
  protocolFeeAtomic : Nat
  creatorFeeAtomic : Nat
  cashbackReceivableAtomic : Nat
  protocolFeeAccountId : AccountId
  creatorFeeAccountId : AccountId
  cashbackSourceAccountId : AccountId
  liquidityEvidence : Option ProtocolLiquidityEvidence
  deriving DecidableEq

/-- The checks of the constructor. -/
def ProtocolQuoteFields.postInit (q : ProtocolQuoteFields) : Except Fault Unit := do
  refuseIf (q.inputAssetId = q.outputAssetId) (.value "protocol quote assets must differ")
  refuseIf (q.amountInAtomic = 0 ∨ q.amountOutAtomic = 0)
    (.value "protocol quote input/output must be positive")
  refuseIf (q.cashbackReceivableAtomic ≠ 0 ∧ q.cashbackReceivableAtomic ≠ q.creatorFeeAtomic)
    (.value "cashback receivable must be zero or the creator fee")
  match q.side with
  | .buy => do
    refuseIf (q.amountInAtomic ≠ q.venueInputAtomic + q.protocolFeeAtomic + q.creatorFeeAtomic)
      (.value "buy gross input does not conserve fee components")
    refuseIf (q.venueOutputAtomic ≠ q.amountOutAtomic)
      (.value "buy venue output must equal token output")
    refuseIf (q.liquidityEvidence ≠ none) (.value "buy quote must not carry sell-liquidity evidence")
  | .sell => do
    refuseIf (q.venueInputAtomic ≠ q.amountInAtomic)
      (.value "sell venue input must equal sold token amount")
    refuseIf (q.venueOutputAtomic ≠ q.amountOutAtomic + q.protocolFeeAtomic + q.creatorFeeAtomic)
      (.value "sell gross output does not conserve fee components")
    match q.liquidityEvidence with
    | none => .error (.value "sell quote requires ProtocolLiquidityEvidence")
    | some evidence => do
      refuseIf (evidence.assetId ≠ q.outputAssetId)
        (.value "sell-liquidity evidence uses the wrong output asset")
      refuseIf (evidence.requiredOutputAtomic ≠ q.venueOutputAtomic)
        (.value "sell-liquidity evidence must cover the gross venue output")

structure ProtocolQuote extends ProtocolQuoteFields where
  valid : toProtocolQuoteFields.postInit = .ok ()
  deriving DecidableEq

/-- The constructor of a quote. -/
def ProtocolQuote.make (fields : ProtocolQuoteFields) : Except Fault ProtocolQuote :=
  construct fields.postInit fun h => ⟨fields, h⟩

structure ValuationQuote where
  quote : ProtocolQuote
  stalePreMigration : Bool
  deriving DecidableEq

/-- The price of one transaction and of the accounts it needs. -/
structure NetworkCostQuote where
  feeAssetId : AssetId
  baseFeeAtomic : Nat
  priorityFeeAtomic : Nat
  accountRequirements : List PricedAccountRequirement
  sorted : accountRequirements.Pairwise fun a b => pricedAccountRequirementLe a b = true
  deriving DecidableEq

def NetworkCostQuote.transactionFeeAtomic (network : NetworkCostQuote) : Nat :=
  network.baseFeeAtomic + network.priorityFeeAtomic

/-- The constructor of a network price. -/
def NetworkCostQuote.make (feeAssetId : AssetId) (baseFeeAtomic priorityFeeAtomic : Nat)
    (accountRequirements : List PricedAccountRequirement) : Except Fault NetworkCostQuote :=
  if h : accountRequirements.Pairwise fun a b => pricedAccountRequirementLe a b = true then
    .ok ⟨feeAssetId, baseFeeAtomic, priorityFeeAtomic, accountRequirements, h⟩
  else .error (.value "account requirements must be canonically sorted")

/-! ## Ports -/

/-- The protocol runtime as the engine sees it at one moment. -/
structure ProtocolView where
  accountRequirements : RoundTripIntent → Except Fault (List AccountRequirement)
  quoteBuy : PositionIntent → Nat → Except Fault ProtocolQuote
  quoteSell : PositionIntent → Nat → Nat → Except Fault ProtocolQuote
  valuationQuote : PositionIntent → Nat → Nat → Except Fault (Option ValuationQuote)

/-! ## What the constructors give -/

namespace ProtocolQuote

/-- What every quote gives. -/
theorem facts (q : ProtocolQuote) :
    q.inputAssetId ≠ q.outputAssetId ∧ 0 < q.amountInAtomic ∧ 0 < q.amountOutAtomic ∧
      (q.cashbackReceivableAtomic = 0 ∨ q.cashbackReceivableAtomic = q.creatorFeeAtomic) := by
  have h := q.valid
  simp only [ProtocolQuoteFields.postInit, check_bind_eq_ok, refuseIf_eq_ok, not_and, ne_eq,
    not_not, not_or] at h
  obtain ⟨h1, ⟨h2, h3⟩, h4, _⟩ := h
  refine ⟨h1, Nat.pos_of_ne_zero h2, Nat.pos_of_ne_zero h3, ?_⟩
  by_cases hc : q.cashbackReceivableAtomic = 0
  · exact .inl hc
  · exact .inr (h4 hc)

/-- A buy conserves its gross input. -/
theorem buy_facts (q : ProtocolQuote) (hs : q.side = .buy) :
    q.amountInAtomic = q.venueInputAtomic + q.protocolFeeAtomic + q.creatorFeeAtomic := by
  have h := q.valid
  simp only [ProtocolQuoteFields.postInit, check_bind_eq_ok, hs, refuseIf_eq_ok, ne_eq,
    not_not] at h
  exact h.2.2.2.1

/-- A sell conserves its gross output, and its evidence is about that output. -/
theorem sell_facts (q : ProtocolQuote) (hs : q.side = .sell) :
    q.venueOutputAtomic = q.amountOutAtomic + q.protocolFeeAtomic + q.creatorFeeAtomic ∧
      ∃ evidence, q.liquidityEvidence = some evidence ∧ evidence.assetId = q.outputAssetId ∧
        evidence.requiredOutputAtomic = q.venueOutputAtomic := by
  have h := q.valid
  simp only [ProtocolQuoteFields.postInit, check_bind_eq_ok, hs, refuseIf_eq_ok, ne_eq,
    not_not] at h
  obtain ⟨_, _, _, _, h5, h6⟩ := h
  refine ⟨h5, ?_⟩
  cases he : q.liquidityEvidence with
  | none =>
    rw [he] at h6
    cases h6
  | some evidence =>
    rw [he] at h6
    simp only [check_bind_eq_ok, refuseIf_eq_ok, not_not] at h6
    exact ⟨evidence, rfl, h6⟩

end ProtocolQuote

/-! ## What the engine relies on -/

/-- The accounts a quote names have the kinds they are posted to under. -/
structure ProtocolQuote.Routed (quote : ProtocolQuote) : Prop where
  protocolFee : quote.protocolFeeAccountId.kind = .protocolFee
  creatorFee : quote.creatorFeeAccountId.kind = .creatorFee
  cashback : quote.cashbackSourceAccountId.kind = .external
  synthetic : ∀ evidence ∈ quote.liquidityEvidence,
    ∀ account ∈ evidence.syntheticSourceAccountId, account.kind = .external

/-- A sell quote is about the tokens of the intent, under the policy of its mode. -/
structure ProtocolQuote.Sells (quote : ProtocolQuote) (intent : PositionIntent)
    (tokensInAtomic : Nat) : Prop where
  side : quote.side = .sell
  input : quote.inputAssetId = intent.assetId
  output : quote.outputAssetId = intent.quoteAssetId
  amount : quote.amountInAtomic = tokensInAtomic
  policy : ∀ evidence ∈ quote.liquidityEvidence,
    liquidityPolicyIdForExecutionMode intent.executionMode = .ok evidence.policyId
  capped : ∀ evidence ∈ quote.liquidityEvidence, intent.executionMode = .exogenousReplay →
    evidence.syntheticShortfallAtomic = 0

/-- A fault of the protocol: no clock fault, and an expected rejection has a stable code. -/
def ProtocolFault (e : Fault) : Prop :=
  (∀ code, e ≠ .transactionClock code) ∧
    ∀ code, e = .executionRejected code → stableToken code = true

/-- What every answer of the protocol runtime keeps to. -/
structure ProtocolView.Sound (view : ProtocolView) : Prop where
  requirements_stops : ∀ intent, Stops ProtocolFault (view.accountRequirements intent)
  buy : ∀ {intent t quote}, view.quoteBuy intent t = .ok quote → quote.Routed
  buy_stops : ∀ intent t, Stops ProtocolFault (view.quoteBuy intent t)
  sell : ∀ {intent n t quote}, view.quoteSell intent n t = .ok quote → quote.Routed
  sell_stops : ∀ intent n t, Stops ProtocolFault (view.quoteSell intent n t)
  valuation : ∀ {intent n t valued}, view.valuationQuote intent n t = .ok (some valued) →
    valued.quote.Sells intent n
  valuation_stops : ∀ intent n t, Stops ProtocolFault (view.valuationQuote intent n t)

end OnchainBacktest
