import OnchainBacktest.Domain.Ledger

/-!
# Ranges, execution modes, fills and intents

The values a strategy and an engine exchange: the block range in which launches are decided, the
execution mode, the intent of one round trip and the fill of one order.

A round-trip intent and a copy-buy intent are quoted, reserved and settled by the same code, which
reads the same seven fields of both: those are `PositionIntent`.
-/

set_option autoImplicit false

namespace OnchainBacktest

open Checked

/-- A non-empty half-open block range on one chain identity. -/
structure BlockRange where
  networkId : NetworkId
  positionSchemaId : PositionSchemaId
  fromBlockOrdinal : Nat
  toBlockOrdinal : Nat
  schema_supported : positionSchemaId = BLOCK32_TRANSACTION32_POSITION_SCHEMA_ID
  nonempty : fromBlockOrdinal < toBlockOrdinal
  to_le : toBlockOrdinal ≤ UINT32_SIZE

namespace BlockRange

def containsBlock (range : BlockRange) (blockOrdinal : Nat) : Bool :=
  range.fromBlockOrdinal ≤ blockOrdinal && blockOrdinal < range.toBlockOrdinal

def containsPosition (range : BlockRange) (position : ChainPosition) : Except Fault Bool := do
  refuseIf (position.networkId ≠ range.networkId ∨
      position.positionSchemaId ≠ range.positionSchemaId)
    (.chainIdentityMismatch "position does not belong to the block range chain identity")
  .ok (range.containsBlock position.blockOrdinal)

end BlockRange

inductive ExecutionMode
  | exogenousReplay
  | exogenousVirtualSettlement
  | shadowStateReplay
  | conditionalProtocolReplay
  deriving DecidableEq, Repr

def ExecutionMode.value : ExecutionMode → String
  | exogenousReplay => "EXOGENOUS_REPLAY"
  | exogenousVirtualSettlement => "EXOGENOUS_VIRTUAL_SETTLEMENT"
  | shadowStateReplay => "SHADOW_STATE_REPLAY"
  | conditionalProtocolReplay => "CONDITIONAL_PROTOCOL_REPLAY"

/-- The allowlisted exogenous modes. -/
def SNIPING_EXECUTION_MODES : List ExecutionMode := [.exogenousReplay, .exogenousVirtualSettlement]

/-- The execution of one order. -/
structure Fill where
  orderId : ContentDigest
  poolId : PoolId
  soldAssetId : AssetId
  boughtAssetId : AssetId
  amountInAtomic : Nat
  amountOutAtomic : Nat
  feeAmountAtomic : Nat
  boundaryOrdinal : Nat
  deriving DecidableEq

/-- The constructor of a fill. -/
def Fill.checked (fill : Fill) : Except Fault Fill := do
  refuseIf (fill.soldAssetId = fill.boughtAssetId) (.value "fill assets must be different")
  refuseIf (fill.amountInAtomic = 0 ∨ fill.amountOutAtomic = 0)
    (.value "fill amounts must be positive")
  refuseIf (fill.amountInAtomic < fill.feeAmountAtomic)
    (.value "fill fee is outside its input amount")
  .ok fill

theorem Fill.checked_eq_ok {fill fill' : Fill} (h : fill.checked = .ok fill') : fill' = fill := by
  simp only [checked, bind_eq_ok, refuseIf_eq_ok, exists_const, Except.ok.injEq] at h
  exact h.2.2.2.symm

/-! ## Intents -/

def PUMPFUN_SNIPING_BUY_DELAY_TRANSACTIONS : Nat := 500

def PUMPFUN_SNIPING_SELL_DECISION_DELAY_NS : Nat := 2000000000

/-- What quotes, reservations and settlements read of an intent. -/
structure PositionIntent where
  roundtripId : ContentDigest
  targetPosition : ChainPosition
  assetId : AssetId
  venueId : VenueId
  quoteAssetId : AssetId
  grossBuyBudgetAtomic : Nat
  executionMode : ExecutionMode
  deriving DecidableEq

/-- The fields of a launchpad round-trip intent. -/
structure RoundTripIntentFields extends PositionIntent where
  targetEventId : ContentDigest
  developerId : AccountId
  creationUserId : AccountId
  buySlippageBps : Nat
  sellSlippageBps : Nat
  sellDelayTransactions : Nat
  createdBoundaryOrdinal : Nat
  buyDelayTransactions : Nat
  sellDecisionDelayNs : Nat
  deriving DecidableEq

/-- The checks of the constructor. -/
def RoundTripIntentFields.postInit (i : RoundTripIntentFields) : Except Fault Unit := do
  refuseIf (i.assetId = i.quoteAssetId) (.value "round-trip assets must be different")
  refuseIf (i.grossBuyBudgetAtomic = 0) (.value "gross buy budget must be a positive integer")
  refuseIf (10000 < i.buySlippageBps) (.value "buy_slippage_bps must be in [0, 10000]")
  refuseIf (10000 < i.sellSlippageBps) (.value "sell_slippage_bps must be in [0, 10000]")
  refuseIf (i.sellDelayTransactions < 1) (.value "sell delay transactions must be positive")
  refuseIf (i.createdBoundaryOrdinal ≠ i.targetPosition.boundaryOrdinal)
    (.value "intent decision boundary must equal its target boundary")
  refuseIf (i.buyDelayTransactions ≠ PUMPFUN_SNIPING_BUY_DELAY_TRANSACTIONS)
    (.value "Pump.fun sniping v1 buy delay is fixed at 500 transactions")
  refuseIf (i.sellDecisionDelayNs ≠ PUMPFUN_SNIPING_SELL_DECISION_DELAY_NS)
    (.value "Pump.fun sniping v1 sell decision delay is fixed at two seconds")
  refuseIf (i.executionMode ∉ SNIPING_EXECUTION_MODES)
    (.value "Pump.fun sniping requires a supported exogenous execution mode")

/-- Generic launchpad round-trip intent with fully materialized semantics. -/
structure RoundTripIntent extends RoundTripIntentFields where
  valid : toRoundTripIntentFields.postInit = .ok ()
  deriving DecidableEq

namespace RoundTripIntent

/-- The constructor of an intent. -/
def make (fields : RoundTripIntentFields) : Except Fault RoundTripIntent :=
  construct fields.postInit fun h => ⟨fields, h⟩

theorem make_eq_ok {fields : RoundTripIntentFields} {i : RoundTripIntent} :
    make fields = .ok i ↔ i.toRoundTripIntentFields = fields := by
  rw [make, construct_eq_ok]
  refine ⟨fun ⟨_, h⟩ => h ▸ rfl, fun h => ?_⟩
  subst h
  exact ⟨i.valid, rfl⟩

/-- What the checks of the constructor give. -/
theorem facts (i : RoundTripIntent) :
    i.assetId ≠ i.quoteAssetId ∧ 0 < i.grossBuyBudgetAtomic ∧ i.buySlippageBps ≤ 10000 ∧
      i.sellSlippageBps ≤ 10000 ∧ 1 ≤ i.sellDelayTransactions ∧
      i.createdBoundaryOrdinal = i.targetPosition.boundaryOrdinal ∧
      i.buyDelayTransactions = PUMPFUN_SNIPING_BUY_DELAY_TRANSACTIONS ∧
      i.sellDecisionDelayNs = PUMPFUN_SNIPING_SELL_DECISION_DELAY_NS ∧
      i.executionMode ∈ SNIPING_EXECUTION_MODES := by
  have h := i.valid
  simp only [RoundTripIntentFields.postInit, check_bind_eq_ok, refuseIf_eq_ok, not_lt, ne_eq,
    not_not] at h
  obtain ⟨h1, h2, h3, h4, h5, h6, h7, h8, h9⟩ := h
  exact ⟨h1, Nat.pos_of_ne_zero h2, h3, h4, h5, h6, h7, h8, h9⟩

end RoundTripIntent

end OnchainBacktest
