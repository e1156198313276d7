import OnchainBacktest.Engine.SnipingContracts
import OnchainBacktest.Lib.Dict

/-!
# The launch sniping strategy

One round-trip intent for every launch whose developer is not cooling down.  An eligible launch
starts a window of 600 seconds for its developer; launches inside it are suppressed and leave the
window as it is.

`decideFromCooldown` is the decision from a window the caller holds, `decide` the decision with the
strategy's own windows.
-/

set_option autoImplicit false

namespace OnchainBacktest

open Checked

def PUMPFUN_SNIPING_COOLDOWN_NS : Nat := 600000000000

/-- The configured strategy. -/
structure PumpfunSnipingStrategy where
  quoteAssetId : AssetId
  grossBuyBudgetAtomic : Nat
  buySlippageBps : Nat
  sellSlippageBps : Nat
  sellDelayTransactions : Nat
  executionMode : ExecutionMode
  bundleId : ContentDigest
  budget_pos : 0 < grossBuyBudgetAtomic
  buy_slippage_le : buySlippageBps ≤ 10000
  sell_slippage_le : sellSlippageBps ≤ 10000
  delay_pos : 1 ≤ sellDelayTransactions
  mode_supported : executionMode ∈ SNIPING_EXECUTION_MODES

/-- The end of each developer's window. -/
abbrev DeveloperCooldowns := Dict String Nat

namespace PumpfunSnipingStrategy

variable [DomainDigest] (strategy : PumpfunSnipingStrategy)

def buyDelayTransactions : Nat := PUMPFUN_SNIPING_BUY_DELAY_TRANSACTIONS

def sellDecisionDelayNs : Nat := PUMPFUN_SNIPING_SELL_DECISION_DELAY_NS

/-- The identity of the configured strategy. -/
def componentId : ContentDigest :=
  domainDigest "backtest.configured-pumpfun-sniping-strategy.v2"
    [("bundle_id", .text strategy.bundleId.spelling),
      ("buy_slippage_bps", .integer strategy.buySlippageBps),
      ("execution_mode", .text strategy.executionMode.value),
      ("gross_buy_budget_atomic", .integer strategy.grossBuyBudgetAtomic),
      ("quote_asset_id", .text strategy.quoteAssetId.value),
      ("sell_delay_transactions", .integer strategy.sellDelayTransactions),
      ("sell_slippage_bps", .integer strategy.sellSlippageBps)]

/-- The identity of the round trip a launch starts. -/
def roundtripId (target : LaunchTarget) : ContentDigest :=
  domainDigest "backtest.pumpfun-sniping-roundtrip.v1"
    [("block_ordinal", .integer target.position.blockOrdinal),
      ("event_index", match target.position.eventIndex with
        | none => .null
        | some index => .integer index),
      ("network_id", .text target.position.networkId.value),
      ("position_schema_id", .text target.position.positionSchemaId.value),
      ("strategy_component_id", .text strategy.componentId.spelling),
      ("target_event_id", .text target.targetEventId.spelling),
      ("transaction_index", .integer target.position.transactionIndex)]

/-- Decide one launch from the end of its developer's window. -/
def decideFromCooldown (target : LaunchTarget) (decisionTimeNs : Nat)
    (cooldownUntilNs : Option Nat) : Except Fault LaunchDecision := do
  refuseIf (decisionTimeNs % 1000000000 ≠ 0)
    (.value "decision time must have non-negative second resolution")
  refuseIf (target.quoteAssetId ≠ strategy.quoteAssetId)
    (.protocolContract .nonSupportedQuoteAsset)
  let roundtripId := strategy.roundtripId target
  if ∃ until_ ∈ cooldownUntilNs, decisionTimeNs < until_ then
    .ok ⟨roundtripId, .cooldownSuppressed, cooldownUntilNs, none, by simp⟩
  else
    let intent ← RoundTripIntent.make
      { roundtripId := roundtripId
        targetPosition := target.position
        assetId := target.assetId
        venueId := target.venueId
        quoteAssetId := target.quoteAssetId
        grossBuyBudgetAtomic := strategy.grossBuyBudgetAtomic
        executionMode := strategy.executionMode
        targetEventId := target.targetEventId
        developerId := target.developerId
        creationUserId := target.creationUserId
        buySlippageBps := strategy.buySlippageBps
        sellSlippageBps := strategy.sellSlippageBps
        sellDelayTransactions := strategy.sellDelayTransactions
        createdBoundaryOrdinal := target.position.boundaryOrdinal
        buyDelayTransactions := PUMPFUN_SNIPING_BUY_DELAY_TRANSACTIONS
        sellDecisionDelayNs := PUMPFUN_SNIPING_SELL_DECISION_DELAY_NS }
    .ok ⟨roundtripId, .eligible, some (decisionTimeNs + PUMPFUN_SNIPING_COOLDOWN_NS), some intent,
      by simp⟩

/-- Decide one launch and start the developer's window when it is eligible. -/
def decide (cooldowns : DeveloperCooldowns) (target : LaunchTarget) (decisionTimeNs : Nat) :
    Except Fault (LaunchDecision × DeveloperCooldowns) := do
  let decision ← strategy.decideFromCooldown target decisionTimeNs
    (cooldowns.get? target.developerId.value)
  if decision.status = .eligible then
    match decision.cooldownUntilNs with
    | none => .error (.assertion "eligible cooldown decision has no expiry")
    | some until_ => .ok (decision, cooldowns.set target.developerId.value until_)
  else .ok (decision, cooldowns)

/-! ## What a decision is -/

variable {strategy} {target : LaunchTarget} {time : Nat} {window : Option Nat}
  {decision : LaunchDecision}

/-- **A launch is suppressed exactly inside its developer's window.** -/
theorem decideFromCooldown_eq_ok
    (h : strategy.decideFromCooldown target time window = .ok decision) :
    decision.roundtripId = strategy.roundtripId target ∧
      target.quoteAssetId = strategy.quoteAssetId ∧
      ((∃ until_, window = some until_ ∧ time < until_ ∧ decision.status = .cooldownSuppressed ∧
          decision.cooldownUntilNs = window ∧ decision.intent = none) ∨
        ((∀ until_, window = some until_ → until_ ≤ time) ∧ decision.status = .eligible ∧
          decision.cooldownUntilNs = some (time + PUMPFUN_SNIPING_COOLDOWN_NS) ∧
          ∃ intent, decision.intent = some intent ∧
            intent.roundtripId = strategy.roundtripId target ∧
            intent.targetPosition = target.position ∧ intent.assetId = target.assetId ∧
            intent.venueId = target.venueId ∧ intent.quoteAssetId = target.quoteAssetId ∧
            intent.grossBuyBudgetAtomic = strategy.grossBuyBudgetAtomic ∧
            intent.executionMode = strategy.executionMode ∧
            intent.sellDelayTransactions = strategy.sellDelayTransactions)) := by
  simp only [decideFromCooldown, bind_eq_ok, refuseIf_eq_ok, exists_const, ne_eq, not_not] at h
  obtain ⟨_, hquote, h⟩ := h
  split at h
  · rename_i hin
    obtain ⟨until_, hmem, hlt⟩ := hin
    cases h
    exact ⟨rfl, hquote, .inl ⟨until_, hmem, hlt, rfl, rfl, rfl⟩⟩
  · rename_i hout
    obtain ⟨intent, hintent, h⟩ := bind_eq_ok.mp h
    have hf := RoundTripIntent.make_eq_ok.mp hintent
    cases h
    refine ⟨rfl, hquote, .inr ⟨fun until_ hw => ?_, rfl, rfl, intent, rfl, ?_⟩⟩
    · by_contra hlt
      exact hout ⟨until_, hw, by omega⟩
    · simp [hf]

theorem decide_eq_ok {cooldowns cooldowns' : DeveloperCooldowns}
    (h : strategy.decide cooldowns target time = .ok (decision, cooldowns')) :
    strategy.decideFromCooldown target time (cooldowns.get? target.developerId.value)
        = .ok decision ∧
      (decision.status = .cooldownSuppressed ∧ cooldowns' = cooldowns ∨
        decision.status = .eligible ∧ cooldowns' = cooldowns.set target.developerId.value
          (time + PUMPFUN_SNIPING_COOLDOWN_NS)) := by
  obtain ⟨d, hd, h⟩ := bind_eq_ok.mp h
  obtain ⟨_, _, ⟨_, _, _, hs, _⟩ | ⟨_, hs, hu, _⟩⟩ := decideFromCooldown_eq_ok hd
  · rw [hs, if_neg (by simp)] at h
    cases h
    exact ⟨hd, .inl ⟨hs, rfl⟩⟩
  · rw [hs, if_pos rfl, hu] at h
    cases h
    exact ⟨hd, .inr ⟨hs, rfl⟩⟩

end PumpfunSnipingStrategy

end OnchainBacktest
