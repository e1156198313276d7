import OnchainBacktest.Domain.Intents

/-!
# Copy-buy contracts

The values of a copy-buy run that no protocol and no engine owns: the price a position is watched
by, the policy of its exits, the signal it starts from and the intent the signal becomes.

A price is a reduced ratio of two positive amounts, so equal ratios are equal prices.
-/

set_option autoImplicit false

namespace OnchainBacktest

open Checked

def COPY_BUY_POLICY_SCHEMA : String := "pumpfun-copy-buy-policy/v1"

def COPY_BUY_PRICE_POLICY : String := "fill-curve-input-to-observed-marginal-price/v1"

def MAXIMUM_SELL_ATTEMPTS : Nat := 4

def SELL_RETRY_DELAY_NS : Nat := 2000000000

def NANOSECONDS_PER_SECOND : Nat := 1000000000

/-- The first causal exit reason remains latched across retries. -/
inductive CopyExitReason
  | stopLoss
  | takeProfit
  | maximumHold
  deriving DecidableEq, Repr

def CopyExitReason.value : CopyExitReason → String
  | stopLoss => "STOP_LOSS"
  | takeProfit => "TAKE_PROFIT"
  | maximumHold => "MAXIMUM_HOLD"

/-- `domain_digest` as a copy run uses it: the value it gives has no display prefix. -/
def plainDigest [DomainDigest] (domain : String) (fields : List (String × DigestField)) :
    ContentDigest := ⟨(domainDigest domain fields).hex, false⟩

/-- The message of an integer that is below its minimum. -/
def integerBelow (name : String) (minimum : Nat) : Fault :=
  .value (name ++ " must be an integer >= " ++ toString minimum)

/-- `require_integer`, for an integer that is not negative. -/
def requireInteger (value : Nat) (name : String) (minimum : Nat) : Except Fault Unit :=
  refuseIf (value < minimum) (integerBelow name minimum)

/-! ## Prices -/

/-- Reduced positive ratio of quote atomic units to token atomic units. -/
structure TokenPrice where
  quoteAtomic : Nat
  tokenAtomic : Nat
  quote_pos : 0 < quoteAtomic
  token_pos : 0 < tokenAtomic
  reduced : Nat.Coprime quoteAtomic tokenAtomic

namespace TokenPrice

/-- A price is its two amounts. -/
theorem amounts_iff (a b : TokenPrice) :
    (a.quoteAtomic, a.tokenAtomic) = (b.quoteAtomic, b.tokenAtomic) ↔ a = b := by
  obtain ⟨q, t, _, _, _⟩ := a
  obtain ⟨q', t', _, _, _⟩ := b
  simp

instance decidableEq : DecidableEq TokenPrice := fun a b => decidable_of_iff _ (amounts_iff a b)

theorem coprime_of_pos {quoteAtomic : Nat} (tokenAtomic : Nat) (hq : 0 < quoteAtomic) :
    Nat.Coprime (quoteAtomic / quoteAtomic.gcd tokenAtomic)
      (tokenAtomic / quoteAtomic.gcd tokenAtomic) :=
  Nat.coprime_div_gcd_div_gcd (Nat.gcd_pos_of_pos_left tokenAtomic hq)

/-- The ratio of two positive amounts. -/
def ofAmounts (quoteAtomic tokenAtomic : Nat) (hq : 0 < quoteAtomic) (ht : 0 < tokenAtomic) :
    TokenPrice where
  quoteAtomic := quoteAtomic / quoteAtomic.gcd tokenAtomic
  tokenAtomic := tokenAtomic / quoteAtomic.gcd tokenAtomic
  quote_pos := Nat.div_gcd_pos_of_pos_left tokenAtomic hq
  token_pos := Nat.div_gcd_pos_of_pos_right quoteAtomic ht
  reduced := coprime_of_pos tokenAtomic hq

/-- The constructor of a price. -/
def make (quoteAtomic tokenAtomic : Nat) : Except Fault TokenPrice :=
  if hq : 0 < quoteAtomic then
    if ht : 0 < tokenAtomic then .ok (ofAmounts quoteAtomic tokenAtomic hq ht)
    else .error (integerBelow "token_atomic" 1)
  else .error (integerBelow "quote_atomic" 1)

/-- Signed exact comparison with `entry * multiplier / 10000`. -/
def scaledComparison (current entry : TokenPrice) (multiplierBps : Nat) : Int :=
  (current.quoteAtomic * entry.tokenAtomic * 10000 : Nat)
    - (entry.quoteAtomic * current.tokenAtomic * multiplierBps : Nat)

end TokenPrice

/-! ## The policy -/

/-- Explicit thresholds and independent latencies; the retry rules are fixed. -/
structure CopyBuyPolicy where
  grossBuyBudgetAtomic : Nat
  takeProfitBps : Nat
  stopLossBps : Nat
  maximumHoldSeconds : Nat
  observationDelayTransactions : Nat
  buyDelayTransactions : Nat
  sellDelayTransactions : Nat
  buySlippageBps : Nat
  sellSlippageBps : Nat
  budget_pos : 0 < grossBuyBudgetAtomic
  profit_pos : 0 < takeProfitBps
  loss_pos : 0 < stopLossBps
  hold_pos : 0 < maximumHoldSeconds
  buy_delay_pos : 0 < buyDelayTransactions
  sell_delay_pos : 0 < sellDelayTransactions
  loss_le : stopLossBps ≤ 10000
  buy_slippage_le : buySlippageBps ≤ 10000
  sell_slippage_le : sellSlippageBps ≤ 10000

namespace CopyBuyPolicy

/-- The operands of a policy. -/
def operands (policy : CopyBuyPolicy) : List Nat :=
  [policy.grossBuyBudgetAtomic, policy.takeProfitBps, policy.stopLossBps,
    policy.maximumHoldSeconds, policy.observationDelayTransactions, policy.buyDelayTransactions,
    policy.sellDelayTransactions, policy.buySlippageBps, policy.sellSlippageBps]

/-- A policy is its operands. -/
theorem operands_iff (a b : CopyBuyPolicy) : a.operands = b.operands ↔ a = b := by
  obtain ⟨⟩ := a
  obtain ⟨⟩ := b
  simp [operands]

instance decidableEq : DecidableEq CopyBuyPolicy := fun a b => decidable_of_iff _ (operands_iff a b)

/-- The constructor of a policy. -/
def make (grossBuyBudgetAtomic takeProfitBps stopLossBps maximumHoldSeconds
    observationDelayTransactions buyDelayTransactions sellDelayTransactions buySlippageBps
    sellSlippageBps : Nat) : Except Fault CopyBuyPolicy :=
  if h1 : 0 < grossBuyBudgetAtomic then
    if h2 : 0 < takeProfitBps then
      if h3 : 0 < stopLossBps then
        if h4 : 0 < maximumHoldSeconds then
          if h5 : 0 < buyDelayTransactions then
            if h6 : 0 < sellDelayTransactions then
              if h7 : stopLossBps ≤ 10000 then
                if h8 : buySlippageBps ≤ 10000 then
                  if h9 : sellSlippageBps ≤ 10000 then
                    .ok ⟨grossBuyBudgetAtomic, takeProfitBps, stopLossBps, maximumHoldSeconds,
                      observationDelayTransactions, buyDelayTransactions, sellDelayTransactions,
                      buySlippageBps, sellSlippageBps, h1, h2, h3, h4, h5, h6, h7, h8, h9⟩
                  else .error (.value "sell_slippage_bps must be <= 10000")
                else .error (.value "buy_slippage_bps must be <= 10000")
              else .error (.value "stop_loss_bps must be <= 10000")
            else .error (integerBelow "sell_delay_transactions" 1)
          else .error (integerBelow "buy_delay_transactions" 1)
        else .error (integerBelow "maximum_hold_seconds" 1)
      else .error (integerBelow "stop_loss_bps" 1)
    else .error (integerBelow "take_profit_bps" 1)
  else .error (integerBelow "gross_buy_budget_atomic" 1)

variable (policy : CopyBuyPolicy)

def maximumHoldNs : Nat := policy.maximumHoldSeconds * NANOSECONDS_PER_SECOND

/-- Inclusive integer thresholds; a stop loss goes before a take profit. -/
def priceExit (entry current : TokenPrice) : Option CopyExitReason :=
  if current.scaledComparison entry (10000 - policy.stopLossBps) ≤ 0 then some .stopLoss
  else if 0 ≤ current.scaledComparison entry (10000 + policy.takeProfitBps) then some .takeProfit
  else none

end CopyBuyPolicy

/-! ## Signals and intents -/

/-- A proven successful buy, delivered only after its atomic transaction. -/
structure CopyBuySignal where
  eventId : ContentDigest
  position : ChainPosition
  signingWallet : AccountId
  assetId : AssetId
  venueId : VenueId
  quoteAssetId : AssetId
  indexed : position.eventIndex ≠ none
  assets_ne : assetId ≠ quoteAssetId
  deriving DecidableEq

/-- The constructor of a signal. -/
def CopyBuySignal.make (eventId : ContentDigest) (position : ChainPosition)
    (signingWallet : AccountId) (assetId : AssetId) (venueId : VenueId) (quoteAssetId : AssetId) :
    Except Fault CopyBuySignal :=
  if h1 : position.eventIndex ≠ none then
    if h2 : assetId ≠ quoteAssetId then
      .ok ⟨eventId, position, signingWallet, assetId, venueId, quoteAssetId, h1, h2⟩
    else .error (.value "copy signal must exchange different assets")
  else .error (.value "copy signal requires an exact event position")

/-- A position intent whose target is a buy, not a launch. -/
structure CopyBuyIntent where
  roundtripId : ContentDigest
  signal : CopyBuySignal
  decisionPosition : ChainPosition
  policy : CopyBuyPolicy
  executionMode : ExecutionMode
  same_chain : signal.position.networkId = decisionPosition.networkId ∧
    signal.position.positionSchemaId = decisionPosition.positionSchemaId
  not_before : signal.position.boundaryOrdinal ≤ decisionPosition.boundaryOrdinal
  mode_supported : executionMode ∈ SNIPING_EXECUTION_MODES
  deriving DecidableEq

namespace CopyBuyIntent

/-- The constructor of an intent. -/
def make (roundtripId : ContentDigest) (signal : CopyBuySignal) (decisionPosition : ChainPosition)
    (policy : CopyBuyPolicy) (executionMode : ExecutionMode) : Except Fault CopyBuyIntent :=
  if h1 : signal.position.networkId = decisionPosition.networkId ∧
      signal.position.positionSchemaId = decisionPosition.positionSchemaId then
    if h2 : signal.position.boundaryOrdinal ≤ decisionPosition.boundaryOrdinal then
      if h3 : executionMode ∈ SNIPING_EXECUTION_MODES then
        .ok ⟨roundtripId, signal, decisionPosition, policy, executionMode, h1, h2, h3⟩
      else .error (.value "unsupported copy-buy execution mode")
    else .error (.value "copy decision precedes its source purchase")
  else .error (.value "copy decision has a different chain identity")

/-- What was made. -/
theorem make_eq_ok {roundtripId : ContentDigest} {signal : CopyBuySignal}
    {decisionPosition : ChainPosition} {policy : CopyBuyPolicy} {executionMode : ExecutionMode}
    {intent : CopyBuyIntent}
    (h : make roundtripId signal decisionPosition policy executionMode = .ok intent) :
    intent.roundtripId = roundtripId ∧ intent.signal = signal ∧
      intent.decisionPosition = decisionPosition ∧ intent.policy = policy ∧
      intent.executionMode = executionMode := by
  rw [make] at h
  split at h
  · split at h
    · split at h
      · cases h
        exact ⟨rfl, rfl, rfl, rfl, rfl⟩
      · cases h
    · cases h
  · cases h

variable (intent : CopyBuyIntent)

def assetId : AssetId := intent.signal.assetId

def quoteAssetId : AssetId := intent.signal.quoteAssetId

def venueId : VenueId := intent.signal.venueId

/-- The fields the shared quotes, reservations and settlements read. -/
def toPositionIntent : PositionIntent where
  roundtripId := intent.roundtripId
  targetPosition := intent.signal.position
  assetId := intent.signal.assetId
  venueId := intent.signal.venueId
  quoteAssetId := intent.signal.quoteAssetId
  grossBuyBudgetAtomic := intent.policy.grossBuyBudgetAtomic
  executionMode := intent.executionMode

end CopyBuyIntent

end OnchainBacktest
