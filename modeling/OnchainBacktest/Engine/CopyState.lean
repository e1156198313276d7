import OnchainBacktest.Domain.Copytrading
import OnchainBacktest.Engine.TransactionClock

/-!
# Position control of a copy run

One entry and at most four causal exit attempts of one position.  The control authorizes decisions
only: it says when a position may sell and when it may try again, and leaves money to the order
executor.

A transition is refused unless it is due at exactly the boundary it is made at.
-/

set_option autoImplicit false

namespace OnchainBacktest

open Checked

/-- A consumed mint never returns to a state it could be entered from. -/
inductive CopyPositionStatus
  | buyPending
  | buyFailed
  | opened
  | sellPending
  | retryWait
  | exhausted
  | closed
  deriving DecidableEq, Repr

/-! ## Durations on the clock -/

/-- Ceil a positive modeled duration to a real nonempty clock boundary. -/
def holdingDeadline (clock : CompactTransactionClock) (position : ChainPosition)
    (durationNs : Nat) : Except Fault ChainPosition := do
  requireInteger durationNs "duration_ns" 1
  let time ← clock.blockTimeForPosition position
  clock.firstNonemptyTransactionAtOrAfter position (time + durationNs)

/-- One failed attempt of the longest path: its landing, and the decision after it. -/
def settlementAttempt (clock : CompactTransactionClock) (sellDelayTransactions : Nat)
    (sellDecision : ChainPosition) : Except Fault ChainPosition := do
  let landing ← clock.transactionAfter sellDecision sellDelayTransactions
  holdingDeadline clock landing SELL_RETRY_DELAY_NS

/-- Where a signal is observed. -/
def observedAt (clock : CompactTransactionClock) (signal : ChainPosition)
    (observationDelayTransactions : Nat) : Except Fault ChainPosition :=
  if observationDelayTransactions = 0 then .ok signal
  else clock.transactionAfter signal observationDelayTransactions

/-- The longest path of one signal: a timeout and four landed failures. -/
def maximumCopySettlementPosition (clock : CompactTransactionClock) (signal : ChainPosition)
    (observationDelayTransactions buyDelayTransactions maximumHoldNs sellDelayTransactions : Nat) :
    Except Fault ChainPosition := do
  requireInteger buyDelayTransactions "buy_delay_transactions" 1
  requireInteger maximumHoldNs "maximum_hold_ns" 1
  requireInteger sellDelayTransactions "sell_delay_transactions" 1
  let _ ← clock.requirePosition signal
  let decision ← observedAt clock signal observationDelayTransactions
  let buy ← clock.transactionAfter decision buyDelayTransactions
  let first ← holdingDeadline clock buy maximumHoldNs
  let last ← (List.range (MAXIMUM_SELL_ATTEMPTS - 1)).foldlM
    (fun sellDecision _ => settlementAttempt clock sellDelayTransactions sellDecision) first
  clock.transactionAfter last sellDelayTransactions

/-- The longest path under a policy. -/
def maximumSettlementPosition (clock : CompactTransactionClock) (signal : ChainPosition)
    (policy : CopyBuyPolicy) : Except Fault ChainPosition :=
  maximumCopySettlementPosition clock signal policy.observationDelayTransactions
    policy.buyDelayTransactions policy.maximumHoldNs policy.sellDelayTransactions

/-! ## The control of one position -/

structure CopyPositionControl where
  positionId : ContentDigest
  assetId : AssetId
  buyDecisionPosition : ChainPosition
  policy : CopyBuyPolicy
  status : CopyPositionStatus := .buyPending
  acquiredTokensAtomic : Nat := 0
  entryPrice : Option TokenPrice := none
  buyFillPosition : Option ChainPosition := none
  deadline : Option ChainPosition := none
  exitReason : Option CopyExitReason := none
  triggerPosition : Option ChainPosition := none
  triggerPrice : Option TokenPrice := none
  sellAttemptCount : Nat := 0
  attemptDecision : Option ChainPosition := none
  attemptLanding : Option ChainPosition := none
  retryPosition : Option ChainPosition := none
  lastEvaluationBoundary : Int := -1
  deriving DecidableEq

namespace CopyPositionControl

variable (control : CopyPositionControl)

/-- `_require_status`. -/
def requireStatus (status : CopyPositionStatus) : Except Fault Unit :=
  refuseIf (control.status ≠ status) (.value "unexpected copy position state")

/-- `_require_at_or_after`. -/
def requireAtOrAfter (position start : ChainPosition) : Except Fault Unit := do
  refuseIf (position.networkId ≠ start.networkId ∨
      position.positionSchemaId ≠ start.positionSchemaId)
    (.value "position changed network or position schema")
  refuseIf (position.boundaryOrdinal < start.boundaryOrdinal)
    (.value "position precedes its causal boundary")

/-- `_require_later`. -/
def requireLater (position start : ChainPosition) : Except Fault Unit := do
  requireAtOrAfter position start
  refuseIf (position.boundaryOrdinal = start.boundaryOrdinal)
    (.value "landing must be strictly after decision")

/-- Both a rejection before submission and a failed landing consume the entry. -/
def failBuy : Except Fault CopyPositionControl := do
  control.requireStatus .buyPending
  .ok { control with status := .buyFailed }

/-- The entry is filled; its price leaves the transaction fees out. -/
def fillBuy (clock : CompactTransactionClock) (position : ChainPosition)
    (curveInputAtomic tokensAtomic : Nat) : Except Fault CopyPositionControl := do
  control.requireStatus .buyPending
  requireLater position control.buyDecisionPosition
  let expected ← clock.transactionAfter control.buyDecisionPosition
    control.policy.buyDelayTransactions
  refuseIf (position.boundaryOrdinal ≠ expected.boundaryOrdinal)
    (.value "buy landing does not match configured transaction delay")
  let price ← TokenPrice.make curveInputAtomic tokensAtomic
  let deadline ← holdingDeadline clock position control.policy.maximumHoldNs
  .ok { control with
    entryPrice := some price
    acquiredTokensAtomic := tokensAtomic
    buyFillPosition := some position
    deadline := some deadline
    status := .opened }

/-- The reason an open position has to exit at a boundary: its price goes before its timer. -/
def dueReason (position : ChainPosition) (currentPrice : Option TokenPrice) (entryPrice : TokenPrice)
    (deadline : ChainPosition) : Option CopyExitReason :=
  match currentPrice.bind (control.policy.priceExit entryPrice) with
  | some reason => some reason
  | none =>
    if deadline.boundaryOrdinal ≤ position.boundaryOrdinal then some .maximumHold else none

/-- Evaluate after an observed update or a deadline; only the first trigger is kept. -/
def evaluateExit (position : ChainPosition) (currentPrice : Option TokenPrice) :
    Except Fault (CopyPositionControl × Option CopyExitReason) :=
  if control.status ≠ .opened then .ok (control, control.exitReason)
  else
    match control.buyFillPosition, control.entryPrice, control.deadline with
    | some buyFillPosition, some entryPrice, some deadline => do
      requireAtOrAfter position buyFillPosition
      refuseIf ((position.boundaryOrdinal : Int) < control.lastEvaluationBoundary)
        (.value "exit evaluation moved backwards")
      let control := { control with lastEvaluationBoundary := position.boundaryOrdinal }
      if control.exitReason ≠ none then .ok (control, control.exitReason)
      else
        match control.dueReason position currentPrice entryPrice deadline with
        | none => .ok (control, none)
        | some reason => .ok ({ control with
            exitReason := some reason
            triggerPosition := some position
            triggerPrice := currentPrice }, some reason)
    | _, _, _ => .error (.value "open position has no committed buy")

/-- Consume an attempt before quoting or checking the balance; the number of the attempt. -/
def beginSell (clock : CompactTransactionClock) (position : ChainPosition) :
    Except Fault (CopyPositionControl × Nat) := do
  refuseIf (control.status ≠ .opened ∧ control.status ≠ .retryWait)
    (.value "position cannot start a sell attempt")
  match control.exitReason, control.triggerPosition with
  | some _, some triggerPosition => do
    requireAtOrAfter position (control.retryPosition.getD triggerPosition)
    refuseIf (MAXIMUM_SELL_ATTEMPTS ≤ control.sellAttemptCount)
      (.value "sell attempt limit exhausted")
    let landing ← clock.transactionAfter position control.policy.sellDelayTransactions
    .ok ({ control with
      sellAttemptCount := control.sellAttemptCount + 1
      attemptDecision := some position
      attemptLanding := some landing
      retryPosition := none
      status := .sellPending }, control.sellAttemptCount + 1)
  | _, _ => .error (.value "sell requires a causal exit trigger")

/-- `_require_attempt`. -/
def requireAttempt (attempt : Nat) (position : ChainPosition) (submitted : Bool) :
    Except Fault Unit := do
  control.requireStatus .sellPending
  requireInteger attempt "attempt" 1
  match control.attemptDecision with
  | none => .error (.value "stale sell attempt notification")
  | some attemptDecision => do
    refuseIf (attempt ≠ control.sellAttemptCount) (.value "stale sell attempt notification")
    if submitted then do
      requireLater position attemptDecision
      match control.attemptLanding with
      | none => .error (.value "pending sell has no exact landing boundary")
      | some attemptLanding =>
        refuseIf (position.boundaryOrdinal ≠ attemptLanding.boundaryOrdinal)
          (.value "sell landing does not match configured transaction delay")
    else
      refuseIf (position ≠ attemptDecision)
        (.value "pre-submit failure must use its decision position")

/-- A rejection before submission counts exactly as a failed landing. -/
def failSell (clock : CompactTransactionClock) (attempt : Nat) (position : ChainPosition)
    (submitted : Bool) : Except Fault CopyPositionControl := do
  control.requireAttempt attempt position submitted
  if control.sellAttemptCount = MAXIMUM_SELL_ATTEMPTS then
    .ok { control with status := .exhausted }
  else do
    let retry ← holdingDeadline clock position SELL_RETRY_DELAY_NS
    .ok { control with retryPosition := some retry, status := .retryWait }

/-- A full sell whose effects are committed. -/
def fillSell (attempt : Nat) (position : ChainPosition) : Except Fault CopyPositionControl := do
  control.requireAttempt attempt position true
  .ok { control with status := .closed }

/-- A failure never invents a sale of the acquired tokens. -/
def remainingTokensAtomic : Nat :=
  if control.status = .closed then 0 else control.acquiredTokensAtomic

end CopyPositionControl

end OnchainBacktest
