import OnchainBacktest.Domain.RoundTrips
import OnchainBacktest.Engine.CopyReplay
import OnchainBacktest.Engine.SnipingFinish

/-!
# Results of a copy run

The immutable record of one copy position and of each of its attempts, with the checks of their
constructors, and how a finished position is frozen into its record: quotes are never presented as
fills, cash is what the ledger says, and what is still held is valued without being sold.
-/

set_option autoImplicit false

namespace OnchainBacktest

open Checked

/-- `ChainPosition.require_same_chain`. -/
def requireSameChain (a b : ChainPosition) : Except Fault Unit :=
  refuseIf (a.networkId ≠ b.networkId ∨ a.positionSchemaId ≠ b.positionSchemaId)
    (.chainIdentityMismatch "chain positions use different network or position schema identities")

/-! ## Attempts -/

structure CopyAttemptRecordFields where
  orderId : ContentDigest
  number : Nat
  decision : ChainPosition
  expectedLanding : ChainPosition
  status : CopyAttemptStatus
  landedAt : Option ChainPosition
  reference : Option ProtocolQuote
  landingQuote : Option ProtocolQuote
  minimumOutAtomic : Nat
  failureCode : Option String
  networkFeeAssetId : String
  networkBaseFeePaidAtomic : Nat
  networkPriorityFeePaidAtomic : Nat
  deriving DecidableEq

namespace CopyAttemptRecordFields

variable (a : CopyAttemptRecordFields)

/-- The checks of where an attempt was decided and where it landed. -/
def checkBoundaries : Except Fault Unit := do
  requireSameChain a.decision a.expectedLanding
  refuseIf (a.expectedLanding.boundaryOrdinal ≤ a.decision.boundaryOrdinal)
    (.value "copy attempt landing is not strictly later")
  refuseIf (∃ landed ∈ a.landedAt, landed ≠ a.expectedLanding)
    (.value "copy attempt did not land at its exact planned boundary")
  refuseIf (a.decision.eventIndex ≠ none ∨ a.expectedLanding.eventIndex ≠ none)
    (.value "copy order coordinates must be transaction boundaries")

/-- The checks of what became of an attempt. -/
def checkOutcome : Except Fault Unit := do
  refuseIf (a.status = .created ∨ a.status = .submitted)
    (.value "copy result contains an unfinished instruction")
  refuseIf (4 < a.number) (.value "copy result attempt number exceeds its fixed limit")
  refuseIf (a.status = .rejected ↔ a.landedAt ≠ none)
    (.value "copy result landing and failure stage disagree")
  refuseIf (a.status = .rejected ∧
      (a.networkBaseFeePaidAtomic ≠ 0 ∨ a.networkPriorityFeePaidAtomic ≠ 0))
    (.value "copy pre-submit rejection cannot pay a network fee")
  refuseIf (a.status = .filled ∧ (a.landingQuote = none ∨ a.failureCode ≠ none))
    (.value "copy fill is missing its actual quote")
  refuseIf (a.status ≠ .filled ∧ a.failureCode = none)
    (.value "copy failed attempt is missing its reason")
  refuseIf (a.status ≠ .rejected ∧ a.reference = none)
    (.value "copy landed attempt has no reference quote")
  refuseIf (a.status = .filled ∧ ∃ quote ∈ a.landingQuote, quote.amountOutAtomic < a.minimumOutAtomic)
    (.value "copy filled quote violates its slippage limit")

/-- The checks of the constructor. -/
def postInit : Except Fault Unit := do
  a.checkBoundaries
  refuseIf (nonemptyTrimmed a.networkFeeAssetId = false)
    (.value "copy attempt is missing its explicit network fee asset")
  a.checkOutcome

end CopyAttemptRecordFields

/-- One finalized instruction. -/
structure CopyAttemptRecord extends CopyAttemptRecordFields where
  valid : toCopyAttemptRecordFields.postInit = .ok ()
  deriving DecidableEq

namespace CopyAttemptRecord

/-- The constructor of an attempt record. -/
def make (fields : CopyAttemptRecordFields) : Except Fault CopyAttemptRecord :=
  construct fields.postInit fun h => ⟨fields, h⟩

/-- An unsuccessful landing may have a quote but transfers no curve assets. -/
def actualQuote (a : CopyAttemptRecord) : Option ProtocolQuote :=
  if a.status = .filled then a.landingQuote else none

/-- Where an attempt came to its end. -/
def endedAt (a : CopyAttemptRecord) : ChainPosition := a.landedAt.getD a.decision

end CopyAttemptRecord

/-! ## Positions -/

structure CopyPositionRecordFields where
  intent : CopyBuyIntent
  status : CopyPositionStatus
  attempts : List CopyAttemptRecord
  acquiredTokensAtomic : Nat
  entryPrice : Option TokenPrice
  exitReason : Option CopyExitReason
  triggerPosition : Option ChainPosition
  triggerPrice : Option TokenPrice
  accountComponents : List AccountComponentRecord
  quoteCashflowAtomic : Int
  realizedCashPnlAtomic : Option Int
  cashbackReceivableAtomic : Nat
  mtmStatus : MtmStatus
  mtmLiquidationValueAtomic : Option Int
  mtmQuote : Option ProtocolQuote
  economicPnlAtomic : Option Int
  deriving DecidableEq

/-- The amounts of one asset in a list of amounts by asset. -/
def amountsIn (amounts : List (AssetId × Nat)) (asset : AssetId) : Nat :=
  ((amounts.filter fun e => e.1 == asset).map Prod.snd).sum

/-- The cashback of the attempts that were filled. -/
def filledCashback (attempts : List CopyAttemptRecord) : Nat :=
  (attempts.filterMap fun a => a.actualQuote.map fun q => q.cashbackReceivableAtomic).sum

namespace CopyPositionRecordFields

section Checks

variable [DomainDigest] (r : CopyPositionRecordFields)

/-- Exhaustion preserves the inventory and does not invent a final exit. -/
def remainingTokensAtomic : Nat := if r.status = .closed then 0 else r.acquiredTokensAtomic

/-- The first attempt is the entry. -/
def buy : Except Fault CopyAttemptRecord :=
  match r.attempts.head? with
  | some buy => .ok buy
  | none => .error (.value "copy position must contain one buy and at most four sells")

/-- The checks of the attempts and of the status they leave. -/
def checkShape : Except Fault Unit := do
  refuseIf (r.status.finished = false) (.value "copy result contains an unfinished position")
  let buy ← r.buy
  refuseIf (5 < r.attempts.length)
    (.value "copy position must contain one buy and at most four sells")
  refuseIf (r.attempts.map (fun a => a.number) ≠ List.range r.attempts.length)
    (.value "copy attempt sequence is not canonical")
  refuseIf (r.status = .exhausted ∧ r.attempts.length ≠ 5)
    (.value "exhausted copy position must have four sell failures")
  refuseIf (¬ (buy.status = .filled ↔ 0 < r.acquiredTokensAtomic ∧ r.entryPrice ≠ none))
    (.value "copy entry amounts disagree with buy execution")
  refuseIf (¬ (r.status = .closed ↔
      ∃ last ∈ r.attempts.getLast?, 0 < last.number ∧ last.status = .filled))
    (.value "copy position closure disagrees with its last instruction")
  refuseIf (r.realizedCashPnlAtomic ≠
      if r.remainingTokensAtomic = 0 then some r.quoteCashflowAtomic else none)
    (.value "copy realized cash differs from committed cashflow")

/-- `_validate_quote`. -/
def validateQuote (quote : ProtocolQuote) (side : ProtocolQuoteSide) : Except Fault Unit := do
  let signal := r.intent.signal
  refuseIf (quote.side ≠ side ∨ (quote.inputAssetId, quote.outputAssetId) ≠
      (match side with
        | .buy => (signal.quoteAssetId, signal.assetId)
        | .sell => (signal.assetId, signal.quoteAssetId)))
    (.value "copy quote side or asset differs from its position")
  refuseIf (quote.amountInAtomic ≠
      (match side with
        | .buy => r.intent.policy.grossBuyBudgetAtomic
        | .sell => r.acquiredTokensAtomic))
    (.value "copy quote input differs from fixed budget or full inventory")

/-- The side of an attempt. -/
def sideOf (a : CopyAttemptRecord) : ProtocolQuoteSide := if a.number = 0 then .buy else .sell

/-- The checks of one attempt against its position. -/
def checkAttempt (a : CopyAttemptRecord) : Except Fault Unit := do
  refuseIf (a.orderId.hex ≠ (copyOrderId r.intent.roundtripId (sideOf a) a.number).hex)
    (.value "copy order identity differs from its position and attempt")
  requireSameChain r.intent.decisionPosition a.decision
  (a.reference.toList ++ a.landingQuote.toList).forM fun quote => r.validateQuote quote (sideOf a)

/-- The checks of the entry. -/
def checkEntry (buy : CopyAttemptRecord) : Except Fault Unit := do
  refuseIf (buy.decision ≠ r.intent.decisionPosition)
    (.value "copy buy decision differs from its observed signal")
  refuseIf (r.status = .buyFailed ∧ (r.attempts.length ≠ 1 ∨ buy.status = .filled))
    (.value "copy failed entry contains a fill or sale")
  refuseIf (r.status = .buyFailed ∧ (r.acquiredTokensAtomic ≠ 0 ∨ r.entryPrice ≠ none ∨
      ∃ c ∈ r.accountComponents,
        c.paidAtomic ≠ 0 ∨ c.lockedDeltaAtomic ≠ 0 ∨ c.refundedAtomic ≠ 0))
    (.value "copy failed entry cannot own tokens or account deposits")
  match buy.actualQuote with
  | none =>
    refuseIf (r.status ≠ .buyFailed)
      (.value "copy open or closed position has no successful entry")
  | some quote => do
    let expected ← TokenPrice.make quote.venueInputAtomic quote.amountOutAtomic
    refuseIf (r.entryPrice ≠ some expected ∨ r.acquiredTokensAtomic ≠ quote.amountOutAtomic)
      (.value "copy entry price or tokens differ from the actual fill")

/-- The checks of the trigger: it follows the entry and precedes the first exit. -/
def checkTrigger (buy : CopyAttemptRecord) : Except Fault Unit := do
  refuseIf (¬ (1 < r.attempts.length ↔ r.exitReason ≠ none ∧ r.triggerPosition ≠ none))
    (.value "copy sale history and latched exit reason disagree")
  match r.triggerPosition with
  | none => .ok ()
  | some trigger => do
    requireSameChain buy.expectedLanding trigger
    refuseIf (trigger.boundaryOrdinal < buy.expectedLanding.boundaryOrdinal)
      (.value "copy exit trigger precedes the actual buy fill")
    match r.attempts[1]? with
    | none => .error (.assertion "tuple index out of range")
    | some first =>
      refuseIf (first.decision.boundaryOrdinal < trigger.boundaryOrdinal)
        (.value "copy sell decision precedes its trigger")

/-- `_validate_execution`. -/
def validateExecution : Except Fault Unit := do
  let buy ← r.buy
  r.checkEntry buy
  r.attempts.forM r.checkAttempt
  refuseIf (∃ a ∈ r.attempts.tail.dropLast, a.status = .filled)
    (.value "copy position retried after a successful sale")
  r.checkTrigger buy
  refuseIf (¬ r.attempts.tail.IsChain fun previous current =>
      previous.endedAt.boundaryOrdinal < current.decision.boundaryOrdinal)
    (.value "copy retry decision does not follow its prior failure")

/-- The checks of the valuation. -/
def checkValuation : Except Fault Unit :=
  if r.remainingTokensAtomic = 0 then
    refuseIf (r.mtmStatus ≠ .notApplicable ∨ r.mtmQuote ≠ none ∨
        r.mtmLiquidationValueAtomic ≠ some 0)
      (.value "copy flat position cannot contain an open valuation")
  else if r.mtmStatus = .unavailable then
    refuseIf (r.mtmQuote ≠ none ∨ r.mtmLiquidationValueAtomic ≠ none)
      (.value "copy unavailable valuation cannot contain a mark")
  else
    match r.mtmQuote with
    | none => .error (.value "copy open valuation is missing its qualified quote")
    | some quote => do
      refuseIf (r.mtmStatus = .notApplicable ∨ r.mtmLiquidationValueAtomic = none)
        (.value "copy open valuation is missing its qualified quote")
      r.validateQuote quote .sell

/-- `_validate_economics`. -/
def validateEconomics : Except Fault Unit := do
  refuseIf (r.cashbackReceivableAtomic ≠ filledCashback r.attempts)
    (.value "copy cashback differs from successful fills")
  r.checkValuation
  refuseIf (r.economicPnlAtomic ≠ r.mtmLiquidationValueAtomic.map fun liquidation =>
      r.quoteCashflowAtomic + liquidation + filledCashback r.attempts
        + amountsIn (runLockedValue r.accountComponents) r.intent.quoteAssetId)
    (.value "copy economic PnL differs from cash and qualified position value")

/-- The checks of the constructor. -/
def postInit : Except Fault Unit := do
  r.checkShape
  r.validateExecution
  r.validateEconomics

end Checks

end CopyPositionRecordFields

/-- Bounded position history with its cash and its valuation. -/
structure CopyPositionRecord [DomainDigest] extends CopyPositionRecordFields where
  valid : toCopyPositionRecordFields.postInit = .ok ()

section Freeze

variable [DomainDigest] (setup : CopySetup)

/-- The constructor of a position record. -/
def CopyPositionRecord.make (fields : CopyPositionRecordFields) :
    Except Fault CopyPositionRecord :=
  construct fields.postInit fun h => ⟨fields, h⟩

theorem CopyPositionRecord.make_eq_ok {fields : CopyPositionRecordFields}
    {record : CopyPositionRecord} (h : CopyPositionRecord.make fields = .ok record) :
    record.toCopyPositionRecordFields = fields := by
  rw [make, construct_eq_ok] at h
  obtain ⟨_, rfl⟩ := h
  rfl

/-- `_freeze_attempt`. -/
def freezeAttempt (attempt : CopyOrderAttempt) : Except Fault CopyAttemptRecord :=
  match attempt.network with
  | none => .error (.value "copy finalized instruction has no network cost profile")
  | some network =>
    CopyAttemptRecord.make
      { orderId := attempt.orderId
        number := attempt.number
        decision := attempt.decision
        expectedLanding := attempt.expectedLanding
        status := attempt.status
        landedAt := attempt.landedAt
        reference := attempt.reference
        landingQuote := attempt.landingQuote
        minimumOutAtomic := attempt.minimumOutAtomic
        failureCode := attempt.failureCode
        networkFeeAssetId := network.feeAssetId.value
        networkBaseFeePaidAtomic := if attempt.landedAt = none then 0 else network.baseFeeAtomic
        networkPriorityFeePaidAtomic :=
          if attempt.landedAt = none then 0 else network.priorityFeeAtomic }

/-- The time of the last block of the clock, in seconds. -/
def CopySetup.finalTimeUnixS : Nat := (setup.clock.blockTimeNs.getLast?.getD 0) / 1000000000

/-- `_valuation`: what is still held is marked, never sold. -/
def copyValuation (desk : CopyDesk) (state : CopyExecutionPosition) :
    Except Fault (MtmStatus × Option Int × Option ProtocolQuote) :=
  if state.control.remainingTokensAtomic = 0 then .ok (.notApplicable, some 0, none)
  else do
    match ← expectRejection (setup.protocol.valuationQuote desk.historical
        state.intent.toPositionIntent state.control.remainingTokensAtomic
        setup.finalTimeUnixS) with
    | .error _ => .ok (.unavailable, none, none)
    | .ok none => .ok (.unavailable, none, none)
    | .ok (some valuation) => do
      let network ← setup.networkCosts.quoteSell setup.finalTimeUnixS
      let fee := amountIfAsset network.feeAssetId state.intent.quoteAssetId
        network.transactionFeeAtomic
      let refund := amountsIn (refundableMintDeposits state.accountComponents)
        state.intent.quoteAssetId
      .ok (if valuation.stalePreMigration then .stalePreMigration else .executable,
        some ((valuation.quote.amountOutAtomic : Int) - fee + refund), some valuation.quote)

/-- `freeze_copy_position`. -/
def freezeCopyPosition (desk : CopyDesk) (state : CopyExecutionPosition) :
    Except Fault CopyPositionRecord := do
  let records ← state.attempts.mapM freezeAttempt
  let cash := desk.cashflows.amount state.intent.roundtripId state.intent.quoteAssetId
  let cashback := filledCashback records
  let locked := amountsIn (runLockedValue state.accountComponents) state.intent.quoteAssetId
  let (status, liquidation, quote) ← copyValuation setup desk state
  CopyPositionRecord.make
    { intent := state.intent
      status := state.control.status
      attempts := records
      acquiredTokensAtomic := state.control.acquiredTokensAtomic
      entryPrice := state.control.entryPrice
      exitReason := state.control.exitReason
      triggerPosition := state.control.triggerPosition
      triggerPrice := state.control.triggerPrice
      accountComponents := state.accountComponents
      quoteCashflowAtomic := cash
      realizedCashPnlAtomic := if state.control.remainingTokensAtomic = 0 then some cash else none
      cashbackReceivableAtomic := cashback
      mtmStatus := status
      mtmLiquidationValueAtomic := liquidation
      mtmQuote := quote
      economicPnlAtomic := liquidation.map fun liquidation => cash + liquidation + cashback + locked }

/-- What a completed copy run gives back: its state, and its records in the order they are
appended in. -/
structure CopyRunOutput where
  run : CopyRun
  records : List CopyPositionRecord

/-- A copy run, its records frozen once the replay has ended. -/
def runCopyBacktest (rounds : Nat) (source : HistoricalEventSource) :
    Except Fault (Option CopyRunOutput) := do
  match ← replayCopy setup rounds source with
  | none => .ok none
  | some (run, positions) => do
    let records ← positions.mapM (freezeCopyPosition setup run.desk)
    .ok (some ⟨run, records⟩)

variable {setup}

/-- A record is about the intent of its position. -/
theorem freezeCopyPosition_intent {desk : CopyDesk} {state : CopyExecutionPosition}
    {record : CopyPositionRecord} (h : freezeCopyPosition setup desk state = .ok record) :
    record.intent = state.intent := by
  obtain ⟨records, _, h⟩ := bind_eq_ok.mp h
  obtain ⟨⟨status, liquidation, quote⟩, _, h⟩ := bind_eq_ok.mp h
  exact congrArg (fun fields => fields.intent) (CopyPositionRecord.make_eq_ok h)

/-- **A completed copy run has one record for each position it publishes, in their order.** -/
theorem runCopyBacktest_eq_ok {rounds : Nat} {source : HistoricalEventSource}
    {output : CopyRunOutput} (h : runCopyBacktest setup rounds source = .ok (some output)) :
    replayCopy setup rounds source = .ok (some (output.run, publishedPositions output.run)) ∧
      List.Forall₂ (fun state record => freezeCopyPosition setup output.run.desk state = .ok record)
        (publishedPositions output.run) output.records := by
  obtain ⟨replayed, hreplayed, h⟩ := bind_eq_ok.mp h
  cases replayed with
  | none => cases h
  | some result =>
    obtain ⟨run, positions⟩ := result
    obtain ⟨records, hrecords, h⟩ := bind_eq_ok.mp h
    cases h
    obtain ⟨expected, hexpected, hrest⟩ := bind_eq_ok.mp hreplayed
    obtain ⟨observations, hobservations, hrest⟩ := bind_eq_ok.mp hrest
    obtain ⟨looped, hlooped, hrest⟩ := bind_eq_ok.mp hrest
    cases looped with
    | none => cases hrest
    | some last =>
      obtain ⟨_, hrest⟩ := check_bind_eq_ok.mp hrest
      obtain ⟨_, hrest⟩ := check_bind_eq_ok.mp hrest
      cases hrest
      exact ⟨hreplayed, mapM_eq_ok hrecords⟩

end Freeze

/-! ## A small run

A launch and, one transaction later, the buy that is copied; the position is sold at the end of its
hold. -/

section Sample

/-- A clock that is long enough for the settlement path of a signal in its first block. -/
def copySampleClock : CompactTransactionClock where
  networkId := sampleNetwork
  positionSchemaId := BLOCK32_TRANSACTION32_POSITION_SCHEMA_ID
  blockOrdinals := [100, 101, 102, 103, 104, 105]
  transactionCounts := [1000, 1000, 1000, 1000, 1000, 1000]
  cumulativeTransactionPrefix := [0, 1000, 2000, 3000, 4000, 5000]
  blockTimeNs := [1700000000000000000, 1700000003000000000, 1700000006000000000,
    1700000009000000000, 1700000012000000000, 1700000015000000000]
  ordinals_ne := by decide
  counts_length := rfl
  times_length := rfl
  ordinals_sorted := by decide
  counts_le := by decide
  prefix_exact := by decide
  ends_le := by decide
  times_resolution := by decide
  times_sorted := by decide

/-- The wallet that is copied. -/
def copySampleWallet : String := "11111111111111111111111111111111"

def copySamplePolicy : CopyBuyPolicy where
  grossBuyBudgetAtomic := 1000000
  takeProfitBps := 1000
  stopLossBps := 10000
  maximumHoldSeconds := 1
  observationDelayTransactions := 0
  buyDelayTransactions := 1
  sellDelayTransactions := 1
  buySlippageBps := 10000
  sellSlippageBps := 10000
  budget_pos := Nat.succ_pos 999999
  profit_pos := Nat.succ_pos 999
  loss_pos := Nat.succ_pos 9999
  hold_pos := Nat.one_pos
  buy_delay_pos := Nat.one_pos
  sell_delay_pos := Nat.one_pos
  loss_le := Nat.le_refl 10000
  buy_slippage_le := Nat.le_refl 10000
  sell_slippage_le := Nat.le_refl 10000

def copySampleStrategy : PumpfunCopyBuyStrategy where
  signingWallets := [.address copySampleWallet]
  policy := copySamplePolicy
  bundleId := { hex := 1 }
  executionMode := .exogenousReplay
  quoteAssetId := SOLANA_NATIVE_ASSET_ID
  maximumConsumedMints := 4
  wallets_ne := by decide
  wallets_sorted := by simp
  maximum_pos := Nat.succ_pos 3
  mode_supported := sampleStrategy.mode_supported

def copySampleSetup : CopySetup where
  clock := copySampleClock
  strategy := copySampleStrategy
  protocol := sampleProtocol
  networkCosts := sampleCosts
  decisionRange := sampleConfig.decisionRange
  quoteAssetId := SOLANA_NATIVE_ASSET_ID
  initialQuoteBalanceAtomic := 100000000
  initialAccounts := ⟨.fresh, PUMPFUN_UVA_SCHEMA_ID, none, []⟩
  maximumEvents := 10
  maximumPositions := 4
  maximumDynamicItems := 12
  events_pos := Nat.succ_pos 9
  positions_pos := Nat.succ_pos 3
  items_pos := Nat.succ_pos 11

/-- The copied wallet buys in the transaction after the launch. -/
def copySampleTrade : VenueTradeEvent where
  envelope :=
    { sampleEvent.envelope with
      position := { samplePosition with
        transactionIndex := 1
        neg_one_le := by decide
        transaction_lt := by decide }
      transactionGroupId := { hex := 17 }
      canonicalEventId := { hex := 18 }
      stableCausalId := { hex := 19 }
      exact_indexed := by decide }
  venueId := sampleEvent.venueId
  soldAssetId := SOLANA_NATIVE_ASSET_ID
  boughtAssetId := sampleEvent.assetId
  protocolPayloadSchema := COPYBUY_TRADE_PAYLOAD_SCHEMA
  protocolPayload := encodeCopybuyTradePayload copySampleWallet sampleCurve
  assets_ne := by decide

def copySampleSource : HistoricalEventSource := ⟨[sampleLaunch, .venueTrade copySampleTrade], some 2⟩

/-- The curves after the launch. -/
def copySampleLaunched : Curves :=
  Dict.empty.set sampleEvent.venueId
    ⟨sampleEvent.assetId, sampleEvent.quoteAssetId, sampleCurve, some sampleCurve, some 1700000000⟩

/-- The signal of the copied buy. -/
def copySampleSignal : CopyBuySignal where
  eventId := copySampleTrade.envelope.canonicalEventId
  position := copySampleTrade.envelope.position
  signingWallet := .address copySampleWallet
  assetId := sampleEvent.assetId
  venueId := sampleEvent.venueId
  quoteAssetId := SOLANA_NATIVE_ASSET_ID
  indexed := by decide
  assets_ne := by decide

theorem applyGroup_copySampleLaunch :
    copySampleSetup.protocol.applyGroup Dict.empty [sampleLaunch] 1700000000
      = .ok (copySampleLaunched, []) := by
  have hpayload : sampleEvent.protocolPayload = encodeState sampleCurve := by
    rw [sampleEvent]
  have hdecode : decodeState sampleEvent.protocolPayload = .ok sampleCurve := by
    rw [hpayload, decodeState_encodeState]
  have hevent := @applyEvent_launch copySampleSetup.protocol Dict.empty [] sampleEvent
    sampleCurve 1700000000 rfl rfl rfl rfl rfl rfl hdecode rfl
  have hcopied : [sampleLaunch].mapM copySampleSetup.protocol.copyEvent
      = .ok [(CanonicalEvent.tokenLaunch sampleEvent, none)] := rfl
  rw [PumpfunSnipingProtocolRuntime.applyGroup, hcopied, ok_bind, List.map_singleton,
    PumpfunSnipingProtocolRuntime.applyHistoricalGroup, refuseIf_of_not (by simp), ok_bind,
    List.foldlM_cons, hevent]
  exact Eq.refl _

theorem applyGroup_copySampleTrade :
    copySampleSetup.protocol.applyGroup copySampleLaunched [.venueTrade copySampleTrade] 1700000000
      = .ok (copySampleLaunched, [copySampleSignal]) := by
  have hpayload : copySampleTrade.protocolPayload
      = encodeCopybuyTradePayload copySampleWallet sampleCurve := by
    rw [copySampleTrade]
  have hcopied : [CanonicalEvent.venueTrade copySampleTrade].mapM copySampleSetup.protocol.copyEvent
      = .ok [(.venueTrade { copySampleTrade with
          protocolPayloadSchema := PUMPFUN_TRADE_PAYLOAD_SCHEMA_ID
          protocolPayload := encodeState sampleCurve }, some copySampleSignal)] := by
    have hall : copySampleWallet.toList.all Source.BASE58_ALPHABET.contains = true := by
      decide
    have hletters : ∀ c ∈ copySampleWallet.toList, c ∈ Source.BASE58_ALPHABET := fun c hc =>
      List.contains_iff_mem.mp (List.all_eq_true.mp hall c hc)
    have hwidth : Source.base58Width copySampleWallet.toList = 32 := by decide
    have hdecode := decodeCopybuyTradePayload_encode sampleCurve hletters hwidth
    rewrite [List.mapM_cons, PumpfunSnipingProtocolRuntime.copyEvent, hpayload, hdecode]
    exact Eq.refl _
  have hevent : copySampleSetup.protocol.applyEvent 1700000000 (copySampleLaunched, [])
      (.venueTrade { copySampleTrade with
        protocolPayloadSchema := PUMPFUN_TRADE_PAYLOAD_SCHEMA_ID
        protocolPayload := encodeState sampleCurve }) = .ok (copySampleLaunched, []) := by
    have happly : PumpfunSnipingProtocolRuntime.applyTrade 1700000000 copySampleLaunched
        { copySampleTrade with
          protocolPayloadSchema := PUMPFUN_TRADE_PAYLOAD_SCHEMA_ID
          protocolPayload := encodeState sampleCurve } = .ok copySampleLaunched := by
      rewrite [PumpfunSnipingProtocolRuntime.applyTrade, decodeState_encodeState]
      exact Eq.refl _
    rewrite [PumpfunSnipingProtocolRuntime.applyEvent]
    simp only [happly]
    exact Eq.refl _
  rewrite [PumpfunSnipingProtocolRuntime.applyGroup, hcopied, ok_bind, List.map_singleton,
    PumpfunSnipingProtocolRuntime.applyHistoricalGroup, refuseIf_of_not (by simp), ok_bind,
    List.foldlM_cons, hevent]
  exact Eq.refl _

theorem copyEventGroups_sample :
    copyEventGroups copySampleSetup.clock copySampleSource.events = ⟨[[sampleLaunch], [.venueTrade copySampleTrade]], none⟩ := by
  have hbounded : boundedEvents none 0 copySampleSource.events
      = (copySampleSource.events, false) := rfl
  have hlaunch : admitEvent copySampleSetup.clock none sampleLaunch = .ok () := by decide
  have htrade : admitEvent copySampleSetup.clock (some sampleLaunch) (.venueTrade copySampleTrade)
      = .ok () := by decide
  have hother : ¬ sameGroup (.venueTrade copySampleTrade) sampleLaunch := by decide
  have hgroups : eventGroups copySampleSetup.clock copySampleSource.events
      = ⟨[[sampleLaunch], [.venueTrade copySampleTrade]], none⟩ := by
    rw [show copySampleSource.events = [sampleLaunch, .venueTrade copySampleTrade] from rfl,
      eventGroups, hlaunch]
    simp only [eventGroupsFrom, htrade, if_neg hother]
  rw [copyEventGroups, hbounded, hgroups]

attribute [local instance] sampleDigest

theorem groupSeconds_sampleLaunch :
    groupSeconds copySampleSetup.clock sampleLaunch = .ok 1700000000 := by
  decide

theorem groupSeconds_copySampleTrade :
    groupSeconds copySampleSetup.clock (.venueTrade copySampleTrade) = .ok 1700000000 := by
  decide

theorem validateGroup_sampleLaunch :
    validateGroup copySampleSetup (0, Dict.empty) [sampleLaunch] = .ok (1, copySampleLaunched) := by
  rewrite [validateGroup, refuseIf_of_not (by decide), ok_bind, groupSeconds_sampleLaunch,
    ok_bind, applyGroup_copySampleLaunch]
  exact Eq.refl _

theorem validateGroup_copySampleTrade :
    validateGroup copySampleSetup (1, copySampleLaunched) [.venueTrade copySampleTrade]
      = .ok (2, copySampleLaunched) := by
  have hsignal : [copySampleSignal].forM (validateSignal copySampleSetup) = .ok () := by
    decide
  rewrite [validateGroup, refuseIf_of_not (by decide), ok_bind, groupSeconds_copySampleTrade,
    ok_bind, applyGroup_copySampleTrade]
  simp only [ok_bind, hsignal]
  exact Eq.refl _

theorem validateCopyReplay_sample :
    validateCopyReplay copySampleSetup copySampleSource = .ok (2, 2) := by
  have hfold : [[sampleLaunch], [.venueTrade copySampleTrade]].foldlM
      (validateGroup copySampleSetup) (0, Dict.empty) = .ok (2, copySampleLaunched) := by
    rw [List.foldlM_cons, validateGroup_sampleLaunch, ok_bind, List.foldlM_cons,
      validateGroup_copySampleTrade, ok_bind, List.foldlM_nil]
    rfl
  rewrite [validateCopyReplay, refuseIf_of_not (by decide), ok_bind, copyEventGroups_sample]
  simp only [hfold, ok_bind]
  rw [refuseIf_of_not (by decide), ok_bind]
  rfl

/-- A run of the sample with these curves and counts, and no position. -/
def copySampleAt (historical observed : Curves) (counts : CopyCounts) : CopyRun :=
  { openingCopyRun copySampleSetup with
    desk := { (openingCopyRun copySampleSetup).desk with
      historical := historical
      observed := observed }
    counts := counts }

theorem applyHistory_sample {first : CanonicalEvent} {historical curves : Curves} (observed : Curves)
    (counts : CopyCounts) {signals : List CopyBuySignal} (later : List (List CanonicalEvent))
    (observations : List Delivery)
    (hseconds : groupSeconds copySampleSetup.clock first = .ok 1700000000)
    (happly : copySampleSetup.protocol.applyGroup historical [first] 1700000000
      = .ok (curves, signals)) :
    applyHistory copySampleSetup first.boundaryOrdinal ⟨[first] :: later, observations⟩
        (copySampleAt historical observed counts)
      = .ok (⟨later, observations⟩, copySampleAt curves observed
        { counts with events := counts.events + 1, groups := counts.groups + 1 }) := by
  simp only [applyHistory, if_true, hseconds, ok_bind]
  rewrite [show (copySampleAt historical observed counts).desk.historical = historical from rfl,
    happly]
  exact Eq.refl _

theorem applyObservation_sample {first : CanonicalEvent} {observed curves : Curves}
    (historical : Curves) (counts : CopyCounts) {signals : List CopyBuySignal}
    (history : List (List CanonicalEvent)) (later : List Delivery)
    (hseconds : groupSeconds copySampleSetup.clock first = .ok 1700000000)
    (happly : copySampleSetup.protocol.applyGroup observed [first] 1700000000
      = .ok (curves, signals)) :
    applyObservation copySampleSetup first.boundaryOrdinal
        ⟨history, ⟨first.boundaryOrdinal, [first]⟩ :: later⟩
        (copySampleAt historical observed counts)
      = .ok (⟨history, later⟩, copySampleAt historical curves
        { counts with
          delivered := counts.delivered + 1
          observedEvents := counts.observedEvents + 1 },
        [⟨first.boundaryOrdinal, first.envelope.transactionGroupId, .market [first] signals⟩]) := by
  simp only [applyObservation, if_true, hseconds, ok_bind]
  rewrite [show (copySampleAt historical observed counts).desk.observed = observed from rfl, happly]
  exact Eq.refl _

theorem deliveries_sample : deliveries copySampleSetup.clock 0
    [[sampleLaunch], [.venueTrade copySampleTrade]]
      = .ok [⟨sampleLaunch.boundaryOrdinal, [sampleLaunch]⟩,
        ⟨(CanonicalEvent.venueTrade copySampleTrade).boundaryOrdinal,
          [.venueTrade copySampleTrade]⟩] := by
  rfl

/-- The launch of the sample is applied and observed. -/
theorem processCopyBoundary_sampleLaunch (history : List (List CanonicalEvent))
    (observations : List Delivery) :
    processCopyBoundary copySampleSetup sampleLaunch.boundaryOrdinal
      ⟨[sampleLaunch] :: history, ⟨sampleLaunch.boundaryOrdinal, [sampleLaunch]⟩ :: observations⟩
      (openingCopyRun copySampleSetup)
      = .ok (⟨history, observations⟩, copySampleAt copySampleLaunched copySampleLaunched
        ⟨1, 1, 1, 1⟩) := by
  have hposition : ChainPosition.fromBoundaryOrdinal copySampleSetup.clock.networkId
      copySampleSetup.clock.positionSchemaId sampleLaunch.boundaryOrdinal
      = .ok (boundaryPosition sampleLaunch) := by decide
  rewrite [processCopyBoundary, hposition, ok_bind,
    show openingCopyRun copySampleSetup = copySampleAt Dict.empty Dict.empty {} from rfl,
    applyHistory_sample Dict.empty {} history _ groupSeconds_sampleLaunch
      applyGroup_copySampleLaunch, ok_bind]
  simp only []
  rewrite [applyObservation_sample copySampleLaunched _ history observations
    groupSeconds_sampleLaunch applyGroup_copySampleLaunch, ok_bind]
  exact Eq.refl _

/-- The sample copies one buy, sells it at the end of its hold and completes. -/
theorem copySampleRun :
    ((runCopyBacktest copySampleSetup 8 copySampleSource).toOption.join.map
      fun output => output.records.map fun r => r.status) = some [.closed] := by
  have hnext : nextCopyBoundary ⟨[[sampleLaunch], [.venueTrade copySampleTrade]],
      [⟨sampleLaunch.boundaryOrdinal, [sampleLaunch]⟩,
        ⟨(CanonicalEvent.venueTrade copySampleTrade).boundaryOrdinal,
          [.venueTrade copySampleTrade]⟩]⟩ [] = some sampleLaunch.boundaryOrdinal := by
    decide
  have hthen : nextCopyBoundary ⟨[[.venueTrade copySampleTrade]],
      [⟨(CanonicalEvent.venueTrade copySampleTrade).boundaryOrdinal,
        [.venueTrade copySampleTrade]⟩]⟩ []
      = some (CanonicalEvent.venueTrade copySampleTrade).boundaryOrdinal := by
    decide
  have hposition : ChainPosition.fromBoundaryOrdinal copySampleSetup.clock.networkId
      copySampleSetup.clock.positionSchemaId
        (CanonicalEvent.venueTrade copySampleTrade).boundaryOrdinal
      = .ok (boundaryPosition (.venueTrade copySampleTrade)) := by decide
  have hscheduled : (openingCopyRun copySampleSetup).scheduled = [] := rfl
  have hstill : (copySampleAt copySampleLaunched copySampleLaunched ⟨1, 1, 1, 1⟩).scheduled = [] :=
    rfl
  rewrite [runCopyBacktest, replayCopy, validateCopyReplay_sample, ok_bind,
    copyEventGroups_sample,
    show copySampleSetup.strategy.policy.observationDelayTransactions = 0 from rfl]
  dsimp only
  rewrite [deliveries_sample, ok_bind]
  rewrite [copyLoop, hscheduled]
  simp only [hnext]
  rewrite [processCopyBoundary_sampleLaunch, ok_bind]
  simp only []
  rewrite [copyLoop, hstill]
  simp only [hthen]
  rewrite [processCopyBoundary, hposition, ok_bind,
    applyHistory_sample copySampleLaunched _ [] _ groupSeconds_copySampleTrade
      applyGroup_copySampleTrade, ok_bind]
  simp only []
  rewrite [applyObservation_sample copySampleLaunched _ [] [] groupSeconds_copySampleTrade
    applyGroup_copySampleTrade, ok_bind]
  decide

theorem runCopyBacktest_sample :
    ∃ output, runCopyBacktest copySampleSetup 8 copySampleSource = .ok (some output) ∧
      output.records.map (fun r => r.status) = [.closed] := by
  have h := copySampleRun
  cases hrun : runCopyBacktest copySampleSetup 8 copySampleSource with
  | error e =>
    rw [hrun] at h
    cases h
  | ok result =>
    cases result with
    | none =>
      rw [hrun] at h
      cases h
    | some output =>
      rw [hrun] at h
      exact ⟨output, rfl, Option.some.inj h⟩

end Sample

end OnchainBacktest
