import OnchainBacktest.Engine.CopyState
import OnchainBacktest.Engine.SnipingOrders
import OnchainBacktest.Plugins.PumpfunCopyBuy

/-!
# Order execution of a copy run

The executor of copy orders: one sequential wallet, two independent sets of curves (the history an
order lands in, and what has been observed of it), and the streams an order writes.

Reservations and settlements are those of the sniping engine; the executor gives their postings the
identity of the copy order they belong to (`copyTransaction`).  An order is rejected for free before
its submission, and pays its network fee once it lands.
-/

set_option autoImplicit false

namespace OnchainBacktest

open Checked

/-- A rejection before submission is distinct from a failed landing, which pays a network fee. -/
inductive CopyAttemptStatus
  | created
  | submitted
  | rejected
  | failed
  | filled
  deriving DecidableEq, Repr

/-- One decision and its landing; a position has at most five of these. -/
structure CopyOrderAttempt where
  orderId : ContentDigest
  side : ProtocolQuoteSide
  number : Nat
  decision : ChainPosition
  expectedLanding : ChainPosition
  status : CopyAttemptStatus := .created
  landedAt : Option ChainPosition := none
  reference : Option ProtocolQuote := none
  landingQuote : Option ProtocolQuote := none
  minimumOutAtomic : Nat := 0
  network : Option NetworkCostQuote := none
  failureCode : Option String := none
  deriving DecidableEq

/-- Where the control of an attempt's position is told of it. -/
def CopyOrderAttempt.notifiedAt (attempt : CopyOrderAttempt) : ChainPosition :=
  attempt.landedAt.getD attempt.decision

/-- Control, attempts and account records of one position. -/
structure CopyExecutionPosition where
  intent : CopyBuyIntent
  control : CopyPositionControl
  attempts : List CopyOrderAttempt
  accountPlan : Option AccountReservationPlan
  accountComponents : List AccountComponentRecord
  deriving DecidableEq

/-- The position an intent starts as. -/
def CopyExecutionPosition.start (intent : CopyBuyIntent) : CopyExecutionPosition where
  intent := intent
  control :=
    { positionId := intent.roundtripId
      assetId := intent.assetId
      buyDecisionPosition := intent.decisionPosition
      policy := intent.policy }
  attempts := []
  accountPlan := none
  accountComponents := []

/-- A row of the audit stream. -/
structure CopyOrderAudit where
  phase : Nat
  positionId : ContentDigest
  orderId : ContentDigest
  attempt : Nat
  side : ProtocolQuoteSide
  boundaryOrdinal : Nat
  status : CopyAttemptStatus
  failureCode : Option String
  deriving DecidableEq

/-- The resolved components of a copy run. -/
structure CopySetup where
  clock : CompactTransactionClock
  strategy : PumpfunCopyBuyStrategy
  protocol : PumpfunSnipingProtocolRuntime
  networkCosts : SolanaSnipingCostModel
  decisionRange : BlockRange
  quoteAssetId : AssetId
  initialQuoteBalanceAtomic : Nat
  initialAccounts : WalletProvisioningState
  maximumEvents : Nat
  maximumPositions : Nat
  maximumDynamicItems : Nat
  events_pos : 0 < maximumEvents
  positions_pos : 0 < maximumPositions
  items_pos : 0 < maximumDynamicItems

/-- What the orders of a run work at. -/
structure CopyDesk where
  historical : Curves
  observed : Curves
  portfolio : PortfolioState
  accounts : WalletProvisioningState
  cashflows : CorrelatedLedgerCashflows
  ledger : List LedgerTransaction
  audit : List CopyOrderAudit
  fills : List Fill

/-- The desk and the position after an order was worked on. -/
structure CopyHandled where
  desk : CopyDesk
  state : CopyExecutionPosition

section Identities

variable [DomainDigest]

/-- The identity of an order: the position, the side and the ordinal of the attempt. -/
def copyOrderId (positionId : ContentDigest) (side : ProtocolQuoteSide) (number : Nat) :
    ContentDigest :=
  plainDigest "backtest.pumpfun-copy-order.v1"
    [("position_id", .text positionId.spelling), ("side", .text side.value),
      ("attempt", .integer number)]

/-- `_transaction`: postings under the identity of a copy order. -/
def copyTransaction (state : CopyExecutionPosition) (attempt : CopyOrderAttempt) (boundary : Nat)
    (operation : String) (postings : List Posting) : Except Fault LedgerTransaction :=
  LedgerTransaction.make
    (plainDigest "backtest.pumpfun-copy-ledger.v1"
      [("order_id", .text attempt.orderId.spelling), ("boundary", .integer boundary),
        ("operation", .text operation)])
    .roundtrip state.intent.roundtripId boundary postings ("COPY_" ++ operation)

end Identities

/-- `reason.removeprefix("SNIPING_")`. -/
def removeSnipingPrefix (reason : String) : String :=
  if "SNIPING_".toList.isPrefixOf reason.toList then
    String.ofList (reason.toList.drop "SNIPING_".length)
  else reason

/-- `_copy_fill`. -/
def copyFill (state : CopyExecutionPosition) (attempt : CopyOrderAttempt) (quote : ProtocolQuote) :
    Except Fault Fill :=
  Fill.checked
    { orderId := attempt.orderId
      poolId := ⟨state.intent.venueId.value⟩
      soldAssetId := quote.inputAssetId
      boughtAssetId := quote.outputAssetId
      amountInAtomic := quote.amountInAtomic
      amountOutAtomic := quote.amountOutAtomic
      feeAmountAtomic := quote.protocolFeeAtomic + quote.creatorFeeAtomic
      boundaryOrdinal := attempt.expectedLanding.boundaryOrdinal }

section Executor

variable [DomainDigest] (setup : CopySetup)

/-- `_seconds`. -/
def copySeconds (position : ChainPosition) : Except Fault Nat := do
  let time ← setup.clock.blockTimeForPosition position
  .ok (time / 1000000000)

/-- `_new_attempt`. -/
def newAttempt (state : CopyExecutionPosition) (side : ProtocolQuoteSide) (number : Nat)
    (position : ChainPosition) : Except Fault CopyOrderAttempt := do
  let landing ← setup.clock.transactionAfter position
    (match side with
      | .buy => state.intent.policy.buyDelayTransactions
      | .sell => state.intent.policy.sellDelayTransactions)
  .ok
    { orderId := copyOrderId state.intent.roundtripId side number
      side := side
      number := number
      decision := position
      expectedLanding := landing }

/-- `_record_attempt`. -/
def recordAttempt (desk : CopyDesk) (state : CopyExecutionPosition)
    (attempt : CopyOrderAttempt) : CopyDesk :=
  { desk with audit := desk.audit ++
    [{ phase := if attempt.landedAt.isSome then 60 else 50
       positionId := state.intent.roundtripId
       orderId := attempt.orderId
       attempt := attempt.number
       side := attempt.side
       boundaryOrdinal := attempt.notifiedAt.boundaryOrdinal
       status := attempt.status
       failureCode := attempt.failureCode }] }

/-- `_commit`: portfolio, cashflows and ledger, and with a transition the accounts. -/
def copyCommit (desk : CopyDesk) (state : CopyExecutionPosition) (transaction : LedgerTransaction)
    (transition : Option AccountProvisioningTransition) : Except Fault CopyHandled := do
  let candidate ← desk.portfolio.preview transaction
  let cashflows ← desk.cashflows.append transaction
  let desk := { desk with
    portfolio := desk.portfolio.commit candidate
    cashflows := cashflows
    ledger := desk.ledger ++ [transaction] }
  match transition with
  | none => .ok ⟨desk, state⟩
  | some transition => .ok ⟨{ desk with accounts := transition.state },
      { state with accountComponents := transition.records }⟩

/-- Commit the postings of a settlement under the identity of their copy order. -/
def commitSettlement (desk : CopyDesk) (state : CopyExecutionPosition)
    (attempt : CopyOrderAttempt) (transaction : LedgerTransaction)
    (transition : Option AccountProvisioningTransition) : Except Fault CopyHandled := do
  let transaction ← copyTransaction state attempt transaction.boundaryOrdinal
    (removeSnipingPrefix transaction.reason) transaction.postings
  copyCommit desk state transaction transition

/-- `_notify`: the control hears of an attempt that was rejected or has landed. -/
def notifyControl (control : CopyPositionControl) (attempt : CopyOrderAttempt) (successful : Bool) :
    Except Fault CopyPositionControl :=
  match attempt.side, successful with
  | .buy, false => control.failBuy
  | .buy, true =>
    match attempt.landingQuote with
    | none => .error (.value "copy attempt has no successful landing quote")
    | some quote => control.fillBuy setup.clock attempt.notifiedAt quote.venueInputAtomic
        quote.amountOutAtomic
  | .sell, true => control.fillSell attempt.number attempt.notifiedAt
  | .sell, false =>
    control.failSell setup.clock attempt.number attempt.notifiedAt attempt.landedAt.isSome

/-- The last attempt of a position takes its final form. -/
def settleAttempt (desk : CopyDesk) (state : CopyExecutionPosition) (attempt : CopyOrderAttempt)
    (successful : Bool) : Except Fault CopyHandled := do
  let control ← notifyControl setup state.control attempt successful
  let state := { state with control := control, attempts := state.attempts ++ [attempt] }
  .ok ⟨recordAttempt desk state attempt, state⟩

/-- `_reject`: nothing is posted for an instruction that was never submitted. -/
def rejectAttempt (desk : CopyDesk) (state : CopyExecutionPosition) (attempt : CopyOrderAttempt)
    (code : String) : Except Fault CopyHandled :=
  settleAttempt setup desk state { attempt with status := .rejected, failureCode := some code } false

/-- `_submit`: reserve the spendable assets, or reject. -/
def submitAttempt (desk : CopyDesk) (state : CopyExecutionPosition) (attempt : CopyOrderAttempt)
    (amounts : AssetAmounts) : Except Fault CopyHandled :=
  if hasAvailable desk.portfolio amounts then do
    let transaction ← copyTransaction state attempt attempt.decision.boundaryOrdinal "RESERVATION"
      (reserveAmounts [] amounts)
    let handled ← copyCommit desk state transaction none
    let attempt := { attempt with status := .submitted }
    let state := { handled.state with attempts := handled.state.attempts ++ [attempt] }
    .ok ⟨recordAttempt handled.desk state attempt, state⟩
  else rejectAttempt setup desk state attempt "INSUFFICIENT_FUNDS"

/-! ## Entering -/

/-- The decision of an entry has to stand exactly where its signal is observed. -/
def requireObserved (intent : CopyBuyIntent) : Except Fault Unit := do
  let _ ← maximumSettlementPosition setup.clock intent.signal.position intent.policy
  let expected ← observedAt setup.clock intent.signal.position
    intent.policy.observationDelayTransactions
  refuseIf (expected.boundaryOrdinal ≠ intent.decisionPosition.boundaryOrdinal)
    (.value "copy decision does not match observation delay")

/-- The entry has a reference quote. -/
def submitBuyAttempt (desk : CopyDesk) (state : CopyExecutionPosition) (attempt : CopyOrderAttempt)
    (network : NetworkCostQuote) (plan : AccountReservationPlan) (reference : ProtocolQuote) :
    Except Fault CopyHandled := do
  validateBuyQuote state.intent.toPositionIntent reference
  let attempt := { attempt with
    reference := some reference
    minimumOutAtomic :=
      minimumOutputAtomic reference.amountOutAtomic state.intent.policy.buySlippageBps }
  submitAttempt setup desk state attempt
    (buyReservation state.intent.toPositionIntent network plan)

/-- `begin_buy`. -/
def beginBuy (desk : CopyDesk) (state : CopyExecutionPosition) : Except Fault CopyHandled := do
  refuseIf (state.attempts ≠ []) (.value "copy entry cannot be attempted again")
  let intent := state.intent
  requireObserved setup intent
  let attempt ← newAttempt setup state .buy 0 intent.decisionPosition
  let effectiveS ← copySeconds setup attempt.decision
  let requirements ← setup.protocol.accountRequirements desk.observed intent.toPositionIntent
  let network ← setup.networkCosts.quoteBuy effectiveS requirements
  let plan ← prepareAccountReservation desk.accounts intent.roundtripId intent.assetId
    network.accountRequirements
  let records ← unsubmittedAccountRecords desk.accounts plan
  let attempt := { attempt with network := some network }
  let state := { state with accountPlan := some plan, accountComponents := records }
  match ← expectRejection (setup.protocol.quoteBuy desk.observed intent.toPositionIntent
      effectiveS) with
  | .error code => rejectAttempt setup desk state attempt code
  | .ok reference => submitBuyAttempt setup desk state attempt network plan reference

/-! ## Exiting -/

/-- The exit has a reference quote. -/
def submitSellAttempt (desk : CopyDesk) (state : CopyExecutionPosition)
    (attempt : CopyOrderAttempt) (network : NetworkCostQuote) (reference : ProtocolQuote) :
    Except Fault CopyHandled := do
  validateSellQuote state.intent.toPositionIntent state.control.remainingTokensAtomic reference
  let attempt := { attempt with
    reference := some reference
    minimumOutAtomic :=
      minimumOutputAtomic reference.amountOutAtomic state.intent.policy.sellSlippageBps }
  submitAttempt setup desk state attempt
    (sellReservation state.intent.toPositionIntent state.control.remainingTokensAtomic network)

/-- `begin_sell`. -/
def beginSell (desk : CopyDesk) (state : CopyExecutionPosition) (position : ChainPosition) :
    Except Fault CopyHandled := do
  let (control, number) ← state.control.beginSell setup.clock position
  let state := { state with control := control }
  let attempt ← newAttempt setup state .sell number position
  let effectiveS ← copySeconds setup position
  let network ← setup.networkCosts.quoteSell effectiveS
  let attempt := { attempt with network := some network }
  match ← expectRejection (setup.protocol.quoteSell desk.observed state.intent.toPositionIntent
      control.remainingTokensAtomic effectiveS) with
  | .error code => rejectAttempt setup desk state attempt code
  | .ok reference => submitSellAttempt setup desk state attempt network reference

/-! ## Landing -/

/-- `_landing_quote`, and the minimum output it has to reach. -/
def landingAttempt (desk : CopyDesk) (state : CopyExecutionPosition) (attempt : CopyOrderAttempt)
    (position : ChainPosition) : Except Fault LandingAttempt := do
  let seconds ← copySeconds setup position
  let intent := state.intent.toPositionIntent
  let tokens := state.control.remainingTokensAtomic
  match attempt.side with
  | .buy =>
    attemptLanding (setup.protocol.quoteBuy desk.historical intent seconds)
      (validateBuyQuote intent) attempt.minimumOutAtomic
  | .sell =>
    attemptLanding (setup.protocol.quoteSell desk.historical intent tokens seconds)
      (validateSellQuote intent tokens) attempt.minimumOutAtomic

/-- The postings of a landing, and what they do to the accounts. -/
structure CopySettlement where
  transaction : LedgerTransaction
  transition : Option AccountProvisioningTransition

/-- `_buy_settlement`. -/
def copyBuySettlement (desk : CopyDesk) (state : CopyExecutionPosition) (attempt : CopyOrderAttempt)
    (network : NetworkCostQuote) (landing : LandingAttempt) : Except Fault CopySettlement :=
  match state.accountPlan with
  | none => .error (.value "submitted buy has no account reservation")
  | some plan =>
    match landing with
    | .rejected code _ => do
      let transition ← applyBuyAccountTransition desk.accounts plan false
      let transaction ← failedBuySettlement state.intent.toPositionIntent
        attempt.expectedLanding.boundaryOrdinal network plan
        SolanaSnipingCostModel.feeCollectorAccountId code
      .ok ⟨transaction, some transition⟩
    | .filled quote => do
      let transition ← applyBuyAccountTransition desk.accounts plan true
      let transaction ← successfulBuySettlement state.intent.toPositionIntent
        attempt.expectedLanding.boundaryOrdinal quote network plan transition
        SolanaSnipingCostModel.feeCollectorAccountId
      .ok ⟨transaction, some transition⟩

/-- `_sell_settlement`. -/
def copySellSettlement (desk : CopyDesk) (state : CopyExecutionPosition)
    (attempt : CopyOrderAttempt) (network : NetworkCostQuote) (landing : LandingAttempt) :
    Except Fault CopySettlement :=
  match landing with
  | .rejected code _ => do
    let transaction ← failedSellSettlement state.intent.toPositionIntent
      attempt.expectedLanding.boundaryOrdinal state.control.remainingTokensAtomic network
      SolanaSnipingCostModel.feeCollectorAccountId code
    .ok ⟨transaction, none⟩
  | .filled quote => do
    let transition ← applySellAccountTransition desk.accounts state.intent.roundtripId
      state.intent.assetId state.accountComponents true
    let transaction ← successfulSellSettlement state.intent.toPositionIntent
      attempt.expectedLanding.boundaryOrdinal quote network state.control.remainingTokensAtomic
      transition SolanaSnipingCostModel.feeCollectorAccountId
    .ok ⟨transaction, some transition⟩

/-- The settlement of an attempt, by its side. -/
def copySettlement (desk : CopyDesk) (state : CopyExecutionPosition) (attempt : CopyOrderAttempt)
    (network : NetworkCostQuote) (landing : LandingAttempt) : Except Fault CopySettlement :=
  match attempt.side with
  | .buy => copyBuySettlement desk state attempt network landing
  | .sell => copySellSettlement desk state attempt network landing

/-- The attempt once its landing is known. -/
def CopyOrderAttempt.landed (attempt : CopyOrderAttempt) (position : ChainPosition) :
    LandingAttempt → CopyOrderAttempt
  | .rejected code landing => { attempt with
      landedAt := some position
      landingQuote := landing
      failureCode := some code
      status := .failed }
  | .filled landing => { attempt with
      landedAt := some position
      landingQuote := some landing
      status := .filled }

/-- Settle a submitted attempt, which is the last one of its position. -/
def landAttempt (desk : CopyDesk) (state : CopyExecutionPosition) (earlier : List CopyOrderAttempt)
    (attempt : CopyOrderAttempt) (position : ChainPosition) : Except Fault CopyHandled := do
  refuseIf (attempt.status ≠ .submitted ∨ position ≠ attempt.expectedLanding)
    (.value "copy landing is stale or does not match its exact boundary")
  match attempt.network with
  | none => .error (.value "copy attempt has no network fee quote")
  | some network => do
    let landing ← landingAttempt setup desk state attempt position
    let settlement ← copySettlement desk state attempt network landing
    let handled ← commitSettlement desk state attempt settlement.transaction settlement.transition
    let landed := attempt.landed position landing
    match landing with
    | .rejected _ _ =>
      settleAttempt setup handled.desk { handled.state with attempts := earlier } landed false
    | .filled quote => do
      let settled ← settleAttempt setup handled.desk { handled.state with attempts := earlier }
        landed true
      let fill ← copyFill settled.state landed quote
      .ok ⟨{ settled.desk with fills := settled.desk.fills ++ [fill] }, settled.state⟩

/-- `land`: settle the one pending instruction at exactly its configured boundary. -/
def land (desk : CopyDesk) (state : CopyExecutionPosition) (position : ChainPosition) :
    Except Fault CopyHandled :=
  match state.attempts.getLast? with
  | none => .error (.value "copy landing is stale or does not match its exact boundary")
  | some attempt => landAttempt setup desk state state.attempts.dropLast attempt position

end Executor

end OnchainBacktest
