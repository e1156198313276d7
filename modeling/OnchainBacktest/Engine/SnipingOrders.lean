import OnchainBacktest.Engine.SnipingState

/-!
# The order handlers

The four actions on one round trip: a buy is accepted, a buy lands, a sell is decided, a sell
lands.  Each works at the desk, with the protocol as it stands at that boundary, and gives back the
desk and the round trip.

An expected rejection of a quote is a branch of the handler (`expectRejection`); every other fault
stops the run.
-/

set_option autoImplicit false

namespace OnchainBacktest

open Checked

/-- What an order can ask at one boundary. -/
structure Market where
  clock : CompactTransactionClock
  protocol : ProtocolView
  networkCosts : SolanaSnipingCostModel

/-- `except ProtocolExecutionRejected as error`: an expected rejection, as its code. -/
def expectRejection {α : Type} : Except Fault α → Except Fault (Except String α)
  | .ok value => .ok (.ok value)
  | .error (.executionRejected code) => .ok (.error code)
  | .error fault => .error fault

/-- What became of an order that reached the venue. -/
inductive LandingAttempt
  | rejected (code : String) (landing : Option ProtocolQuote)
  | filled (landing : ProtocolQuote)
  deriving DecidableEq

/-- The guarded part of a landing: the quote, its check and the minimum output. -/
def attemptLanding (quoted : Except Fault ProtocolQuote)
    (validate : ProtocolQuote → Except Fault Unit) (minimumOutAtomic : Nat) :
    Except Fault LandingAttempt := do
  match ← expectRejection quoted with
  | .error code => .ok (.rejected code none)
  | .ok landing => do
    validate landing
    if landing.amountOutAtomic < minimumOutAtomic then
      .ok (.rejected "MINIMUM_OUTPUT_NOT_MET" (some landing))
    else .ok (.filled landing)

/-- Desk and round trip after an action, and whether the order went through. -/
structure Handled (ρ : Type) where
  desk : Desk ρ
  state : RoundTripState
  succeeded : Bool
  deriving DecidableEq

section Handlers

variable [DomainDigest] {ρ : Type} (market : Market) (subject : ρ)

/-! ## Accepting a buy -/

/-- The reference quote was rejected: nothing is submitted. -/
def rejectBuyReference (desk : Desk ρ) (state : RoundTripState) (intent : RoundTripIntent)
    (accountPlan : AccountReservationPlan) (code : String) : Except Fault (Handled ρ) := do
  let records ← unsubmittedAccountRecords desk.accounts accountPlan
  .ok ⟨desk.audit (.buyReferenceRejected intent.createdBoundaryOrdinal intent.roundtripId code),
    state.buyReferenceRejected code records, false⟩

/-- The available balances do not cover the order: nothing is submitted. -/
def rejectBuyFunds (desk : Desk ρ) (state : RoundTripState) (intent : RoundTripIntent)
    (accountPlan : AccountReservationPlan) : Except Fault (Handled ρ) := do
  let records ← unsubmittedAccountRecords desk.accounts accountPlan
  .ok ⟨desk.audit (.buyPreSubmitRejected intent.createdBoundaryOrdinal intent.roundtripId),
    state.buyPreSubmitRejected records, false⟩

/-- The order is reserved and its landing scheduled. -/
def reserveAndScheduleBuy (desk : Desk ρ) (state : RoundTripState) (intent : RoundTripIntent)
    (network : NetworkCostQuote) (accountPlan : AccountReservationPlan)
    (landing : ChainPosition) : Except Fault (Handled ρ) := do
  let transaction ← reserveBuy intent network accountPlan
  let desk ← desk.applyTransaction transaction
  let desk ← desk.schedule landing .buyLanding intent.createdBoundaryOrdinal intent.roundtripId
    subject
  .ok ⟨desk.audit (.buyAcceptedAndReserved intent.createdBoundaryOrdinal intent.roundtripId
      landing.boundaryOrdinal (buyReservation intent.toPositionIntent network accountPlan)),
    state, true⟩

/-- The order has a reference quote. -/
def submitBuy (desk : Desk ρ) (state : RoundTripState) (intent : RoundTripIntent)
    (network : NetworkCostQuote) (accountPlan : AccountReservationPlan)
    (reference : ProtocolQuote) : Except Fault (Handled ρ) := do
  validateBuyQuote intent.toPositionIntent reference
  let state := state.buyReferenced reference
    (minimumOutputAtomic reference.amountOutAtomic intent.buySlippageBps)
  let landing ← market.clock.transactionAfter intent.targetPosition intent.buyDelayTransactions
  if hasAvailable desk.portfolio (buyReservation intent.toPositionIntent network accountPlan) then
    reserveAndScheduleBuy subject desk state intent network accountPlan landing
  else rejectBuyFunds desk state intent accountPlan

/-- `_accept_buy`. -/
def acceptBuy (desk : Desk ρ) (state : RoundTripState) : Except Fault (Handled ρ) := do
  let intent ← requirePart state.intent
  let effectiveS := state.targetTimeNs / 1000000000
  let requirements ← market.protocol.accountRequirements intent
  let network ← market.networkCosts.quoteBuy effectiveS requirements
  let accountPlan ← prepareAccountReservation desk.accounts intent.roundtripId intent.assetId
    network.accountRequirements
  let state := state.buyPriced network accountPlan
  match ← expectRejection (market.protocol.quoteBuy intent.toPositionIntent effectiveS) with
  | .error code => rejectBuyReference desk state intent accountPlan code
  | .ok reference => submitBuy market subject desk state intent network accountPlan reference

/-! ## Landing a buy -/

/-- The landing came to nothing: the network fee is charged, the rest released. -/
def failBuy (desk : Desk ρ) (state : RoundTripState) (position : ChainPosition)
    (intent : RoundTripIntent) (network : NetworkCostQuote) (accountPlan : AccountReservationPlan)
    (code : String) (landing : Option ProtocolQuote) : Except Fault (Handled ρ) := do
  let transition ← applyBuyAccountTransition desk.accounts accountPlan false
  let transaction ← failedBuySettlement intent.toPositionIntent position.boundaryOrdinal network
    accountPlan SolanaSnipingCostModel.feeCollectorAccountId code
  let desk ← desk.applyTransactionWithAccounts transaction transition
  .ok ⟨desk.audit (.buyLandedFailedNetworkFeeCharged position.boundaryOrdinal intent.roundtripId
      code),
    state.buyLandedFailed position landing code transition.records, false⟩

/-- The buy is settled and the sell decision scheduled. -/
def fillBuy (desk : Desk ρ) (state : RoundTripState) (position : ChainPosition)
    (intent : RoundTripIntent) (network : NetworkCostQuote) (accountPlan : AccountReservationPlan)
    (landing : ProtocolQuote) : Except Fault (Handled ρ) := do
  let transition ← applyBuyAccountTransition desk.accounts accountPlan true
  let transaction ← successfulBuySettlement intent.toPositionIntent position.boundaryOrdinal
    landing network accountPlan transition SolanaSnipingCostModel.feeCollectorAccountId
  let desk ← desk.applyTransactionWithAccounts transaction transition
  let fill ← fillOf intent.toPositionIntent .buy landing position.boundaryOrdinal
  let desk := { desk with recorder := desk.recorder.appendFill fill }
  let fillTimeNs ← market.clock.blockTimeForPosition position
  let decisionPosition ← market.clock.firstNonemptyTransactionAtOrAfter position
    (fillTimeNs + intent.sellDecisionDelayNs)
  let desk ← desk.schedule decisionPosition .sellDecision position.boundaryOrdinal
    intent.roundtripId subject
  .ok ⟨desk.audit (.buyFilled position.boundaryOrdinal intent.roundtripId
      decisionPosition.boundaryOrdinal),
    state.buyFilled position landing transition.records, true⟩

/-- `_land_buy`, once the parts of the order are at hand. -/
def landBuyOrder (desk : Desk ρ) (state : RoundTripState) (position : ChainPosition) :
    Except Fault (Handled ρ) := do
  let intent ← requirePart state.intent
  let network ← requirePart state.buyNetworkCost
  let accountPlan ← requirePart state.accountReservation
  let effectiveS := (← market.clock.blockTimeForPosition position) / 1000000000
  match ← attemptLanding (market.protocol.quoteBuy intent.toPositionIntent effectiveS)
      (validateBuyQuote intent.toPositionIntent) state.buyMinimumOutAtomic with
  | .rejected code landing => failBuy desk state position intent network accountPlan code landing
  | .filled landing => fillBuy market subject desk state position intent network accountPlan landing

/-- `_land_buy`. -/
def landBuy (desk : Desk ρ) (state : RoundTripState) (position : ChainPosition) :
    Except Fault (Handled ρ) := do
  let _ ← requirePart state.buyReference
  landBuyOrder market subject desk state position

/-! ## Deciding a sell -/

/-- The available balances do not cover the network fee of the sell. -/
def rejectSellFunds (desk : Desk ρ) (state : RoundTripState) (position : ChainPosition)
    (intent : RoundTripIntent) : Handled ρ :=
  ⟨desk.audit (.sellPreSubmitRejected position.boundaryOrdinal intent.roundtripId),
    state.sellPreSubmitRejected, false⟩

/-- The sell is reserved and its landing scheduled. -/
def reserveAndScheduleSell (desk : Desk ρ) (state : RoundTripState) (position : ChainPosition)
    (intent : RoundTripIntent) (network : NetworkCostQuote) (landing : ChainPosition) :
    Except Fault (Handled ρ) := do
  let transaction ← reserveSell intent.toPositionIntent state.acquiredTokenAmountAtomic network
    position.boundaryOrdinal
  let desk ← desk.applyTransaction transaction
  let desk ← desk.schedule landing .sellLanding position.boundaryOrdinal intent.roundtripId subject
  .ok ⟨desk.audit (.sellAcceptedAndReserved position.boundaryOrdinal intent.roundtripId
      landing.boundaryOrdinal), state, true⟩

/-- The order has a reference quote. -/
def submitSell (desk : Desk ρ) (state : RoundTripState) (position : ChainPosition)
    (intent : RoundTripIntent) (effectiveS : Nat) (reference : ProtocolQuote) :
    Except Fault (Handled ρ) := do
  validateSellQuote intent.toPositionIntent state.acquiredTokenAmountAtomic reference
  let landing ← market.clock.transactionAfter position intent.sellDelayTransactions
  let network ← market.networkCosts.quoteSell effectiveS
  let state := state.sellReferenced position reference
    (minimumOutputAtomic reference.amountOutAtomic intent.sellSlippageBps) network
  refuseIf (desk.portfolio.available intent.assetId < state.acquiredTokenAmountAtomic)
    (.snipingEngine .portfolioInvariant)
  if hasAvailable desk.portfolio
      (sellReservation intent.toPositionIntent state.acquiredTokenAmountAtomic network) then
    reserveAndScheduleSell subject desk state position intent network landing
  else .ok (rejectSellFunds desk state position intent)

/-- `_decide_sell`. -/
def decideSell (desk : Desk ρ) (state : RoundTripState) (position : ChainPosition) :
    Except Fault (Handled ρ) := do
  let intent ← requirePart state.intent
  refuseIf (state.acquiredTokenAmountAtomic = 0 ∨ state.terminal = true)
    (.snipingEngine .internalStateInvalid)
  let effectiveS := (← market.clock.blockTimeForPosition position) / 1000000000
  match ← expectRejection (market.protocol.quoteSell intent.toPositionIntent
      state.acquiredTokenAmountAtomic effectiveS) with
  | .error code =>
    .ok ⟨desk.audit (.sellReferenceUnavailable position.boundaryOrdinal intent.roundtripId code),
      state.sellReferenceUnavailable position code, false⟩
  | .ok reference => submitSell market subject desk state position intent effectiveS reference

/-! ## Landing a sell -/

/-- The landing came to nothing: the network fee is charged, the tokens released. -/
def failSell (desk : Desk ρ) (state : RoundTripState) (position : ChainPosition)
    (intent : RoundTripIntent) (network : NetworkCostQuote) (code : String)
    (landing : Option ProtocolQuote) : Except Fault (Handled ρ) := do
  let transaction ← failedSellSettlement intent.toPositionIntent position.boundaryOrdinal
    state.acquiredTokenAmountAtomic network SolanaSnipingCostModel.feeCollectorAccountId code
  let desk ← desk.applyTransaction transaction
  .ok ⟨desk.audit (.sellLandedFailedNetworkFeeCharged position.boundaryOrdinal intent.roundtripId
      code),
    state.sellLandedFailed position landing code, false⟩

/-- The sell is settled and the mint account closed. -/
def fillSell (desk : Desk ρ) (state : RoundTripState) (position : ChainPosition)
    (intent : RoundTripIntent) (network : NetworkCostQuote) (landing : ProtocolQuote) :
    Except Fault (Handled ρ) := do
  let transition ← applySellAccountTransition desk.accounts intent.roundtripId intent.assetId
    state.accountComponents true
  let transaction ← successfulSellSettlement intent.toPositionIntent position.boundaryOrdinal
    landing network state.acquiredTokenAmountAtomic transition
    SolanaSnipingCostModel.feeCollectorAccountId
  let desk ← desk.applyTransactionWithAccounts transaction transition
  let fill ← fillOf intent.toPositionIntent .sell landing position.boundaryOrdinal
  let desk := { desk with recorder := desk.recorder.appendFill fill }
  .ok ⟨desk.audit (.sellFilledAndAccountClosed position.boundaryOrdinal intent.roundtripId
      (desk.recorder.cashflows.amount intent.roundtripId intent.quoteAssetId)),
    state.sellFilled position landing transition.records, true⟩

/-- `_land_sell`, once the parts of the order are at hand. -/
def landSellOrder (desk : Desk ρ) (state : RoundTripState) (position : ChainPosition) :
    Except Fault (Handled ρ) := do
  let intent ← requirePart state.intent
  let network ← requirePart state.sellNetworkCost
  let effectiveS := (← market.clock.blockTimeForPosition position) / 1000000000
  match ← attemptLanding (market.protocol.quoteSell intent.toPositionIntent
        state.acquiredTokenAmountAtomic effectiveS)
      (validateSellQuote intent.toPositionIntent state.acquiredTokenAmountAtomic)
      state.sellMinimumOutAtomic with
  | .rejected code landing => failSell desk state position intent network code landing
  | .filled landing => fillSell desk state position intent network landing

/-- `_land_sell`. -/
def landSell (desk : Desk ρ) (state : RoundTripState) (position : ChainPosition) :
    Except Fault (Handled ρ) := do
  let _ ← requirePart state.sellReference
  landSellOrder market desk state position

end Handlers

end OnchainBacktest
