import OnchainBacktest.Domain.RoundTrips
import OnchainBacktest.Engine.Settlement
import OnchainBacktest.Engine.TransactionClock
import OnchainBacktest.Plugins.SolanaCosts

/-!
# What a sniping run holds

The state of one round trip, the schedule of the actions that are still to come, the recorder of
what the run has written, and the desk that an order works at: portfolio, wallet accounts,
recorder and schedule together.

The two engines name a round trip differently, by its identity or by its row, so the schedule is
generic in what an action refers to.

A round trip is changed in eleven ways, each of them a function here
(`RoundTripState.buyFilled`, …); the order handlers do nothing else to it.
-/

set_option autoImplicit false

namespace OnchainBacktest

open Checked

/-! ## The schedule -/

/-- `_BuyLanding`, `_SellDecision` and `_SellLanding`. -/
inductive ActionKind
  | sellDecision
  | buyLanding
  | sellLanding
  deriving DecidableEq, Repr

/-- The phase of a boundary an action runs in. -/
def ActionKind.phase : ActionKind → Nat
  | sellDecision => 40
  | buyLanding => 60
  | sellLanding => 60

/-- The name an action is hashed under. -/
def ActionKind.name : ActionKind → String
  | sellDecision => "sell-decision"
  | buyLanding => "buy-landing"
  | sellLanding => "sell-landing"

structure ScheduledAction (ρ : Type) where
  releaseBoundaryOrdinal : Nat
  phase : Nat
  creatorBoundaryOrdinal : Nat
  stableCausalId : ContentDigest
  kind : ActionKind
  subject : ρ
  deriving DecidableEq

/-- The order of the heap. -/
def scheduledActionLe {ρ : Type} (a b : ScheduledAction ρ) : Prop :=
  toLex (a.releaseBoundaryOrdinal, toLex (a.phase,
      toLex (a.creatorBoundaryOrdinal, a.stableCausalId.hex.val)))
    ≤ toLex (b.releaseBoundaryOrdinal, toLex (b.phase,
      toLex (b.creatorBoundaryOrdinal, b.stableCausalId.hex.val)))

instance {ρ : Type} : DecidableRel (scheduledActionLe (ρ := ρ)) :=
  fun a b => inferInstanceAs (Decidable (toLex (a.releaseBoundaryOrdinal, toLex (a.phase,
      toLex (a.creatorBoundaryOrdinal, a.stableCausalId.hex.val)))
    ≤ toLex (b.releaseBoundaryOrdinal, toLex (b.phase,
      toLex (b.creatorBoundaryOrdinal, b.stableCausalId.hex.val)))))

section Order

variable {ρ : Type}

/-- The order of the heap is first of all the order of the release boundaries. -/
theorem scheduledActionLe_iff {a b : ScheduledAction ρ} :
    scheduledActionLe a b ↔ a.releaseBoundaryOrdinal < b.releaseBoundaryOrdinal ∨
      a.releaseBoundaryOrdinal = b.releaseBoundaryOrdinal ∧ (a.phase < b.phase ∨
        a.phase = b.phase ∧ (a.creatorBoundaryOrdinal < b.creatorBoundaryOrdinal ∨
          a.creatorBoundaryOrdinal = b.creatorBoundaryOrdinal ∧
            a.stableCausalId.hex.val ≤ b.stableCausalId.hex.val)) := by
  simp [scheduledActionLe, Prod.Lex.le_iff]

instance : Std.Total (scheduledActionLe (ρ := ρ)) := ⟨fun _ _ => le_total _ _⟩

instance : IsTrans (ScheduledAction ρ) scheduledActionLe := ⟨fun _ _ _ h h' => le_trans h h'⟩

theorem release_le_of_le {a b : ScheduledAction ρ} (h : scheduledActionLe a b) :
    a.releaseBoundaryOrdinal ≤ b.releaseBoundaryOrdinal := by
  rcases scheduledActionLe_iff.mp h with h | h
  · exact Nat.le_of_lt h
  · exact Nat.le_of_eq h.1

end Order

section Digests

variable [DomainDigest]

def actionId (roundtripId : ContentDigest) (action : String) : ContentDigest :=
  domainDigest "backtest.sniping-scheduled-action.v1"
    [("action", .text action), ("roundtrip_id", .text roundtripId.spelling)]

/-- Put an action into the schedule, strictly after the boundary that creates it. -/
def schedule {ρ : Type} (scheduled : List (ScheduledAction ρ)) (position : ChainPosition)
    (kind : ActionKind) (creatorBoundary : Nat) (roundtripId : ContentDigest) (subject : ρ) :
    Except Fault (List (ScheduledAction ρ)) := do
  refuseIf (position.boundaryOrdinal ≤ creatorBoundary) (.snipingEngine .internalStateInvalid)
  .ok (scheduled.orderedInsert scheduledActionLe
    ⟨position.boundaryOrdinal, kind.phase, creatorBoundary, actionId roundtripId kind.name, kind,
      subject⟩)

end Digests

/-- Take the actions of a boundary out of the schedule, up to a phase. -/
def popActions {ρ : Type} (scheduled : List (ScheduledAction ρ)) (boundary maximumPhase : Nat) :
    List (ScheduledAction ρ) × List (ScheduledAction ρ) :=
  scheduled.span fun item =>
    item.releaseBoundaryOrdinal = boundary ∧ item.phase ≤ maximumPhase

/-! ## The recorder -/

/-- The rows of the audit stream. -/
inductive AuditRecord
  | historicalGroupApplied (boundary : Nat) (eventIds : List ContentDigest)
      (transactionGroupId : ContentDigest)
  | targetOutsideDecisionRange (boundary : Nat) (targetEventId : ContentDigest)
  | targetCooldownSkipped (boundary : Nat) (developerId : AccountId) (roundtripId : ContentDigest)
  | buyReferenceRejected (boundary : Nat) (roundtripId : ContentDigest) (reason : String)
  | buyPreSubmitRejected (boundary : Nat) (roundtripId : ContentDigest)
  | buyAcceptedAndReserved (boundary : Nat) (roundtripId : ContentDigest)
      (eligibleBoundary : Nat) (reservedAssets : AssetAmounts)
  | buyLandedFailedNetworkFeeCharged (boundary : Nat) (roundtripId : ContentDigest)
      (reason : String)
  | buyFilled (boundary : Nat) (roundtripId : ContentDigest) (sellDecisionBoundary : Nat)
  | sellReferenceUnavailable (boundary : Nat) (roundtripId : ContentDigest) (reason : String)
  | sellPreSubmitRejected (boundary : Nat) (roundtripId : ContentDigest)
  | sellAcceptedAndReserved (boundary : Nat) (roundtripId : ContentDigest)
      (eligibleBoundary : Nat)
  | sellLandedFailedNetworkFeeCharged (boundary : Nat) (roundtripId : ContentDigest)
      (reason : String)
  | sellFilledAndAccountClosed (boundary : Nat) (roundtripId : ContentDigest)
      (realizedCashPnlAtomic : Int)
  | boundaryCheckpoint (boundary : Nat)
  deriving DecidableEq

namespace AuditRecord

/-- The boundary a row was written at. -/
def boundary : AuditRecord → Nat
  | historicalGroupApplied b _ _ | targetOutsideDecisionRange b _ | targetCooldownSkipped b _ _
  | buyReferenceRejected b _ _ | buyPreSubmitRejected b _ | buyAcceptedAndReserved b _ _ _
  | buyLandedFailedNetworkFeeCharged b _ _ | buyFilled b _ _ | sellReferenceUnavailable b _ _
  | sellPreSubmitRejected b _ | sellAcceptedAndReserved b _ _
  | sellLandedFailedNetworkFeeCharged b _ _ | sellFilledAndAccountClosed b _ _
  | boundaryCheckpoint b => b

/-- The `phase` field of a row. -/
def phase : AuditRecord → Nat
  | historicalGroupApplied _ _ _ => 10
  | targetOutsideDecisionRange _ _ | targetCooldownSkipped _ _ _
  | sellReferenceUnavailable _ _ _ => 40
  | buyReferenceRejected _ _ _ | buyPreSubmitRejected _ _ | buyAcceptedAndReserved _ _ _ _
  | sellPreSubmitRejected _ _ | sellAcceptedAndReserved _ _ _ => 50
  | buyLandedFailedNetworkFeeCharged _ _ _ | buyFilled _ _ _
  | sellLandedFailedNetworkFeeCharged _ _ _ | sellFilledAndAccountClosed _ _ _ => 60
  | boundaryCheckpoint _ => 80

end AuditRecord

/-- The cashflow of each round trip in each asset, from the committed ledger rows. -/
abbrev CorrelatedLedgerCashflows := Dict (ContentDigest × AssetId) Int

namespace CorrelatedLedgerCashflows

/-- One posting of a transaction; only available and reserved balances count as cash. -/
def appendPosting (correlationId : ContentDigest) (amounts : CorrelatedLedgerCashflows)
    (p : Posting) : CorrelatedLedgerCashflows :=
  if p.account.kind = .portfolioAvailable ∨ p.account.kind = .portfolioReserved then
    amounts.set (correlationId, p.assetId)
      (amounts.getD (correlationId, p.assetId) 0 + p.amountAtomic)
  else amounts

def append (amounts : CorrelatedLedgerCashflows) (transaction : LedgerTransaction) :
    Except Fault CorrelatedLedgerCashflows := do
  refuseIf (transaction.correlationKind ≠ .roundtrip) (.snipingEngine .internalStateInvalid)
  .ok (transaction.postings.foldl (appendPosting transaction.correlationId) amounts)

def amount (amounts : CorrelatedLedgerCashflows) (roundtripId : ContentDigest)
    (assetId : AssetId) : Int := amounts.getD (roundtripId, assetId) 0

end CorrelatedLedgerCashflows

/-- The streams a run writes, and its cashflows. -/
structure Recorder where
  audit : List AuditRecord
  ledger : List LedgerTransaction
  fills : List Fill
  roundtrips : List RoundTripRecord
  cashflows : CorrelatedLedgerCashflows
  deriving DecidableEq

namespace Recorder

def empty : Recorder := ⟨[], [], [], [], Dict.empty⟩

def appendAudit (recorder : Recorder) (record : AuditRecord) : Recorder :=
  { recorder with audit := recorder.audit ++ [record] }

def appendLedger (recorder : Recorder) (transaction : LedgerTransaction) :
    Except Fault Recorder := do
  let cashflows ← recorder.cashflows.append transaction
  .ok { recorder with ledger := recorder.ledger ++ [transaction], cashflows := cashflows }

def appendFill (recorder : Recorder) (fill : Fill) : Recorder :=
  { recorder with fills := recorder.fills ++ [fill] }

def appendRoundtrip (recorder : Recorder) (record : RoundTripRecord) : Recorder :=
  { recorder with roundtrips := recorder.roundtrips ++ [record] }

end Recorder

/-! ## The desk -/

/-- What an order works at. -/
structure Desk (ρ : Type) where
  portfolio : PortfolioState
  accounts : WalletProvisioningState
  recorder : Recorder
  scheduled : List (ScheduledAction ρ)
  deriving DecidableEq

/-- `except PortfolioInvariantError: raise SnipingEngineError(PORTFOLIO_INVARIANT)`. -/
def mapPortfolioError {α : Type} : Except Fault α → Except Fault α
  | .error (.portfolioInvariant _) => .error (.snipingEngine .portfolioInvariant)
  | other => other

namespace Desk

variable {ρ : Type}

def audit (desk : Desk ρ) (record : AuditRecord) : Desk ρ :=
  { desk with recorder := desk.recorder.appendAudit record }

/-- `_apply_transaction`. -/
def applyTransaction (desk : Desk ρ) (transaction : LedgerTransaction) :
    Except Fault (Desk ρ) := do
  let candidate ← mapPortfolioError (desk.portfolio.preview transaction)
  let recorder ← desk.recorder.appendLedger transaction
  .ok { desk with portfolio := desk.portfolio.commit candidate, recorder := recorder }

/-- Commit one validated portfolio/account candidate as one engine operation. -/
def applyTransactionWithAccounts (desk : Desk ρ) (transaction : LedgerTransaction)
    (transition : AccountProvisioningTransition) : Except Fault (Desk ρ) := do
  let desk ← desk.applyTransaction transaction
  .ok { desk with accounts := transition.state }

/-- Put an action of one round trip into the desk's schedule. -/
def schedule [DomainDigest] (desk : Desk ρ) (position : ChainPosition) (kind : ActionKind)
    (creatorBoundary : Nat) (roundtripId : ContentDigest) (subject : ρ) :
    Except Fault (Desk ρ) := do
  let scheduled ← OnchainBacktest.schedule desk.scheduled position kind creatorBoundary roundtripId
    subject
  .ok { desk with scheduled := scheduled }

end Desk

/-! ## Round trips -/

/-- The mutable state of one round trip. -/
structure RoundTripState where
  target : LaunchTarget
  targetTimeNs : Nat
  cooldownConsumed : Bool
  cooldownUntilNs : Option Nat
  intent : Option RoundTripIntent
  status : RoundTripStatus
  buyReference : Option ProtocolQuote := none
  buyLanding : Option ProtocolQuote := none
  buyLandingPosition : Option ChainPosition := none
  buyMinimumOutAtomic : Nat := 0
  buyFailureCode : Option String := none
  buyNetworkCost : Option NetworkCostQuote := none
  accountReservation : Option AccountReservationPlan := none
  accountComponents : List AccountComponentRecord := []
  sellReference : Option ProtocolQuote := none
  sellDecisionPosition : Option ChainPosition := none
  sellLanding : Option ProtocolQuote := none
  sellLandingPosition : Option ChainPosition := none
  sellMinimumOutAtomic : Nat := 0
  sellFailureCode : Option String := none
  sellNetworkCost : Option NetworkCostQuote := none
  acquiredTokenAmountAtomic : Nat := 0
  cashbackReceivableAtomic : Nat := 0
  terminal : Bool := false
  deriving DecidableEq

namespace RoundTripState

/-- A launch its developer's cooldown suppresses. -/
def suppressed (target : LaunchTarget) (targetTimeNs : Nat) (cooldownUntilNs : Option Nat) :
    RoundTripState where
  target := target
  targetTimeNs := targetTimeNs
  cooldownConsumed := false
  cooldownUntilNs := cooldownUntilNs
  intent := none
  status := .cooldownSkipped
  terminal := true

/-- A launch with an intent, before its buy is decided. -/
def eligible (target : LaunchTarget) (targetTimeNs : Nat) (cooldownUntilNs : Option Nat)
    (intent : RoundTripIntent) : RoundTripState where
  target := target
  targetTimeNs := targetTimeNs
  cooldownConsumed := true
  cooldownUntilNs := cooldownUntilNs
  intent := some intent
  status := .buyReferenceRejected

variable (s : RoundTripState)

/-- The price and the account reservation of a buy. -/
def buyPriced (network : NetworkCostQuote) (plan : AccountReservationPlan) : RoundTripState :=
  { s with buyNetworkCost := some network, accountReservation := some plan }

def buyReferenceRejected (code : String) (records : List AccountComponentRecord) :
    RoundTripState :=
  { s with
    buyFailureCode := some code
    status := .buyReferenceRejected
    terminal := true
    accountComponents := records }

def buyReferenced (reference : ProtocolQuote) (minimumOutAtomic : Nat) : RoundTripState :=
  { s with buyReference := some reference, buyMinimumOutAtomic := minimumOutAtomic }

def buyPreSubmitRejected (records : List AccountComponentRecord) : RoundTripState :=
  { s with
    status := .buyPreSubmitInsufficientFunds
    terminal := true
    accountComponents := records }

/-- A buy that landed without a fill; a quote below the minimum stays on the record. -/
def buyLandedFailed (position : ChainPosition) (landing : Option ProtocolQuote) (code : String)
    (records : List AccountComponentRecord) : RoundTripState :=
  { s with
    buyLandingPosition := some position
    buyLanding := landing
    buyFailureCode := some code
    status := .buyLandedFailed
    terminal := true
    accountComponents := records }

def buyFilled (position : ChainPosition) (landing : ProtocolQuote)
    (records : List AccountComponentRecord) : RoundTripState :=
  { s with
    buyLandingPosition := some position
    buyLanding := some landing
    acquiredTokenAmountAtomic := landing.amountOutAtomic
    accountComponents := records
    cashbackReceivableAtomic := s.cashbackReceivableAtomic + landing.cashbackReceivableAtomic
    status := .openAtHorizon }

def sellReferenceUnavailable (position : ChainPosition) (code : String) : RoundTripState :=
  { s with
    sellDecisionPosition := some position
    sellFailureCode := some code
    status := .sellReferenceUnavailableOpen
    terminal := true }

def sellReferenced (position : ChainPosition) (reference : ProtocolQuote)
    (minimumOutAtomic : Nat) (network : NetworkCostQuote) : RoundTripState :=
  { s with
    sellDecisionPosition := some position
    sellReference := some reference
    sellMinimumOutAtomic := minimumOutAtomic
    sellNetworkCost := some network }

def sellPreSubmitRejected : RoundTripState :=
  { s with status := .sellPreSubmitInsufficientFundsOpen, terminal := true }

/-- A sell that landed without a fill; a quote below the minimum stays on the record. -/
def sellLandedFailed (position : ChainPosition) (landing : Option ProtocolQuote) (code : String) :
    RoundTripState :=
  { s with
    sellLandingPosition := some position
    sellLanding := landing
    sellFailureCode := some code
    status := .sellLandedFailedOpen
    terminal := true }

def sellFilled (position : ChainPosition) (landing : ProtocolQuote)
    (records : List AccountComponentRecord) : RoundTripState :=
  { s with
    sellLandingPosition := some position
    sellLanding := some landing
    cashbackReceivableAtomic := s.cashbackReceivableAtomic + landing.cashbackReceivableAtomic
    accountComponents := records
    status := .closed
    terminal := true }

end RoundTripState

/-- `_require_…`: what an action needs of its round trip has to be there. -/
def requirePart {α : Type} (part : Option α) : Except Fault α :=
  match part with
  | some value => .ok value
  | none => .error (.snipingEngine .internalStateInvalid)

theorem requirePart_eq_ok {α : Type} {part : Option α} {value : α} :
    requirePart part = .ok value ↔ part = some value := by
  cases part <;> simp [requirePart]

end OnchainBacktest
