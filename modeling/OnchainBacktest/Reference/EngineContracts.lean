import OnchainBacktest.Engine.Portfolio
import OnchainBacktest.Reference.CausalData
import OnchainBacktest.Reference.Scheduler

/-!
# What the engine and its plugins exchange

The views a strategy reads, the context of a callback, and the three plugins of a run: the strategy
that emits intents, the risk policy that accepts them, and the execution model that fills them.
A strategy has a state of its own, which its callbacks pass on; the two other plugins are functions
of what they are given.
-/

set_option autoImplicit false

namespace OnchainBacktest

namespace Reference

open Checked

/-- Read-only balances. -/
structure PortfolioView where
  available : AssetId → Int
  reserved : AssetId → Int

def PortfolioView.of (state : PortfolioState) : PortfolioView := ⟨state.available, state.reserved⟩

/-- Read-only observed state. -/
structure ObservedMarketView where
  pool : PoolId → Option PoolSnapshot
  knowsAsset : AssetId → Bool

def ObservedMarketView.of (state : ObservedState) : ObservedMarketView :=
  ⟨state.pool, state.knowsAsset⟩

/-- Keyed random draws: what they give is a function of the root seed and their keys. -/
structure KeyedRng where
  rootSeed : Nat

/-- What a callback of a strategy is given besides its event or notification. -/
structure StrategyContext where
  instant : ReplayBoundary
  observedMarket : ObservedMarketView
  portfolio : PortfolioView
  rng : KeyedRng
  features : CausalScalarView
  predictions : CausalScalarView
  eventRowId : Option Nat

/-- A strategy with states of type `σ` on events of type `ε`. -/
structure StrategyInstance (ε σ : Type) where
  onEvent : σ → ε → StrategyContext → Except Fault (σ × List Intent)
  onExecution : σ → ExecutionNotification → StrategyContext → Except Fault σ

structure RiskPolicy where
  accept : SwapExactInIntent → PortfolioView → Bool

/-- What an execution model answers. -/
inductive ExecutionOutcome
  | planned (plan : ExecutionPlan)
  /-- `ExecutionRejected`. -/
  | rejected (code : String)
  /-- A value that is no plan. -/
  | unsupported
  /-- Any other exception. -/
  | failed (fault : Fault)

structure VenueExecutionModel where
  execute : SwapExactInIntent → SimulationVenueState → Nat → ExecutionMode → ExecutionOutcome

/-- Slot-based latencies. -/
structure SlotLatencyModel where
  observationSlots : Nat
  orderSlots : Nat

/-- The modes the engine runs in. -/
def REFERENCE_MODES : List ExecutionMode := [.exogenousReplay, .shadowStateReplay]

structure ReferenceRunConfig where
  executionMode : ExecutionMode
  latency : SlotLatencyModel
  rng : KeyedRng
  initialAvailable : List (AssetId × Nat)
  maximumDynamicItems : Nat
  mode_supported : executionMode ∈ REFERENCE_MODES
  items_pos : 0 < maximumDynamicItems

/-- What a run is given besides its history. -/
structure RunPlugins (ε σ : Type) where
  strategy : StrategyInstance ε σ
  executionModel : VenueExecutionModel
  riskPolicy : RiskPolicy
  config : ReferenceRunConfig
  features : CausalScalarProvider
  predictions : CausalScalarProvider

/-- The reason an order is rejected for. -/
inductive RejectionReason
  | horizonExhausted
  | riskRejected
  deriving DecidableEq, Repr

def RejectionReason.value : RejectionReason → String
  | horizonExhausted => "HORIZON_EXHAUSTED"
  | riskRejected => "RISK_REJECTED"

/-- A record of the audit stream, each with its boundary. -/
inductive AuditRecord
  | historicalGroupApplied (boundaryOrdinal : Nat) (eventIds : List (Fin (2 ^ 256)))
      (groupId : Fin (2 ^ 256))
  | simulationReconciled (boundaryOrdinal : Nat) (executionMode : ExecutionMode)
      (groupId : Fin (2 ^ 256))
  | observationOutsideHorizon (boundaryOrdinal : Nat) (eventId : Fin (2 ^ 256))
  | observationDelivered (boundaryOrdinal : Nat) (eventId : Fin (2 ^ 256))
      (sourceBoundaryOrdinal : Nat)
  | intentProposed (boundaryOrdinal : Nat) (orderId : Fin (2 ^ 256))
  | orderRejected (boundaryOrdinal : Nat) (orderId : Fin (2 ^ 256)) (reason : RejectionReason)
  | orderAcceptedAndReserved (boundaryOrdinal eligibleBoundaryOrdinal : Nat)
      (orderId : Fin (2 ^ 256))
  | orderExecutionFailedAndReleased (boundaryOrdinal : Nat) (orderId : Fin (2 ^ 256))
      (reason : String)
  | orderFilledAtomically (boundaryOrdinal fillCount : Nat) (orderId : Fin (2 ^ 256))
  | strategyNotified (boundaryOrdinal : Nat) (orderId : Fin (2 ^ 256)) (status : OrderStatus)
  | boundaryCheckpoint (boundaryOrdinal : Nat)
  deriving DecidableEq

namespace AuditRecord

def boundaryOrdinal : AuditRecord → Nat
  | historicalGroupApplied boundary _ _ => boundary
  | simulationReconciled boundary _ _ => boundary
  | observationOutsideHorizon boundary _ => boundary
  | observationDelivered boundary _ _ => boundary
  | intentProposed boundary _ => boundary
  | orderRejected boundary _ _ => boundary
  | orderAcceptedAndReserved boundary _ _ => boundary
  | orderExecutionFailedAndReleased boundary _ _ => boundary
  | orderFilledAtomically boundary _ _ => boundary
  | strategyNotified boundary _ _ => boundary
  | boundaryCheckpoint boundary => boundary

/-- The phase a record is written in. -/
def phase : AuditRecord → SchedulerPhase
  | historicalGroupApplied .. => .historicalReferenceApply
  | simulationReconciled .. => .simulationStateReconcile
  | observationOutsideHorizon .. => .observationDelivery
  | observationDelivered .. => .observationDelivery
  | intentProposed .. => .strategyCallback
  | orderRejected .. => .riskAndOrderAcceptance
  | orderAcceptedAndReserved .. => .riskAndOrderAcceptance
  | orderExecutionFailedAndReleased .. => .venueExecutionAndLedgerCommit
  | orderFilledAtomically .. => .venueExecutionAndLedgerCommit
  | strategyNotified .. => .strategyExecutionNotification
  | boundaryCheckpoint .. => .checkpoint

end AuditRecord

/-- What a run writes: its audit, its ledger and its fills. -/
structure Recorder where
  audit : List AuditRecord
  ledger : List LedgerTransaction
  fills : List Fill

namespace Recorder

def empty : Recorder := ⟨[], [], []⟩

def appendAudit (recorder : Recorder) (record : AuditRecord) : Recorder :=
  { recorder with audit := recorder.audit ++ [record] }

def appendLedger (recorder : Recorder) (transaction : LedgerTransaction) : Recorder :=
  { recorder with ledger := recorder.ledger ++ [transaction] }

def appendFill (recorder : Recorder) (fill : Fill) : Recorder :=
  { recorder with fills := recorder.fills ++ [fill] }

end Recorder

end Reference

end OnchainBacktest
