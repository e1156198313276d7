import OnchainBacktest.Engine.SnipingResults
import OnchainBacktest.Plugins.PumpRuntime
import OnchainBacktest.Plugins.PumpfunStrategy

/-!
# The reference sniping engine

The single-process reducer over a historical stream.  The stream is cut into transaction groups and
checked against the clock before anything moves; then the run takes one boundary after another, the
next group's or the next scheduled action's, whichever comes first.  At a boundary the group is
applied, sells that are due are decided, launches are decided, and orders that are due land.

The run is a loop over boundaries, here with a number of rounds (`runLoop`); `fuelOf` is a number
that always suffices.
-/

set_option autoImplicit false

namespace OnchainBacktest

open Checked

/-! ## Configuration -/

structure SnipingRunConfig where
  quoteAssetId : AssetId
  decisionRange : BlockRange
  initialAvailable : List (AssetId × Nat)
  initialUvaState : WalletUvaInitialState
  walletAccountProfileId : String
  uvaSchemaId : String
  maximumDynamicItems : Nat
  executionMode : ExecutionMode
  profile_stable : stableName walletAccountProfileId = true
  uva_stable : stableName uvaSchemaId = true
  mode_supported : executionMode ∈ SNIPING_EXECUTION_MODES
  maximum_pos : 0 < maximumDynamicItems
  quote_mem : quoteAssetId ∈ initialAvailable.map Prod.fst
  assets_nodup : (initialAvailable.map Prod.fst).Nodup

/-- A stream of events; an indexed source also declares how many there are. -/
structure HistoricalEventSource where
  events : List CanonicalEvent
  eventCount : Option Nat

/-- The resolved components of a run. -/
structure SnipingSetup where
  clock : CompactTransactionClock
  strategy : PumpfunSnipingStrategy
  protocol : PumpfunSnipingProtocolRuntime
  networkCosts : SolanaSnipingCostModel
  config : SnipingRunConfig

/-! ## Transaction groups -/

section Groups

variable (clock : CompactTransactionClock)

/-- A position in a transaction has to be on the clock. -/
def requireOnClock (position : ChainPosition) : Except Fault Unit :=
  if 0 ≤ position.transactionIndex then do
    let _ ← clock.requirePosition position
    .ok ()
  else .ok ()

/-- The checks an event has to pass to continue the stream. -/
def admitEvent (previous : Option CanonicalEvent) (event : CanonicalEvent) :
    Except Fault Unit := do
  let position := event.envelope.position
  refuseIf (position.networkId ≠ clock.networkId ∨
      position.positionSchemaId ≠ clock.positionSchemaId) (.snipingEngine .mixedNetwork)
  requireOnClock clock position
  refuseIf (∃ p ∈ previous, canonicalEventSortKey event ≤ canonicalEventSortKey p)
    (.snipingEngine .sourceOrderInvalid)
  refuseIf (∃ p ∈ previous, event.boundaryOrdinal = p.boundaryOrdinal ∧
      event.envelope.transactionGroupId ≠ p.envelope.transactionGroupId)
    (.snipingEngine .mixedTransactionGroup)

/-- A generator: what it yields, and the fault that ends it. -/
structure EventGroups where
  groups : List (List CanonicalEvent)
  fault : Option Fault

/-- Two events of one transaction group. -/
def sameGroup (a b : CanonicalEvent) : Prop :=
  a.boundaryOrdinal = b.boundaryOrdinal ∧
    a.envelope.transactionGroupId = b.envelope.transactionGroupId

instance (a b : CanonicalEvent) : Decidable (sameGroup a b) := inferInstanceAs (Decidable (_ ∧ _))

/-- The groups from an open one on; `previous` is its last event. -/
def eventGroupsFrom (previous : CanonicalEvent) (current : List CanonicalEvent) :
    List CanonicalEvent → EventGroups
  | [] => ⟨[current], none⟩
  | event :: rest =>
    match admitEvent clock (some previous) event with
    | .error fault => ⟨[], some fault⟩
    | .ok () =>
      if sameGroup event previous then eventGroupsFrom event (current ++ [event]) rest
      else
        let later := eventGroupsFrom event [event] rest
        ⟨current :: later.groups, later.fault⟩

/-- `_event_groups`. -/
def eventGroups : List CanonicalEvent → EventGroups
  | [] => ⟨[], none⟩
  | event :: rest =>
    match admitEvent clock none event with
    | .error fault => ⟨[], some fault⟩
    | .ok () => eventGroupsFrom clock event [event] rest

end Groups

/-- The boundary of a group. -/
def groupBoundary (group : List CanonicalEvent) : Nat :=
  (group.head?.map CanonicalEvent.boundaryOrdinal).getD 0

/-! ## The preflight -/

/-- Where the orders of a launch at `position` would land: buy, sell decision, sell. -/
def settlementPath (clock : CompactTransactionClock) (position : ChainPosition)
    (buyDelay sellDecisionDelayNs sellDelay : Nat) :
    Except Fault (ChainPosition × ChainPosition × ChainPosition) := do
  let buyLanding ← clock.transactionAfter position buyDelay
  let landingTimeNs ← clock.blockTimeForPosition buyLanding
  let sellDecision ← clock.firstNonemptyTransactionAtOrAfter buyLanding
    (landingTimeNs + sellDecisionDelayNs)
  let sellLanding ← clock.transactionAfter sellDecision sellDelay
  .ok (buyLanding, sellDecision, sellLanding)

section Preflight

variable (setup : SnipingSetup)

/-- The settlement path of the setup's strategy. -/
def SnipingSetup.path (position : ChainPosition) :
    Except Fault (ChainPosition × ChainPosition × ChainPosition) :=
  settlementPath setup.clock position PUMPFUN_SNIPING_BUY_DELAY_TRANSACTIONS
    PUMPFUN_SNIPING_SELL_DECISION_DELAY_NS setup.strategy.sellDelayTransactions

/-- A launch in the decision range needs a whole settlement path. -/
def preflightEvent (event : CanonicalEvent) : Except Fault Unit :=
  match event with
  | .tokenLaunch launch => do
    let contained ← setup.config.decisionRange.containsPosition launch.envelope.position
    if contained then
      let _ ← setup.path launch.envelope.position
      pure ()
    else pure ()
  | _ => .ok ()

/-- `_validate_chain_contract`. -/
def validateChainContract : Except Fault Unit :=
  refuseIf (setup.config.decisionRange.networkId ≠ setup.clock.networkId ∨
      setup.config.decisionRange.positionSchemaId ≠ setup.clock.positionSchemaId)
    (.chainIdentityMismatch
      "decision range and transaction clock use different chain identities")

/-- `_preflight_source_clock_coverage`: the number of events and of groups. -/
def preflightSourceClockCoverage (source : HistoricalEventSource) : Except Fault (Nat × Nat) := do
  let groups := eventGroups setup.clock source.events
  groups.groups.forM fun group => group.forM (preflightEvent setup)
  match groups.fault with
  | some fault => .error fault
  | none => do
    let eventCount := groups.groups.flatten.length
    refuseIf (∃ declared ∈ source.eventCount, eventCount ≠ declared)
      (.snipingEngine .sourceCountMismatch)
    .ok (eventCount, groups.groups.length)

end Preflight

/-! ## The state of a run -/

structure RunCounts where
  eventCount : Nat := 0
  deliveredEventCount : Nat := 0
  groupCount : Nat := 0
  targetCount : Nat := 0
  cooldownSkippedCount : Nat := 0
  acceptedBuyCount : Nat := 0
  failedBuyCount : Nat := 0
  failedSellCount : Nat := 0
  deriving DecidableEq

/-- Everything a run moves.  The entries of `states` are in the order of the launches. -/
structure RunState where
  curves : Curves
  cooldowns : DeveloperCooldowns
  desk : Desk ContentDigest
  states : Dict ContentDigest RoundTripState
  counts : RunCounts

section Run

variable [DomainDigest] (setup : SnipingSetup)

/-- The market as the curves stand. -/
def SnipingSetup.market (curves : Curves) : Market :=
  ⟨setup.clock, setup.protocol.view curves, setup.networkCosts⟩

/-- The opening state of a run. -/
def openingState : Except Fault RunState := do
  let accounts ← initialWalletProvisioningState setup.config.initialUvaState
    setup.config.uvaSchemaId
  .ok
    { curves := Dict.empty
      cooldowns := Dict.empty
      desk := ⟨PortfolioState.initial setup.config.initialAvailable, accounts, Recorder.empty, []⟩
      states := Dict.empty
      counts := {} }

/-- `_boundary_position`. -/
def boundaryPosition (event : CanonicalEvent) : ChainPosition :=
  event.envelope.position.withoutEvent

/-- Apply a historical group; its launches come in the order they are decided in. -/
def applyGroup (run : RunState) (first : CanonicalEvent) (group : List CanonicalEvent) :
    Except Fault (RunState × List LaunchTarget) := do
  let position := boundaryPosition first
  let timeNs ← setup.clock.blockTimeForBlock position.blockOrdinal
  let (curves, launches) ← setup.protocol.applyHistoricalGroup run.curves group
    (timeNs / 1000000000)
  let launches ← ensureSingleLaunch launches
  .ok ({ run with
      curves := curves
      desk := run.desk.audit (.historicalGroupApplied first.boundaryOrdinal
        (group.map fun event => event.envelope.canonicalEventId) first.envelope.transactionGroupId)
      counts := { run.counts with
        eventCount := run.counts.eventCount + group.length
        deliveredEventCount := run.counts.deliveredEventCount + group.length
        groupCount := run.counts.groupCount + 1 } }, launches)

/-- Decide one due sell. -/
def decideAction (position : ChainPosition) (run : RunState)
    (action : ScheduledAction ContentDigest) : Except Fault RunState := do
  refuseIf (action.kind ≠ .sellDecision) (.snipingEngine .internalStateInvalid)
  let state ← requirePart (run.states.get? action.subject)
  let handled ← decideSell (setup.market run.curves) action.subject run.desk state position
  .ok { run with desk := handled.desk, states := run.states.set action.subject handled.state }

/-- A launch that is suppressed gets its state and nothing else. -/
def skipLaunch (boundary : Nat) (run : RunState) (target : LaunchTarget) (targetTimeNs : Nat)
    (decision : LaunchDecision) : RunState :=
  { run with
    desk := run.desk.audit
      (.targetCooldownSkipped boundary target.developerId decision.roundtripId)
    states := run.states.set decision.roundtripId
      (.suppressed target targetTimeNs decision.cooldownUntilNs)
    counts := { run.counts with cooldownSkippedCount := run.counts.cooldownSkippedCount + 1 } }

/-- A launch that is eligible places its buy. -/
def enterLaunch (run : RunState) (target : LaunchTarget) (targetTimeNs : Nat)
    (decision : LaunchDecision) : Except Fault RunState := do
  let intent ← requirePart decision.intent
  refuseIf (intent.executionMode ≠ setup.config.executionMode)
    (.snipingEngine .internalStateInvalid)
  let state := RoundTripState.eligible target targetTimeNs decision.cooldownUntilNs intent
  let handled ← acceptBuy (setup.market run.curves) decision.roundtripId run.desk state
  .ok { run with
    desk := handled.desk
    states := run.states.set decision.roundtripId handled.state
    counts := { run.counts with
      acceptedBuyCount := run.counts.acceptedBuyCount + handled.succeeded.toNat } }

/-- Decide one launch inside the decision range. -/
def decideLaunch (boundary : Nat) (run : RunState) (target : LaunchTarget) :
    Except Fault RunState := do
  refuseIf (setup.config.maximumDynamicItems ≤ run.states.keys.length)
    (.snipingEngine .dynamicItemLimitExceeded)
  let targetTimeNs ← setup.clock.blockTimeForPosition target.position
  let (decision, cooldowns) ← setup.strategy.decide run.cooldowns target targetTimeNs
  refuseIf (run.states.get? decision.roundtripId ≠ none) (.snipingEngine .duplicateRoundtrip)
  let run := { run with
    cooldowns := cooldowns
    counts := { run.counts with targetCount := run.counts.targetCount + 1 } }
  if decision.status = .cooldownSuppressed then
    .ok (skipLaunch boundary run target targetTimeNs decision)
  else enterLaunch setup run target targetTimeNs decision

/-- Process one launch of a group. -/
def processLaunch (boundary : Nat) (run : RunState) (target : LaunchTarget) :
    Except Fault RunState := do
  let contained ← setup.config.decisionRange.containsPosition target.position
  if contained then decideLaunch setup boundary run target
  else .ok { run with
    desk := run.desk.audit (.targetOutsideDecisionRange boundary target.targetEventId) }

/-- Land one due order. -/
def landAction (position : ChainPosition) (run : RunState)
    (action : ScheduledAction ContentDigest) : Except Fault RunState := do
  let state ← requirePart (run.states.get? action.subject)
  match action.kind with
  | .buyLanding => do
    let handled ← landBuy (setup.market run.curves) action.subject run.desk state position
    .ok { run with
      desk := handled.desk
      states := run.states.set action.subject handled.state
      counts := { run.counts with
        failedBuyCount := run.counts.failedBuyCount + (!handled.succeeded).toNat } }
  | .sellLanding => do
    let handled ← landSell (setup.market run.curves) run.desk state position
    .ok { run with
      desk := handled.desk
      states := run.states.set action.subject handled.state
      counts := { run.counts with
        failedSellCount := run.counts.failedSellCount + (!handled.succeeded).toNat } }
  | .sellDecision => .error (.snipingEngine .internalStateInvalid)

/-! ## The loop -/

/-- `_next_boundary`, and `none` when the run is over. -/
def nextBoundary (groups : List (List CanonicalEvent))
    (scheduled : List (ScheduledAction ContentDigest)) : Option Nat :=
  match groups, scheduled with
  | [], [] => none
  | group :: _, [] => some (groupBoundary group)
  | [], action :: _ => some action.releaseBoundaryOrdinal
  | group :: _, action :: _ => some (min (groupBoundary group) action.releaseBoundaryOrdinal)

/-- What a boundary starts from. -/
structure Opened where
  groups : List (List CanonicalEvent)
  position : ChainPosition
  launches : List LaunchTarget
  decisions : List (ScheduledAction ContentDigest)
  run : RunState

/-- The decisions due at a boundary leave the schedule. -/
def popDecisions (groups : List (List CanonicalEvent)) (position : ChainPosition) (boundary : Nat)
    (run : RunState) (launches : List LaunchTarget) : Opened :=
  let popped := popActions run.desk.scheduled boundary ActionKind.sellDecision.phase
  ⟨groups, position, launches, popped.1,
    { run with desk := { run.desk with scheduled := popped.2 } }⟩

/-- A boundary with no group: its position is the boundary's own. -/
def openScheduled (groups : List (List CanonicalEvent)) (run : RunState) (boundary : Nat) :
    Except Fault Opened := do
  let position ← ChainPosition.fromBoundaryOrdinal setup.clock.networkId
    setup.clock.positionSchemaId boundary
  .ok (popDecisions groups position boundary run [])

/-- Open a boundary: apply its group if it has one, and take the due decisions. -/
def openBoundary (groups : List (List CanonicalEvent)) (run : RunState) (boundary : Nat) :
    Except Fault Opened :=
  match groups with
  | (first :: rest) :: later =>
    if first.boundaryOrdinal = boundary then do
      let (run, launches) ← applyGroup setup run first (first :: rest)
      .ok (popDecisions later (boundaryPosition first) boundary run launches)
    else openScheduled setup groups run boundary
  | _ => openScheduled setup groups run boundary

/-- Close a boundary: the schedule has to fit, and a checkpoint is written. -/
def closeBoundary (boundary : Nat) (run : RunState) : Except Fault RunState := do
  refuseIf (setup.config.maximumDynamicItems < run.desk.scheduled.length)
    (.snipingEngine .dynamicItemLimitExceeded)
  .ok { run with desk := run.desk.audit (.boundaryCheckpoint boundary) }

/-- The landings due at a boundary leave the schedule. -/
def popLandings (boundary : Nat) (run : RunState) :
    List (ScheduledAction ContentDigest) × RunState :=
  let popped := popActions run.desk.scheduled boundary ActionKind.sellLanding.phase
  (popped.1, { run with desk := { run.desk with scheduled := popped.2 } })

/-- The body of the loop. -/
def processBoundary (groups : List (List CanonicalEvent)) (run : RunState) (boundary : Nat) :
    Except Fault (List (List CanonicalEvent) × RunState) := do
  let opened ← openBoundary setup groups run boundary
  let run ← opened.decisions.foldlM (decideAction setup opened.position) opened.run
  let run ← opened.launches.foldlM (processLaunch setup boundary) run
  let landings := popLandings boundary run
  let run ← landings.1.foldlM (landAction setup opened.position) landings.2
  let run ← closeBoundary setup boundary run
  .ok (opened.groups, run)

/-- The loop, for at most `fuel` boundaries: what is left of the groups, and the state. -/
def runLoop : Nat → List (List CanonicalEvent) → RunState →
    Except Fault (List (List CanonicalEvent) × RunState)
  | 0, groups, run => .ok (groups, run)
  | fuel + 1, groups, run =>
    match nextBoundary groups run.desk.scheduled with
    | none => .ok (groups, run)
    | some boundary => do
      let (groups, run) ← processBoundary setup groups run boundary
      runLoop fuel groups run

/-- Enough rounds for a run: one for each group and three for each event. -/
def fuelOf (groups : List (List CanonicalEvent)) : Nat :=
  groups.length + 3 * groups.flatten.length

/-- The run up to its end, before any result is computed. -/
def simulate (source : HistoricalEventSource) : Except Fault RunState := do
  validateChainContract setup
  let (expectedEventCount, expectedGroupCount) ← preflightSourceClockCoverage setup source
  let run ← openingState setup
  let groups := (eventGroups setup.clock source.events).groups
  let (_, run) ← runLoop setup (fuelOf groups) groups run
  refuseIf (run.counts.eventCount ≠ expectedEventCount ∨
      run.counts.groupCount ≠ expectedGroupCount) (.snipingEngine .sourceCountMismatch)
  refuseIf (∃ declared ∈ source.eventCount, run.counts.eventCount ≠ declared)
    (.snipingEngine .sourceCountMismatch)
  refuseIf (run.counts.deliveredEventCount ≠ run.counts.eventCount)
    (.snipingEngine .deliveryScheduleInvalid)
  .ok run

/-! ## The summary -/

/-- The last time of the clock, in seconds. -/
def SnipingSetup.finalTimeUnixS : Nat := setup.clock.blockTimeNs.getLastD 0 / 1000000000

/-- The record of one round trip of a run. -/
def finalizeState (run : RunState) (entry : ContentDigest × RoundTripState) :
    Except Fault RoundTripRecord :=
  finalizeRoundtrip (setup.market run.curves) setup.config.walletAccountProfileId
    setup.config.executionMode entry.1 entry.2
    (run.desk.recorder.cashflows.amount entry.1 entry.2.target.quoteAssetId)
    setup.finalTimeUnixS

structure SnipingRunSummary where
  historicalGroupCount : Nat
  historicalEventCount : Nat
  deliveredEventCount : Nat
  targetCount : Nat
  cooldownSkippedCount : Nat
  acceptedBuyCount : Nat
  failedBuyCount : Nat
  failedSellCount : Nat
  acceptedOrderCount : Nat
  rejectedOrderCount : Nat
  filledOrderCount : Nat
  failedOrderCount : Nat
  aggregates : RoundTripAggregates
  ledgerTransactionCount : Nat
  roundtripCount : Nat
  finalBalances : List BalanceRow
  executionMode : ExecutionMode
  settlementPolicyId : String
  deriving DecidableEq

/-- What a run gives back: its summary, its records, and the streams it wrote. -/
structure SnipingRunOutput where
  summary : SnipingRunSummary
  records : List RoundTripRecord
  recorder : Recorder
  deriving DecidableEq

/-- The summary over a run's counters, records and final balances. -/
def summarize (counts : RunCounts) (portfolio : PortfolioState) (recorder : Recorder)
    (executionMode : ExecutionMode) (records : List RoundTripRecord)
    (settlementPolicyId : String) : SnipingRunSummary :=
  let aggregates := roundtripAggregates records
  { historicalGroupCount := counts.groupCount
    historicalEventCount := counts.eventCount
    deliveredEventCount := counts.deliveredEventCount
    targetCount := counts.targetCount
    cooldownSkippedCount := counts.cooldownSkippedCount
    acceptedBuyCount := counts.acceptedBuyCount
    failedBuyCount := counts.failedBuyCount
    failedSellCount := counts.failedSellCount
    acceptedOrderCount := counts.acceptedBuyCount + aggregates.acceptedSellCount
    rejectedOrderCount := aggregates.rejectedBuyCount + aggregates.rejectedSellCount
    filledOrderCount := recorder.fills.length
    failedOrderCount := counts.failedBuyCount + counts.failedSellCount
    aggregates := aggregates
    ledgerTransactionCount := recorder.ledger.length
    roundtripCount := recorder.roundtrips.length
    finalBalances := portfolio.semanticBalances
    executionMode := executionMode
    settlementPolicyId := settlementPolicyId }

/-- Compute the results of a run that is over. -/
def finish (run : RunState) : Except Fault SnipingRunOutput := do
  let records ← run.states.entries.mapM (finalizeState setup run)
  let recorder := records.foldl Recorder.appendRoundtrip run.desk.recorder
  let settlementPolicyId ← liquidityPolicyIdForExecutionMode setup.config.executionMode
  .ok ⟨summarize run.counts run.desk.portfolio recorder setup.config.executionMode records
    settlementPolicyId, records, recorder⟩

/-- `SnipingReferenceEngine.run`. -/
def run (source : HistoricalEventSource) : Except Fault SnipingRunOutput := do
  let state ← simulate setup source
  finish setup state

end Run

end OnchainBacktest
