import OnchainBacktest.Reference.ObservationFeed

/-!
# The reference engine

A run goes through the transaction groups of a history, one boundary after the other.  At a boundary
the group is applied to the historical state, its events start waiting for their release, what is
released is shown to the strategy, the strategy's orders are accepted or rejected, the orders that
are due are executed, and the strategy is told what became of its orders.

What a run changes is `RunBooks`, apart from where the observations wait.
-/

set_option autoImplicit false

namespace OnchainBacktest

namespace Reference

open Checked

/-- The physical order of events, its position schema apart. -/
abbrev EventSortKey := String ×ₗ Nat ×ₗ Nat ×ₗ Int ×ₗ Nat

/-- `canonical_event_sort_key`. -/
def eventSortKey (e : EventEnvelope) : EventSortKey :=
  toLex (e.position.networkId.value, toLex (e.boundaryOrdinal,
    toLex (e.transactionGroupId.hex.val,
      toLex (match e.position.eventIndex with
        | none => -1
        | some index => (index : Int), e.stableCausalId.hex.val))))

structure RunCounts where
  groupCount : Nat
  eventCount : Nat
  deliveredCount : Nat
  acceptedCount : Nat
  rejectedCount : Nat
  filledOrderCount : Nat
  failedOrderCount : Nat
  deriving DecidableEq

/-- What a run changes, for a strategy with states of type `σ`. -/
structure RunBooks (σ : Type) where
  historical : HistoricalReferenceState
  observed : ObservedState
  venue : SimulationVenueState
  portfolio : PortfolioState
  strategy : σ
  executableOrders : CausalScheduler SwapExactInIntent
  seenOrders : List ContentDigest
  terminalOrders : List ContentDigest
  previousSortKey : Option EventSortKey
  previousGroupBoundary : Option Nat
  eventRowIndex : Nat
  counts : RunCounts
  recorder : Recorder

namespace RunBooks

/-- The books a run starts with. -/
def start {σ : Type} (config : ReferenceRunConfig) (strategy : σ) : RunBooks σ where
  historical := ⟨Dict.empty⟩
  observed := ⟨Dict.empty, []⟩
  venue := ⟨config.executionMode, Dict.empty⟩
  portfolio := PortfolioState.initial config.initialAvailable
  strategy := strategy
  executableOrders := KeyedQueue.empty
  seenOrders := []
  terminalOrders := []
  previousSortKey := none
  previousGroupBoundary := none
  eventRowIndex := 0
  counts := ⟨0, 0, 0, 0, 0, 0, 0⟩
  recorder := Recorder.empty

def audit {σ : Type} (books : RunBooks σ) (record : AuditRecord) : RunBooks σ :=
  { books with recorder := books.recorder.appendAudit record }

end RunBooks

section Run

variable {ε σ φ : Type} [MarketEvent ε]

/-! ## History -/

/-- The events of a group continue the strict order of the stream. -/
def requireOrdered (previous : Option EventSortKey) (events : List ε) :
    Except EngineFault (Option EventSortKey) :=
  events.foldlM (fun previous event => do
    refuseIf (∃ key ∈ previous, eventSortKey (envelope event) ≤ key)
      (.engineInvariant "historical events are not in strict canonical order")
    .ok (some (eventSortKey (envelope event)))) previous

/-- Apply a group to the history and let the venue take it over. -/
def applyHistory (timeline : BoundaryTimeline) (plugins : RunPlugins ε σ) (boundary : Nat)
    (groupId : Fin (2 ^ 256)) (events : List ε) (books : RunBooks σ) :
    Except EngineFault (RunBooks σ) := do
  let previousSortKey ← requireOrdered books.previousSortKey events
  refuseIf (books.previousGroupBoundary = some boundary)
    (.engineInvariant "one boundary contains more than one transaction group")
  let _ ← timeline.index boundary
  let _ ← events.mapM fun event => timeline.requireEvent (envelope event).position
  let historical ← books.historical.applyGroup events
  let venue ← books.venue.reconcileGroup events historical
  .ok (({ books with
      historical := historical
      venue := venue
      previousSortKey := previousSortKey
      previousGroupBoundary := some boundary
      counts :=
        { books.counts with
          groupCount := books.counts.groupCount + 1
          eventCount := books.counts.eventCount + events.length } } : RunBooks σ)
    |>.audit (.historicalGroupApplied boundary
        (events.map fun event => (envelope event).canonicalEventId.hex) groupId)
    |>.audit (.simulationReconciled boundary plugins.config.executionMode groupId))

/-! ## Observations -/

section Feed

variable [ObservationFeed ε φ]

/-- An event starts waiting for its release, or has none within the replay. -/
def registerEvent (timeline : BoundaryTimeline) (observationSlots boundary : Nat)
    (state : φ × RunBooks σ) (event : ε) : Except EngineFault (φ × RunBooks σ) := do
  let release ← timeline.observationRelease (envelope event).boundaryOrdinal observationSlots
  let feed ← ObservationFeed.register state.1 event state.2.eventRowIndex release
  let books := { state.2 with eventRowIndex := state.2.eventRowIndex + 1 }
  match release with
  | none => .ok (feed, books.audit
      (.observationOutsideHorizon boundary (envelope event).canonicalEventId.hex))
  | some _ => .ok (feed, books)

/-- `_check_queue_budget`. -/
def checkQueueBudget (maximum : Nat) (feed : φ) (books : RunBooks σ) :
    Except EngineFault Unit :=
  refuseIf (maximum < ObservationFeed.pendingCount feed + books.executableOrders.length)
    (.engineInvariant "dynamic scheduler item budget exceeded")

end Feed

/-- Show one observation. -/
def deliverObservation (boundary : Nat) (books : RunBooks σ)
    (item : SchedulerKey × Observation ε) : Except EngineFault (RunBooks σ) := do
  let observed ← books.observed.apply item.2.event
  .ok (({ books with
      observed := observed
      counts :=
        { books.counts with deliveredCount := books.counts.deliveredCount + 1 } } : RunBooks σ)
    |>.audit (.observationDelivered boundary (envelope item.2.event).canonicalEventId.hex
        item.1.sourceOrCreatorBoundaryOrdinal))

/-! ## Decisions -/

/-- The context of a callback, bound to an event row or to none. -/
def callbackContext (plugins : RunPlugins ε σ) (instant : ReplayBoundary) (books : RunBooks σ)
    (eventRowId : Option Nat) : StrategyContext where
  instant := instant
  observedMarket := .of books.observed
  portfolio := .of books.portfolio
  rng := plugins.config.rng
  features := .asOf plugins.features instant.boundaryOrdinal eventRowId
  predictions := .asOf plugins.predictions instant.boundaryOrdinal eventRowId
  eventRowId := eventRowId

/-- One intent of a callback. -/
def proposeIntent (boundary : Nat) (state : RunBooks σ × List SwapExactInIntent) :
    Intent → Except EngineFault (RunBooks σ × List SwapExactInIntent)
  | .other => .error (.engineInvariant "strategy emitted an unsupported intent type")
  | .swapExactIn intent => do
    refuseIf (intent.createdBoundaryOrdinal ≠ boundary)
      (.engineInvariant "strategy intent has a non-current decision boundary")
    refuseIf (intent.orderId ∈ state.1.seenOrders)
      (.engineInvariant "strategy emitted a duplicate order ID")
    let books := { state.1 with seenOrders := intent.orderId :: state.1.seenOrders }
    .ok (books.audit (.intentProposed boundary intent.orderId.hex), state.2 ++ [intent])

/-- The callback for one delivered event. -/
def callStrategy (plugins : RunPlugins ε σ) (instant : ReplayBoundary) (boundary : Nat)
    (state : RunBooks σ × List SwapExactInIntent) (observation : Observation ε) :
    Except EngineFault (RunBooks σ × List SwapExactInIntent) := do
  let (strategy, intents) ← raising (plugins.strategy.onEvent state.1.strategy observation.event
    (callbackContext plugins instant state.1 (some observation.eventRowId)))
  intents.foldlM (proposeIntent boundary) ({ state.1 with strategy := strategy }, state.2)

/-- The intents of a boundary in the order of their orders. -/
def sortedIntents (intents : List SwapExactInIntent) : List SwapExactInIntent :=
  intents.insertionSort fun a b => a.orderId.hex.val ≤ b.orderId.hex.val

/-! ## Ledger transactions -/

section Transactions

variable [DomainDigest]

/-- Move the amount of an order between the available and the reserved balance. -/
def reservationPostings (intent : SwapExactInIntent) (source target : LedgerAccount) :
    List Posting :=
  [⟨source, intent.soldAssetId, -(intent.amountInAtomic : Int),
      by have := intent.amount_pos; omega⟩,
    ⟨target, intent.soldAssetId, intent.amountInAtomic,
      by have := intent.amount_pos; omega⟩]

def availableAccount (asset : AssetId) : LedgerAccount := ⟨.available asset, .portfolioAvailable⟩

def reservedAccount (asset : AssetId) : LedgerAccount := ⟨.reserved asset, .portfolioReserved⟩

/-- The digest a ledger transaction of an order is correlated with. -/
def orderCausalDigest (orderId : ContentDigest) : ContentDigest := ⟨orderId.hex, false⟩

def reservationTransaction (intent : SwapExactInIntent) (boundary : Nat) :
    Except Fault LedgerTransaction :=
  LedgerTransaction.make
    (domainDigest "backtest.ledger-reservation.v1"
      [("amount_atomic", .integer intent.amountInAtomic),
        ("asset_id", .text intent.soldAssetId.value),
        ("boundary_ordinal", .integer boundary),
        ("order_id", .text intent.orderId.spelling)])
    .order (orderCausalDigest intent.orderId) boundary
    (reservationPostings intent (availableAccount intent.soldAssetId)
      (reservedAccount intent.soldAssetId)) "ORDER_RESERVATION"

def releaseTransaction (intent : SwapExactInIntent) (boundary : Nat) (reasonCode : String) :
    Except Fault LedgerTransaction :=
  LedgerTransaction.make
    (domainDigest "backtest.ledger-release.v1"
      [("amount_atomic", .integer intent.amountInAtomic),
        ("asset_id", .text intent.soldAssetId.value),
        ("boundary_ordinal", .integer boundary),
        ("order_id", .text intent.orderId.spelling),
        ("reason", .text reasonCode)])
    .order (orderCausalDigest intent.orderId) boundary
    (reservationPostings intent (reservedAccount intent.soldAssetId)
      (availableAccount intent.soldAssetId)) "ORDER_RELEASE"

/-- `posting_documents`: the postings by account, asset and amount, one after the other. -/
def postingDocuments (postings : List Posting) : List (String × DigestField) :=
  (postings.insertionSort fun a b =>
      toLex (a.account.accountId.value, toLex (a.assetId.value, a.amountAtomic))
        ≤ toLex (b.account.accountId.value, toLex (b.assetId.value, b.amountAtomic))).flatMap
    fun p =>
      [("account_id", .text p.account.accountId.value), ("account_kind", .text p.account.kind.value),
        ("amount_atomic", .integer p.amountAtomic), ("asset_id", .text p.assetId.value)]

def settlementTransaction (intent : SwapExactInIntent) (postings : List Posting)
    (boundary : Nat) : Except Fault LedgerTransaction :=
  LedgerTransaction.make
    (domainDigest "backtest.ledger-settlement.v1"
      (("boundary_ordinal", .integer boundary) :: ("order_id", .text intent.orderId.spelling) ::
        postingDocuments postings))
    .order (orderCausalDigest intent.orderId) boundary postings "ORDER_SETTLEMENT"

/-! ## Acceptance -/

/-- Turn an order down. -/
def rejectOrder (boundary : Nat) (reason : RejectionReason) (intent : SwapExactInIntent)
    (state : RunBooks σ × List ExecutionNotification) :
    RunBooks σ × List ExecutionNotification :=
  (({ state.1 with
      terminalOrders := intent.orderId :: state.1.terminalOrders
      counts :=
        { state.1.counts with rejectedCount := state.1.counts.rejectedCount + 1 } } : RunBooks σ)
      |>.audit (.orderRejected boundary intent.orderId.hex reason),
    state.2 ++ [.plain intent.orderId .rejected boundary [reason.value] (by decide)])

/-- Apply a ledger transaction and write it. -/
def applyTransaction (transaction : LedgerTransaction) (books : RunBooks σ) :
    Except EngineFault (RunBooks σ) := do
  let candidate ← raising (books.portfolio.preview transaction)
  .ok { books with
    portfolio := books.portfolio.commit candidate
    recorder := books.recorder.appendLedger transaction }

/-- The key an order is executed under. -/
def orderKey (release boundary : Nat) (intent : SwapExactInIntent) : SchedulerKey :=
  ⟨release, .venueExecutionAndLedgerCommit, boundary, intent.orderId.hex⟩

/-- Reserve the amount of an order and let it wait for its release. -/
def acceptOrder (boundary release : Nat) (intent : SwapExactInIntent)
    (state : RunBooks σ × List ExecutionNotification) :
    Except EngineFault (RunBooks σ × List ExecutionNotification) := do
  let reservation ← raising (reservationTransaction intent boundary)
  let books ← applyTransaction reservation state.1
  let executableOrders ←
    books.executableOrders.enqueue (orderKey release boundary intent) intent
  .ok (({ books with
      executableOrders := executableOrders
      counts :=
        { books.counts with acceptedCount := books.counts.acceptedCount + 1 } } : RunBooks σ)
      |>.audit (.orderAcceptedAndReserved boundary release intent.orderId.hex),
    state.2 ++ [.plain intent.orderId .accepted boundary [] (by decide)])

/-- One order of a boundary. -/
def decideOrder (timeline : BoundaryTimeline) (plugins : RunPlugins ε σ) (boundary : Nat)
    (state : RunBooks σ × List ExecutionNotification) (intent : SwapExactInIntent) :
    Except EngineFault (RunBooks σ × List ExecutionNotification) := do
  let release ← timeline.orderRelease boundary plugins.config.latency.orderSlots
  match release with
  | none => .ok (rejectOrder boundary .horizonExhausted intent state)
  | some release =>
    if plugins.riskPolicy.accept intent (.of state.1.portfolio) then
      acceptOrder boundary release intent state
    else .ok (rejectOrder boundary .riskRejected intent state)

/-! ## Execution -/

/-- `_validate_execution_plan`. -/
def validateExecutionPlan (intent : SwapExactInIntent) (plan : ExecutionPlan) (boundary : Nat)
    (mode : ExecutionMode) : Except EngineFault Unit := do
  refuseIf (∃ fill ∈ plan.fills, fill.orderId ≠ intent.orderId)
    (.engineInvariant "execution plan contains another order ID")
  refuseIf (∃ fill ∈ plan.fills, fill.boundaryOrdinal ≠ boundary)
    (.engineInvariant "execution plan fill has a non-current boundary")
  refuseIf ((plan.fills.map (·.amountInAtomic)).sum ≠ intent.amountInAtomic)
    (.engineInvariant "execution plan input amount differs from reserved input")
  refuseIf (mode = .exogenousReplay ∧ plan.transition ≠ none)
    (.engineInvariant "exogenous execution must not mutate venue state")
  refuseIf (mode ≠ .exogenousReplay ∧ plan.transition = none)
    (.engineInvariant "stateful execution requires a venue transition")

/-- Give the reserved amount of an order back. -/
def failOrder (boundary : Nat) (code : String) (intent : SwapExactInIntent)
    (state : RunBooks σ × List ExecutionNotification) :
    Except EngineFault (RunBooks σ × List ExecutionNotification) := do
  let release ← raising (releaseTransaction intent boundary code)
  let books ← applyTransaction release state.1
  .ok (({ books with
      terminalOrders := intent.orderId :: books.terminalOrders
      counts :=
        { books.counts with failedOrderCount := books.counts.failedOrderCount + 1 } } : RunBooks σ)
      |>.audit (.orderExecutionFailedAndReleased boundary intent.orderId.hex code),
    state.2 ++ [.plain intent.orderId .executionFailed boundary [code] (by decide)])

/-- The venue after a plan. -/
def previewVenue (venue : SimulationVenueState) (plan : ExecutionPlan) :
    Except EngineFault SimulationVenueState :=
  match plan.transition with
  | none => .ok venue
  | some transition => do
    let candidate ← venue.previewTransition transition
    .ok (venue.commit candidate)

/-- The fills of a plan in the order of their orders. -/
def sortedFills (fills : List Fill) : List Fill :=
  fills.insertionSort fun a b => a.orderId.hex.val ≤ b.orderId.hex.val

/-- Settle an order by a plan, as a whole. -/
def fillOrder (boundary : Nat) (mode : ExecutionMode) (plan : ExecutionPlan)
    (intent : SwapExactInIntent) (state : RunBooks σ × List ExecutionNotification) :
    Except EngineFault (RunBooks σ × List ExecutionNotification) := do
  validateExecutionPlan intent plan boundary mode
  let settlement ← raising (settlementTransaction intent plan.ledgerPostings boundary)
  let books ← applyTransaction settlement state.1
  let venue ← previewVenue state.1.venue plan
  let notification ← raising (ExecutionNotification.make intent.orderId .filled boundary plan.fills
    plan.reports)
  .ok (({ books with
      venue := venue
      terminalOrders := intent.orderId :: books.terminalOrders
      counts :=
        { books.counts with filledOrderCount := books.counts.filledOrderCount + 1 }
      recorder := (sortedFills plan.fills).foldl Recorder.appendFill books.recorder } :
        RunBooks σ)
      |>.audit (.orderFilledAtomically boundary plan.fills.length intent.orderId.hex),
    state.2 ++ [notification])

/-- Execute an order that is due. -/
def executeOrder (plugins : RunPlugins ε σ) (boundary : Nat)
    (state : RunBooks σ × List ExecutionNotification)
    (item : SchedulerKey × SwapExactInIntent) :
    Except EngineFault (RunBooks σ × List ExecutionNotification) := do
  let intent := item.2
  refuseIf (intent.orderId ∈ state.1.terminalOrders)
    (.engineInvariant "terminal order was scheduled for execution twice")
  match plugins.executionModel.execute intent state.1.venue boundary
      plugins.config.executionMode with
  | .failed fault => .error (.raised fault)
  | .unsupported => .error (.engineInvariant "venue model returned a non-ExecutionPlan value")
  | .rejected code => failOrder boundary code intent state
  | .planned plan => fillOrder boundary plugins.config.executionMode plan intent state

/-- The orders that are due leave the scheduler. -/
def popReadyOrders (boundary : Nat) (books : RunBooks σ) :
    List (SchedulerKey × SwapExactInIntent) × RunBooks σ :=
  let (ready, executableOrders) :=
    books.executableOrders.popReady boundary .venueExecutionAndLedgerCommit
  (ready, { books with executableOrders := executableOrders })

/-! ## Notifications -/

def sortedNotifications (notifications : List ExecutionNotification) :
    List ExecutionNotification :=
  notifications.insertionSort fun a b => a.sortKey ≤ b.sortKey

/-- Tell the strategy of an order. -/
def notifyStrategy (plugins : RunPlugins ε σ) (instant : ReplayBoundary) (boundary : Nat)
    (books : RunBooks σ) (notification : ExecutionNotification) :
    Except EngineFault (RunBooks σ) := do
  let strategy ← raising (plugins.strategy.onExecution books.strategy notification
    (callbackContext plugins instant books none))
  .ok (({ books with strategy := strategy } : RunBooks σ)
    |>.audit (.strategyNotified boundary notification.orderId.hex notification.status))

/-! ## Groups -/

/-- The strategy's callbacks at a boundary, and its orders. -/
def decideOrders (timeline : BoundaryTimeline) (plugins : RunPlugins ε σ) (boundary : Nat)
    (instant : ReplayBoundary) (delivered : List (Observation ε)) (books : RunBooks σ) :
    Except EngineFault (RunBooks σ × List ExecutionNotification) := do
  let (books, proposed) ← delivered.foldlM (callStrategy plugins instant boundary) (books, [])
  (sortedIntents proposed).foldlM (decideOrder timeline plugins boundary) (books, [])

/-- The orders of a boundary that are due, the notifications of the boundary and its checkpoint. -/
def settleBoundary (plugins : RunPlugins ε σ) (boundary : Nat) (instant : ReplayBoundary)
    (books : RunBooks σ) (notifications : List ExecutionNotification) :
    Except EngineFault (RunBooks σ) := do
  let (ready, books) := popReadyOrders boundary books
  let (books, notifications) ←
    ready.foldlM (executeOrder plugins boundary) (books, notifications)
  let books ← (sortedNotifications notifications).foldlM
    (notifyStrategy plugins instant boundary) books
  .ok (books.audit (.boundaryCheckpoint boundary))

variable [ObservationFeed ε φ]

/-- One transaction group. -/
def processGroup (timeline : BoundaryTimeline) (plugins : RunPlugins ε σ)
    (state : φ × RunBooks σ) (events : List ε) : Except EngineFault (φ × RunBooks σ) := do
  match events with
  | [] => .error (.engineInvariant "replay emitted an empty historical group")
  | first :: _ =>
    let boundary := (envelope first).boundaryOrdinal
    let books ← applyHistory timeline plugins boundary (envelope first).transactionGroupId.hex
      events state.2
    let (feed, books) ← events.foldlM
      (registerEvent timeline plugins.config.latency.observationSlots boundary) (state.1, books)
    checkQueueBudget plugins.config.maximumDynamicItems feed books
    let (ready, feed) ← ObservationFeed.popReady feed boundary
    let books ← ready.foldlM (deliverObservation boundary) books
    let instant ← timeline.instant boundary
    let (books, notifications) ←
      decideOrders timeline plugins boundary instant (ready.map Prod.snd) books
    checkQueueBudget plugins.config.maximumDynamicItems feed books
    let books ← settleBoundary plugins boundary instant books notifications
    .ok (feed, books)

/-! ## Runs -/

/-- Two neighbours of one transaction group. -/
def sameGroup (a b : ε) : Bool :=
  (envelope a).boundaryOrdinal == (envelope b).boundaryOrdinal &&
    (envelope a).transactionGroupId.hex == (envelope b).transactionGroupId.hex

/-- The transaction groups of a stream. -/
def eventGroups (events : List ε) : List (List ε) := events.splitBy sameGroup

/-- The groups of a stream, from where a run stands. -/
def runGroups (timeline : BoundaryTimeline) (plugins : RunPlugins ε σ) (state : φ × RunBooks σ)
    (groups : List (List ε)) : Except EngineFault (φ × RunBooks σ) :=
  groups.foldlM (processGroup timeline plugins) state

/-- What a run returns: the counts, the three streams and the final balances. -/
structure RunSummary where
  counts : RunCounts
  recorder : Recorder
  finalBalances : List BalanceRow

/-- The checks at the end of a replay. -/
def finishRun (state : φ × RunBooks σ) : Except EngineFault RunSummary := do
  refuseIf (state.2.counts.eventCount = 0)
    (.engineInvariant "replay source emitted no canonical events")
  ObservationFeed.finish state.1 state.2.counts.eventCount
  refuseIf (ObservationFeed.leftover state.1 ≠ 0 ∨ state.2.executableOrders.length ≠ 0)
    (.engineInvariant "replay ended with supposedly reachable dynamic items")
  .ok ⟨state.2.counts, state.2.recorder, state.2.portfolio.semanticBalances⟩

/-- A run from a feed. -/
def runWith (timeline : BoundaryTimeline) (plugins : RunPlugins ε σ) (strategy : σ) (feed : φ)
    (events : List ε) : Except EngineFault RunSummary := do
  let state ← runGroups timeline plugins (feed, RunBooks.start plugins.config strategy)
    (eventGroups events)
  finishRun state

/-- A historical event source; `eventAt` is there when its rows are indexed. -/
structure HistoricalEventSource (ε : Type) where
  boundaries : List ReplayBoundary
  events : List ε
  eventAt : Option (Nat → Except Fault ε)

/-- `ReferenceBacktestEngine.run`. -/
def run (source : HistoricalEventSource ε) (plugins : RunPlugins ε σ) (strategy : σ)
    (deliverySchedule : Option ObservationDeliverySource) : Except EngineFault RunSummary := do
  let timeline ← BoundaryTimeline.make source.boundaries
  match deliverySchedule with
  | none =>
    runWith timeline plugins strategy (KeyedQueue.empty : CausalScheduler (Observation ε))
      source.events
  | some schedule =>
    match source.eventAt with
    | none => .error (.engineInvariant
      "materialized deliveries require a stable row-indexed ReplayPack")
    | some eventAt => do
      let merge ← MaterializedObservationMerge.make schedule eventAt timeline
        plugins.config.latency.observationSlots
      runWith timeline plugins strategy merge source.events

end Transactions

end Run

end Reference

end OnchainBacktest
