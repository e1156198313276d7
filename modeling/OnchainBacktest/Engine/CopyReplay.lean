import OnchainBacktest.Engine.CopyExecution
import OnchainBacktest.Engine.EventGroups

/-!
# The copy replay

The sequential replay of a copy run: history and its delayed observation are merged with the
actions the orders have scheduled, one boundary after another.  At a boundary the historical group
is applied, then the observed one; then the callbacks decide entries and exits, the orders they ask
for are submitted, and the orders that are due land.

The whole stream is validated before anything moves.  The loop is given a number of rounds; it ends
when nothing is ahead, and a run that is given too few ends with no result (`none`).
-/

set_option autoImplicit false

namespace OnchainBacktest

open Checked

/-! ## Groups and deliveries -/

/-- The largest group that is admitted. -/
def MAXIMUM_GROUP_EVENTS : Nat := 10000

/-- The events before the one that makes a group too large, and whether there is such a one. -/
def boundedEvents (previous : Option CanonicalEvent) (count : Nat) :
    List CanonicalEvent → List CanonicalEvent × Bool
  | [] => ([], false)
  | event :: rest =>
    let count := if ∃ p ∈ previous, sameGroup event p then count + 1 else 1
    if MAXIMUM_GROUP_EVENTS < count then ([], true)
    else
      let later := boundedEvents (some event) count rest
      (event :: later.1, later.2)

/-- `copy_event_groups`: the shared groups, cut at a group that is too large. -/
def copyEventGroups (clock : CompactTransactionClock) (events : List CanonicalEvent) :
    EventGroups :=
  let bounded := boundedEvents none 0 events
  let grouped := eventGroups clock bounded.1
  match grouped.fault, bounded.2 with
  | some fault, _ => ⟨grouped.groups, some fault⟩
  | none, false => grouped
  | none, true =>
    ⟨grouped.groups.dropLast, some (.value "copy transaction group admission limit exceeded")⟩

/-- `_group_seconds`. -/
def groupSeconds (clock : CompactTransactionClock) (first : CanonicalEvent) : Except Fault Nat := do
  let time ← clock.blockTimeForBlock first.envelope.position.blockOrdinal
  .ok (time / 1000000000)

/-- A group with the boundary it is observed at. -/
structure Delivery where
  boundary : Nat
  group : List CanonicalEvent

/-- `_deliveries`: the groups, each `delay` transactions later, as far as the clock reaches. -/
def deliveries (clock : CompactTransactionClock) (delay : Nat) :
    List (List CanonicalEvent) → Except Fault (List Delivery)
  | [] => .ok []
  | [] :: later => deliveries clock delay later
  | (first :: rest) :: later =>
    let position := boundaryPosition first
    if position.transactionIndex < 0 then deliveries clock delay later
    else do
      let index ← clock.globalTransactionIndex position
      if clock.totalTransactionCount ≤ index + delay then .ok []
      else do
        let release ← observedAt clock position delay
        let deliveries ← deliveries clock delay later
        .ok (⟨release.boundaryOrdinal, first :: rest⟩ :: deliveries)

/-! ## Validation -/

section Replay

variable [DomainDigest] (setup : CopySetup)

/-- A signal that may start a position needs its whole settlement path. -/
def validateSignal (signal : CopyBuySignal) : Except Fault Unit :=
  if signal.signingWallet ∈ setup.strategy.signingWallets ∧
      setup.decisionRange.containsBlock signal.position.blockOrdinal = true then do
    let _ ← maximumSettlementPosition setup.clock signal.position setup.strategy.policy
    .ok ()
  else .ok ()

/-- One group of the validation: the events so far, and the curves they give. -/
def validateGroup (seen : Nat × Curves) (group : List CanonicalEvent) :
    Except Fault (Nat × Curves) :=
  match group with
  | [] => .ok seen
  | first :: rest => do
    let eventCount := seen.1 + (first :: rest).length
    refuseIf (setup.maximumEvents < eventCount)
      (.value "copy source event admission limit exceeded")
    let seconds ← groupSeconds setup.clock first
    let (curves, signals) ← setup.protocol.applyGroup seen.2 (first :: rest) seconds
    signals.forM (validateSignal setup)
    .ok (eventCount, curves)

/-- `validate_copy_replay`: the number of events and of groups. -/
def validateCopyReplay (source : HistoricalEventSource) : Except Fault (Nat × Nat) := do
  refuseIf (setup.decisionRange.networkId ≠ setup.clock.networkId ∨
      setup.decisionRange.positionSchemaId ≠ setup.clock.positionSchemaId)
    (.value "copy decision range and transaction clock have different identities")
  let grouped := copyEventGroups setup.clock source.events
  let (eventCount, _) ← grouped.groups.foldlM (validateGroup setup) (0, Dict.empty)
  match grouped.fault with
  | some fault => .error fault
  | none => do
    refuseIf (∃ declared ∈ source.eventCount, eventCount ≠ declared)
      (.value "copy canonical source count mismatch")
    .ok (eventCount, grouped.groups.length)

/-! ## The schedule -/

inductive CopyActionKind
  | order
  | hold
  | exit
  | retry
  deriving DecidableEq, Repr

def CopyActionKind.value : CopyActionKind → String
  | order => "ORDER"
  | hold => "HOLD"
  | exit => "EXIT"
  | retry => "RETRY"

/-- The phase of a boundary an action runs in. -/
def CopyActionKind.phase : CopyActionKind → Nat
  | order => 60
  | hold | exit | retry => 40

structure CopyAction where
  release : Nat
  creator : Nat
  causalId : ContentDigest
  positionId : ContentDigest
  kind : CopyActionKind
  deriving DecidableEq

/-- The order of the heap. -/
def copyActionLe (a b : CopyAction) : Prop :=
  toLex (a.release, toLex (a.kind.phase, toLex (a.creator, a.causalId.hex.val)))
    ≤ toLex (b.release, toLex (b.kind.phase, toLex (b.creator, b.causalId.hex.val)))

instance copyActionLe_decidable : DecidableRel copyActionLe :=
  fun a b => inferInstanceAs (Decidable (toLex (a.release, toLex (a.kind.phase,
      toLex (a.creator, a.causalId.hex.val)))
    ≤ toLex (b.release, toLex (b.kind.phase, toLex (b.creator, b.causalId.hex.val)))))

/-- `_schedule`. -/
def scheduleCopy (queue : List CopyAction) (state : CopyExecutionPosition)
    (release : Option ChainPosition) (creator : ChainPosition) (kind : CopyActionKind) :
    Except Fault (List CopyAction) :=
  match release with
  | none => .error (.value "copy action must be eligible strictly after its creator boundary")
  | some release => do
    refuseIf (release.boundaryOrdinal ≤ creator.boundaryOrdinal)
      (.value "copy action must be eligible strictly after its creator boundary")
    .ok (queue.orderedInsert copyActionLe
      { release := release.boundaryOrdinal
        creator := creator.boundaryOrdinal
        causalId := plainDigest "backtest.copy-scheduled-action.v1"
          [("position_id", .text state.intent.roundtripId.spelling), ("kind", .text kind.value),
            ("attempt", .integer state.control.sellAttemptCount),
            ("creator", .integer creator.boundaryOrdinal)]
        positionId := state.intent.roundtripId
        kind := kind })

/-! ## The state of a run -/

structure CopyCounts where
  events : Nat := 0
  groups : Nat := 0
  delivered : Nat := 0
  observedEvents : Nat := 0
  deriving DecidableEq

/-- Everything a run moves.  The entries of `states` are in the order the positions started. -/
structure CopyRun where
  desk : CopyDesk
  states : Dict ContentDigest CopyExecutionPosition
  byVenue : Dict VenueId ContentDigest
  consumedMints : List AssetId
  scheduled : List CopyAction
  counts : CopyCounts

/-- The orders the callbacks of one boundary ask for, a buy or a sell for each position. -/
abbrev CopyRequests := Dict ContentDigest Bool

/-- What is ahead of a run. -/
structure CopyAhead where
  history : List (List CanonicalEvent)
  observations : List Delivery

/-- The state of a position that is there. -/
def requireState (states : Dict ContentDigest CopyExecutionPosition) (positionId : ContentDigest) :
    Except Fault CopyExecutionPosition :=
  match states.get? positionId with
  | some state => .ok state
  | none => .error (.value "copy position is unknown")

/-! ## Callbacks -/

/-- `_exit`: one latched condition owns at most one pending full-position sell. -/
def exitCallback (position : ChainPosition) (run : CopyRun × CopyRequests)
    (positionId : ContentDigest) : Except Fault (CopyRun × CopyRequests) := do
  let state ← requireState run.1.states positionId
  match state.control.status with
  | .opened => do
    let price ← setup.protocol.currentPrice run.1.desk.observed state.intent
    let (control, reason) ← state.control.evaluateExit position price
    let states := run.1.states.set positionId { state with control := control }
    match reason with
    | none => .ok ({ run.1 with states := states }, run.2)
    | some _ => .ok ({ run.1 with states := states }, requestSell run.2 positionId)
  | .retryWait =>
    match state.control.retryPosition with
    | none => .ok run
    | some retryPosition =>
      if position.boundaryOrdinal < retryPosition.boundaryOrdinal then .ok run
      else .ok (run.1, requestSell run.2 positionId)
  | _ => .ok run
where
  /-- `requests.setdefault(…, (state, False))`. -/
  requestSell (requests : CopyRequests) (positionId : ContentDigest) : CopyRequests :=
    if requests.get? positionId = none then requests.set positionId false else requests

/-- The venue an event changes. -/
def CanonicalEvent.changedVenue? : CanonicalEvent → Option VenueId
  | .block _ => none
  | .tokenLaunch launch => some launch.venueId
  | .venueTrade trade => some trade.venueId
  | .venueLifecycle lifecycle => some lifecycle.venueId

/-- The positions at the venues of a group, in the order they are evaluated in. -/
def affectedPositions (byVenue : Dict VenueId ContentDigest) (group : List CanonicalEvent) :
    List ContentDigest :=
  ((group.filterMap CanonicalEvent.changedVenue?).dedup.filterMap byVenue.get?).insertionSort
    fun a b => a.hex.val ≤ b.hex.val

/-- One signal that was delivered: it may start a position. -/
def enterSignal (position : ChainPosition) (run : CopyRun × CopyRequests)
    (signal : CopyBuySignal) : Except Fault (CopyRun × CopyRequests) :=
  if setup.decisionRange.containsBlock signal.position.blockOrdinal = false then .ok run
  else do
    let (intent, consumedMints) ← setup.strategy.decide run.1.consumedMints signal position
    let moved := { run.1 with consumedMints := consumedMints }
    match intent with
    | none => .ok (moved, run.2)
    | some intent => do
      refuseIf (setup.maximumPositions ≤ run.1.states.keys.length)
        (.value "copy position admission limit exceeded")
      .ok ({ moved with
        states := run.1.states.set intent.roundtripId (CopyExecutionPosition.start intent)
        byVenue := run.1.byVenue.set intent.venueId intent.roundtripId },
        run.2.set intent.roundtripId true)

/-- A callback of a boundary: a timer, or a group that was observed with its signals. -/
inductive CopyCallback
  | timer (action : CopyAction)
  | market (group : List CanonicalEvent) (signals : List CopyBuySignal)

/-- A callback with the boundary and the identity it is ordered by. -/
structure OrderedCallback where
  creator : Nat
  causalId : ContentDigest
  callback : CopyCallback

def callbackLe (a b : OrderedCallback) : Prop :=
  toLex (a.creator, a.causalId.hex.val) ≤ toLex (b.creator, b.causalId.hex.val)

instance callbackLe_decidable : DecidableRel callbackLe :=
  fun a b => inferInstanceAs (Decidable (toLex (a.creator, a.causalId.hex.val)
    ≤ toLex (b.creator, b.causalId.hex.val)))

/-- One callback. -/
def handleCallback (position : ChainPosition) (run : CopyRun × CopyRequests)
    (callback : OrderedCallback) : Except Fault (CopyRun × CopyRequests) :=
  match callback.callback with
  | .timer action => exitCallback setup position run action.positionId
  | .market group signals => do
    let run ← (affectedPositions run.1.byVenue group).foldlM (exitCallback setup position) run
    signals.foldlM (enterSignal setup position) run

/-! ## The phases of a boundary -/

/-- Phase 10: the historical group of the boundary, if it has one. -/
def applyHistory (boundary : Nat) (ahead : CopyAhead) (run : CopyRun) :
    Except Fault (CopyAhead × CopyRun) :=
  match ahead.history with
  | (first :: rest) :: later =>
    if first.boundaryOrdinal = boundary then do
      let seconds ← groupSeconds setup.clock first
      let (curves, _) ← setup.protocol.applyGroup run.desk.historical (first :: rest) seconds
      .ok ({ ahead with history := later },
        { run with
          desk := { run.desk with historical := curves }
          counts := { run.counts with
            events := run.counts.events + (first :: rest).length
            groups := run.counts.groups + 1 } })
    else .ok (ahead, run)
  | _ => .ok (ahead, run)

/-- Phase 30: the group that is observed at the boundary, if there is one. -/
def applyObservation (boundary : Nat) (ahead : CopyAhead) (run : CopyRun) :
    Except Fault (CopyAhead × CopyRun × List OrderedCallback) :=
  match ahead.observations with
  | ⟨release, first :: rest⟩ :: later =>
    if release = boundary then do
      let seconds ← groupSeconds setup.clock first
      let (curves, signals) ← setup.protocol.applyGroup run.desk.observed (first :: rest) seconds
      .ok ({ ahead with observations := later },
        { run with
          desk := { run.desk with observed := curves }
          counts := { run.counts with
            delivered := run.counts.delivered + 1
            observedEvents := run.counts.observedEvents + (first :: rest).length } },
        [⟨first.boundaryOrdinal, first.envelope.transactionGroupId,
          .market (first :: rest) signals⟩])
    else .ok (ahead, run, [])
  | _ => .ok (ahead, run, [])

/-- The timers that are due at a boundary, and the rest of the schedule. -/
def popTimers (scheduled : List CopyAction) (boundary : Nat) : List CopyAction × List CopyAction :=
  scheduled.span fun action => action.release = boundary ∧ action.kind.phase = 40

/-- Phase 40: the callbacks in canonical order. -/
def runCallbacks (boundary : Nat) (position : ChainPosition) (run : CopyRun)
    (observed : List OrderedCallback) : Except Fault (CopyRun × CopyRequests) :=
  let popped := popTimers run.scheduled boundary
  let callbacks := observed
    ++ popped.1.map fun action => ⟨action.creator, action.causalId, .timer action⟩
  (callbacks.insertionSort callbackLe).foldlM (handleCallback setup position)
    ({ run with scheduled := popped.2 }, Dict.empty)

/-- A position that waits for its next attempt is scheduled for it. -/
def scheduleRetry (run : CopyRun) (state : CopyExecutionPosition) (position : ChainPosition) :
    Except Fault CopyRun :=
  if state.control.status = .retryWait then do
    let scheduled ← scheduleCopy run.scheduled state state.control.retryPosition position .retry
    .ok { run with scheduled := scheduled }
  else .ok run

/-- The order that was asked for: an entry or an exit. -/
def beginRequest (position : ChainPosition) (desk : CopyDesk) (state : CopyExecutionPosition)
    (isBuy : Bool) : Except Fault CopyHandled :=
  if isBuy then beginBuy setup desk state else beginSell setup desk state position

/-- Phase 50: submit one order that was asked for. -/
def submitRequest (position : ChainPosition) (run : CopyRun) (request : ContentDigest × Bool) :
    Except Fault CopyRun := do
  let state ← requireState run.states request.1
  let handled ← beginRequest setup position run.desk state request.2
  let run := { run with
    desk := handled.desk
    states := run.states.set request.1 handled.state }
  match handled.state.attempts.getLast? with
  | none => .ok run
  | some attempt =>
    if attempt.status = .submitted then do
      let scheduled ← scheduleCopy run.scheduled handled.state (some attempt.expectedLanding)
        position .order
      .ok { run with scheduled := scheduled }
    else scheduleRetry run handled.state position

/-- Phase 60: land one order that is due. -/
def landCopyAction (position : ChainPosition) (run : CopyRun) (action : CopyAction) :
    Except Fault CopyRun := do
  refuseIf (action.kind.phase ≠ 60)
    (.value "copy scheduler attempted to revisit an earlier phase")
  let state ← requireState run.states action.positionId
  let handled ← land setup run.desk state position
  .ok { run with
    desk := handled.desk
    states := run.states.set action.positionId handled.state }

/-- Phase 70: an open position starts its timer, or its exit if one is due. -/
def notifyPosition (position : ChainPosition) (run : CopyRun) (action : CopyAction) :
    Except Fault CopyRun := do
  let state ← requireState run.states action.positionId
  if state.control.status = .opened then do
    let price ← setup.protocol.currentPrice run.desk.observed state.intent
    let (control, reason) ← state.control.evaluateExit position price
    let state := { state with control := control }
    let run := { run with states := run.states.set action.positionId state }
    match reason with
    | none => do
      let scheduled ← scheduleCopy run.scheduled state control.deadline position .hold
      .ok { run with scheduled := scheduled }
    | some _ => do
      let due ← setup.clock.transactionAfter position 1
      let scheduled ← scheduleCopy run.scheduled state (some due) position .exit
      .ok { run with scheduled := scheduled }
  else scheduleRetry run state position

/-- The orders that are due at a boundary, and the rest of the schedule. -/
def popDue (scheduled : List CopyAction) (boundary : Nat) : List CopyAction × List CopyAction :=
  scheduled.span fun action => action.release = boundary

/-- `_next_boundary`, and `none` when the run is over. -/
def nextCopyBoundary (ahead : CopyAhead) (scheduled : List CopyAction) : Option Nat :=
  ((scheduled.head?.map CopyAction.release).toList
    ++ (ahead.history.head?.map groupBoundary).toList
    ++ (ahead.observations.head?.map Delivery.boundary).toList).min?

/-- One boundary. -/
def processCopyBoundary (boundary : Nat) (ahead : CopyAhead) (run : CopyRun) :
    Except Fault (CopyAhead × CopyRun) := do
  let position ← ChainPosition.fromBoundaryOrdinal setup.clock.networkId
    setup.clock.positionSchemaId boundary
  let (ahead, run) ← applyHistory setup boundary ahead run
  let (ahead, run, observed) ← applyObservation setup boundary ahead run
  let (run, requests) ← runCallbacks setup boundary position run observed
  let run ← requests.entries.foldlM (submitRequest setup position) run
  let popped := popDue run.scheduled boundary
  let run ← popped.1.foldlM (landCopyAction setup position) { run with scheduled := popped.2 }
  let run ← popped.1.foldlM (notifyPosition setup position) run
  refuseIf (setup.maximumDynamicItems < run.scheduled.length)
    (.value "copy dynamic scheduler admission limit exceeded")
  .ok (ahead, run)

/-- The loop over boundaries; `none` when the rounds did not suffice. -/
def copyLoop : Nat → CopyAhead → CopyRun → Except Fault (Option CopyRun)
  | 0, ahead, run =>
    if nextCopyBoundary ahead run.scheduled = none then .ok (some run) else .ok none
  | rounds + 1, ahead, run =>
    match nextCopyBoundary ahead run.scheduled with
    | none => .ok (some run)
    | some boundary => do
      let (ahead, run) ← processCopyBoundary setup boundary ahead run
      copyLoop rounds ahead run

/-! ## The run -/

/-- The run before its first boundary. -/
def openingCopyRun : CopyRun where
  desk :=
    { historical := Dict.empty
      observed := Dict.empty
      portfolio := PortfolioState.initial [(setup.quoteAssetId, setup.initialQuoteBalanceAtomic)]
      accounts := setup.initialAccounts
      cashflows := Dict.empty
      ledger := []
      audit := []
      fills := [] }
  states := Dict.empty
  byVenue := Dict.empty
  consumedMints := []
  scheduled := []
  counts := {}

/-- Positions are published in the order of their source boundary and their identity. -/
def publishedBefore (a b : CopyExecutionPosition) : Prop :=
  toLex (a.intent.signal.position.boundaryOrdinal, a.intent.roundtripId.hex.val)
    ≤ toLex (b.intent.signal.position.boundaryOrdinal, b.intent.roundtripId.hex.val)

instance publishedBefore_decidable : DecidableRel publishedBefore :=
  fun a b => inferInstanceAs (Decidable (toLex (a.intent.signal.position.boundaryOrdinal,
      a.intent.roundtripId.hex.val)
    ≤ toLex (b.intent.signal.position.boundaryOrdinal, b.intent.roundtripId.hex.val)))

/-- A position that has come to its end. -/
def CopyPositionStatus.finished (status : CopyPositionStatus) : Bool :=
  status == .closed || status == .exhausted || status == .buyFailed

/-- The positions a run publishes, in their order. -/
def publishedPositions (run : CopyRun) : List CopyExecutionPosition :=
  (run.states.entries.map Prod.snd).insertionSort publishedBefore

/-- The replay: its last state, and the positions it publishes. -/
def replayCopy (rounds : Nat) (source : HistoricalEventSource) :
    Except Fault (Option (CopyRun × List CopyExecutionPosition)) := do
  let expected ← validateCopyReplay setup source
  let groups := (copyEventGroups setup.clock source.events).groups
  let observations ← deliveries setup.clock setup.strategy.policy.observationDelayTransactions groups
  match ← copyLoop setup rounds ⟨groups, observations⟩ (openingCopyRun setup) with
  | none => .ok none
  | some run => do
    refuseIf ((run.counts.events, run.counts.groups) ≠ expected)
      (.value "copy source changed between validation and execution")
    refuseIf (∃ state ∈ publishedPositions run, state.control.status.finished = false)
      (.value "copy replay ended with an unfinished settlement path")
    .ok (some (run, publishedPositions run))

end Replay

end OnchainBacktest
