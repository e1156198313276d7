import OnchainBacktest.Engine.ColumnarPack
import OnchainBacktest.Engine.Sniping

/-!
# The columnar engine

The same strategy as in the reference engine, reduced from a pack.  The pack is checked first; then
its boundaries are read window by window, and at each of them the scheduled boundaries before it,
the boundary's group, the decisions and launches that are due and the orders that land.

A round trip is known by its row in `states`, a venue and a developer by their codes.  The order
handlers are those of the reference engine, at the venue's state.  The two `while` loops over the
schedule are given a number of rounds.
-/

set_option autoImplicit false

namespace OnchainBacktest

namespace Columnar

open Checked

/-! ## Settings -/

/-- Operational reader settings excluded from logical run semantics. -/
structure EnginePhysicalSettings where
  readerBatchRows : Nat
  readerReadahead : Nat
  threads : Nat
  rows_pos : 0 < readerBatchRows
  readahead_mem : readerReadahead ∈ [1, 2, 4]
  threads_pos : 0 < threads

def MAX_BATCH_ROWS : Nat := 256 * 1024

/-! ## Deliveries -/

/-- A materialized schedule: when each event row is released. -/
structure ColumnarDeliverySource where
  inputEventCount : Nat
  deliveryCount : Nat
  outsideHorizonCount : Nat
  releaseBoundaries : List Nat
  eventRows : List Int

structure ColumnarDeliveryCursor where
  releaseBoundaries : List Nat
  index : Nat
  deriving DecidableEq

/-- `_delivery_cursor`. -/
def deliveryCursor (schedule : Option ColumnarDeliverySource) : Option ColumnarDeliveryCursor :=
  schedule.map fun source => ⟨source.releaseBoundaries, 0⟩

namespace ColumnarDeliveryCursor

variable (cursor : ColumnarDeliveryCursor)

/-- The events of a group are the next deliveries, all released at its boundary. -/
def consumeGroup (boundary eventCount : Nat) : Except Fault ColumnarDeliveryCursor := do
  let stop := cursor.index + eventCount
  refuseIf (cursor.releaseBoundaries.length < stop) (.snipingEngine .deliveryScheduleInvalid)
  refuseIf (∃ release ∈ (cursor.releaseBoundaries.drop cursor.index).take eventCount,
      release ≠ boundary) (.snipingEngine .deliveryScheduleInvalid)
  .ok { cursor with index := stop }

def finish : Except Fault Unit :=
  refuseIf (cursor.index ≠ cursor.releaseBoundaries.length)
    (.snipingEngine .deliveryScheduleInvalid)

end ColumnarDeliveryCursor

/-! ## The preflight -/

section Preflight

variable (setup : SnipingSetup) (pack : ReplayPack)

/-- One row of a group, after the index and the causal id of the row before it. -/
def followRow (previous : Int × Option (Fin (2 ^ 256))) (row : pack.Row) :
    Except Fault (Int × Option (Fin (2 ^ 256))) := do
  let eventIndex : Int := if row.eventIndexValid then row.eventIndex else -1
  refuseIf (eventIndex < previous.1 ∨ eventIndex = previous.1 ∧
      (previous.2.any fun stable => row.stableCausalId.hex ≤ stable) = true)
    (.optimizedUnsupported "ReplayPack group rows are not in canonical event order")
  .ok (eventIndex, some row.stableCausalId.hex)

/-- `_validate_canonical_group_order`. -/
def validateCanonicalGroupOrder : Except Fault Unit :=
  (List.range pack.boundaryCount).forM fun boundary => do
    let rows := (pack.rows.drop (offsetAt pack.boundaryOffsets boundary)).take
      (boundaryRows pack.boundaryOffsets boundary)
    let _ ← rows.foldlM (followRow pack) (-1, none)
    .ok ()

/-- The name of a row's kind in a message; blocks have no payload schema. -/
def payloadKindName {assets accounts venues : Nat} :
    RowPayload assets accounts venues → Option String
  | .block => none
  | .tokenLaunch _ _ _ _ _ => some "token_launch"
  | .venueTrade _ _ _ => some "venue_trade"
  | .venueLifecycle _ _ => some "venue_lifecycle"

/-- The rows of one kind have the payload schema of the protocol. -/
def validateSchema (rows : List pack.Row) (kind : String × ProtocolPayloadSchemaId) :
    Except Fault Unit :=
  let ofKind := rows.filter fun row => payloadKindName row.payload = some kind.1
  refuseIf (∃ row ∈ ofKind, dictionaryCode pack.protocolPayloadSchemas kind.2.value
      ≠ some row.protocolPayloadSchemaCode)
    (.optimizedUnsupported ("Pump " ++ kind.1 ++ " payload schema is unsupported"))

/-- A launch is paired with the quote asset, and inside the decision range it has a whole settlement
path. -/
def validateLaunchRow (quoteCode : Nat) (row : pack.Row) : Except Fault Unit :=
  match row.payload with
  | .tokenLaunch _ _ quoteAssetCode _ _ => do
    refuseIf ((quoteAssetCode : Nat) ≠ quoteCode)
      (.optimizedUnsupported "Pump launch is not SOL-paired")
    let position ← ChainPosition.make pack.networkId pack.positionSchemaId row.blockOrdinal
      row.transactionIndex (some row.eventIndex)
    let contained ← pack.decisionRange.containsPosition position
    if contained then
      let _ ← setup.path position
      .ok ()
    else .ok ()
  | _ => .ok ()

/-- The part of `_validate_primitive_layout` about the rows of the protocol. -/
def validatePumpRows (rows : List pack.Row) : Except Fault Unit := do
  let nonBlock := rows.filter fun row => row.payload ≠ .block
  let versionCode := dictionaryCode pack.protocolVersions setup.protocol.protocolVersion
  refuseIf (versionCode = none ∨ ∃ row ∈ nonBlock, versionCode ≠ some row.protocolVersionCode)
    (.optimizedUnsupported "Pump protocol version is unsupported")
  refuseIf (∃ row ∈ nonBlock, row.orderingFidelity ≠ .instructionExact)
    (.optimizedUnsupported "Pump rows require instruction-exact ordering")
  [("token_launch", PUMPFUN_LAUNCH_PAYLOAD_SCHEMA_ID),
    ("venue_trade", PUMPFUN_TRADE_PAYLOAD_SCHEMA_ID),
    ("venue_lifecycle", PUMPFUN_LIFECYCLE_PAYLOAD_SCHEMA_ID)].forM (validateSchema pack rows)
  match dictionaryCode (pack.assets.map AssetId.value) setup.strategy.quoteAssetId.value with
  | none =>
    refuseIf (∃ row ∈ rows, payloadKindName row.payload = some "token_launch")
      (.optimizedUnsupported "resolved quote asset is absent")
  | some quoteCode => rows.forM (validateLaunchRow setup pack quoteCode)

/-- The part of `_validate_primitive_layout` after the size of the groups. -/
def validateLayoutRows : Except Fault Unit := do
  refuseIf (∃ row ∈ pack.rows, (row.orderingFidelity = .transactionExact ∨
      row.orderingFidelity = .instructionExact) ∧ row.eventIndexValid = false)
    (.optimizedUnsupported "exact ordering requires an event index on every exact row")
  validateCanonicalGroupOrder pack
  match pack.pumpProtocolCode with
  | none => .ok ()
  | some pumpCode =>
    validatePumpRows setup pack (pack.rows.filter fun row => row.protocolCode = pumpCode)

/-- `_validate_primitive_layout`. -/
def validatePrimitiveLayout (batchRows : Nat) : Except Fault Unit := do
  refuseIf (pack.boundaryOffsets ≠ pack.groupOffsets)
    (.optimizedUnsupported "optimized sniping requires exactly one transaction group per boundary")
  refuseIf (¬ FitsBatch pack.boundaryOffsets batchRows)
    (.optimizedUnsupported "one historical transaction group exceeds the configured reader batch")
  validateLayoutRows setup pack

/-- One delivery, after the key of the one before it. -/
def followDelivery (previous : Option (Nat × Fin (2 ^ 256))) (delivery : Nat × Int) :
    Except Fault (Option (Nat × Fin (2 ^ 256))) :=
  match if 0 ≤ delivery.2 then pack.rows[delivery.2.toNat]? else none with
  | none => .error (.snipingEngine .deliveryScheduleInvalid)
  | some row => do
    refuseIf (delivery.1 ≠ row.boundaryOrdinal) (.snipingEngine .deliveryScheduleInvalid)
    refuseIf (∃ key ∈ previous, toLex (delivery.1, row.stableCausalId.hex) ≤ toLex key)
      (.snipingEngine .deliveryScheduleInvalid)
    .ok (some (delivery.1, row.stableCausalId.hex))

/-- `_preflight_delivery_schedule`. -/
def preflightDeliverySchedule (schedule : Option ColumnarDeliverySource) : Except Fault Unit :=
  match schedule with
  | none => .ok ()
  | some source => do
    refuseIf (source.inputEventCount ≠ pack.eventCount ∨ source.deliveryCount ≠ pack.eventCount ∨
        source.outsideHorizonCount ≠ 0) (.snipingEngine .deliveryScheduleInvalid)
    refuseIf (source.releaseBoundaries.length ≠ source.deliveryCount ∨
        source.eventRows.length ≠ source.deliveryCount) (.snipingEngine .deliveryScheduleInvalid)
    let _ ← (source.releaseBoundaries.zip source.eventRows).foldlM (followDelivery pack) none
    .ok ()

/-- The decision range of the run is the one of the pack. -/
def sameDecisionRange : Prop :=
  setup.config.decisionRange.networkId = pack.networkId ∧
    setup.config.decisionRange.positionSchemaId = pack.positionSchemaId ∧
    setup.config.decisionRange.networkId = pack.decisionRange.networkId ∧
    setup.config.decisionRange.positionSchemaId = pack.decisionRange.positionSchemaId ∧
    setup.config.decisionRange.fromBlockOrdinal = pack.decisionRange.fromBlockOrdinal ∧
    setup.config.decisionRange.toBlockOrdinal = pack.decisionRange.toBlockOrdinal

instance decidableSameDecisionRange : Decidable (sameDecisionRange setup pack) :=
  inferInstanceAs (Decidable (_ ∧ _ ∧ _ ∧ _ ∧ _ ∧ _))

/-- The checks of the preflight that ask for the identity of the pack. -/
def preflightIdentity : Except Fault Unit := do
  refuseIf (pack.transactionClock ≠ setup.clock)
    (.chainIdentityMismatch "supplied transaction clock is not the ReplayPack clock")
  refuseIf (¬ sameDecisionRange setup pack)
    (.chainIdentityMismatch "resolved decision range is not the exact ReplayPack decision range")
  refuseIf (setup.config.executionMode ∉ SNIPING_EXECUTION_MODES)
    (.optimizedUnsupported "optimized Pump.fun sniping requires an allowlisted exogenous mode")

/-- `NumpyMmapPumpfunSnipingEngine.preflight`. -/
def preflight (schedule : Option ColumnarDeliverySource) (settings : EnginePhysicalSettings) :
    Except Fault Unit := do
  refuseIf (settings.threads ≠ 1)
    (.optimizedUnsupported "one optimized sniping run requires exactly one engine thread")
  refuseIf (MAX_BATCH_ROWS < settings.readerBatchRows)
    (.optimizedUnsupported "optimized sniping batch exceeds the 256k-row limit")
  preflightIdentity setup pack
  validatePrimitiveLayout setup pack settings.readerBatchRows
  preflightDeliverySchedule pack schedule

end Preflight

/-! ## The state of a run -/

section State

variable (pack : ReplayPack)

/-- One row of `_StateArena`. -/
structure ArenaRow where
  roundtripId : ContentDigest
  venueCode : Fin pack.venues.length
  state : RoundTripState

/-- Everything a run moves. -/
structure ColumnarRun where
  venues : pack.VenueArena
  developerCooldowns : Dict (Fin pack.accounts.length) Nat
  desk : Desk Nat
  states : List (ArenaRow pack)
  roundtripIds : List ContentDigest
  deliveryCursor : Option ColumnarDeliveryCursor
  counts : RunCounts

end State

section Run

variable [DomainDigest] (setup : SnipingSetup) {pack : ReplayPack}

/-- `_VenueArena.state`. -/
def venueState (venues : pack.VenueArena) (venueCode : Fin pack.venues.length) :
    Except Fault (VenueSlot pack.assets.length) :=
  match venues.get? venueCode with
  | some slot => .ok slot
  | none => .error (.optimizedUnsupported "Pump venue is unknown")

/-- The runtime at the state of a venue, as the order handlers see it. -/
def venueView (venues : pack.VenueArena) (venueCode : Fin pack.venues.length) : ProtocolView where
  accountRequirements _ := do
    let slot ← venueState venues venueCode
    let unpacked ← stateFromPrimitive slot.current
    pumpfunAccountRequirements unpacked.mode
  quoteBuy intent effectiveAtUnixS := do
    let slot ← venueState venues venueCode
    let unpacked ← stateFromPrimitive slot.current
    setup.protocol.quoteBuyState intent unpacked effectiveAtUnixS
  quoteSell intent tokensInAtomic effectiveAtUnixS := do
    let slot ← venueState venues venueCode
    let unpacked ← stateFromPrimitive slot.current
    setup.protocol.quoteSellState intent unpacked tokensInAtomic effectiveAtUnixS
  valuationQuote intent tokensInAtomic effectiveAtUnixS := do
    let slot ← venueState venues venueCode
    setup.protocol.valuationQuoteFromPrimitiveState intent slot.current slot.lastActive
      slot.lastActiveEffectiveAtUnixS tokensInAtomic effectiveAtUnixS

/-- The market at the state of a venue. -/
def venueMarket (venues : pack.VenueArena) (venueCode : Fin pack.venues.length) : Market :=
  ⟨setup.clock, venueView setup venues venueCode, setup.networkCosts⟩

variable (pack) in
/-- The run before its first boundary. -/
def openingRun (schedule : Option ColumnarDeliverySource) : Except Fault (ColumnarRun pack) := do
  let accounts ← initialWalletProvisioningState setup.config.initialUvaState
    setup.config.uvaSchemaId
  .ok
    { venues := Dict.empty
      developerCooldowns := Dict.empty
      desk := ⟨PortfolioState.initial setup.config.initialAvailable, accounts, Recorder.empty, []⟩
      states := []
      roundtripIds := []
      deliveryCursor := deliveryCursor schedule
      counts := {} }

variable (run : ColumnarRun pack)

/-! ## The group of a boundary -/

variable (pack) in
/-- `_historical_group_record`. -/
def historicalGroupRecord (boundary rowStart rowStop : Nat) : Except Halt AuditRecord := do
  let rows ← (Tiles.indices (rowStart, rowStop)).mapM pack.row
  let first ← pack.row rowStart
  .ok (.historicalGroupApplied boundary (rows.map fun row => row.canonicalEventId)
    first.transactionGroupId)

/-- The deliveries of a group, where there is a schedule. -/
def consumeDeliveries (boundary eventCount : Nat) :
    Except Fault (Option ColumnarDeliveryCursor) :=
  match run.deliveryCursor with
  | none => .ok none
  | some cursor => do
    let cursor ← cursor.consumeGroup boundary eventCount
    .ok (some cursor)

/-- Apply the group of a boundary. -/
def applyGroup (states : Nat → Except Halt (Option PumpPrimitiveState)) (position : ChainPosition)
    (boundary rowStart rowStop : Nat) : Except Halt (ColumnarRun pack × List pack.Launch) := do
  let timeNs ← raising (setup.clock.blockTimeForBlock position.blockOrdinal)
  let applied ← pack.applyHistoricalGroup (timeNs / 1000000000) states run.venues rowStart rowStop
  let record ← historicalGroupRecord pack boundary rowStart rowStop
  let cursor ← raising (consumeDeliveries run boundary (rowStop - rowStart))
  .ok ({ run with
      venues := applied.venues
      desk := run.desk.audit record
      deliveryCursor := cursor
      counts := { run.counts with
        groupCount := run.counts.groupCount + 1
        eventCount := run.counts.eventCount + (rowStop - rowStart)
        deliveredEventCount := run.counts.deliveredEventCount + (rowStop - rowStart) } },
    applied.launches)

/-! ## Decisions, launches and landings -/

/-- Decide one due sell. -/
def decideAction (position : ChainPosition) (run : ColumnarRun pack)
    (action : ScheduledAction Nat) : Except Halt (ColumnarRun pack) := do
  raising (refuseIf (action.kind ≠ .sellDecision) (.snipingEngine .internalStateInvalid))
  let row ← arrayItem run.states action.subject
  let handled ← raising (decideSell (venueMarket setup run.venues row.venueCode) action.subject
    run.desk row.state position)
  .ok { run with
    desk := handled.desk
    states := run.states.set action.subject { row with state := handled.state } }

/-- The end of a developer's window; the largest `uint64` stands for none. -/
def cooldownUntil (developerCode : Fin pack.accounts.length) : Option Nat :=
  (run.developerCooldowns.get? developerCode).filter fun until_ => until_ ≠ UINT64_MAX

/-- An eligible decision starts the window of its developer. -/
def startCooldown (developerCode : Fin pack.accounts.length) (decision : LaunchDecision) :
    Except Fault (Dict (Fin pack.accounts.length) Nat) :=
  if decision.status = .eligible then do
    let intent ← requirePart decision.intent
    refuseIf (intent.executionMode ≠ setup.config.executionMode)
      (.snipingEngine .internalStateInvalid)
    match decision.cooldownUntilNs with
    | none => .error (.assertion "eligible cooldown decision has no expiry")
    | some until_ => do
      refuseIf (UINT64_MAX < until_)
        (.overflow ("Python integer " ++ toString until_ ++ " out of bounds for uint64"))
      .ok (run.developerCooldowns.set developerCode until_)
  else .ok run.developerCooldowns

/-- The new row of a decided launch. -/
def launchState (target : LaunchTarget) (targetTimeNs : Nat) (decision : LaunchDecision) :
    RoundTripState :=
  match decision.intent with
  | some intent => .eligible target targetTimeNs decision.cooldownUntilNs intent
  | none => .suppressed target targetTimeNs decision.cooldownUntilNs

/-- A launch that is suppressed gets its row and nothing else. -/
def skipLaunch (boundary : Nat) (launch : pack.Launch) (row : ArenaRow pack) : ColumnarRun pack :=
  { run with
    desk := run.desk.audit
      (.targetCooldownSkipped boundary launch.target.developerId row.roundtripId)
    states := run.states ++ [row]
    counts := { run.counts with cooldownSkippedCount := run.counts.cooldownSkippedCount + 1 } }

/-- A launch that is eligible places its buy. -/
def enterLaunch (row : ArenaRow pack) : Except Fault (ColumnarRun pack) := do
  let handled ← acceptBuy (venueMarket setup run.venues row.venueCode) run.states.length run.desk
    row.state
  .ok { run with
    desk := handled.desk
    states := run.states ++ [{ row with state := handled.state }]
    counts := { run.counts with
      acceptedBuyCount := run.counts.acceptedBuyCount + handled.succeeded.toNat } }

/-- Decide one launch inside the decision range. -/
def decideLaunch (boundary : Nat) (launch : pack.Launch) : Except Fault (ColumnarRun pack) := do
  let targetTimeNs ← setup.clock.blockTimeForPosition launch.target.position
  let decision ← setup.strategy.decideFromCooldown launch.target targetTimeNs
    (cooldownUntil run launch.developerCode)
  refuseIf (decision.roundtripId ∈ run.roundtripIds) (.snipingEngine .duplicateRoundtrip)
  let cooldowns ← startCooldown setup run launch.developerCode decision
  refuseIf (setup.config.maximumDynamicItems ≤ run.states.length)
    (.snipingEngine .dynamicItemLimitExceeded)
  let run := { run with
    developerCooldowns := cooldowns
    roundtripIds := decision.roundtripId :: run.roundtripIds
    counts := { run.counts with targetCount := run.counts.targetCount + 1 } }
  let row : ArenaRow pack :=
    ⟨decision.roundtripId, launch.venueCode, launchState launch.target targetTimeNs decision⟩
  if decision.status = .cooldownSuppressed then .ok (skipLaunch run boundary launch row)
  else enterLaunch setup run row

/-- Process one launch of a group. -/
def processLaunch (boundary : Nat) (run : ColumnarRun pack) (launch : pack.Launch) :
    Except Halt (ColumnarRun pack) := do
  let contained ← raising (setup.config.decisionRange.containsPosition launch.target.position)
  if contained then raising (decideLaunch setup run boundary launch)
  else .ok { run with
    desk := run.desk.audit (.targetOutsideDecisionRange boundary launch.target.targetEventId) }

/-- Land one due order. -/
def landAction (position : ChainPosition) (run : ColumnarRun pack) (action : ScheduledAction Nat) :
    Except Halt (ColumnarRun pack) :=
  match action.kind with
  | .buyLanding => do
    let row ← arrayItem run.states action.subject
    let handled ← raising (landBuyOrder (venueMarket setup run.venues row.venueCode) action.subject
      run.desk row.state position)
    .ok { run with
      desk := handled.desk
      states := run.states.set action.subject { row with state := handled.state }
      counts := { run.counts with
        failedBuyCount := run.counts.failedBuyCount + (!handled.succeeded).toNat } }
  | .sellLanding => do
    let row ← arrayItem run.states action.subject
    let handled ← raising (landSellOrder (venueMarket setup run.venues row.venueCode) run.desk
      row.state position)
    .ok { run with
      desk := handled.desk
      states := run.states.set action.subject { row with state := handled.state }
      counts := { run.counts with
        failedSellCount := run.counts.failedSellCount + (!handled.succeeded).toNat } }
  | .sellDecision => .error (.raised (.snipingEngine .internalStateInvalid))

/-! ## One boundary -/

/-- The actions due at a boundary, and the run without them. -/
def popDue (boundary maximumPhase : Nat) : List (ScheduledAction Nat) × ColumnarRun pack :=
  let popped := popActions run.desk.scheduled boundary maximumPhase
  (popped.1, { run with desk := { run.desk with scheduled := popped.2 } })

/-- Close a boundary: the schedule has to fit, and a checkpoint is written. -/
def closeBoundary (boundary : Nat) : Except Fault (ColumnarRun pack) := do
  refuseIf (setup.config.maximumDynamicItems < run.desk.scheduled.length)
    (.snipingEngine .dynamicItemLimitExceeded)
  .ok { run with desk := run.desk.audit (.boundaryCheckpoint boundary) }

/-- `_process_boundary`, once its group is applied. -/
def workBoundary (position : ChainPosition) (boundary : Nat) (run : ColumnarRun pack)
    (launches : List pack.Launch) : Except Halt (ColumnarRun pack) := do
  let decisions := popDue run boundary ActionKind.sellDecision.phase
  let run ← decisions.1.foldlM (decideAction setup position) decisions.2
  let run ← launches.foldlM (processLaunch setup boundary) run
  let landings := popDue run boundary ActionKind.sellLanding.phase
  let run ← landings.1.foldlM (landAction setup position) landings.2
  raising (closeBoundary setup run boundary)

/-- The position of a boundary. -/
def boundaryPosition (boundary : Nat) : Except Halt ChainPosition :=
  raising (ChainPosition.fromBoundaryOrdinal setup.clock.networkId setup.clock.positionSchemaId
    boundary)

/-- `_process_boundary` of a scheduled boundary. -/
def processScheduled (boundary : Nat) : Except Halt (ColumnarRun pack) := do
  let position ← boundaryPosition setup boundary
  workBoundary setup position boundary run []

/-- `_process_boundary` of a boundary of the pack. -/
def processHistorical (states : Nat → Except Halt (Option PumpPrimitiveState))
    (boundary rowStart rowStop : Nat) : Except Halt (ColumnarRun pack) := do
  let position ← boundaryPosition setup boundary
  let (run, launches) ← applyGroup setup run states position boundary rowStart rowStop
  workBoundary setup position boundary run launches

/-! ## The loops -/

/-- The boundary of the first scheduled action, if it is due. -/
def nextScheduled (due : Nat → Bool) (scheduled : List (ScheduledAction Nat)) : Option Nat :=
  (scheduled.head?.map ScheduledAction.releaseBoundaryOrdinal).filter due

/-- The loop over the schedule, as long as its first action is due. -/
def drain (due : Nat → Bool) : Nat → ColumnarRun pack → Except Halt (ColumnarRun pack)
  | 0, run => if nextScheduled due run.desk.scheduled = none then .ok run else .error .rounds
  | rounds + 1, run =>
    match nextScheduled due run.desk.scheduled with
    | none => .ok run
    | some boundary => do
      let run ← processScheduled setup run boundary
      drain due rounds run

/-- One boundary of a window: what is scheduled before it, and the boundary itself. -/
def processIndex (states : Nat → Except Halt (Option PumpPrimitiveState)) (rounds : Nat)
    (run : ColumnarRun pack) (index : Nat) : Except Halt (ColumnarRun pack) := do
  let boundary ← arrayItem pack.boundaryOrdinals index
  let run ← drain setup (fun release => release < boundary) rounds run
  processHistorical setup run states boundary (offsetAt pack.boundaryOffsets index)
    (offsetAt pack.boundaryOffsets (index + 1))

/-- One window: its rows are decoded, then its boundaries are processed. -/
def processWindow (rounds : Nat) (run : ColumnarRun pack) (window : Nat × Nat) :
    Except Halt (ColumnarRun pack) := do
  let decoded ← pack.decodeBatchStates (offsetAt pack.boundaryOffsets window.1)
    (offsetAt pack.boundaryOffsets window.2)
  (Tiles.indices window).foldlM (processIndex setup decoded.item rounds) run

/-- The loop over the windows; a generator that ends with a fault ends it after its windows. -/
def processWindows (rounds : Nat) (batches : BoundaryBatches) (run : ColumnarRun pack) :
    Except Halt (ColumnarRun pack) := do
  let run ← batches.windows.foldlM (processWindow setup rounds) run
  raising (refuseIf (batches.unsupported = true)
    (.optimizedUnsupported "historical transaction group cannot fit the configured batch"))
  .ok run

/-! ## The summary -/

/-- `_finalize_record`. -/
def finalizeRow (row : ArenaRow pack) : Except Fault RoundTripRecord :=
  finalizeRoundtrip (venueMarket setup run.venues row.venueCode)
    setup.config.walletAccountProfileId setup.config.executionMode row.roundtripId row.state
    (run.desk.recorder.cashflows.amount row.roundtripId row.state.target.quoteAssetId)
    setup.finalTimeUnixS

/-- `_finalize_summary`. -/
def finalizeSummary : Except Fault SnipingRunOutput := do
  let records ← run.states.mapM (finalizeRow setup run)
  let recorder := records.foldl Recorder.appendRoundtrip run.desk.recorder
  let settlementPolicyId ← liquidityPolicyIdForExecutionMode setup.config.executionMode
  refuseIf (run.counts.groupCount ≠ pack.groupCount ∨ run.counts.eventCount ≠ pack.eventCount ∨
      run.counts.deliveredEventCount ≠ pack.eventCount) (.snipingEngine .sourceCountMismatch)
  .ok ⟨summarize run.counts run.desk.portfolio recorder setup.config.executionMode records
    settlementPolicyId, records, recorder⟩

/-- The end of a run: what is still scheduled, the end of the deliveries, and the summary. -/
def finishRun (rounds : Nat) : Except Halt SnipingRunOutput := do
  let run ← drain setup (fun _ => true) rounds run
  match run.deliveryCursor with
  | none => raising (finalizeSummary setup run)
  | some cursor => do
    raising cursor.finish
    raising (finalizeSummary setup run)

end Run

/-- `NumpyMmapPumpfunSnipingEngine.run`. -/
def run [DomainDigest] (setup : SnipingSetup) (pack : ReplayPack)
    (schedule : Option ColumnarDeliverySource) (settings : EnginePhysicalSettings) (rounds : Nat) :
    Except Halt SnipingRunOutput := do
  raising (preflight setup pack schedule settings)
  let opening ← raising (openingRun setup pack schedule)
  let state ← processWindows setup rounds (boundaryBatches pack.boundaryOffsets
    settings.readerBatchRows settings.readerReadahead) opening
  finishRun setup state rounds

end Columnar

end OnchainBacktest
