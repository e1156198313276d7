import OnchainBacktest.Lib.Dict
import OnchainBacktest.Source.NormalizerSession

/-!
# Evidence of a bounded cut

`EvidenceAccumulator` reads the four streams of one cut one after the other, each shard by shard
and batch by batch, and checks them against each other: every row against the block clock, every
trade and lifecycle row against the launch of its mint and the reserves it left off at.  A shard is
read through a normalization session of its own, whose observations the accumulator is the sink of.

`inspect` is the whole run.  Beside the accumulator it carries a `Trace` of what it has consumed,
which nothing reads: the results about a run are about its trace.
-/

set_option autoImplicit false

namespace OnchainBacktest

namespace Source

open Checked

/-! ## The accumulator -/

/-- Block, transaction and place in it. -/
abbrev Place := Nat ×ₗ Nat ×ₗ Nat

def place (block transaction index : Nat) : Place := toLex (block, toLex (transaction, index))

/-- A trade that took the last tokens of its curve. -/
structure TerminalTrade where
  block : Nat
  transaction : Nat
  rawInstruction : Nat
  signature : String
  virtualSol : Nat
  deriving DecidableEq, Repr

structure LaunchState where
  signature : String
  mint : String
  creator : String
  creationUser : String
  curve : String
  tokenProgram : String
  cashbackEnabled : Nat
  creationPosition : Place
  virtualToken : Nat
  virtualSol : Nat
  lastTradePosition : Option Place
  terminal : Option TerminalTrade
  completionPosition : Option Place
  migrated : Bool
  deriving DecidableEq

/-- An ordered digest: what went into it, and the last key. -/
structure KeyedDigest (κ : Type) where
  lastKey : Option κ
  entries : List Observation

def normalizationFailed : LiveFault := .source .normalizationFailed

def KeyedDigest.update {κ : Type} [LinearOrder κ] (digest : KeyedDigest κ) (key : κ)
    (value : Observation) : Except LiveFault (KeyedDigest κ) := do
  refuseIf (∃ last ∈ digest.lastKey, key ≤ last) normalizationFailed
  .ok ⟨some key, digest.entries ++ [value]⟩

/-- What is kept of the summary of a shard. -/
structure ShardSummary where
  blockRange : BlockRange
  queryFingerprint : ContentDigest
  summary : PumpfunNormalizationSummary

structure EvidenceAccumulator where
  launchPolicy : String
  clock : Dict Nat (Nat × Nat)
  launches : Dict String LaunchState
  lastClockBlock : Option Nat
  lastClockTime : Option Nat
  exclusions : KeyedDigest OrderKey
  sentinels : KeyedDigest Nat
  lifecycleGroups : KeyedDigest OrderKey
  summaries : List ShardSummary
  rawRows : CapabilityStream → Nat
  launchClassifiedCount : Nat
  launchEligibleCount : Nat
  summaryExcludedLaunches : Nat
  summarySentinels : Nat
  summaryLifecycleGroups : Nat

namespace EvidenceAccumulator

def start (launchPolicy : String) : EvidenceAccumulator :=
  ⟨launchPolicy, Dict.empty, Dict.empty, none, none, ⟨none, []⟩, ⟨none, []⟩, ⟨none, []⟩, [],
    fun _ => 0, 0, 0, 0, 0, 0⟩

def launchExcludedCount (evidence : EvidenceAccumulator) : Nat := evidence.exclusions.entries.length

def sentinelCount (evidence : EvidenceAccumulator) : Nat := evidence.sentinels.entries.length

def derivedLifecycleCount (evidence : EvidenceAccumulator) : Nat :=
  evidence.lifecycleGroups.entries.length

/-! ## The observations of a session -/

def observe (evidence : EvidenceAccumulator) (observation : Observation) :
    Except LiveFault EvidenceAccumulator :=
  match observation with
  | .skippedSlot profileId block => do
    refuseIf (profileId ≠ SOLANA_SKIPPED_SLOT_SENTINEL_PROFILE_ID) (.source .incompleteBlockRange)
    let sentinels ← evidence.sentinels.update block observation
    .ok { evidence with sentinels := sentinels }
  | .excludedLaunch policyId reason block transaction eventIndex signature mint => do
    refuseIf (policyId ≠ evidence.launchPolicy ∨ reason ≠ MAYHEM_EXCLUDED) normalizationFailed
    let exclusions ← evidence.exclusions.update
      (orderKey block transaction eventIndex signature mint) observation
    .ok { evidence with exclusions := exclusions }
  | .derivedLifecycleGroup profileId block transaction terminal _ _ signature mint _ => do
    refuseIf (profileId ≠ PUMPFUN_TERMINAL_LIFECYCLE_PROFILE_ID)
      (.source .lifecycleContractMismatch)
    let groups ← evidence.lifecycleGroups.update
      (orderKey block transaction terminal signature mint) observation
    .ok { evidence with lifecycleGroups := groups }

/-! ## The block clock -/

def consumeClockRow (evidence : EvidenceAccumulator) (row : NormalizedRow) :
    Except LiveFault EvidenceAccumulator :=
  match row with
  | .block row => do
    refuseIf (evidence.clock.get? row.blockOrdinal ≠ none ∨
      (∃ last ∈ evidence.lastClockBlock, row.blockOrdinal ≤ last) ∨
      ∃ last ∈ evidence.lastClockTime, row.blockTime < last) (.source .incompleteBlockRange)
    .ok { evidence with
      clock := evidence.clock.set row.blockOrdinal (row.transactionCount, row.blockTime)
      lastClockBlock := some row.blockOrdinal
      lastClockTime := some row.blockTime }
  | _ => .error .contract

def clockMismatch : LiveFault := .source .transactionClockMismatch

/-- A row stands in a block of the clock, below its transaction count and at its time. -/
def crossCheckRow (evidence : EvidenceAccumulator) (row : Row) : Except LiveFault Unit := do
  let block ← integer (row.cell "block_ordinal")
  let transaction ← integer (row.cell "transaction_index")
  match evidence.clock.get? block with
  | none => .error clockMismatch
  | some expected =>
    refuseIf (expected.1 ≤ transaction) clockMismatch
    let time ← datetimeNs (row.cell "block_time")
    refuseIf (time ≠ expected.2) clockMismatch

/-! ## Launches -/

def rowPlace (row : Row) (block transaction index : String) : Except LiveFault Place := do
  let b ← integer (row.cell block)
  let t ← integer (row.cell transaction)
  let i ← integer (row.cell index)
  .ok (place b t i)

def consumeLaunchRow (evidence : EvidenceAccumulator) (row : Row) :
    Except LiveFault EvidenceAccumulator := do
  let mayhem ← integer (row.cell "mayhem_mode")
  if mayhem = 1 then .ok evidence
  else do
    let signature ← sourceText (row.cell "signature")
    let mint ← sourceText (row.cell "mint")
    let creator ← sourceText (row.cell "creator")
    let creationUser ← sourceText (row.cell "creation_user")
    let curve ← sourceText (row.cell "curve_address")
    let tokenProgram ← sourceText (row.cell "token_program")
    let cashbackEnabled ← integer (row.cell "cashback_enabled")
    let creationPosition ←
      rowPlace row "block_ordinal" "transaction_index" "raw_instruction_index"
    refuseIf (evidence.launches.get? mint ≠ none) (.source .bundledBuyContractMismatch)
    .ok { evidence with
      launches := evidence.launches.set mint
        { signature := signature
          mint := mint
          creator := creator
          creationUser := creationUser
          curve := curve
          tokenProgram := tokenProgram
          cashbackEnabled := cashbackEnabled
          creationPosition := creationPosition
          virtualToken := PUMPFUN_INITIAL_VIRTUAL_TOKEN_RESERVES
          virtualSol := PUMPFUN_INITIAL_VIRTUAL_SOL_RESERVES
          lastTradePosition := none
          terminal := none
          completionPosition := none
          migrated := false } }

/-! ## Trades -/

/-- A conjunction that stops at its first false part. -/
def allOk : List (Except LiveFault Bool) → Except LiveFault Bool
  | [] => .ok true
  | x :: rest => do
    let holds ← x
    if holds = true then allOk rest else .ok false

def creationPlace (row : Row) : Except LiveFault Place :=
  rowPlace row "creation_block_ordinal" "creation_transaction_index"
    "creation_raw_instruction_index"

def textIs (row : Row) (name expected : String) : Except LiveFault Bool :=
  (sourceText (row.cell name)).map (· == expected)

def integerIs (row : Row) (name : String) (expected : Nat) : Except LiveFault Bool :=
  (integer (row.cell name)).map (· == expected)

/-- What a trade and a lifecycle row say of the creation, but for its actors. -/
def creationIs (row : Row) (launch : LaunchState) : Except LiveFault Bool :=
  (creationPlace row).map (· == launch.creationPosition)

def tradeCreationMatches (row : Row) (launch : LaunchState) : Except LiveFault Bool :=
  allOk [creationIs row launch, textIs row "creator" launch.creator,
    textIs row "creation_user" launch.creationUser, textIs row "curve_address" launch.curve,
    textIs row "token_program" launch.tokenProgram,
    integerIs row "cashback_enabled" launch.cashbackEnabled, integerIs row "mayhem_mode" 0]

def lifecycleCreationMatches (row : Row) (launch : LaunchState) : Except LiveFault Bool :=
  allOk [creationIs row launch, textIs row "curve_address" launch.curve,
    textIs row "token_program" launch.tokenProgram,
    integerIs row "cashback_enabled" launch.cashbackEnabled, integerIs row "mayhem_mode" 0]

def curveMismatch : LiveFault := .source .curveTransitionMismatch

/-- The reserves a trade leads to. -/
def expectedReserves (launch : LaunchState) (direction : String) (base quote : Nat) :
    Except LiveFault (Int × Int) :=
  if direction = "buy" then .ok (launch.virtualToken - base, launch.virtualSol + quote)
  else if direction = "sell" then .ok (launch.virtualToken + base, launch.virtualSol - quote)
  else .error curveMismatch

/-- The launch of a mint after one of its trades. -/
def applyTrade (launch : LaunchState) (row : Row) : Except LiveFault LaunchState := do
  let block ← integer (row.cell "block_ordinal")
  let transaction ← integer (row.cell "transaction_index")
  let rawInstruction ← integer (row.cell "raw_instruction_index")
  let at_ := place block transaction rawInstruction
  refuseIf (at_ ≤ launch.creationPosition ∨ ∃ last ∈ launch.lastTradePosition, at_ ≤ last)
    curveMismatch
  refuseIf (launch.terminal ≠ none) curveMismatch
  let direction ← sourceText (row.cell "direction")
  let base ← integer (row.cell "base_amount_atomic")
  let quote ← integer (row.cell "quote_amount_atomic")
  let virtualToken ← integer (row.cell "virtual_token_reserves_after_atomic")
  let virtualSol ← integer (row.cell "virtual_sol_reserves_after_lamports")
  let expected ← expectedReserves launch direction base quote
  refuseIf (expected ≠ ((virtualToken : Int), (virtualSol : Int))) curveMismatch
  let signature ← sourceText (row.cell "signature")
  refuseIf (signature = launch.signature ∧
    ((block, transaction) ≠ (launch.creationPosition.1, launch.creationPosition.2.1) ∨
      rawInstruction ≤ launch.creationPosition.2.2)) (.source .bundledBuyContractMismatch)
  refuseIf (virtualToken = PUMPFUN_REAL_TOKEN_OFFSET ∧ direction ≠ "buy") curveMismatch
  .ok { launch with
    virtualToken := virtualToken
    virtualSol := virtualSol
    lastTradePosition := some at_
    terminal := if virtualToken = PUMPFUN_REAL_TOKEN_OFFSET then
      some ⟨block, transaction, rawInstruction, signature, virtualSol⟩ else launch.terminal }

/-- The launch of the mint a row names, when the row tells of its creation as it was. -/
def launchOf (evidence : EvidenceAccumulator) (row : Row)
    (creationMatches : Row → LaunchState → Except LiveFault Bool) (fault : LiveFault) :
    Except LiveFault (String × LaunchState) := do
  let mint ← sourceText (row.cell "mint")
  match evidence.launches.get? mint with
  | none => .error fault
  | some launch => do
    let holds ← creationMatches row launch
    refuseIf (holds = false) fault
    .ok (mint, launch)

def consumeTradeRow (evidence : EvidenceAccumulator) (row : Row) :
    Except LiveFault EvidenceAccumulator := do
  let found ← evidence.launchOf row tradeCreationMatches curveMismatch
  let launch ← applyTrade found.2 row
  .ok { evidence with launches := evidence.launches.set found.1 launch }

/-! ## Completions and migrations -/

def lifecycleMismatch : LiveFault := .source .lifecycleContractMismatch

/-- The launch of a mint after its completion or its migration. -/
def applyLifecycle (launch : LaunchState) (row : LifecycleRow) : Except LiveFault LaunchState := do
  let at_ := place row.blockOrdinal row.transactionIndex row.eventIndex
  refuseIf (row.venue ≠ launch.curve) lifecycleMismatch
  match row.lifecycleKind with
  | .completed =>
    match launch.terminal with
    | none => .error lifecycleMismatch
    | some terminal => do
      refuseIf (launch.completionPosition ≠ none) lifecycleMismatch
      refuseIf (at_ ≠ place terminal.block terminal.transaction (terminal.rawInstruction * 2 + 1) ∨
        row.signature ≠ terminal.signature ∨
        row.virtualSolReservesLamports ≠ terminal.virtualSol) lifecycleMismatch
      .ok { launch with completionPosition := some at_ }
  | .migrated => do
    refuseIf ((∀ completion ∈ launch.completionPosition, at_ ≤ completion) ∨
      launch.migrated = true) lifecycleMismatch
    .ok { launch with migrated := true }
  | _ => .error lifecycleMismatch

def consumeLifecycleRow (evidence : EvidenceAccumulator) (rows : Row × NormalizedRow) :
    Except LiveFault EvidenceAccumulator := do
  let found ← evidence.launchOf rows.1 lifecycleCreationMatches lifecycleMismatch
  match rows.2 with
  | .lifecycle output => do
    let launch ← applyLifecycle found.2 output
    .ok { evidence with launches := evidence.launches.set found.1 launch }
  | _ => .error .contract

/-! ## Batches and shards -/

def consume (evidence : EvidenceAccumulator) (stream : CapabilityStream) (raw : List Row)
    (normalized : List NormalizedRow) : Except LiveFault EvidenceAccumulator := do
  if stream = .blockClock then normalized.foldlM consumeClockRow evidence
  else do
    raw.forM evidence.crossCheckRow
    match stream with
    | .tokenLaunch => raw.foldlM consumeLaunchRow evidence
    | .pumpCurveTrade => raw.foldlM consumeTradeRow evidence
    | _ => do
      refuseIf (raw.length ≠ normalized.length) lifecycleMismatch
      (raw.zip normalized).foldlM consumeLifecycleRow evidence

def addSummary (evidence : EvidenceAccumulator) (stream : CapabilityStream)
    (blockRange : BlockRange) (queryFingerprint : ContentDigest)
    (summary : PumpfunNormalizationSummary) : Except LiveFault EvidenceAccumulator := do
  refuseIf (summary.stream ≠ stream) normalizationFailed
  .ok { evidence with
    rawRows := fun s => if s = stream then evidence.rawRows s + summary.rawRowCount
      else evidence.rawRows s
    launchClassifiedCount := evidence.launchClassifiedCount + summary.launchClassifiedCount
    launchEligibleCount := evidence.launchEligibleCount + summary.launchEligibleCount
    summaryExcludedLaunches := evidence.summaryExcludedLaunches + summary.launchExcludedCount
    summarySentinels := evidence.summarySentinels + summary.recognizedSentinelCount
    summaryLifecycleGroups := evidence.summaryLifecycleGroups + summary.derivedLifecycleGroupCount
    summaries := evidence.summaries ++ [⟨blockRange, queryFingerprint, summary⟩] }

def finish (evidence : EvidenceAccumulator) : Except LiveFault Unit := do
  refuseIf (evidence.launchExcludedCount ≠ evidence.summaryExcludedLaunches ∨
    evidence.sentinelCount ≠ evidence.summarySentinels ∨
    evidence.derivedLifecycleCount ≠ evidence.summaryLifecycleGroups) normalizationFailed
  refuseIf (evidence.launchClassifiedCount ≠
    evidence.launchEligibleCount + evidence.launchExcludedCount) normalizationFailed
  refuseIf (evidence.launchEligibleCount ≠ evidence.launches.entries.length) normalizationFailed
  refuseIf (∃ entry ∈ evidence.launches.entries,
    entry.2.terminal ≠ none ∧ entry.2.completionPosition = none) lifecycleMismatch

end EvidenceAccumulator

/-! ## Shards -/

/-- The ranges of at most `span` blocks a range is read in, from a block on. -/
def shardsFrom (range : BlockRange) (span : Nat) (hspan : 0 < span) : Nat → Nat → List BlockRange
  | 0, _ => []
  | fuel + 1, start =>
    if h : start < range.toBlockOrdinal then
      ⟨range.networkId, range.positionSchemaId, start, min (start + span) range.toBlockOrdinal,
          range.schema_supported, lt_min (Nat.lt_add_of_pos_right hspan) h,
          (Nat.min_le_right _ _).trans range.to_le⟩ ::
        shardsFrom range span hspan fuel (min (start + span) range.toBlockOrdinal)
    else []

/-- Every shard takes at least one block, so there are no more shards than blocks. -/
def shards (range : BlockRange) (span : Nat) (hspan : 0 < span) : List BlockRange :=
  shardsFrom range span hspan (range.toBlockOrdinal - range.fromBlockOrdinal)
    range.fromBlockOrdinal

/-! ## A run -/

/-- What a run has consumed of each stream, in order. -/
structure Trace where
  clock : List BlockRow
  sentinels : List Observation
  launchRows : List Row
  launches : List LaunchRow
  tradeRows : List Row
  trades : List TradeRow
  lifecycleRows : List Row
  lifecycle : List LifecycleRow

def NormalizedRow.block? : NormalizedRow → Option BlockRow
  | .block row => some row
  | _ => none

def NormalizedRow.launch? : NormalizedRow → Option LaunchRow
  | .launch row => some row
  | _ => none

def NormalizedRow.trade? : NormalizedRow → Option TradeRow
  | .trade row => some row
  | _ => none

def NormalizedRow.lifecycle? : NormalizedRow → Option LifecycleRow
  | .lifecycle row => some row
  | _ => none

namespace Trace

def empty : Trace := ⟨[], [], [], [], [], [], [], []⟩

def consumed (trace : Trace) (stream : CapabilityStream) (raw : List Row)
    (normalized : List NormalizedRow) : Trace :=
  match stream with
  | .blockClock => { trace with clock := trace.clock ++ normalized.filterMap NormalizedRow.block? }
  | .tokenLaunch =>
    { trace with
      launchRows := trace.launchRows ++ raw
      launches := trace.launches ++ normalized.filterMap NormalizedRow.launch? }
  | .pumpCurveTrade =>
    { trace with
      tradeRows := trace.tradeRows ++ raw
      trades := trace.trades ++ normalized.filterMap NormalizedRow.trade? }
  | .pumpCurveLifecycle =>
    { trace with
      lifecycleRows := trace.lifecycleRows ++ raw
      lifecycle := trace.lifecycle ++ normalized.filterMap NormalizedRow.lifecycle? }

end Trace

/-- The physical source and what it is read with: the batches a query yields, its fingerprint, and
the capability and the normalizer of the composition. -/
structure SourceReader where
  normalizer : PumpfunLiveNormalizer
  capabilityId : CapabilityStream → String
  fingerprint : CapabilityStream → BlockRange → ContentDigest
  batches : CapabilityStream → BlockRange → List IndexedBatch

structure EvidenceRequest where
  blockRange : BlockRange
  decisionRange : BlockRange
  same_network : decisionRange.networkId = blockRange.networkId
  from_le : blockRange.fromBlockOrdinal ≤ decisionRange.fromBlockOrdinal
  to_le : decisionRange.toBlockOrdinal ≤ blockRange.toBlockOrdinal

def STREAM_ORDER : List CapabilityStream :=
  [.blockClock, .tokenLaunch, .pumpCurveTrade, .pumpCurveLifecycle]

section Inspect

variable [OrderedHash] (reader : SourceReader) (request : EvidenceRequest)

abbrev Evidence := EvidenceAccumulator × Trace

/-- A raw batch has to be the answer to its query. -/
def validateRawBatch (scope : SessionScope) (fingerprint : ContentDigest) (batch : IndexedBatch) :
    Except LiveFault Unit :=
  refuseIf (batch.capabilityId ≠ scope.capabilityId ∨ batch.coveredRange ≠ scope.coveredRange ∨
    batch.columns ≠ RAW_COLUMNS scope.stream ∨ batch.queryFingerprint ≠ some fingerprint)
    (.source .sourceReadFailed)

/-- The session of one shard. -/
def SourceReader.scope (stream : CapabilityStream) (subrange : BlockRange) : SessionScope :=
  ⟨reader.normalizer, stream, reader.capabilityId stream, subrange⟩

/-- An observation is told to the accumulator; the trace keeps the skipped slots. -/
def observeTraced (evidence : Evidence) (observation : Observation) : Except LiveFault Evidence := do
  let observed ← evidence.1.observe observation
  .ok (observed, match observation with
    | .skippedSlot _ _ => { evidence.2 with sentinels := evidence.2.sentinels ++ [observation] }
    | _ => evidence.2)

def inspectBatch (stream : CapabilityStream) (subrange : BlockRange) (state : Session × Evidence)
    (batch : IndexedBatch) : Except LiveFault (Session × Evidence) := do
  validateRawBatch (reader.scope stream subrange) (reader.fingerprint stream subrange) batch
  let normalized ← state.1.tryNormalize observeTraced state.2 batch
  let evidence ← normalized.2.1.1.consume stream batch.readRows normalized.2.2.rows
  .ok (normalized.1, evidence, normalized.2.1.2.consumed stream batch.readRows normalized.2.2.rows)

def inspectShard (stream : CapabilityStream) (evidence : Evidence) (subrange : BlockRange) :
    Except LiveFault Evidence := do
  let state ← (reader.batches stream subrange).foldlM (inspectBatch reader stream subrange)
    (Session.start (reader.scope stream subrange), evidence)
  let summary ← state.1.finish.2
  let summed ← state.2.1.addSummary stream subrange (reader.fingerprint stream subrange) summary
  .ok (summed, state.2.2)

/-- Launches are read over the decision range, the other streams over the whole cut. -/
def EvidenceRequest.selectedRange (stream : CapabilityStream) : BlockRange :=
  if stream = .tokenLaunch then request.decisionRange else request.blockRange

def inspectStream (span : Nat) (hspan : 0 < span) (evidence : Evidence)
    (stream : CapabilityStream) : Except LiveFault Evidence :=
  (shards (request.selectedRange stream) span hspan).foldlM (inspectShard reader stream) evidence

/-- A fault as the composition raises it. -/
def composed : LiveFault → LiveFault
  | .source code => .source code
  | .normalization .incompleteBlockRange => .source .incompleteBlockRange
  | _ => normalizationFailed

/-- `inspect_bounded_evidence`, up to the receipts. -/
def inspect (span : Nat) (hspan : 0 < span) : Except LiveFault Evidence :=
  Except.mapError composed do
    let evidence ← STREAM_ORDER.foldlM (inspectStream reader request span hspan)
      (EvidenceAccumulator.start PUMPFUN_LAUNCH_UNIVERSE_POLICY_ID, Trace.empty)
    evidence.1.finish
    .ok evidence

end Inspect

end Source

end OnchainBacktest
