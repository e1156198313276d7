import OnchainBacktest.Source.Normalizer

/-!
# Normalization sessions

A session normalizes one capability over one half-open block range, batch after batch, and is
sealed by `finish`.  Here are the batches, the session with its counts and its digests, and the two
calls a driver makes: `Session.normalize`, which a fault poisons the session by, and
`Session.finish`.

`Session.normalizeBatch` is what the two users of a session share: a caller with a sink that may
stop it, the evidence accumulator, and a caller that only records the observations.
-/

set_option autoImplicit false

namespace OnchainBacktest

/-- Ranges are compared by their fields. -/
instance blockRange_decidableEq : DecidableEq BlockRange := fun a b =>
  decidable_of_iff (a.networkId = b.networkId ∧ a.positionSchemaId = b.positionSchemaId ∧
      a.fromBlockOrdinal = b.fromBlockOrdinal ∧ a.toBlockOrdinal = b.toBlockOrdinal) <| by
    cases a
    cases b
    simp

namespace Source

open Checked

/-! ## Columns -/

def BLOCK_RAW_COLUMNS : List String :=
  ["block_ordinal", "block_time", "block_hash", "validator", "rewards", "transaction_count",
    "source_row_count", "payload_variant_count", "is_nonproduced_sentinel"]

def LAUNCH_RAW_COLUMNS : List String :=
  ["block_ordinal", "block_time", "transaction_index", "raw_instruction_index", "signature", "mint",
    "creator", "creation_user", "curve_address", "quote_asset", "mayhem_mode", "token_program",
    "cashback_enabled", "direct_pump_invocation", "pump_program_index", "parent_program",
    "source_version", "bundle_size", "bundle_structure", "bundled_buys", "bundled_buys_count",
    "dev_balance"]

def TRADE_RAW_COLUMNS : List String :=
  ["block_ordinal", "block_time", "transaction_index", "raw_instruction_index", "signature", "mint",
    "quote_asset", "direction", "instruction_type", "base_amount_atomic", "quote_amount_atomic",
    "virtual_token_reserves_after_atomic", "virtual_sol_reserves_after_lamports", "failed",
    "signing_wallet", "fee_payer", "parent_program", "provided_gas_fee_lamports",
    "provided_gas_limit", "network_fee_lamports", "consumed_gas", "pump_program_account_index",
    "cu_price_instruction_index", "cu_limit_instruction_index", "tip_instruction_index",
    "num_signatures", "transaction_version", "blockhash_prefix", "creation_block_ordinal",
    "creation_transaction_index", "creation_raw_instruction_index", "creator", "creation_user",
    "curve_address", "token_program", "cashback_enabled", "mayhem_mode", "source_row_count",
    "payload_variant_count"]

def LIFECYCLE_RAW_COLUMNS : List String :=
  ["candidate_kind", "block_ordinal", "block_time", "transaction_index", "raw_instruction_index",
    "signature", "mint", "curve_address", "token_program", "cashback_enabled", "mayhem_mode",
    "creation_block_ordinal", "creation_transaction_index", "creation_raw_instruction_index",
    "terminal_raw_instruction_index", "terminal_virtual_token_reserves_after_atomic",
    "terminal_virtual_sol_reserves_after_lamports", "terminal_candidate_count",
    "terminal_source_row_count", "terminal_payload_variant_count", "migration_user",
    "migration_mint_amount_atomic", "migration_sol_amount_lamports", "pool_migration_fee_lamports",
    "migration_pool", "migration_timestamp", "migration_parent_program", "source_row_count",
    "payload_variant_count"]

def RAW_COLUMNS : CapabilityStream → List String
  | .blockClock => BLOCK_RAW_COLUMNS
  | .tokenLaunch => LAUNCH_RAW_COLUMNS
  | .pumpCurveTrade => TRADE_RAW_COLUMNS
  | .pumpCurveLifecycle => LIFECYCLE_RAW_COLUMNS

/-! ## Batches -/

/-- A driver batch.  A fingerprint that is no digest is `none`. -/
structure IndexedBatch where
  capabilityId : String
  coveredRange : BlockRange
  columns : List String
  rows : List (List Cell)
  rowCount : Nat
  queryFingerprint : Option ContentDigest
  deriving DecidableEq

namespace IndexedBatch

/-- The rows with the columns they are read by. -/
def readRows (batch : IndexedBatch) : List Row := batch.rows.map (Row.mk batch.columns)

end IndexedBatch

structure PumpfunNormalizedBatch where
  capabilityId : String
  coveredRange : BlockRange
  rows : List NormalizedRow
  queryFingerprint : ContentDigest
  deriving DecidableEq

/-- The fee profile a normalizer is made with. -/
structure PumpfunLiveNormalizer where
  feeProfile : PumpFeeProfile
  program_version : feeProfile.programVersion = PUMP_STATIC_PROGRAM_CONTRACT_V1
  protocol_fee : feeProfile.protocolFeeBps = 95
  creator_fee : feeProfile.creatorFeeBps = 30

/-- What a session is begun with. -/
structure SessionScope where
  normalizer : PumpfunLiveNormalizer
  stream : CapabilityStream
  capabilityId : String
  coveredRange : BlockRange

/-- The hashes of ordered entries, each under its own domain and header. -/
class OrderedHash where
  normalizedStream : SessionScope → List NormalizedRow → ContentDigest
  exclusions : BlockRange → List Observation → ContentDigest
  sentinels : BlockRange → List Observation → ContentDigest
  lifecycleGroups : BlockRange → List Observation → ContentDigest

structure PumpfunNormalizationSummary where
  stream : CapabilityStream
  rawRowCount : Nat
  normalizedRowCount : Nat
  normalizedStreamDigest : ContentDigest
  launchClassifiedCount : Nat
  launchEligibleCount : Nat
  launchExcludedCount : Nat
  orderedExclusionDigest : ContentDigest
  recognizedSentinelCount : Nat
  orderedSentinelDigest : ContentDigest
  derivedLifecycleGroupCount : Nat
  orderedLifecycleGroupDigest : ContentDigest
  deriving DecidableEq

structure Session where
  scope : SessionScope
  queryFingerprint : Option ContentDigest
  rawRows : Nat
  normalizedStream : List NormalizedRow
  rowState : RowState
  failed : Bool
  finished : Bool
  summary : Option PumpfunNormalizationSummary

namespace Session

/-- `PumpfunLiveNormalizer.begin`. -/
def start (scope : SessionScope) : Session :=
  ⟨scope, none, 0, [], RowState.start scope.coveredRange, false, false, none⟩

/-! ## A batch -/

def batchRefused : LiveFault := .normalization .batchContractInvalid

def validateBatch (session : Session) (batch : IndexedBatch) : Except LiveFault Session := do
  refuseIf (batch.capabilityId ≠ session.scope.capabilityId) batchRefused
  refuseIf (batch.coveredRange ≠ session.scope.coveredRange) batchRefused
  refuseIf (batch.columns ≠ RAW_COLUMNS session.scope.stream) (.normalization .rawSchemaMismatch)
  refuseIf (batch.rowCount ≠ batch.rows.length) batchRefused
  refuseIf (∃ row ∈ batch.rows, row.length ≠ batch.columns.length) batchRefused
  refuseIf (batch.queryFingerprint = none) batchRefused
  refuseIf (session.queryFingerprint ≠ none ∧ session.queryFingerprint ≠ batch.queryFingerprint)
    batchRefused
  .ok { session with queryFingerprint := batch.queryFingerprint }

variable {ω : Type} (sink : ω → Observation → Except LiveFault ω)

/-- The session, its sink and the normalized rows of the batch so far. -/
abbrev Progress (ω : Type) := Session × ω × List NormalizedRow

def tellSink (told : ω) : Option Observation → Except LiveFault ω
  | none => .ok told
  | some observation => sink told observation

/-- One row of a batch. -/
def consumeRow (progress : Progress ω) (row : Row) : Except LiveFault (Progress ω) := do
  let scope := progress.1.scope
  let outcome ← normalizeRow scope.normalizer.feeProfile scope.stream scope.coveredRange
    progress.1.rowState row
  let told ← tellSink sink progress.2.1 outcome.2.2
  .ok ({ progress.1 with
      rawRows := progress.1.rawRows + 1
      rowState := outcome.1
      normalizedStream := progress.1.normalizedStream ++ outcome.2.1.toList },
    told, progress.2.2 ++ outcome.2.1.toList)

/-- A batch on a session that is neither sealed nor poisoned. -/
def normalizeBatch (session : Session) (told : ω) (batch : IndexedBatch) :
    Except LiveFault (Progress ω) := do
  let session ← session.validateBatch batch
  batch.readRows.foldlM (consumeRow sink) (session, told, [])

/-! ## The calls of a driver -/

def rowContractErrorCode : CapabilityStream → PumpfunLiveNormalizationErrorCode
  | .blockClock => .incompleteBlockRange
  | .tokenLaunch => .launchContractInvalid
  | .pumpCurveTrade => .tradeContractInvalid
  | .pumpCurveLifecycle => .lifecycleContractInvalid

/-- A bare fault of a row gets the code of the stream. -/
def caught (stream : CapabilityStream) : LiveFault → LiveFault
  | .contract => .normalization (rowContractErrorCode stream)
  | fault => fault

/-- `normalize` on a session that neither is sealed nor failed: every fault has a code. -/
def tryNormalize (session : Session) (told : ω) (batch : IndexedBatch) :
    Except LiveFault (Session × ω × PumpfunNormalizedBatch) := do
  let progress ← (session.normalizeBatch sink told batch).mapError (caught session.scope.stream)
  match progress.1.queryFingerprint with
  | none => .error batchRefused
  | some fingerprint =>
    .ok (progress.1, progress.2.1, ⟨session.scope.capabilityId, session.scope.coveredRange,
      progress.2.2, fingerprint⟩)

/-- `normalize`, with a sink that records what it is told.  After a fault nothing of the session is
read but that it failed, so what the rows before the fault did to it is left out. -/
def normalize (session : Session) (told : List Observation) (batch : IndexedBatch) :
    (Session × List Observation) × Except LiveFault PumpfunNormalizedBatch :=
  if session.finished = true then ((session, told), .error (.normalization .streamAlreadyFinished))
  else if session.failed = true then ((session, told), .error batchRefused)
  else
    match session.tryNormalize (fun told observation => .ok (told ++ [observation])) told batch with
    | .ok (session', told', normalized) => ((session', told'), .ok normalized)
    | .error fault => (({ session with failed := true }, told), .error fault)

variable [OrderedHash]

/-- What `finish` seals a stream with. -/
def summarize (session : Session) : PumpfunNormalizationSummary where
  stream := session.scope.stream
  rawRowCount := session.rawRows
  normalizedRowCount := session.normalizedStream.length
  normalizedStreamDigest := OrderedHash.normalizedStream session.scope session.normalizedStream
  launchClassifiedCount := session.rowState.launchClassified
  launchEligibleCount := session.rowState.launchEligible
  launchExcludedCount := session.rowState.exclusions.length
  orderedExclusionDigest :=
    OrderedHash.exclusions session.scope.coveredRange session.rowState.exclusions
  recognizedSentinelCount := session.rowState.sentinels.length
  orderedSentinelDigest :=
    OrderedHash.sentinels session.scope.coveredRange session.rowState.sentinels
  derivedLifecycleGroupCount := session.rowState.lifecycleGroups.length
  orderedLifecycleGroupDigest :=
    OrderedHash.lifecycleGroups session.scope.coveredRange session.rowState.lifecycleGroups

/-- The block clock has to have reached the end of its range. -/
def Covered (session : Session) : Prop :=
  session.scope.stream = .blockClock →
    session.rowState.expectedBlock = session.scope.coveredRange.toBlockOrdinal

instance covered_decidable (session : Session) : Decidable session.Covered :=
  inferInstanceAs (Decidable (_ → _))

def finish (session : Session) : Session × Except LiveFault PumpfunNormalizationSummary :=
  if session.failed = true then (session, .error batchRefused)
  else
    match session.summary with
    | some summary => (session, .ok summary)
    | none =>
      if session.Covered then
        ({ session with finished := true, summary := some session.summarize },
          .ok session.summarize)
      else ({ session with failed := true }, .error incomplete)

end Session

end Source

end OnchainBacktest
