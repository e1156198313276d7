import Mathlib.Data.String.Basic
import OnchainBacktest.Source.RawRows

/-!
# Normalization of one row

What a normalization session does with one raw row of its stream: the checks of the row, in the
order the source makes them, what the session remembers of it for the rows to come, the normalized
row, and what an observation sink is told.

`RowState` is what the session carries from row to row.  The digests it keeps are the lists of what
went into them: a digest is a hash of its framed entries, so equal lists have equal digests.
-/

set_option autoImplicit false

namespace OnchainBacktest

namespace Source

open Checked

/-! ## Profile constants -/

def PUMPFUN_LAUNCH_UNIVERSE_POLICY_ID : String :=
  "successful-sol-paired-non-mayhem-pumpfun-launches-in-decision-range-v2"

def SOLANA_SKIPPED_SLOT_SENTINEL_PROFILE_ID : String :=
  "solana-skipped-slot-epoch-zero-pinned-fingerprint-v1"

def PUMPFUN_TERMINAL_LIFECYCLE_PROFILE_ID : String :=
  "pumpfun-terminal-buy-completion-migration-order-v1"

def PUMPFUN_LAUNCH_SOL_SOURCE_ASSET : String := "11111111111111111111111111111111"

def PUMPFUN_TRADE_SOL_SOURCE_ASSET : String := "So11111111111111111111111111111111111111112"

def PUMPFUN_CANONICAL_SOL_ASSET : String := "SOL"

def PUMPFUN_INITIAL_VIRTUAL_TOKEN_RESERVES : Nat := 1073000000000000

def PUMPFUN_INITIAL_VIRTUAL_SOL_RESERVES : Nat := 30000000000

def PUMPFUN_INITIAL_REAL_TOKEN_RESERVES : Nat := 793100000000000

def PUMPFUN_INITIAL_REAL_SOL_RESERVES : Nat := 0

def PUMPFUN_TOKEN_TOTAL_SUPPLY : Nat := 1000000000000000

def PUMPFUN_REAL_TOKEN_OFFSET : Nat := 279900000000000

def PUMPFUN_REAL_SOL_OFFSET : Nat := 30000000000

def PUMPFUN_MIGRATION_MINT_AMOUNT : Nat := 206900000000000

def PUMPFUN_POOL_MIGRATION_FEE : Nat := 15000001

def SENTINEL_BLOCK_HASH : String := String.ofList (List.replicate 48 ' ')

def SENTINEL_VALIDATOR : String := "MISSING" ++ String.ofList (List.replicate 41 ' ')

def MAYHEM_EXCLUDED : String := "MAYHEM_EXCLUDED"

def SUPPORTED_TRADE_INSTRUCTIONS : List (String × String) :=
  [("buy", "buy"), ("buy", "buy_exact_quote_in_v2"), ("buy", "buy_exact_sol_in"),
    ("buy", "buy_v2"), ("sell", "sell"), ("sell", "sell_v2")]

/-! ## Normalized rows and observations -/

structure BlockRow where
  blockOrdinal : Nat
  blockTime : Nat
  transactionCount : Nat
  blockHash : String
  deriving DecidableEq, Repr

structure LaunchRow where
  blockOrdinal : Nat
  transactionIndex : Nat
  eventIndex : Nat
  signature : String
  transactionSucceeded : Bool
  mint : String
  creator : String
  creationUser : String
  venue : String
  quoteAsset : String
  virtualTokenReservesAtomic : Nat
  virtualSolReservesLamports : Nat
  realTokenReservesAtomic : Nat
  realSolReservesLamports : Nat
  tokenTotalSupplyAtomic : Nat
  lifecycle : PumpCurveLifecycle
  mode : PumpMode
  deriving DecidableEq, Repr

structure TradeRow where
  blockOrdinal : Nat
  transactionIndex : Nat
  eventIndex : Nat
  signature : String
  venue : String
  mint : String
  quoteAsset : String
  side : String
  baseAmountAtomic : Nat
  quoteAmountAtomic : Nat
  protocolFeeAtomic : Nat
  creatorFeeAtomic : Nat
  virtualTokenReservesAtomic : Nat
  virtualSolReservesLamports : Nat
  realTokenReservesAtomic : Nat
  realSolReservesLamports : Nat
  tokenTotalSupplyAtomic : Nat
  lifecycle : PumpCurveLifecycle
  mode : PumpMode
  deriving DecidableEq, Repr

structure LifecycleRow where
  blockOrdinal : Nat
  transactionIndex : Nat
  eventIndex : Nat
  signature : String
  mint : String
  venue : String
  lifecycleKind : PumpCurveLifecycle
  virtualTokenReservesAtomic : Nat
  virtualSolReservesLamports : Nat
  realTokenReservesAtomic : Nat
  realSolReservesLamports : Nat
  tokenTotalSupplyAtomic : Nat
  lifecycle : PumpCurveLifecycle
  mode : PumpMode
  deriving DecidableEq, Repr

inductive NormalizedRow
  | block (row : BlockRow)
  | launch (row : LaunchRow)
  | trade (row : TradeRow)
  | lifecycle (row : LifecycleRow)
  deriving DecidableEq, Repr

inductive Observation
  | skippedSlot (profileId : String) (blockOrdinal : Nat)
  | excludedLaunch (policyId reason : String) (blockOrdinal transactionIndex eventIndex : Nat)
    (signature mint : String)
  | derivedLifecycleGroup (profileId : String)
    (blockOrdinal transactionIndex terminalEventIndex completionEventIndex migrationEventIndex : Nat)
    (signature mint curveAddress : String)
  deriving DecidableEq, Repr

/-! ## What a session remembers -/

/-- Block, transaction, place in it, signature and mint. -/
abbrev OrderKey := Nat ×ₗ Nat ×ₗ Nat ×ₗ String ×ₗ String

def orderKey (block transaction place : Nat) (signature mint : String) : OrderKey :=
  toLex (block, toLex (transaction, toLex (place, toLex (signature, mint))))

/-- A completion that its migration may follow in the same transaction. -/
structure LifecycleCompletion where
  signature : String
  mint : String
  curve : String
  rawInstruction : Nat
  virtualSol : Nat
  deriving DecidableEq, Repr

structure RowState where
  expectedBlock : Nat
  lastProducedBlockTime : Option Nat
  lastOrderKey : Option OrderKey
  lastLaunchTransaction : Option (Nat × Nat)
  lifecyclePosition : Option (Nat × Nat)
  lifecycleCompletion : Option LifecycleCompletion
  lifecycleMigrationSeen : Bool
  launchClassified : Nat
  launchEligible : Nat
  exclusions : List Observation
  sentinels : List Observation
  lifecycleGroups : List Observation
  deriving DecidableEq

namespace RowState

/-- Before the first row of a range. -/
def start (coveredRange : BlockRange) : RowState :=
  ⟨coveredRange.fromBlockOrdinal, none, none, none, none, none, false, 0, 0, [], [], []⟩

def requireOrder (state : RowState) (key : OrderKey)
    (code : PumpfunLiveNormalizationErrorCode) : Except LiveFault RowState := do
  refuseIf (∃ last ∈ state.lastOrderKey, key ≤ last) (.normalization code)
  .ok { state with lastOrderKey := some key }

def startLifecyclePosition (state : RowState) (block transaction : Nat) : RowState :=
  if state.lifecyclePosition = some (block, transaction) then state
  else
    { state with
      lifecyclePosition := some (block, transaction)
      lifecycleCompletion := none
      lifecycleMigrationSeen := false }

end RowState

/-- What comes of a row: the session after it, its normalized row and what the sink is told. -/
abbrev RowOutcome := RowState × Option NormalizedRow × Option Observation

/-! ## The clock -/

def incomplete : LiveFault := .normalization .incompleteBlockRange

def normalizeBlock (state : RowState) (row : Row) : Except LiveFault RowOutcome := do
  let block ← uintUpTo UINT32_MAX (row.cell "block_ordinal")
  refuseIf (block ≠ state.expectedBlock) incomplete
  let sourceRowCount ← uint (row.cell "source_row_count")
  refuseIf (sourceRowCount < 1) incomplete
  let variants ← uint (row.cell "payload_variant_count")
  refuseIf (variants ≠ 1) incomplete
  let flagged ← flag (row.cell "is_nonproduced_sentinel")
  let time ← blockTime (row.cell "block_time")
  let rawHash ← rawText (row.cell "block_hash")
  let rawValidator ← rawText (row.cell "validator")
  let rewards ← uint (row.cell "rewards")
  let transactionCount ← uintUpTo UINT32_MAX (row.cell "transaction_count")
  let exactSentinel : Bool := time.1 == 0 && rawHash == SENTINEL_BLOCK_HASH &&
    rawValidator == SENTINEL_VALIDATOR && rewards == 0 && transactionCount == 0
  let sentinelShaped : Bool := flagged || time.1 == 0 || rawHash == SENTINEL_BLOCK_HASH ||
    rawValidator == SENTINEL_VALIDATOR
  if (flagged && exactSentinel) = true then
    .ok ({ state with
        expectedBlock := state.expectedBlock + 1
        sentinels := state.sentinels ++
          [.skippedSlot SOLANA_SKIPPED_SLOT_SENTINEL_PROFILE_ID block] },
      none, some (.skippedSlot SOLANA_SKIPPED_SLOT_SENTINEL_PROFILE_ID block))
  else do
    refuseIf ((exactSentinel || sentinelShaped) = true) incomplete
    let blockHash ← coded .incompleteBlockRange (base58Identifier (.text rawHash) 32)
    refuseIf (∃ last ∈ state.lastProducedBlockTime, time.1 < last) incomplete
    .ok ({ state with
        expectedBlock := state.expectedBlock + 1
        lastProducedBlockTime := some time.1 },
      some (.block ⟨block, time.2, transactionCount, blockHash⟩), none)

/-! ## Launches -/

structure RowPosition where
  block : Nat
  transaction : Nat
  rawInstruction : Nat
  eventIndex : Nat

def position (coveredRange : BlockRange) (row : Row) : Except LiveFault RowPosition := do
  let block ← uintUpTo UINT32_MAX (row.cell "block_ordinal")
  let transaction ← transactionIndex (row.cell "transaction_index")
  let rawInstruction ← instructionIndex (row.cell "raw_instruction_index")
  refuseIf (coveredRange.containsBlock block = false) (.normalization .positionInvalid)
  let eventIndex ← derivedEventIndex rawInstruction 0
  .ok ⟨block, transaction, rawInstruction, eventIndex⟩

/-- Bundle metadata, which is checked and not kept. -/
def checkBundle (row : Row) : Except LiveFault Unit := do
  let _ ← blockTime (row.cell "block_time")
  let _ ← flag (row.cell "direct_pump_invocation")
  let _ ← uint (row.cell "pump_program_index")
  let _ ← uint (row.cell "bundle_size")
  let _ ← uint (row.cell "bundled_buys")
  let _ ← uint (row.cell "bundled_buys_count")
  let _ ← uint (row.cell "dev_balance")
  .ok ()

def normalizeLaunch (coveredRange : BlockRange) (state : RowState) (row : Row) :
    Except LiveFault RowOutcome := do
  let at_ ← position coveredRange row
  let signature ← signature (row.cell "signature")
  let mint ← publicKey (row.cell "mint")
  let creator ← publicKey (row.cell "creator")
  let creationUser ← publicKey (row.cell "creation_user")
  let curve ← publicKey (row.cell "curve_address")
  let quoteSource ← publicKey (row.cell "quote_asset")
  refuseIf (quoteSource ≠ PUMPFUN_LAUNCH_SOL_SOURCE_ASSET) (.normalization .launchContractInvalid)
  let mayhem ← flag (row.cell "mayhem_mode")
  let state ← state.requireOrder
    (orderKey at_.block at_.transaction at_.rawInstruction signature mint) .launchContractInvalid
  refuseIf (state.lastLaunchTransaction = some (at_.block, at_.transaction))
    (.normalization .launchContractInvalid)
  checkBundle row
  let state := { state with
    lastLaunchTransaction := some (at_.block, at_.transaction)
    launchClassified := state.launchClassified + 1 }
  if mayhem = true then
    let observation := Observation.excludedLaunch PUMPFUN_LAUNCH_UNIVERSE_POLICY_ID MAYHEM_EXCLUDED
      at_.block at_.transaction at_.eventIndex signature mint
    .ok ({ state with exclusions := state.exclusions ++ [observation] }, none, some observation)
  else do
    let mode ← mode (row.cell "token_program") (row.cell "cashback_enabled")
    .ok ({ state with launchEligible := state.launchEligible + 1 },
      some (.launch
        { blockOrdinal := at_.block
          transactionIndex := at_.transaction
          eventIndex := at_.eventIndex
          signature := signature
          transactionSucceeded := true
          mint := mint
          creator := creator
          creationUser := creationUser
          venue := curve
          quoteAsset := PUMPFUN_CANONICAL_SOL_ASSET
          virtualTokenReservesAtomic := PUMPFUN_INITIAL_VIRTUAL_TOKEN_RESERVES
          virtualSolReservesLamports := PUMPFUN_INITIAL_VIRTUAL_SOL_RESERVES
          realTokenReservesAtomic := PUMPFUN_INITIAL_REAL_TOKEN_RESERVES
          realSolReservesLamports := PUMPFUN_INITIAL_REAL_SOL_RESERVES
          tokenTotalSupplyAtomic := PUMPFUN_TOKEN_TOTAL_SUPPLY
          lifecycle := .active
          mode := mode }), none)

/-! ## Trades -/

/-- The reserves after a trade, virtual and real, and the lifecycle they mean. -/
structure CurveState where
  virtualToken : Nat
  virtualSol : Nat
  realToken : Nat
  realSol : Nat
  lifecycle : PumpCurveLifecycle

def curveState (virtualTokenValue virtualSolValue : Cell) : Except LiveFault CurveState := do
  let virtualToken ← uint virtualTokenValue
  let virtualSol ← uint virtualSolValue
  refuseIf (virtualToken < PUMPFUN_REAL_TOKEN_OFFSET ∨ virtualSol < PUMPFUN_REAL_SOL_OFFSET)
    .contract
  let realToken := virtualToken - PUMPFUN_REAL_TOKEN_OFFSET
  refuseIf (PUMPFUN_TOKEN_TOTAL_SUPPLY < realToken) .contract
  .ok ⟨virtualToken, virtualSol, realToken, virtualSol - PUMPFUN_REAL_SOL_OFFSET,
    if realToken = 0 then .completed else .active⟩

/-- A refused quote is a fault of the fee profile; any other fault is the row's. -/
def tradeFees (mode : PumpMode) (quoteAmount : Nat) (feeProfile : PumpFeeProfile)
    (effectiveAt : Nat) : Except LiveFault PumpFeeBreakdown :=
  (historicalTradeFeeBreakdown mode quoteAmount feeProfile effectiveAt).mapError fun
    | .pumpQuote _ => .normalization .feeProfileInvalid
    | _ => .contract

/-- `text.upper()`. -/
def upper (text : String) : String := String.ofList (text.toList.map Char.toUpper)

def tradeRefused : LiveFault := .normalization .tradeContractInvalid

def normalizeTrade (feeProfile : PumpFeeProfile) (coveredRange : BlockRange) (state : RowState)
    (row : Row) : Except LiveFault RowOutcome := do
  let at_ ← position coveredRange row
  let signature ← signature (row.cell "signature")
  let mint ← publicKey (row.cell "mint")
  let curve ← publicKey (row.cell "curve_address")
  let quoteSource ← publicKey (row.cell "quote_asset")
  refuseIf (quoteSource ≠ PUMPFUN_TRADE_SOL_SOURCE_ASSET) tradeRefused
  let failed ← flag (row.cell "failed")
  refuseIf (failed = true) tradeRefused
  let mayhem ← flag (row.cell "mayhem_mode")
  refuseIf (mayhem = true) (.normalization .unsupportedProgramMode)
  let mode ← mode (row.cell "token_program") (row.cell "cashback_enabled")
  let sourceCount ← uint (row.cell "source_row_count")
  let variants ← uint (row.cell "payload_variant_count")
  refuseIf (sourceCount < 1 ∨ variants ≠ 1) tradeRefused
  let state ← state.requireOrder
    (orderKey at_.block at_.transaction at_.rawInstruction signature mint) .tradeContractInvalid
  let direction ← closedText (row.cell "direction")
  let instruction ← closedText (row.cell "instruction_type")
  refuseIf ((direction, instruction) ∉ SUPPORTED_TRADE_INSTRUCTIONS) tradeRefused
  let baseAmount ← uint (row.cell "base_amount_atomic")
  let quoteAmount ← uint (row.cell "quote_amount_atomic")
  refuseIf (baseAmount = 0 ∨ direction = "buy" ∧ quoteAmount = 0) tradeRefused
  let curveAfter ← curveState (row.cell "virtual_token_reserves_after_atomic")
    (row.cell "virtual_sol_reserves_after_lamports")
  let effectiveAt ← blockTime (row.cell "block_time")
  let fees ← tradeFees mode quoteAmount feeProfile effectiveAt.1
  .ok (state, some (.trade
    { blockOrdinal := at_.block
      transactionIndex := at_.transaction
      eventIndex := at_.eventIndex
      signature := signature
      venue := curve
      mint := mint
      quoteAsset := PUMPFUN_CANONICAL_SOL_ASSET
      side := upper direction
      baseAmountAtomic := baseAmount
      quoteAmountAtomic := quoteAmount
      protocolFeeAtomic := fees.protocolFeeLamports
      creatorFeeAtomic := fees.creatorFeeLamports
      virtualTokenReservesAtomic := curveAfter.virtualToken
      virtualSolReservesLamports := curveAfter.virtualSol
      realTokenReservesAtomic := curveAfter.realToken
      realSolReservesLamports := curveAfter.realSol
      tokenTotalSupplyAtomic := PUMPFUN_TOKEN_TOTAL_SUPPLY
      lifecycle := curveAfter.lifecycle
      mode := mode }), none)

/-! ## Completions and migrations -/

def lifecycleRefused : LiveFault := .normalization .lifecycleContractInvalid

def checkedAdd (left right : Nat) : Except LiveFault Nat := do
  refuseIf (MAX_U64 < left + right) .contract
  .ok (left + right)

/-- What a completion and a migration are both read with. -/
structure LifecycleFields where
  block : Nat
  transaction : Nat
  signature : String
  mint : String
  curve : String
  mode : PumpMode

def lifecycleRow (fields : LifecycleFields) (eventIndex : Nat) (lifecycle : PumpCurveLifecycle)
    (virtualSol : Nat) : LifecycleRow where
  blockOrdinal := fields.block
  transactionIndex := fields.transaction
  eventIndex := eventIndex
  signature := fields.signature
  mint := fields.mint
  venue := fields.curve
  lifecycleKind := lifecycle
  virtualTokenReservesAtomic := PUMPFUN_REAL_TOKEN_OFFSET
  virtualSolReservesLamports := virtualSol
  realTokenReservesAtomic := 0
  realSolReservesLamports := virtualSol - PUMPFUN_REAL_SOL_OFFSET
  tokenTotalSupplyAtomic := PUMPFUN_TOKEN_TOTAL_SUPPLY
  lifecycle := lifecycle
  mode := fields.mode

/-- The columns only a migration fills. -/
def MIGRATION_COLUMNS : List String :=
  ["migration_user", "migration_mint_amount_atomic", "migration_sol_amount_lamports",
    "pool_migration_fee_lamports", "migration_pool", "migration_timestamp",
    "migration_parent_program"]

/-- Exactly one candidate for the terminal trade, with one payload. -/
def checkTerminalCounts (row : Row) : Except LiveFault Unit := do
  let candidates ← uint (row.cell "terminal_candidate_count")
  refuseIf (candidates ≠ 1) lifecycleRefused
  let sources ← uint (row.cell "terminal_source_row_count")
  refuseIf (sources < 1) lifecycleRefused
  let variants ← uint (row.cell "terminal_payload_variant_count")
  refuseIf (variants ≠ 1) lifecycleRefused

def normalizeCompletion (state : RowState) (row : Row) (fields : LifecycleFields) :
    Except LiveFault RowOutcome := do
  refuseIf (state.lifecycleCompletion ≠ none ∨ state.lifecycleMigrationSeen = true) lifecycleRefused
  let rawInstruction ← instructionIndex (row.cell "raw_instruction_index")
  let terminalInstruction ← instructionIndex (row.cell "terminal_raw_instruction_index")
  refuseIf (rawInstruction ≠ terminalInstruction) lifecycleRefused
  checkTerminalCounts row
  refuseIf (∃ name ∈ MIGRATION_COLUMNS, row.cell name ≠ .null) lifecycleRefused
  let virtualToken ← uint (row.cell "terminal_virtual_token_reserves_after_atomic")
  let virtualSol ← uint (row.cell "terminal_virtual_sol_reserves_after_lamports")
  refuseIf (virtualToken ≠ PUMPFUN_REAL_TOKEN_OFFSET ∨ virtualSol < PUMPFUN_REAL_SOL_OFFSET)
    lifecycleRefused
  let eventIndex ← derivedEventIndex rawInstruction 1
  .ok ({ state with
      lifecycleCompletion := some
        ⟨fields.signature, fields.mint, fields.curve, rawInstruction, virtualSol⟩ },
    some (.lifecycle (lifecycleRow fields eventIndex .completed virtualSol)), none)

/-- The columns of a migration that tell of a terminal trade in its own transaction. -/
def TERMINAL_COLUMNS : List String :=
  ["terminal_raw_instruction_index", "terminal_virtual_token_reserves_after_atomic",
    "terminal_virtual_sol_reserves_after_lamports"]

/-- A migration right after the completion of its own transaction. -/
def normalizeDerivedMigration (state : RowState) (row : Row) (fields : LifecycleFields)
    (virtualSol : Nat) : Except LiveFault RowOutcome := do
  refuseIf (∃ name ∈ TERMINAL_COLUMNS, row.cell name = .null) lifecycleRefused
  let rawInstruction ← instructionIndex (row.cell "terminal_raw_instruction_index")
  checkTerminalCounts row
  let terminalToken ← uint (row.cell "terminal_virtual_token_reserves_after_atomic")
  refuseIf (terminalToken ≠ PUMPFUN_REAL_TOKEN_OFFSET) lifecycleRefused
  let terminalSol ← uint (row.cell "terminal_virtual_sol_reserves_after_lamports")
  refuseIf (terminalSol ≠ virtualSol) lifecycleRefused
  refuseIf (state.lifecycleCompletion ≠
    some ⟨fields.signature, fields.mint, fields.curve, rawInstruction, virtualSol⟩) lifecycleRefused
  let terminalEvent ← derivedEventIndex rawInstruction 0
  let completionEvent ← derivedEventIndex rawInstruction 1
  let eventIndex ← derivedEventIndex rawInstruction 2
  let observation := Observation.derivedLifecycleGroup PUMPFUN_TERMINAL_LIFECYCLE_PROFILE_ID
    fields.block fields.transaction terminalEvent completionEvent eventIndex fields.signature
    fields.mint fields.curve
  .ok ({ state with
      lifecycleGroups := state.lifecycleGroups ++ [observation]
      lifecycleMigrationSeen := true },
    some (.lifecycle (lifecycleRow fields eventIndex .migrated virtualSol)), some observation)

/-- A migration in a transaction of its own. -/
def normalizeStandaloneMigration (state : RowState) (row : Row) (fields : LifecycleFields)
    (virtualSol : Nat) : Except LiveFault RowOutcome := do
  let candidates ← uint (row.cell "terminal_candidate_count")
  refuseIf (candidates ≠ 0) lifecycleRefused
  let sources ← uint (row.cell "terminal_source_row_count")
  refuseIf (sources ≠ 0) lifecycleRefused
  let variants ← uint (row.cell "terminal_payload_variant_count")
  refuseIf (variants ≠ 0) lifecycleRefused
  refuseIf (state.lifecycleCompletion ≠ none) lifecycleRefused
  .ok ({ state with lifecycleMigrationSeen := true },
    some (.lifecycle (lifecycleRow fields 0 .migrated virtualSol)), none)

def normalizeMigration (state : RowState) (row : Row) (fields : LifecycleFields) :
    Except LiveFault RowOutcome := do
  refuseIf (state.lifecycleMigrationSeen = true ∨ row.cell "raw_instruction_index" ≠ .null)
    lifecycleRefused
  let _ ← publicKey (row.cell "migration_user")
  let _ ← publicKey (row.cell "migration_pool")
  let mintAmount ← uint (row.cell "migration_mint_amount_atomic")
  refuseIf (mintAmount ≠ PUMPFUN_MIGRATION_MINT_AMOUNT) lifecycleRefused
  let migrationSol ← uint (row.cell "migration_sol_amount_lamports")
  let migrationFee ← uint (row.cell "pool_migration_fee_lamports")
  refuseIf (migrationFee ≠ PUMPFUN_POOL_MIGRATION_FEE) lifecycleRefused
  let _ ← uint (row.cell "migration_timestamp")
  let realSol ← checkedAdd migrationSol PUMPFUN_POOL_MIGRATION_FEE
  let virtualSol ← checkedAdd realSol PUMPFUN_REAL_SOL_OFFSET
  if ∃ name ∈ TERMINAL_COLUMNS, row.cell name ≠ .null then
    normalizeDerivedMigration state row fields virtualSol
  else normalizeStandaloneMigration state row fields virtualSol

def normalizeLifecycle (coveredRange : BlockRange) (state : RowState) (row : Row) :
    Except LiveFault RowOutcome := do
  let block ← uintUpTo UINT32_MAX (row.cell "block_ordinal")
  let transaction ← transactionIndex (row.cell "transaction_index")
  refuseIf (coveredRange.containsBlock block = false) (.normalization .positionInvalid)
  let _ ← blockTime (row.cell "block_time")
  let signature ← signature (row.cell "signature")
  let mint ← publicKey (row.cell "mint")
  let curve ← publicKey (row.cell "curve_address")
  let mayhem ← flag (row.cell "mayhem_mode")
  refuseIf (mayhem = true) (.normalization .unsupportedProgramMode)
  let mode ← mode (row.cell "token_program") (row.cell "cashback_enabled")
  let candidate ← closedText (row.cell "candidate_kind")
  refuseIf (candidate ≠ "COMPLETION_CANDIDATE" ∧ candidate ≠ "MIGRATION_CANDIDATE") lifecycleRefused
  let state ← state.requireOrder (orderKey block transaction
    (if candidate = "COMPLETION_CANDIDATE" then 0 else 1) signature mint) .lifecycleContractInvalid
  let state := state.startLifecyclePosition block transaction
  let sources ← uint (row.cell "source_row_count")
  refuseIf (sources < 1) lifecycleRefused
  let variants ← uint (row.cell "payload_variant_count")
  refuseIf (variants ≠ 1) lifecycleRefused
  let fields : LifecycleFields := ⟨block, transaction, signature, mint, curve, mode⟩
  if candidate = "COMPLETION_CANDIDATE" then normalizeCompletion state row fields
  else normalizeMigration state row fields

/-! ## Any row -/

def normalizeRow (feeProfile : PumpFeeProfile) (stream : CapabilityStream)
    (coveredRange : BlockRange) (state : RowState) (row : Row) : Except LiveFault RowOutcome :=
  match stream with
  | .blockClock => normalizeBlock state row
  | .tokenLaunch => normalizeLaunch coveredRange state row
  | .pumpCurveTrade => normalizeTrade feeProfile coveredRange state row
  | .pumpCurveLifecycle => normalizeLifecycle coveredRange state row

end Source

end OnchainBacktest
