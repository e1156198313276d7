import OnchainBacktest.Lib.Bags
import OnchainBacktest.Source.RawRows
import Mathlib.Data.List.Lex
import Mathlib.Data.Prod.Lex
import Mathlib.Data.String.Basic

/-!
# The fixed queries of the Pump indexer profile

What the SQL of the profile and of its copy-buy variant selects, from the contents of the four
physical tables.  A projection is a list of named expressions, as it is in the source; a grouping
takes `min` of every expression that is not one of its keys, and adds the number of rows and of
distinct rows of the group.

The creation table is what its `FINAL` modifier reads.  A column that no condition looks at is a
value of any type.
-/

set_option autoImplicit false

namespace OnchainBacktest

namespace Queries

open Bags Source

/-! ## Values -/

inductive SqlValue
  | null
  | integer (value : Int)
  | text (value : String)
  deriving DecidableEq, Repr

namespace SqlValue

def rank : SqlValue → ℕ ×ₗ (ℤ ×ₗ String)
  | null => toLex (0, toLex (0, ""))
  | integer value => toLex (1, toLex (value, ""))
  | text value => toLex (2, toLex (0, value))

theorem rank_injective : Function.Injective rank := by
  intro a b h
  have h1 := congrArg (fun v => (ofLex v).1) h
  have h2 := congrArg (fun v => (ofLex (ofLex v).2).1) h
  have h3 := congrArg (fun v => (ofLex (ofLex v).2).2) h
  cases a <;> cases b <;> simp_all [rank]

instance instLinearOrderSqlValue : LinearOrder SqlValue := LinearOrder.lift' rank rank_injective

theorem integer_lt {a b : Int} (h : a < b) : integer a < integer b := by
  show rank (integer a) < rank (integer b)
  exact Prod.Lex.toLex_lt_toLex.mpr (.inr ⟨rfl, Prod.Lex.toLex_lt_toLex.mpr (.inl h)⟩)

/-- The number a counter column holds. -/
def toInt : SqlValue → Int
  | integer value => value
  | _ => 0

end SqlValue

/-- `toStringCutToZero`. -/
def toStringCutToZero (text : String) : String :=
  String.ofList (text.toList.takeWhile fun c => c ≠ Char.ofNat 0)

/-- A row of an answer, by the names of its columns. -/
abbrev ResultRow : Type := List (String × SqlValue)

def ResultRow.cell (row : ResultRow) (name : String) : SqlValue := (row.lookup name).getD .null

@[simp] theorem ResultRow.cell_cons_self (name : String) (value : SqlValue) (rest : ResultRow) :
    ResultRow.cell ((name, value) :: rest) name = value := by
  simp [ResultRow.cell]

@[simp] theorem ResultRow.cell_cons_of_ne {name other : String} (h : name ≠ other)
    (value : SqlValue) (rest : ResultRow) :
    ResultRow.cell ((other, value) :: rest) name = ResultRow.cell rest name := by
  rw [ResultRow.cell, ResultRow.cell, List.lookup_cons, beq_false_of_ne h]

/-- `min` over the rows of a group. -/
def least (values : List SqlValue) : SqlValue := values.min?.getD .null

/-! ## Projections -/

/-- The named expressions of a query, over its source rows. -/
abbrev Projection (α : Type) : Type := List (String × (α → SqlValue))

section Projections

variable {α β : Type}

def Projection.of (values : Projection α) (f : β → α) : Projection β :=
  values.map fun value => (value.1, value.2 ∘ f)

def project (values : Projection α) (row : α) : ResultRow :=
  values.map fun value => (value.1, value.2 row)

/-- `uniqExact(tuple(...))`. -/
def uniqExact (values : Projection α) (group : List α) : Nat :=
  (group.map (project values)).dedup.length

def aggregatedProjection (values : Projection α) (groupedNames : List String) (group : List α) :
    ResultRow :=
  values.map fun value => (value.1,
    if value.1 ∈ groupedNames then (group.head?.map value.2).getD .null
    else least (group.map value.2))

/-- An aggregated projection with the multiplicity of its group. -/
def countedProjection (values : Projection α) (groupedNames : List String) (group : List α) :
    ResultRow :=
  aggregatedProjection values groupedNames group ++
    [("source_row_count", .integer group.length),
      ("payload_variant_count", .integer (uniqExact values group))]

end Projections

/-! ## The physical tables -/

/-- A row of `solana_blocks`. -/
structure BlockRow where
  slot : Nat
  blockTime : Nat
  hash : String
  validator : String
  rewards : Nat
  amountOfTransactions : Nat

/-- A row of `pumpfun_token_creation`. -/
structure CreationRow where
  slot : Nat
  blockTime : Nat
  txIdx : Nat
  creationIxIndex : Int
  signature : String
  mint : String
  creator : String
  feePayer : String
  curveAddress : String
  quoteCoin : String
  mayhemMode : Nat
  tokenProgram : String
  isCashbackEnabled : SqlValue
  directPfInvocation : SqlValue
  pfProgramIndex : SqlValue
  parentProgram : SqlValue
  version : SqlValue
  bundleSize : SqlValue
  bundleStructure : SqlValue
  bundledBuys : SqlValue
  bundledBuysCount : SqlValue
  devBalance : SqlValue

/-- A row of `pumpfun_v2_swaps`. -/
structure SwapRow where
  slot : Nat
  blockTime : Nat
  txIdx : Nat
  ixIdx : Int
  signature : String
  baseCoin : String
  quoteCoin : String
  direction : String
  instructionType : String
  baseCoinAmount : SqlValue
  quoteCoinAmount : SqlValue
  virtualTokenBalanceAfter : Nat
  virtualSolBalanceAfter : SqlValue
  failed : Nat
  signingWallet : String
  feePayer : SqlValue
  parentProgram : SqlValue
  providedGasFee : SqlValue
  providedGasLimit : SqlValue
  fee : SqlValue
  consumedGas : SqlValue
  pfProgramAccountIndex : SqlValue
  cuPriceIxIndex : SqlValue
  cuLimitIxIndex : SqlValue
  tipIndex : SqlValue
  numSignatures : SqlValue
  transactionVersion : SqlValue
  blockhashPrefix : SqlValue

/-- A row of `pfamm_migrations`. -/
structure MigrationRow where
  slot : Nat
  blockTime : Nat
  txIdx : Nat
  signature : String
  mint : String
  bondingCurve : String
  user : SqlValue
  mintAmount : SqlValue
  solAmount : SqlValue
  poolMigrationFee : SqlValue
  pool : String
  timestamp : SqlValue
  parentProgram : SqlValue

/-- The contents of the four tables. -/
structure PhysicalTables where
  blocks : List BlockRow
  creations : List CreationRow
  swaps : List SwapRow
  migrations : List MigrationRow

/-! ## The profile -/

/-- The payload of a known slot that produced no block. -/
structure PumpfunIndexerV1Sentinel where
  blockTimeEpochSeconds : Nat
  blockHash : String
  validator : String
  rewards : Nat
  transactionCount : Nat

structure PumpfunIndexerV1Profile where
  sentinel : PumpfunIndexerV1Sentinel
  nativeSolQuote : String
  wrappedSolQuote : String
  terminalVirtualTokenReserves : Nat

/-- The wallets and ranges of a copy source. -/
structure CopySourceSelection where
  signingWallets : List String
  decisionRange : Slots
  historyRange : Slots

/-- A query: what it selects in a range of blocks, and the columns it is ordered by. -/
structure ProfileQuery where
  rows : Slots → List ResultRow
  orderBy : List String

def ProfileQuery.order (query : ProfileQuery) (row : ResultRow) : List SqlValue :=
  query.orderBy.map row.cell

namespace PumpfunIndexerV1Profile

variable (profile : PumpfunIndexerV1Profile) (tables : PhysicalTables)

/-! ## The block clock -/

def blockProjection : Projection BlockRow :=
  [("block_ordinal", fun b => .integer b.slot),
    ("block_time", fun b => .integer b.blockTime),
    ("block_hash", fun b => .text b.hash),
    ("validator", fun b => .text b.validator),
    ("rewards", fun b => .integer b.rewards),
    ("transaction_count", fun b => .integer b.amountOfTransactions)]

/-- The columns `payload_variant_count` is counted over. -/
def blockVariant : Projection BlockRow := blockProjection.tail

def exactSentinel (row : ResultRow) : Bool :=
  row.cell "block_time" = .integer profile.sentinel.blockTimeEpochSeconds ∧
    row.cell "block_hash" = .text profile.sentinel.blockHash ∧
    row.cell "validator" = .text profile.sentinel.validator ∧
    row.cell "rewards" = .integer profile.sentinel.rewards ∧
    row.cell "transaction_count" = .integer profile.sentinel.transactionCount

def blockClockRow (group : List BlockRow) : ResultRow :=
  let row := aggregatedProjection blockProjection ["block_ordinal"] group
  let variants := uniqExact blockVariant group
  row ++ [("source_row_count", .integer group.length),
    ("payload_variant_count", .integer variants),
    ("is_nonproduced_sentinel",
      .integer (if variants = 1 ∧ profile.exactSentinel row = true then 1 else 0))]

def blockClock : ProfileQuery where
  rows range := (groups BlockRow.slot (selectSlots BlockRow.slot range tables.blocks)).map
    fun group => profile.blockClockRow group.2
  orderBy := ["block_ordinal"]

/-! ## Launches -/

def launchProjection : Projection CreationRow :=
  [("block_ordinal", fun l => .integer l.slot),
    ("block_time", fun l => .integer l.blockTime),
    ("transaction_index", fun l => .integer l.txIdx),
    ("raw_instruction_index", fun l => .integer l.creationIxIndex),
    ("signature", fun l => .text l.signature),
    ("mint", fun l => .text (toStringCutToZero l.mint)),
    ("creator", fun l => .text (toStringCutToZero l.creator)),
    ("creation_user", fun l => .text (toStringCutToZero l.feePayer)),
    ("curve_address", fun l => .text (toStringCutToZero l.curveAddress)),
    ("quote_asset", fun l => .text l.quoteCoin),
    ("mayhem_mode", fun l => .integer l.mayhemMode),
    ("token_program", fun l => .text (toStringCutToZero l.tokenProgram)),
    ("cashback_enabled", CreationRow.isCashbackEnabled),
    ("direct_pump_invocation", CreationRow.directPfInvocation),
    ("pump_program_index", CreationRow.pfProgramIndex),
    ("parent_program", CreationRow.parentProgram),
    ("source_version", CreationRow.version),
    ("bundle_size", CreationRow.bundleSize),
    ("bundle_structure", CreationRow.bundleStructure),
    ("bundled_buys", CreationRow.bundledBuys),
    ("bundled_buys_count", CreationRow.bundledBuysCount),
    ("dev_balance", CreationRow.devBalance)]

/-- The launches of a range, of the mints that pass. -/
def tokenLaunch (mints : String → Bool) : ProfileQuery where
  rows range := ((selectSlots CreationRow.slot range tables.creations).filter fun l =>
      l.quoteCoin = profile.nativeSolQuote && mints (toStringCutToZero l.mint)).map
    (project launchProjection)
  orderBy := ["block_ordinal", "transaction_index", "raw_instruction_index", "signature"]

/-- The launches of the decision range that trades are joined to. -/
def eligibleLaunch (decisionRange : Slots) (mints : String → Bool) : List CreationRow :=
  (selectSlots CreationRow.slot decisionRange tables.creations).filter fun l =>
    l.quoteCoin = profile.nativeSolQuote && l.mayhemMode = 0 && mints (toStringCutToZero l.mint)

/-! ## Trades -/

/-- The expressions over a swap. -/
def swapProjection : Projection SwapRow :=
  [("block_ordinal", fun s => .integer s.slot),
    ("block_time", fun s => .integer s.blockTime),
    ("transaction_index", fun s => .integer s.txIdx),
    ("raw_instruction_index", fun s => .integer s.ixIdx),
    ("signature", fun s => .text s.signature),
    ("mint", fun s => .text s.baseCoin),
    ("quote_asset", fun s => .text s.quoteCoin),
    ("direction", fun s => .text s.direction),
    ("instruction_type", fun s => .text s.instructionType),
    ("base_amount_atomic", SwapRow.baseCoinAmount),
    ("quote_amount_atomic", SwapRow.quoteCoinAmount),
    ("virtual_token_reserves_after_atomic", fun s => .integer s.virtualTokenBalanceAfter),
    ("virtual_sol_reserves_after_lamports", SwapRow.virtualSolBalanceAfter),
    ("failed", fun s => .integer s.failed),
    ("signing_wallet", fun s => .text s.signingWallet),
    ("fee_payer", SwapRow.feePayer),
    ("parent_program", SwapRow.parentProgram),
    ("provided_gas_fee_lamports", SwapRow.providedGasFee),
    ("provided_gas_limit", SwapRow.providedGasLimit),
    ("network_fee_lamports", SwapRow.fee),
    ("consumed_gas", SwapRow.consumedGas),
    ("pump_program_account_index", SwapRow.pfProgramAccountIndex),
    ("cu_price_instruction_index", SwapRow.cuPriceIxIndex),
    ("cu_limit_instruction_index", SwapRow.cuLimitIxIndex),
    ("tip_instruction_index", SwapRow.tipIndex),
    ("num_signatures", SwapRow.numSignatures),
    ("transaction_version", SwapRow.transactionVersion),
    ("blockhash_prefix", SwapRow.blockhashPrefix)]

/-- The expressions over the launch a swap is joined to. -/
def creationProjection : Projection CreationRow :=
  [("creation_block_ordinal", fun l => .integer l.slot),
    ("creation_transaction_index", fun l => .integer l.txIdx),
    ("creation_raw_instruction_index", fun l => .integer l.creationIxIndex),
    ("creator", fun l => .text (toStringCutToZero l.creator)),
    ("creation_user", fun l => .text (toStringCutToZero l.feePayer)),
    ("curve_address", fun l => .text (toStringCutToZero l.curveAddress)),
    ("token_program", fun l => .text (toStringCutToZero l.tokenProgram)),
    ("cashback_enabled", CreationRow.isCashbackEnabled),
    ("mayhem_mode", fun l => .integer l.mayhemMode)]

def tradeSourceProjection : Projection (SwapRow × CreationRow) :=
  swapProjection.of Prod.fst ++ creationProjection.of Prod.snd

/-- `GROUP BY s.signature, s.ix_idx`. -/
def occurrence (swap : SwapRow) : String × Int := (swap.signature, swap.ixIdx)

def ofMint (swap : SwapRow) (launch : CreationRow) : Bool :=
  swap.baseCoin = toStringCutToZero launch.mint

/-- The swaps that count, each with its launches. -/
def joinedSwaps (swaps : List SwapRow) (launches : List CreationRow) (more : SwapRow → Bool) :
    List (SwapRow × CreationRow) :=
  (join ofMint swaps launches).filter fun pair =>
    pair.1.failed = 0 && pair.1.quoteCoin = profile.wrappedSolQuote && more pair.1

/-- The rows of joined swaps by occurrence. -/
def tradeRows (joined : List (SwapRow × CreationRow)) : List ResultRow :=
  (groups (fun pair => occurrence pair.1) joined).map fun group =>
    countedProjection tradeSourceProjection ["raw_instruction_index", "signature"] group.2

def joinedSlot (pair : SwapRow × CreationRow) : Nat := pair.1.slot

def curveTrade (launches : List CreationRow) : ProfileQuery where
  rows range := tradeRows (profile.joinedSwaps (selectSlots SwapRow.slot range tables.swaps)
    launches fun _ => true)
  orderBy := ["block_ordinal", "transaction_index", "raw_instruction_index", "signature"]

/-! ## Lifecycle candidates -/

/-- The trades that reach the terminal reserves. -/
def terminal (swap : SwapRow) : Bool :=
  swap.virtualTokenBalanceAfter = profile.terminalVirtualTokenReserves

/-- Among them those of the migration instruction. -/
def migrationTerminal (swap : SwapRow) : Bool :=
  profile.terminal swap && swap.direction = "buy" && swap.instructionType = "buy_v2"

def terminalTrade (launches : List CreationRow) (which : SwapRow → Bool) (range : Slots) :
    List ResultRow :=
  tradeRows (profile.joinedSwaps (selectSlots SwapRow.slot range tables.swaps) launches which)

/-- The columns of `terminal_by_transaction` that are counted as a variant. -/
def transactionVariant : Projection ResultRow :=
  [("block_ordinal", fun u => u.cell "block_ordinal"),
    ("transaction_index", fun u => u.cell "transaction_index"),
    ("raw_instruction_index", fun u => u.cell "raw_instruction_index"),
    ("virtual_token_reserves_after_atomic",
      fun u => u.cell "virtual_token_reserves_after_atomic"),
    ("virtual_sol_reserves_after_lamports",
      fun u => u.cell "virtual_sol_reserves_after_lamports")]

/-- One row of `terminal_by_transaction`, from the terminal trades of a transaction and a mint. -/
def transactionRow (group : List ResultRow) : ResultRow :=
  let smallest (name : String) := least (group.map fun u => u.cell name)
  let counts (name : String) := group.map fun u => SqlValue.toInt (u.cell name)
  let first (name : String) := (group.head?.map fun u => u.cell name).getD .null
  [("block_ordinal", smallest "block_ordinal"),
    ("transaction_index", smallest "transaction_index"),
    ("signature", first "signature"),
    ("mint", first "mint"),
    ("raw_instruction_index", smallest "raw_instruction_index"),
    ("virtual_token_reserves_after_atomic", smallest "virtual_token_reserves_after_atomic"),
    ("virtual_sol_reserves_after_lamports", smallest "virtual_sol_reserves_after_lamports"),
    ("terminal_candidate_count", .integer group.length),
    ("source_row_count", .integer (counts "source_row_count").sum),
    ("payload_variant_count",
      .integer (max ((counts "payload_variant_count").max?.getD 0)
        (uniqExact transactionVariant group)))]

def transactionKey (u : ResultRow) : SqlValue × SqlValue := (u.cell "signature", u.cell "mint")

def terminalByTransaction (terminals : List ResultRow) : List ResultRow :=
  (groups transactionKey terminals).map fun group => transactionRow group.2

def migrationProjection : Projection MigrationRow :=
  [("block_ordinal", fun m => .integer m.slot),
    ("block_time", fun m => .integer m.blockTime),
    ("transaction_index", fun m => .integer m.txIdx),
    ("signature", fun m => .text m.signature),
    ("mint", fun m => .text m.mint),
    ("curve_address", fun m => .text m.bondingCurve),
    ("migration_user", MigrationRow.user),
    ("migration_mint_amount_atomic", MigrationRow.mintAmount),
    ("migration_sol_amount_lamports", MigrationRow.solAmount),
    ("pool_migration_fee_lamports", MigrationRow.poolMigrationFee),
    ("migration_pool", fun m => .text m.pool),
    ("migration_timestamp", MigrationRow.timestamp),
    ("migration_parent_program", MigrationRow.parentProgram)]

/-- `GROUP BY m.signature, m.mint, m.bonding_curve, m.pool`. -/
def migrationKey (m : MigrationRow) : String × String × String × String :=
  (m.signature, m.mint, m.bondingCurve, m.pool)

def migrationRows (migrations : List MigrationRow) : List ResultRow :=
  (groups migrationKey migrations).map fun group =>
    countedProjection migrationProjection ["signature", "mint", "curve_address", "migration_pool"]
      group.2

/-- A completion candidate of a terminal trade. -/
def completionCandidate (t : ResultRow) : ResultRow :=
  [("candidate_kind", .text "COMPLETION_CANDIDATE"),
    ("block_ordinal", t.cell "block_ordinal"),
    ("block_time", t.cell "block_time"),
    ("transaction_index", t.cell "transaction_index"),
    ("raw_instruction_index", t.cell "raw_instruction_index"),
    ("signature", t.cell "signature"),
    ("mint", t.cell "mint"),
    ("curve_address", t.cell "curve_address"),
    ("token_program", t.cell "token_program"),
    ("cashback_enabled", t.cell "cashback_enabled"),
    ("mayhem_mode", t.cell "mayhem_mode"),
    ("creation_block_ordinal", t.cell "creation_block_ordinal"),
    ("creation_transaction_index", t.cell "creation_transaction_index"),
    ("creation_raw_instruction_index", t.cell "creation_raw_instruction_index"),
    ("terminal_raw_instruction_index", t.cell "raw_instruction_index"),
    ("terminal_virtual_token_reserves_after_atomic",
      t.cell "virtual_token_reserves_after_atomic"),
    ("terminal_virtual_sol_reserves_after_lamports",
      t.cell "virtual_sol_reserves_after_lamports"),
    ("terminal_candidate_count", .integer 1),
    ("terminal_source_row_count", t.cell "source_row_count"),
    ("terminal_payload_variant_count", t.cell "payload_variant_count"),
    ("migration_user", .null),
    ("migration_mint_amount_atomic", .null),
    ("migration_sol_amount_lamports", .null),
    ("pool_migration_fee_lamports", .null),
    ("migration_pool", .null),
    ("migration_timestamp", .null),
    ("migration_parent_program", .null),
    ("source_row_count", t.cell "source_row_count"),
    ("payload_variant_count", t.cell "payload_variant_count")]

/-- The right side of a left join that found no row: the defaults of its columns. -/
def noTerminal : ResultRow :=
  [("terminal_candidate_count", .integer 0), ("source_row_count", .integer 0),
    ("payload_variant_count", .integer 0)]

/-- A migration candidate: a migration, its launch and the terminal trades of its transaction. -/
def migrationCandidate (m : ResultRow) (l : CreationRow) (t : ResultRow) : ResultRow :=
  let terminalCell (name : String) :=
    if t.cell "source_row_count" = .integer 0 then .null else t.cell name
  [("candidate_kind", .text "MIGRATION_CANDIDATE"),
    ("block_ordinal", m.cell "block_ordinal"),
    ("block_time", m.cell "block_time"),
    ("transaction_index", m.cell "transaction_index"),
    ("raw_instruction_index", .null),
    ("signature", m.cell "signature"),
    ("mint", m.cell "mint"),
    ("curve_address", m.cell "curve_address"),
    ("token_program", .text (toStringCutToZero l.tokenProgram)),
    ("cashback_enabled", l.isCashbackEnabled),
    ("mayhem_mode", .integer l.mayhemMode),
    ("creation_block_ordinal", .integer l.slot),
    ("creation_transaction_index", .integer l.txIdx),
    ("creation_raw_instruction_index", .integer l.creationIxIndex),
    ("terminal_raw_instruction_index", terminalCell "raw_instruction_index"),
    ("terminal_virtual_token_reserves_after_atomic",
      terminalCell "virtual_token_reserves_after_atomic"),
    ("terminal_virtual_sol_reserves_after_lamports",
      terminalCell "virtual_sol_reserves_after_lamports"),
    ("terminal_candidate_count", t.cell "terminal_candidate_count"),
    ("terminal_source_row_count", t.cell "source_row_count"),
    ("terminal_payload_variant_count", t.cell "payload_variant_count"),
    ("migration_user", m.cell "migration_user"),
    ("migration_mint_amount_atomic", m.cell "migration_mint_amount_atomic"),
    ("migration_sol_amount_lamports", m.cell "migration_sol_amount_lamports"),
    ("pool_migration_fee_lamports", m.cell "pool_migration_fee_lamports"),
    ("migration_pool", m.cell "migration_pool"),
    ("migration_timestamp", m.cell "migration_timestamp"),
    ("migration_parent_program", m.cell "migration_parent_program"),
    ("source_row_count", m.cell "source_row_count"),
    ("payload_variant_count", m.cell "payload_variant_count")]

/-- The condition of the left join. -/
def sameTransaction (m t : ResultRow) : Bool :=
  m.cell "signature" = t.cell "signature" && m.cell "mint" = t.cell "mint" &&
    m.cell "block_ordinal" = t.cell "block_ordinal" &&
    m.cell "transaction_index" = t.cell "transaction_index"

/-- The terminal trades a migration is left joined to. -/
def terminalsOf (m : ResultRow) (byTransaction : List ResultRow) : List ResultRow :=
  match byTransaction.filter (sameTransaction m) with
  | [] => [noTerminal]
  | found => found

def migrationCandidates (migrations : List ResultRow) (launches : List CreationRow)
    (byTransaction : List ResultRow) : List ResultRow :=
  (join (fun m l => m.cell "mint" = .text (toStringCutToZero l.mint)) migrations launches).flatMap
    fun pair => (terminalsOf pair.1 byTransaction).map (migrationCandidate pair.1 pair.2)

def curveLifecycle (launches : List CreationRow) : ProfileQuery where
  rows range :=
    (profile.terminalTrade tables launches profile.terminal range).map completionCandidate ++
      migrationCandidates (migrationRows (selectSlots MigrationRow.slot range tables.migrations))
        launches
        (terminalByTransaction
          (profile.terminalTrade tables launches profile.migrationTerminal range))
  orderBy := ["block_ordinal", "transaction_index", "candidate_kind", "signature"]

end PumpfunIndexerV1Profile

/-! ## The copy-buy queries -/

namespace CopySourceSelection

variable (selection : CopySourceSelection) (profile : PumpfunIndexerV1Profile)
  (tables : PhysicalTables)

/-- A successful SOL buy that a selected wallet has signed. -/
def candidateBuy (swap : SwapRow) : Bool :=
  swap.failed = 0 && swap.direction = "buy" && swap.quoteCoin = profile.wrappedSolQuote &&
    selection.signingWallets.contains swap.signingWallet

/-- Every candidate occurrence, before any join. -/
def candidates : ProfileQuery where
  rows range := (groups PumpfunIndexerV1Profile.occurrence
      ((selectSlots SwapRow.slot range tables.swaps).filter (selection.candidateBuy profile))).map
    fun group => countedProjection PumpfunIndexerV1Profile.swapProjection
      ["signature", "raw_instruction_index"] group.2
  orderBy := ["block_ordinal", "transaction_index", "raw_instruction_index", "signature"]

/-- The mints the selected wallets have bought in the decision range. -/
def candidateMints : List String :=
  (((selectSlots SwapRow.slot selection.decisionRange tables.swaps).filter
    (selection.candidateBuy profile)).map SwapRow.baseCoin).dedup

/-- Membership in the candidate mints. -/
def restrictMints (mint : String) : Bool :=
  (selection.candidateMints profile tables).contains mint

end CopySourceSelection

/-! ## The queries of a source -/

/-- What a source selects its launches by: a decision range, or a copy selection. -/
inductive LaunchScope
  | decisions (range : Slots)
  | copied (selection : CopySourceSelection)

namespace LaunchScope

variable (scope : LaunchScope) (profile : PumpfunIndexerV1Profile) (tables : PhysicalTables)

def mints : LaunchScope → String → Bool
  | decisions _ => fun _ => true
  | copied selection => selection.restrictMints profile tables

/-- The range the eligible launches are read from. -/
def creationRange : LaunchScope → Slots
  | decisions range => range
  | copied selection => selection.historyRange

def eligible : List CreationRow :=
  profile.eligibleLaunch tables scope.creationRange (scope.mints profile tables)

end LaunchScope

/-- `build_query` of the profile and of its copy variant. -/
def buildQuery (profile : PumpfunIndexerV1Profile) (tables : PhysicalTables) (scope : LaunchScope) :
    CapabilityStream → ProfileQuery
  | .blockClock => profile.blockClock tables
  | .tokenLaunch => profile.tokenLaunch tables (scope.mints profile tables)
  | .pumpCurveTrade => profile.curveTrade tables (scope.eligible profile tables)
  | .pumpCurveLifecycle => profile.curveLifecycle tables (scope.eligible profile tables)

end Queries

end OnchainBacktest
