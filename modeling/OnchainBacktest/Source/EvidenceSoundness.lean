import OnchainBacktest.Source.EvidenceRuns

/-!
# Soundness of source evidence

`SourceEvidence` is what a run of the evidence that ends without a fault has established of the
rows it consumed; `inspect_sourceEvidence` is the theorem.  Nothing in it is about the accumulator:
it speaks of the raw rows, of what they read as, of the history of every mint and of the clock.
-/

set_option autoImplicit false

namespace OnchainBacktest

namespace Source

open Checked EvidenceAccumulator

/-! ## What a run establishes -/

/-- What the rows of a cut amount to. -/
structure SourceEvidence (range : BlockRange) (trace : Trace) : Prop where
  launch_reads : List.Forall₂ (fun row launch => ∃ raw, LaunchReads row launch raw)
    (trace.launchRows.filter Eligible) trace.launches
  trade_reads : List.Forall₂ (fun row trade => ∃ raw, TradeReads row trade raw) trace.tradeRows
    trace.trades
  lifecycle_reads : List.Forall₂ LifecycleRowReads trace.lifecycleRows trace.lifecycle
  launched_once : (trace.launches.map LaunchRow.mint).Nodup
  traded : ∀ trade ∈ trace.trades, ∃ launch ∈ trace.launches, launch.mint = trade.mint
  cycled : ∀ row ∈ trace.lifecycle, ∃ launch ∈ trace.launches, launch.mint = row.mint
  histories : ∀ launch ∈ trace.launches, MintHistory launch (tradesOf launch.mint trace.trades)
    (lifecycleOf launch.mint trace.lifecycle)
  terminal_completed : ∀ trade ∈ trace.trades, Terminal trade → ∃ completion,
    completions (lifecycleOf trade.mint trace.lifecycle) = [completion] ∧
      Completes trade completion
  clocked : ∀ row ∈ trace.launchRows ++ trace.tradeRows ++ trace.lifecycleRows,
    Clocked trace.clock row
  covers : trace.Covers range.fromBlockOrdinal range.toBlockOrdinal
  in_time : (trace.clock.map BlockRow.blockTime).Pairwise (· ≤ ·)

/-! ## Terminal trades -/

/-- A mint has one terminal trade at most. -/
theorem MintHistory.terminal_unique {launch : LaunchRow} {trades : List TradeRow}
    {lifecycle : List LifecycleRow} (h : MintHistory launch trades lifecycle)
    {trade other : TradeRow} (htrade : trade ∈ trades) (hother : other ∈ trades)
    (hterminal : Terminal trade) (hterminal' : Terminal other) : trade = other := by
  have hlast : ∀ found ∈ trades, Terminal found → trades.getLast? = some found := by
    intro found hfound hfinal
    obtain ⟨before, after, hsplit⟩ := List.append_of_mem hfound
    rw [h.terminal_last before found after hsplit hfinal] at hsplit
    rw [hsplit, List.getLast?_concat]
  exact Option.some.inj ((hlast trade htrade hterminal).symm.trans (hlast other hother hterminal'))

theorem finish_eq_ok {evidence : EvidenceAccumulator} (h : evidence.finish = .ok ()) :
    ∀ entry ∈ evidence.launches.entries,
      entry.2.terminal = none ∨ entry.2.completionPosition ≠ none := by
  obtain ⟨-, h⟩ := check_bind_eq_ok.mp h
  obtain ⟨-, h⟩ := check_bind_eq_ok.mp h
  obtain ⟨-, h⟩ := check_bind_eq_ok.mp h
  intro entry hmem
  by_contra hopen
  obtain ⟨hterminal, hnone⟩ := not_or.mp hopen
  exact refuseIf_eq_ok.mp h ⟨entry, hmem, hterminal, not_not.mp hnone⟩

/-- The terminal trade of a mint is completed by the end of a run. -/
theorem Evidenced.terminal_completed {evidence : EvidenceAccumulator} {trace : Trace}
    (h : Evidenced evidence trace) (hfinish : evidence.finish = .ok ()) {trade : TradeRow}
    (htrade : trade ∈ trace.trades) (hterminal : Terminal trade) : ∃ completion,
      completions (lifecycleOf trade.mint trace.lifecycle) = [completion] ∧
        Completes trade completion := by
  obtain ⟨launch, hlaunch, hmint⟩ := h.mints.traded trade htrade
  obtain ⟨state, hget, hrecord⟩ := h.mints.record launch hlaunch
  rw [hmint] at hget hrecord
  have hown : trade ∈ tradesOf trade.mint trace.trades :=
    List.mem_filter.mpr ⟨htrade, decide_eq_true rfl⟩
  have hentry := finish_eq_ok hfinish (trade.mint, state) (Dict.get?_eq_some_iff.mp hget)
  have hcompleted : state.completionPosition ≠ none := by
    refine hentry.resolve_left fun hnone => ?_
    exact hrecord.active hnone trade hown hterminal
  obtain ⟨at_, hat⟩ := Option.ne_none_iff_exists'.mp hcompleted
  obtain ⟨completion, hcompletion, -⟩ := hrecord.completion at_ hat
  obtain ⟨other, hother, hfinal, hcompletes⟩ := hrecord.history.completed completion hcompletion
  obtain rfl := hrecord.history.terminal_unique hown hother hterminal hfinal
  refine ⟨completion, ?_, hcompletes⟩
  obtain ⟨only, honly⟩ := List.length_eq_one_iff.mp
    (hrecord.history.completed_once.antisymm (List.length_pos_of_mem hcompletion))
  rw [honly] at hcompletion ⊢
  rw [List.mem_singleton.mp hcompletion]

/-! ## Soundness -/

section Soundness

variable [OrderedHash] {reader : SourceReader} {request : EvidenceRequest}

/-- **Soundness of source evidence.**  A run over any batches and shards that reaches its end has
consumed rows that amount to `SourceEvidence` of the cut. -/
theorem inspect_sourceEvidence {span : Nat} {hspan : 0 < span} {evidence : Evidence}
    (h : inspect reader request span hspan = .ok evidence) :
    SourceEvidence request.blockRange evidence.2 := by
  obtain ⟨hevidenced, hcovers, hfinish⟩ := inspect_evidenced h
  refine ⟨hevidenced.launch_reads, hevidenced.trade_reads, hevidenced.lifecycle_reads,
    hevidenced.mints.once, hevidenced.mints.traded, hevidenced.mints.cycled, fun launch hmem => ?_,
    fun trade hmem hterminal => hevidenced.terminal_completed hfinish hmem hterminal,
    fun row hmem => ?_, hcovers, hevidenced.clock.in_time⟩
  · obtain ⟨state, -, hrecord⟩ := hevidenced.mints.record launch hmem
    exact hrecord.history
  · rcases List.mem_append.mp hmem with hmem | hmem
    · rcases List.mem_append.mp hmem with hmem | hmem
      · exact hevidenced.launch_clocked row hmem
      · exact hevidenced.trade_clocked row hmem
    · exact hevidenced.lifecycle_clocked row hmem

end Soundness

/-! ## A sample cut -/

/-- A public key or a signature of a width, told by its last character. -/
def sampleKey (width : Nat) (last : Char) : String :=
  String.ofList (List.replicate (width - 1) '1' ++ [last])

def sampleCells (columns : List String) (fields : List (String × Cell)) : List Cell :=
  columns.map fun name => ((fields.find? fun field => field.1 = name).map Prod.snd).getD .null

def sampleBlockCells (block time transactions : Nat) : List Cell :=
  sampleCells BLOCK_RAW_COLUMNS [("block_ordinal", .integer block), ("block_time", .integer time),
    ("block_hash", .text (sampleKey 32 '2')), ("validator", .text (sampleKey 32 '3')),
    ("rewards", .integer 0), ("transaction_count", .integer transactions),
    ("source_row_count", .integer 1), ("payload_variant_count", .integer 1),
    ("is_nonproduced_sentinel", .integer 0)]

def sampleSentinelCells (block : Nat) : List Cell :=
  sampleCells BLOCK_RAW_COLUMNS [("block_ordinal", .integer block), ("block_time", .integer 0),
    ("block_hash", .text SENTINEL_BLOCK_HASH), ("validator", .text SENTINEL_VALIDATOR),
    ("rewards", .integer 0), ("transaction_count", .integer 0), ("source_row_count", .integer 1),
    ("payload_variant_count", .integer 1), ("is_nonproduced_sentinel", .integer 1)]

/-- Where a row of a mint stands, at second 1000. -/
def samplePlaceFields (block transaction : Nat) (mint : Char) : List (String × Cell) :=
  [("block_ordinal", .integer block), ("block_time", .integer 1000),
    ("transaction_index", .integer transaction), ("signature", .text (sampleKey 64 '2')),
    ("mint", .text (sampleKey 32 mint)), ("curve_address", .text (sampleKey 32 (mint.toUpper))),
    ("token_program", .text PUMPFUN_LEGACY_TOKEN_PROGRAM), ("cashback_enabled", .integer 0),
    ("source_row_count", .integer 1), ("payload_variant_count", .integer 1)]

def sampleLaunchCells (block transaction raw : Nat) (mint : Char) (mayhem : Nat) : List Cell :=
  sampleCells LAUNCH_RAW_COLUMNS (samplePlaceFields block transaction mint ++
    [("raw_instruction_index", .integer raw), ("creator", .text (sampleKey 32 '4')),
      ("creation_user", .text (sampleKey 32 '5')),
      ("quote_asset", .text PUMPFUN_LAUNCH_SOL_SOURCE_ASSET), ("mayhem_mode", .integer mayhem),
      ("direct_pump_invocation", .integer 1), ("pump_program_index", .integer 0),
      ("bundle_size", .integer 0), ("bundled_buys", .integer 0), ("bundled_buys_count", .integer 0),
      ("dev_balance", .integer 0)])

/-- The launch a trade and a lifecycle row of the sample tell of. -/
def sampleCreationFields (block transaction raw : Nat) : List (String × Cell) :=
  [("creation_block_ordinal", .integer block), ("creation_transaction_index", .integer transaction),
    ("creation_raw_instruction_index", .integer raw), ("creator", .text (sampleKey 32 '4')),
    ("creation_user", .text (sampleKey 32 '5')), ("mayhem_mode", .integer 0)]

/-- The purchase of every token of the curve, in the transaction of the launch. -/
def sampleTradeCells (block transaction raw : Nat) (mint : Char) (creation : Nat) : List Cell :=
  sampleCells TRADE_RAW_COLUMNS (samplePlaceFields block transaction mint ++
    sampleCreationFields block transaction creation ++
    [("raw_instruction_index", .integer raw), ("quote_asset", .text PUMPFUN_TRADE_SOL_SOURCE_ASSET),
      ("direction", .text "buy"), ("instruction_type", .text "buy"),
      ("base_amount_atomic", .integer PUMPFUN_INITIAL_REAL_TOKEN_RESERVES),
      ("quote_amount_atomic", .integer 85000000000),
      ("virtual_token_reserves_after_atomic", .integer PUMPFUN_REAL_TOKEN_OFFSET),
      ("virtual_sol_reserves_after_lamports", .integer 115000000000), ("failed", .integer 0)])

def sampleTerminalFields (raw : Nat) : List (String × Cell) :=
  [("terminal_raw_instruction_index", .integer raw),
    ("terminal_virtual_token_reserves_after_atomic", .integer PUMPFUN_REAL_TOKEN_OFFSET),
    ("terminal_virtual_sol_reserves_after_lamports", .integer 115000000000),
    ("terminal_candidate_count", .integer 1), ("terminal_source_row_count", .integer 1),
    ("terminal_payload_variant_count", .integer 1)]

def sampleCompletionCells (block transaction raw : Nat) (mint : Char) (creation : Nat) : List Cell :=
  sampleCells LIFECYCLE_RAW_COLUMNS (samplePlaceFields block transaction mint ++
    sampleCreationFields block transaction creation ++ sampleTerminalFields raw ++
    [("candidate_kind", .text "COMPLETION_CANDIDATE"), ("raw_instruction_index", .integer raw)])

def sampleMigrationCells (block transaction raw : Nat) (mint : Char) (creation : Nat) : List Cell :=
  sampleCells LIFECYCLE_RAW_COLUMNS (samplePlaceFields block transaction mint ++
    sampleCreationFields block transaction creation ++ sampleTerminalFields raw ++
    [("candidate_kind", .text "MIGRATION_CANDIDATE"), ("migration_user", .text (sampleKey 32 '6')),
      ("migration_pool", .text (sampleKey 32 '7')), ("migration_timestamp", .integer 1000),
      ("migration_mint_amount_atomic", .integer PUMPFUN_MIGRATION_MINT_AMOUNT),
      ("migration_sol_amount_lamports", .integer 84984999999),
      ("pool_migration_fee_lamports", .integer PUMPFUN_POOL_MIGRATION_FEE)])

theorem samplePumpFees_until : 2000 ≤ MAX_U64 := by decide

theorem samplePumpFees_interval : 0 < 2000 := by decide

theorem samplePumpFees_fees : 95 + 30 < BASIS_POINTS_DENOMINATOR := by decide

def samplePumpFees : PumpFeeProfile :=
  ⟨PUMP_STATIC_PROGRAM_CONTRACT_V1, PUMP_BUY_EXACT_GROSS_SOL_FORMULA_V1,
    PUMP_SELL_EXACT_TOKEN_IN_FORMULA_V1, 0, 2000, 95, 30, samplePumpFees_until,
    samplePumpFees_interval, samplePumpFees_fees⟩

def sampleNormalizer : PumpfunLiveNormalizer := ⟨samplePumpFees, rfl, rfl, rfl⟩

/-- Hashes that tell nothing apart. -/
@[reducible] def sampleOrderedHash : OrderedHash :=
  ⟨fun _ _ => ⟨0, false⟩, fun _ _ => ⟨0, false⟩, fun _ _ => ⟨0, false⟩, fun _ _ => ⟨0, false⟩⟩

theorem sampleCut_to_le : 2 ≤ UINT32_SIZE := by decide

theorem sampleCut_nonempty : 0 < 2 := by decide

def sampleCut : BlockRange :=
  ⟨⟨"solana-mainnet"⟩, BLOCK32_TRANSACTION32_POSITION_SCHEMA_ID, 0, 2, rfl, sampleCut_nonempty,
    sampleCut_to_le⟩

def sampleCutRequest : EvidenceRequest := ⟨sampleCut, sampleCut, rfl, le_rfl, le_rfl⟩

/-- A source that answers each query with one batch. -/
def sampleReader (rows : CapabilityStream → List (List Cell)) : SourceReader where
  normalizer := sampleNormalizer
  capabilityId := fun _ => "pump"
  fingerprint := fun _ _ => ⟨0, false⟩
  batches := fun stream range =>
    [⟨"pump", range, RAW_COLUMNS stream, rows stream, (rows stream).length, some ⟨0, false⟩⟩]

/-- A mint that is launched, bought out, completed and migrated in one transaction. -/
def sampleRows : CapabilityStream → List (List Cell)
  | .blockClock => [sampleBlockCells 0 1000 1, sampleSentinelCells 1]
  | .tokenLaunch => [sampleLaunchCells 0 0 0 'a' 0]
  | .pumpCurveTrade => [sampleTradeCells 0 0 1 'a' 0]
  | .pumpCurveLifecycle => [sampleCompletionCells 0 0 1 'a' 0, sampleMigrationCells 0 0 1 'a' 0]

theorem sampleSpan_pos : 0 < 2 := by decide

/-- The run over a source that answers with these rows. -/
def sampleInspect (rows : CapabilityStream → List (List Cell)) : Except LiveFault Evidence :=
  @inspect sampleOrderedHash (sampleReader rows) sampleCutRequest 2 sampleSpan_pos

theorem toOption_eq_some {ε α : Type} {x : Except ε α} {a : α} (h : x.toOption = some a) :
    x = .ok a := by
  cases x with
  | error e => cases h
  | ok b => exact congrArg Except.ok (Option.some.inj h)

/-- How many blocks, sentinels, launches, trades and lifecycle rows a run has consumed. -/
def Trace.counts (trace : Trace) : List Nat :=
  [trace.clock.length, trace.sentinels.length, trace.launches.length, trace.trades.length,
    trace.lifecycle.length]

theorem sampleInspect_counts : (sampleInspect sampleRows).toOption.map (fun e => e.2.counts) =
    some [1, 1, 1, 1, 2] := by
  decide +kernel

theorem sampleInspect_sourceEvidence : ∃ evidence, sampleInspect sampleRows = .ok evidence ∧
    evidence.2.counts = [1, 1, 1, 1, 2] ∧ SourceEvidence sampleCut evidence.2 := by
  obtain ⟨evidence, hevidence, hcounts⟩ := Option.map_eq_some_iff.mp sampleInspect_counts
  have hrun := toOption_eq_some hevidence
  exact ⟨evidence, hrun, hcounts, @inspect_sourceEvidence sampleOrderedHash _ _ _ _ _ hrun⟩

end Source

end OnchainBacktest
