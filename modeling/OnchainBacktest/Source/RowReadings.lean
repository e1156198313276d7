import OnchainBacktest.Source.NormalizerSession

/-!
# What a normalized row says of its raw row

The inversion of the row normalizer, once for each stream: what the cells of an accepted row read
as, in the terms of its normalized row, what the session remembers of it and what the sink is told.
Everything about a run of the normalizer is derived from these.

`RowState.rowsFrom` is the loop over rows with nothing but the row state, and
`Session.consumeRows_split` takes a batch apart into it and the loop of the sink.
-/

set_option autoImplicit false

namespace OnchainBacktest

namespace Source

open Checked

/-! ## Order keys and lifecycle positions -/

namespace RowState

variable {state state' : RowState}

theorem requireOrder_eq_ok {key : OrderKey} {code : PumpfunLiveNormalizationErrorCode}
    (h : state.requireOrder key code = .ok state') :
    (∀ last ∈ state.lastOrderKey, last < key) ∧ state' = { state with lastOrderKey := some key } := by
  obtain ⟨hnew, h⟩ := check_bind_eq_ok.mp h
  refine ⟨fun last hlast => not_le.mp fun hle => ?_, (Except.ok.inj h).symm⟩
  exact refuseIf_eq_ok.mp hnew ⟨last, hlast, hle⟩

end RowState

/-! ## The clock -/

section Block

variable {state state' : RowState} {row : Row} {output : Option NormalizedRow}
  {told : Option Observation}

/-- A block is produced, or it is a skipped slot the sink is told of. -/
theorem normalizeBlock_eq_ok (h : normalizeBlock state row = .ok (state', output, told)) :
    state.expectedBlock ≤ UINT32_MAX ∧
    ((∃ block : BlockRow, output = some (.block block) ∧ told = none ∧
        block.blockOrdinal = state.expectedBlock ∧
        (∃ seconds, block.blockTime = seconds * 1000000000 ∧
          (∀ last ∈ state.lastProducedBlockTime, last ≤ seconds) ∧
          state' = { state with
            expectedBlock := state.expectedBlock + 1
            lastProducedBlockTime := some seconds }) ∧
        block.transactionCount ≤ UINT32_MAX) ∨
      (output = none ∧
        told = some (.skippedSlot SOLANA_SKIPPED_SLOT_SENTINEL_PROFILE_ID state.expectedBlock) ∧
        state' = { state with
          expectedBlock := state.expectedBlock + 1
          sentinels := state.sentinels ++
            [.skippedSlot SOLANA_SKIPPED_SLOT_SENTINEL_PROFILE_ID state.expectedBlock] })) := by
  obtain ⟨block, hblock, h⟩ := bind_eq_ok.mp h
  obtain ⟨hexpected, h⟩ := check_bind_eq_ok.mp h
  obtain rfl := not_not.mp (refuseIf_eq_ok.mp hexpected)
  refine ⟨(uintUpTo_eq_ok.mp hblock).2, ?_⟩
  obtain ⟨_, -, h⟩ := bind_eq_ok.mp h
  obtain ⟨-, h⟩ := check_bind_eq_ok.mp h
  obtain ⟨_, -, h⟩ := bind_eq_ok.mp h
  obtain ⟨-, h⟩ := check_bind_eq_ok.mp h
  obtain ⟨_, -, h⟩ := bind_eq_ok.mp h
  obtain ⟨time, htime, h⟩ := bind_eq_ok.mp h
  obtain ⟨_, -, h⟩ := bind_eq_ok.mp h
  obtain ⟨_, -, h⟩ := bind_eq_ok.mp h
  obtain ⟨_, -, h⟩ := bind_eq_ok.mp h
  obtain ⟨transactionCount, hcount, h⟩ := bind_eq_ok.mp h
  dsimp only at h
  split at h
  · obtain ⟨rfl, houtput⟩ := Prod.mk.inj (Except.ok.inj h)
    obtain ⟨rfl, rfl⟩ := Prod.mk.inj houtput
    exact .inr ⟨rfl, rfl, rfl⟩
  · obtain ⟨-, h⟩ := check_bind_eq_ok.mp h
    obtain ⟨blockHash, -, h⟩ := bind_eq_ok.mp h
    obtain ⟨hlast, h⟩ := check_bind_eq_ok.mp h
    obtain ⟨rfl, houtput⟩ := Prod.mk.inj (Except.ok.inj h)
    obtain ⟨rfl, rfl⟩ := Prod.mk.inj houtput
    refine .inl ⟨_, rfl, rfl, rfl, ⟨time.1, (blockTime_eq_ok htime).1, fun last hmem => ?_, rfl⟩,
      (uintUpTo_eq_ok.mp hcount).2⟩
    exact not_lt.mp fun hlt => refuseIf_eq_ok.mp hlast ⟨last, hmem, hlt⟩

end Block

/-! ## Positions -/

/-- The position of an event, read from the columns of its row. -/
structure PlaceReads (row : Row) (block transaction raw : Nat) : Prop where
  block : row.cell "block_ordinal" = .integer block
  transaction : row.cell "transaction_index" = .integer transaction
  instruction : row.cell "raw_instruction_index" = .integer raw

theorem position_eq_ok {coveredRange : BlockRange} {row : Row} {at_ : RowPosition}
    (h : position coveredRange row = .ok at_) :
    PlaceReads row at_.block at_.transaction at_.rawInstruction ∧
      at_.block ≤ UINT32_MAX ∧ at_.transaction ≤ UINT32_MAX - 1 ∧
      at_.rawInstruction ≤ (UINT32_MAX - 2) / 2 ∧
      coveredRange.containsBlock at_.block = true ∧ at_.eventIndex = at_.rawInstruction * 2 := by
  obtain ⟨block, hblock, h⟩ := bind_eq_ok.mp h
  obtain ⟨transaction, htransaction, h⟩ := bind_eq_ok.mp h
  obtain ⟨raw, hraw, h⟩ := bind_eq_ok.mp h
  obtain ⟨hcovered, h⟩ := check_bind_eq_ok.mp h
  obtain ⟨index, hindex, h⟩ := bind_eq_ok.mp h
  obtain rfl := Except.ok.inj h
  obtain ⟨hblock, hblock_le⟩ := uintUpTo_eq_ok.mp hblock
  obtain ⟨htransaction, htransaction_le⟩ := uintUpTo_eq_ok.mp htransaction
  obtain ⟨hraw, hraw_le⟩ := uintUpTo_eq_ok.mp hraw
  exact ⟨⟨hblock, htransaction, hraw⟩, hblock_le, htransaction_le, hraw_le,
    Bool.not_eq_false _ ▸ refuseIf_eq_ok.mp hcovered, derivedEventIndex_eq_ok hindex⟩

/-- The time a row stands at, as the accumulator reads it. -/
def TimeReads (row : Row) (seconds : Nat) : Prop :=
  datetimeNs (row.cell "block_time") = .ok (seconds * 1000000000)

theorem timeReads_of_blockTime {row : Row} {time : Nat × Nat}
    (h : blockTime (row.cell "block_time") = .ok time) : TimeReads row time.1 := by
  obtain ⟨hns, hread⟩ := blockTime_eq_ok h
  rw [TimeReads, ← hns]
  exact hread

/-! ## Launches -/

/-- What an eligible launch row reads as. -/
structure LaunchReads (row : Row) (launch : LaunchRow) (raw : Nat) : Prop where
  at_ : PlaceReads row launch.blockOrdinal launch.transactionIndex raw
  event : launch.eventIndex = raw * 2
  signature : sourceText (row.cell "signature") = .ok launch.signature
  mint : sourceText (row.cell "mint") = .ok launch.mint
  creator : sourceText (row.cell "creator") = .ok launch.creator
  creationUser : sourceText (row.cell "creation_user") = .ok launch.creationUser
  venue : sourceText (row.cell "curve_address") = .ok launch.venue
  mode : mode (row.cell "token_program") (row.cell "cashback_enabled") = .ok launch.mode
  mayhem : row.cell "mayhem_mode" = .integer 0
  quote : launch.quoteAsset = PUMPFUN_CANONICAL_SOL_ASSET
  virtualToken : launch.virtualTokenReservesAtomic = PUMPFUN_INITIAL_VIRTUAL_TOKEN_RESERVES
  virtualSol : launch.virtualSolReservesLamports = PUMPFUN_INITIAL_VIRTUAL_SOL_RESERVES
  realToken : launch.realTokenReservesAtomic = PUMPFUN_INITIAL_REAL_TOKEN_RESERVES
  realSol : launch.realSolReservesLamports = PUMPFUN_INITIAL_REAL_SOL_RESERVES
  supply : launch.tokenTotalSupplyAtomic = PUMPFUN_TOKEN_TOTAL_SUPPLY
  lifecycle : launch.lifecycle = .active

section Launch

variable {coveredRange : BlockRange} {state state' : RowState} {row : Row}
  {output : Option NormalizedRow} {told : Option Observation}

/-- A launch row is classified: it is a launch, or its exclusion is told. -/
theorem normalizeLaunch_eq_ok
    (h : normalizeLaunch coveredRange state row = .ok (state', output, told)) :
    ∃ block transaction raw signature mint, PlaceReads row block transaction raw ∧
      coveredRange.containsBlock block = true ∧
      block ≤ UINT32_MAX ∧ transaction ≤ UINT32_MAX - 1 ∧ raw ≤ (UINT32_MAX - 2) / 2 ∧
      (∃ seconds, TimeReads row seconds) ∧
      (∀ last ∈ state.lastOrderKey, last < orderKey block transaction raw signature mint) ∧
      state.lastLaunchTransaction ≠ some (block, transaction) ∧
      ((∃ launch : LaunchRow, LaunchReads row launch raw ∧
          launch.blockOrdinal = block ∧ launch.transactionIndex = transaction ∧
          launch.signature = signature ∧ launch.mint = mint ∧
          output = some (.launch launch) ∧ told = none ∧
          state' = { state with
            lastOrderKey := some (orderKey block transaction raw signature mint)
            lastLaunchTransaction := some (block, transaction)
            launchClassified := state.launchClassified + 1
            launchEligible := state.launchEligible + 1 }) ∨
        (row.cell "mayhem_mode" = .integer 1 ∧ output = none ∧
          told = some (.excludedLaunch PUMPFUN_LAUNCH_UNIVERSE_POLICY_ID MAYHEM_EXCLUDED block
            transaction (raw * 2) signature mint) ∧
          state' = { state with
            lastOrderKey := some (orderKey block transaction raw signature mint)
            lastLaunchTransaction := some (block, transaction)
            launchClassified := state.launchClassified + 1
            exclusions := state.exclusions ++ [.excludedLaunch PUMPFUN_LAUNCH_UNIVERSE_POLICY_ID
              MAYHEM_EXCLUDED block transaction (raw * 2) signature mint] })) := by
  obtain ⟨at_, hat, h⟩ := bind_eq_ok.mp h
  obtain ⟨signature, hsignature, h⟩ := bind_eq_ok.mp h
  obtain ⟨mint, hmint, h⟩ := bind_eq_ok.mp h
  obtain ⟨creator, hcreator, h⟩ := bind_eq_ok.mp h
  obtain ⟨creationUser, hcreationUser, h⟩ := bind_eq_ok.mp h
  obtain ⟨curve, hcurve, h⟩ := bind_eq_ok.mp h
  obtain ⟨_, -, h⟩ := bind_eq_ok.mp h
  obtain ⟨-, h⟩ := check_bind_eq_ok.mp h
  obtain ⟨mayhem, hmayhem, h⟩ := bind_eq_ok.mp h
  obtain ⟨ordered, hordered, h⟩ := bind_eq_ok.mp h
  obtain ⟨horder, rfl⟩ := RowState.requireOrder_eq_ok hordered
  obtain ⟨hlast, h⟩ := check_bind_eq_ok.mp h
  obtain ⟨hbundle, h⟩ := check_bind_eq_ok.mp h
  obtain ⟨time, htime, -⟩ := bind_eq_ok.mp hbundle
  obtain ⟨hplace, hblock, htransaction, hraw, hcovered, hevent⟩ := position_eq_ok hat
  refine ⟨at_.block, at_.transaction, at_.rawInstruction, signature, mint, hplace, hcovered, hblock,
    htransaction, hraw, ⟨time.1, timeReads_of_blockTime htime⟩, horder, refuseIf_eq_ok.mp hlast, ?_⟩
  have hflag := flag_eq_ok.mp hmayhem
  split at h
  · rename_i htrue
    obtain ⟨rfl, houtput⟩ := Prod.mk.inj (Except.ok.inj h)
    obtain ⟨rfl, rfl⟩ := Prod.mk.inj houtput
    rw [htrue] at hflag
    rw [hevent]
    exact .inr ⟨hflag, rfl, rfl, rfl⟩
  · rename_i hfalse
    obtain ⟨mode, hmode, h⟩ := bind_eq_ok.mp h
    obtain ⟨rfl, houtput⟩ := Prod.mk.inj (Except.ok.inj h)
    obtain ⟨rfl, rfl⟩ := Prod.mk.inj houtput
    rw [(Bool.not_eq_true _).mp hfalse] at hflag
    exact .inl ⟨_, ⟨hplace, hevent, sourceText_of_signature hsignature,
      sourceText_of_publicKey hmint, sourceText_of_publicKey hcreator,
      sourceText_of_publicKey hcreationUser, sourceText_of_publicKey hcurve, hmode, hflag, rfl, rfl,
      rfl, rfl, rfl, rfl, rfl⟩, rfl, rfl, rfl, rfl, rfl, rfl, rfl⟩

end Launch

/-! ## Trades -/

/-- What a trade row reads as. -/
structure TradeReads (row : Row) (trade : TradeRow) (raw : Nat) : Prop where
  at_ : PlaceReads row trade.blockOrdinal trade.transactionIndex raw
  event : trade.eventIndex = raw * 2
  signature : sourceText (row.cell "signature") = .ok trade.signature
  mint : sourceText (row.cell "mint") = .ok trade.mint
  venue : sourceText (row.cell "curve_address") = .ok trade.venue
  mode : mode (row.cell "token_program") (row.cell "cashback_enabled") = .ok trade.mode
  direction : (sourceText (row.cell "direction") = .ok "buy" ∧ trade.side = "BUY") ∨
    (sourceText (row.cell "direction") = .ok "sell" ∧ trade.side = "SELL")
  base : row.cell "base_amount_atomic" = .integer trade.baseAmountAtomic
  quoteAmount : row.cell "quote_amount_atomic" = .integer trade.quoteAmountAtomic
  virtualToken : row.cell "virtual_token_reserves_after_atomic" =
    .integer trade.virtualTokenReservesAtomic
  virtualSol : row.cell "virtual_sol_reserves_after_lamports" =
    .integer trade.virtualSolReservesLamports
  token_offset : PUMPFUN_REAL_TOKEN_OFFSET ≤ trade.virtualTokenReservesAtomic
  sol_offset : PUMPFUN_REAL_SOL_OFFSET ≤ trade.virtualSolReservesLamports
  sol_le : trade.virtualSolReservesLamports ≤ MAX_U64
  realToken : trade.realTokenReservesAtomic =
    trade.virtualTokenReservesAtomic - PUMPFUN_REAL_TOKEN_OFFSET
  realToken_le : trade.realTokenReservesAtomic ≤ PUMPFUN_TOKEN_TOTAL_SUPPLY
  realSol : trade.realSolReservesLamports =
    trade.virtualSolReservesLamports - PUMPFUN_REAL_SOL_OFFSET
  supply : trade.tokenTotalSupplyAtomic = PUMPFUN_TOKEN_TOTAL_SUPPLY
  lifecycle : trade.lifecycle =
    if trade.realTokenReservesAtomic = 0 then .completed else .active
  quote : trade.quoteAsset = PUMPFUN_CANONICAL_SOL_ASSET
  base_pos : 0 < trade.baseAmountAtomic

theorem curveState_eq_ok {token sol : Cell} {after : CurveState}
    (h : curveState token sol = .ok after) :
    token = .integer after.virtualToken ∧ sol = .integer after.virtualSol ∧
      PUMPFUN_REAL_TOKEN_OFFSET ≤ after.virtualToken ∧ PUMPFUN_REAL_SOL_OFFSET ≤ after.virtualSol ∧
      after.virtualSol ≤ MAX_U64 ∧
      after.realToken = after.virtualToken - PUMPFUN_REAL_TOKEN_OFFSET ∧
      after.realToken ≤ PUMPFUN_TOKEN_TOTAL_SUPPLY ∧
      after.realSol = after.virtualSol - PUMPFUN_REAL_SOL_OFFSET ∧
      after.lifecycle = if after.realToken = 0 then .completed else .active := by
  obtain ⟨virtualToken, htoken, h⟩ := bind_eq_ok.mp h
  obtain ⟨virtualSol, hsol, h⟩ := bind_eq_ok.mp h
  obtain ⟨hoffset, h⟩ := check_bind_eq_ok.mp h
  obtain ⟨hsupply, h⟩ := check_bind_eq_ok.mp h
  obtain rfl := Except.ok.inj h
  obtain ⟨htoken, -⟩ := uintUpTo_eq_ok.mp htoken
  obtain ⟨hsol, hsol_le⟩ := uintUpTo_eq_ok.mp hsol
  obtain ⟨htoken_le, hsol_offset⟩ := not_or.mp (refuseIf_eq_ok.mp hoffset)
  have hreal_le : virtualToken - PUMPFUN_REAL_TOKEN_OFFSET ≤ PUMPFUN_TOKEN_TOTAL_SUPPLY :=
    not_lt.mp (refuseIf_eq_ok.mp hsupply)
  exact ⟨htoken, hsol, not_lt.mp htoken_le, not_lt.mp hsol_offset, hsol_le, rfl, hreal_le, rfl,
    by with_reducible rfl⟩

section Trade

variable {feeProfile : PumpFeeProfile} {coveredRange : BlockRange} {state state' : RowState}
  {row : Row} {output : Option NormalizedRow} {told : Option Observation}

theorem normalizeTrade_eq_ok
    (h : normalizeTrade feeProfile coveredRange state row = .ok (state', output, told)) :
    ∃ (trade : TradeRow) (raw : Nat), TradeReads row trade raw ∧
      coveredRange.containsBlock trade.blockOrdinal = true ∧
      trade.blockOrdinal ≤ UINT32_MAX ∧ trade.transactionIndex ≤ UINT32_MAX - 1 ∧
      raw ≤ (UINT32_MAX - 2) / 2 ∧ (∃ seconds, TimeReads row seconds) ∧
      (∀ last ∈ state.lastOrderKey, last <
        orderKey trade.blockOrdinal trade.transactionIndex raw trade.signature trade.mint) ∧
      output = some (.trade trade) ∧ told = none ∧
      state' = { state with
        lastOrderKey := some (orderKey trade.blockOrdinal trade.transactionIndex raw
          trade.signature trade.mint) } := by
  obtain ⟨at_, hat, h⟩ := bind_eq_ok.mp h
  obtain ⟨signature, hsignature, h⟩ := bind_eq_ok.mp h
  obtain ⟨mint, hmint, h⟩ := bind_eq_ok.mp h
  obtain ⟨curve, hcurve, h⟩ := bind_eq_ok.mp h
  obtain ⟨_, -, h⟩ := bind_eq_ok.mp h
  obtain ⟨-, h⟩ := check_bind_eq_ok.mp h
  obtain ⟨_, -, h⟩ := bind_eq_ok.mp h
  obtain ⟨-, h⟩ := check_bind_eq_ok.mp h
  obtain ⟨_, -, h⟩ := bind_eq_ok.mp h
  obtain ⟨-, h⟩ := check_bind_eq_ok.mp h
  obtain ⟨mode, hmode, h⟩ := bind_eq_ok.mp h
  obtain ⟨_, -, h⟩ := bind_eq_ok.mp h
  obtain ⟨_, -, h⟩ := bind_eq_ok.mp h
  obtain ⟨-, h⟩ := check_bind_eq_ok.mp h
  obtain ⟨ordered, hordered, h⟩ := bind_eq_ok.mp h
  obtain ⟨horder, rfl⟩ := RowState.requireOrder_eq_ok hordered
  obtain ⟨direction, hdirection, h⟩ := bind_eq_ok.mp h
  obtain ⟨instruction, -, h⟩ := bind_eq_ok.mp h
  obtain ⟨hsupported, h⟩ := check_bind_eq_ok.mp h
  obtain ⟨baseAmount, hbase, h⟩ := bind_eq_ok.mp h
  obtain ⟨quoteAmount, hquote, h⟩ := bind_eq_ok.mp h
  obtain ⟨hamounts, h⟩ := check_bind_eq_ok.mp h
  obtain ⟨after, hafter, h⟩ := bind_eq_ok.mp h
  obtain ⟨time, htime, h⟩ := bind_eq_ok.mp h
  obtain ⟨fees, -, h⟩ := bind_eq_ok.mp h
  obtain ⟨rfl, houtput⟩ := Prod.mk.inj (Except.ok.inj h)
  obtain ⟨rfl, rfl⟩ := Prod.mk.inj houtput
  obtain ⟨hplace, hblock, htransaction, hraw, hcovered, hevent⟩ := position_eq_ok hat
  obtain ⟨htoken, hsol, htoken_offset, hsol_offset, hsol_le, hreal, hreal_le, hreal_sol, hcycle⟩ :=
    curveState_eq_ok hafter
  have hread := sourceText_of_closedText hdirection
  have hdirections : (sourceText (row.cell "direction") = .ok "buy" ∧ upper direction = "BUY") ∨
      (sourceText (row.cell "direction") = .ok "sell" ∧ upper direction = "SELL") := by
    have hmem := not_not.mp (refuseIf_eq_ok.mp hsupported)
    have hcase : direction = "buy" ∨ direction = "sell" := by
      simp only [SUPPORTED_TRADE_INSTRUCTIONS, List.mem_cons, Prod.mk.injEq, List.not_mem_nil,
        or_false] at hmem
      rcases hmem with h | h | h | h | h | h
      · exact .inl h.1
      · exact .inl h.1
      · exact .inl h.1
      · exact .inl h.1
      · exact .inr h.1
      · exact .inr h.1
    rcases hcase with rfl | rfl
    · exact .inl ⟨hread, by decide⟩
    · exact .inr ⟨hread, by decide⟩
  have hbase_pos : 0 < baseAmount :=
    Nat.pos_of_ne_zero fun hzero => refuseIf_eq_ok.mp hamounts (.inl hzero)
  exact ⟨_, at_.rawInstruction, ⟨hplace, hevent, sourceText_of_signature hsignature,
    sourceText_of_publicKey hmint, sourceText_of_publicKey hcurve, hmode, hdirections,
    (uintUpTo_eq_ok.mp hbase).1, (uintUpTo_eq_ok.mp hquote).1, htoken, hsol, htoken_offset,
    hsol_offset, hsol_le, hreal, hreal_le, hreal_sol, rfl, hcycle, rfl, hbase_pos⟩, hcovered,
    hblock, htransaction, hraw, ⟨time.1, timeReads_of_blockTime htime⟩, horder, rfl, rfl, rfl⟩

end Trade

/-! ## Completions and migrations -/

/-- What a lifecycle row reads as, of either kind. -/
structure LifecycleReads (row : Row) (fields : LifecycleFields) : Prop where
  block : row.cell "block_ordinal" = .integer fields.block
  transaction : row.cell "transaction_index" = .integer fields.transaction
  signature : sourceText (row.cell "signature") = .ok fields.signature
  mint : sourceText (row.cell "mint") = .ok fields.mint
  venue : sourceText (row.cell "curve_address") = .ok fields.curve
  mode : mode (row.cell "token_program") (row.cell "cashback_enabled") = .ok fields.mode

section Lifecycle

variable {coveredRange : BlockRange} {state state' : RowState} {row : Row}
  {fields : LifecycleFields} {output : Option NormalizedRow} {told : Option Observation}

theorem normalizeCompletion_eq_ok
    (h : normalizeCompletion state row fields = .ok (state', output, told)) :
    ∃ raw virtualSol : Nat, state.lifecycleCompletion = none ∧ state.lifecycleMigrationSeen = false ∧
      row.cell "raw_instruction_index" = .integer raw ∧ raw ≤ (UINT32_MAX - 2) / 2 ∧
      PUMPFUN_REAL_SOL_OFFSET ≤ virtualSol ∧ virtualSol ≤ MAX_U64 ∧
      output = some (.lifecycle (lifecycleRow fields (raw * 2 + 1) .completed virtualSol)) ∧
      told = none ∧
      state' = { state with
        lifecycleCompletion := some
          ⟨fields.signature, fields.mint, fields.curve, raw, virtualSol⟩ } := by
  obtain ⟨hnew, h⟩ := check_bind_eq_ok.mp h
  obtain ⟨raw, hraw, h⟩ := bind_eq_ok.mp h
  obtain ⟨_, -, h⟩ := bind_eq_ok.mp h
  obtain ⟨-, h⟩ := check_bind_eq_ok.mp h
  obtain ⟨-, h⟩ := check_bind_eq_ok.mp h
  obtain ⟨-, h⟩ := check_bind_eq_ok.mp h
  obtain ⟨virtualToken, -, h⟩ := bind_eq_ok.mp h
  obtain ⟨virtualSol, hsol, h⟩ := bind_eq_ok.mp h
  obtain ⟨hoffset, h⟩ := check_bind_eq_ok.mp h
  obtain ⟨eventIndex, hevent, h⟩ := bind_eq_ok.mp h
  obtain ⟨rfl, houtput⟩ := Prod.mk.inj (Except.ok.inj h)
  obtain ⟨rfl, rfl⟩ := Prod.mk.inj houtput
  obtain ⟨hnone, hseen⟩ := not_or.mp (refuseIf_eq_ok.mp hnew)
  obtain ⟨hraw, hraw_le⟩ := uintUpTo_eq_ok.mp hraw
  obtain rfl := derivedEventIndex_eq_ok hevent
  exact ⟨raw, virtualSol, not_not.mp hnone, (Bool.not_eq_true _).mp hseen, hraw, hraw_le,
    not_lt.mp (not_or.mp (refuseIf_eq_ok.mp hoffset)).2, (uintUpTo_eq_ok.mp hsol).2, rfl, rfl, rfl⟩

theorem normalizeDerivedMigration_eq_ok {virtualSol : Nat}
    (h : normalizeDerivedMigration state row fields virtualSol = .ok (state', output, told)) :
    ∃ raw : Nat, raw ≤ (UINT32_MAX - 2) / 2 ∧
      row.cell "terminal_raw_instruction_index" = .integer raw ∧
      state.lifecycleCompletion =
        some ⟨fields.signature, fields.mint, fields.curve, raw, virtualSol⟩ ∧
      output = some (.lifecycle (lifecycleRow fields (raw * 2 + 2) .migrated virtualSol)) ∧
      told = some (.derivedLifecycleGroup PUMPFUN_TERMINAL_LIFECYCLE_PROFILE_ID fields.block
        fields.transaction (raw * 2) (raw * 2 + 1) (raw * 2 + 2) fields.signature fields.mint
        fields.curve) ∧
      state' = { state with
        lifecycleGroups := state.lifecycleGroups ++ [.derivedLifecycleGroup
          PUMPFUN_TERMINAL_LIFECYCLE_PROFILE_ID fields.block fields.transaction (raw * 2)
          (raw * 2 + 1) (raw * 2 + 2) fields.signature fields.mint fields.curve]
        lifecycleMigrationSeen := true } := by
  obtain ⟨-, h⟩ := check_bind_eq_ok.mp h
  obtain ⟨raw, hraw, h⟩ := bind_eq_ok.mp h
  obtain ⟨-, h⟩ := check_bind_eq_ok.mp h
  obtain ⟨_, -, h⟩ := bind_eq_ok.mp h
  obtain ⟨-, h⟩ := check_bind_eq_ok.mp h
  obtain ⟨_, -, h⟩ := bind_eq_ok.mp h
  obtain ⟨-, h⟩ := check_bind_eq_ok.mp h
  obtain ⟨hcompletion, h⟩ := check_bind_eq_ok.mp h
  obtain ⟨terminalEvent, hterminal, h⟩ := bind_eq_ok.mp h
  obtain ⟨completionEvent, hcompleted, h⟩ := bind_eq_ok.mp h
  obtain ⟨eventIndex, hevent, h⟩ := bind_eq_ok.mp h
  obtain rfl := derivedEventIndex_eq_ok hterminal
  obtain rfl := derivedEventIndex_eq_ok hcompleted
  obtain rfl := derivedEventIndex_eq_ok hevent
  obtain ⟨rfl, houtput⟩ := Prod.mk.inj (Except.ok.inj h)
  obtain ⟨rfl, rfl⟩ := Prod.mk.inj houtput
  obtain ⟨hraw, hraw_le⟩ := uintUpTo_eq_ok.mp hraw
  exact ⟨raw, hraw_le, hraw, not_not.mp (refuseIf_eq_ok.mp hcompletion), rfl, rfl, rfl⟩

theorem normalizeStandaloneMigration_eq_ok {virtualSol : Nat}
    (h : normalizeStandaloneMigration state row fields virtualSol = .ok (state', output, told)) :
    state.lifecycleCompletion = none ∧
      output = some (.lifecycle (lifecycleRow fields 0 .migrated virtualSol)) ∧ told = none ∧
      state' = { state with lifecycleMigrationSeen := true } := by
  obtain ⟨_, -, h⟩ := bind_eq_ok.mp h
  obtain ⟨-, h⟩ := check_bind_eq_ok.mp h
  obtain ⟨_, -, h⟩ := bind_eq_ok.mp h
  obtain ⟨-, h⟩ := check_bind_eq_ok.mp h
  obtain ⟨_, -, h⟩ := bind_eq_ok.mp h
  obtain ⟨-, h⟩ := check_bind_eq_ok.mp h
  obtain ⟨hcompletion, h⟩ := check_bind_eq_ok.mp h
  obtain ⟨rfl, houtput⟩ := Prod.mk.inj (Except.ok.inj h)
  obtain ⟨rfl, rfl⟩ := Prod.mk.inj houtput
  exact ⟨not_not.mp (refuseIf_eq_ok.mp hcompletion), rfl, rfl, rfl⟩

theorem normalizeMigration_eq_ok
    (h : normalizeMigration state row fields = .ok (state', output, told)) :
    ∃ virtualSol, state.lifecycleMigrationSeen = false ∧
      PUMPFUN_REAL_SOL_OFFSET ≤ virtualSol ∧ virtualSol ≤ MAX_U64 ∧
      (normalizeDerivedMigration state row fields virtualSol = .ok (state', output, told) ∨
        normalizeStandaloneMigration state row fields virtualSol = .ok (state', output, told)) := by
  obtain ⟨hnew, h⟩ := check_bind_eq_ok.mp h
  obtain ⟨_, -, h⟩ := bind_eq_ok.mp h
  obtain ⟨_, -, h⟩ := bind_eq_ok.mp h
  obtain ⟨_, -, h⟩ := bind_eq_ok.mp h
  obtain ⟨-, h⟩ := check_bind_eq_ok.mp h
  obtain ⟨_, -, h⟩ := bind_eq_ok.mp h
  obtain ⟨_, -, h⟩ := bind_eq_ok.mp h
  obtain ⟨-, h⟩ := check_bind_eq_ok.mp h
  obtain ⟨_, -, h⟩ := bind_eq_ok.mp h
  obtain ⟨realSol, -, h⟩ := bind_eq_ok.mp h
  obtain ⟨virtualSol, hsol, h⟩ := bind_eq_ok.mp h
  obtain ⟨hle, hsol⟩ := check_bind_eq_ok.mp hsol
  have hsum : realSol + PUMPFUN_REAL_SOL_OFFSET = virtualSol := Except.ok.inj hsol
  have hbound : realSol + PUMPFUN_REAL_SOL_OFFSET ≤ MAX_U64 := not_lt.mp (refuseIf_eq_ok.mp hle)
  refine ⟨virtualSol, (Bool.not_eq_true _).mp (not_or.mp (refuseIf_eq_ok.mp hnew)).1,
    hsum ▸ Nat.le_add_left _ _, hsum ▸ hbound, ?_⟩
  split at h
  · exact .inl h
  · exact .inr h

/-- A lifecycle row is a completion, or the migration of one, or a migration on its own. -/
theorem normalizeLifecycle_eq_ok
    (h : normalizeLifecycle coveredRange state row = .ok (state', output, told)) :
    ∃ (fields : LifecycleFields) (kind : Nat), LifecycleReads row fields ∧
      coveredRange.containsBlock fields.block = true ∧ fields.block ≤ UINT32_MAX ∧
      fields.transaction ≤ UINT32_MAX - 1 ∧ (∃ seconds, TimeReads row seconds) ∧
      (∀ last ∈ state.lastOrderKey, last <
        orderKey fields.block fields.transaction kind fields.signature fields.mint) ∧
      ∃ base : RowState, base = RowState.startLifecyclePosition { state with
          lastOrderKey := some
            (orderKey fields.block fields.transaction kind fields.signature fields.mint) }
          fields.block fields.transaction ∧
        ((kind = 0 ∧ normalizeCompletion base row fields = .ok (state', output, told)) ∨
          (kind = 1 ∧ normalizeMigration base row fields = .ok (state', output, told))) := by
  obtain ⟨block, hblock, h⟩ := bind_eq_ok.mp h
  obtain ⟨transaction, htransaction, h⟩ := bind_eq_ok.mp h
  obtain ⟨hcovered, h⟩ := check_bind_eq_ok.mp h
  obtain ⟨time, htime, h⟩ := bind_eq_ok.mp h
  obtain ⟨signature, hsignature, h⟩ := bind_eq_ok.mp h
  obtain ⟨mint, hmint, h⟩ := bind_eq_ok.mp h
  obtain ⟨curve, hcurve, h⟩ := bind_eq_ok.mp h
  obtain ⟨_, -, h⟩ := bind_eq_ok.mp h
  obtain ⟨-, h⟩ := check_bind_eq_ok.mp h
  obtain ⟨mode, hmode, h⟩ := bind_eq_ok.mp h
  obtain ⟨candidate, -, h⟩ := bind_eq_ok.mp h
  obtain ⟨-, h⟩ := check_bind_eq_ok.mp h
  obtain ⟨ordered, hordered, h⟩ := bind_eq_ok.mp h
  obtain ⟨horder, rfl⟩ := RowState.requireOrder_eq_ok hordered
  obtain ⟨_, -, h⟩ := bind_eq_ok.mp h
  obtain ⟨-, h⟩ := check_bind_eq_ok.mp h
  obtain ⟨_, -, h⟩ := bind_eq_ok.mp h
  obtain ⟨-, h⟩ := check_bind_eq_ok.mp h
  obtain ⟨hblock, hblock_le⟩ := uintUpTo_eq_ok.mp hblock
  obtain ⟨htransaction, htransaction_le⟩ := uintUpTo_eq_ok.mp htransaction
  refine ⟨⟨block, transaction, signature, mint, curve, mode⟩, _,
    ⟨hblock, htransaction, sourceText_of_signature hsignature, sourceText_of_publicKey hmint,
      sourceText_of_publicKey hcurve, hmode⟩, (Bool.not_eq_false _).mp (refuseIf_eq_ok.mp hcovered),
    hblock_le, htransaction_le, ⟨time.1, timeReads_of_blockTime htime⟩, horder, _, rfl, ?_⟩
  dsimp only at h
  split at h
  · rename_i hkind
    exact .inl ⟨if_pos hkind, by rw [if_pos hkind]; exact h⟩
  · rename_i hkind
    exact .inr ⟨if_neg hkind, by rw [if_neg hkind]; exact h⟩

end Lifecycle

/-! ## Rows in a row -/

/-- The loop over rows, with nothing but the row state: the state after them, their normalized rows
and what they tell the sink. -/
def rowsFrom (scope : SessionScope) (state : RowState) :
    List Row → Except LiveFault (RowState × List NormalizedRow × List Observation)
  | [] => .ok (state, [], [])
  | row :: rest => do
    let outcome ← normalizeRow scope.normalizer.feeProfile scope.stream scope.coveredRange state row
    let after ← rowsFrom scope outcome.1 rest
    .ok (after.1, outcome.2.1.toList ++ after.2.1, outcome.2.2.toList ++ after.2.2)

section RowsFrom

variable {scope : SessionScope}

theorem rowsFrom_cons_eq_ok {state : RowState} {row : Row} {rest : List Row}
    {after : RowState × List NormalizedRow × List Observation} :
    rowsFrom scope state (row :: rest) = .ok after ↔ ∃ outcome tail,
      normalizeRow scope.normalizer.feeProfile scope.stream scope.coveredRange state row =
        .ok outcome ∧ rowsFrom scope outcome.1 rest = .ok tail ∧
      after = (tail.1, outcome.2.1.toList ++ tail.2.1, outcome.2.2.toList ++ tail.2.2) := by
  rw [rowsFrom]
  constructor
  · intro h
    obtain ⟨outcome, houtcome, h⟩ := bind_eq_ok.mp h
    obtain ⟨tail, htail, h⟩ := bind_eq_ok.mp h
    exact ⟨outcome, tail, houtcome, htail, (Except.ok.inj h).symm⟩
  · rintro ⟨outcome, tail, houtcome, htail, rfl⟩
    rw [houtcome, ok_bind, htail, ok_bind]

theorem rowsFrom_append_eq_ok {rows rest : List Row} {state : RowState}
    {after : RowState × List NormalizedRow × List Observation} :
    rowsFrom scope state (rows ++ rest) = .ok after ↔ ∃ first tail,
      rowsFrom scope state rows = .ok first ∧ rowsFrom scope first.1 rest = .ok tail ∧
      after = (tail.1, first.2.1 ++ tail.2.1, first.2.2 ++ tail.2.2) := by
  induction rows generalizing state after with
  | nil =>
    constructor
    · intro h
      exact ⟨(state, [], []), after, rfl, h, rfl⟩
    · rintro ⟨first, tail, hfirst, htail, rfl⟩
      obtain rfl := Except.ok.inj hfirst
      exact htail
  | cons row rows ih =>
    rw [List.cons_append, rowsFrom_cons_eq_ok]
    constructor
    · rintro ⟨outcome, tail, houtcome, hrest, rfl⟩
      obtain ⟨first, last, hfirst, hlast, rfl⟩ := ih.mp hrest
      refine ⟨_, last, rowsFrom_cons_eq_ok.mpr ⟨outcome, first, houtcome, hfirst, rfl⟩, hlast, ?_⟩
      rw [List.append_assoc, List.append_assoc]
    · rintro ⟨first, last, hrows, hlast, rfl⟩
      obtain ⟨outcome, tail, houtcome, htail, rfl⟩ := rowsFrom_cons_eq_ok.mp hrows
      refine ⟨outcome, _, houtcome, ih.mpr ⟨tail, last, htail, hlast, rfl⟩, ?_⟩
      rw [List.append_assoc, List.append_assoc]

end RowsFrom

namespace Session

section Split

variable {ω : Type} {sink : ω → Observation → Except LiveFault ω}

theorem foldlM_toList (told : ω) (observation : Option Observation) :
    observation.toList.foldlM sink told = tellSink sink told observation := by
  cases observation with
  | none => rfl
  | some observation =>
    show (sink told observation >>= fun told => Except.ok told) = sink told observation
    cases sink told observation with
    | error fault => rfl
    | ok told' => rfl

/-- **A batch is its rows and the loop of the sink over what they tell.** -/
theorem consumeRows_eq_ok {rows : List Row} {progress progress' : Progress ω} :
    rows.foldlM (consumeRow sink) progress = .ok progress' ↔ ∃ after told,
      rowsFrom progress.1.scope progress.1.rowState rows = .ok after ∧
      after.2.2.foldlM sink progress.2.1 = .ok told ∧
      progress' = ({ progress.1 with
          rawRows := progress.1.rawRows + rows.length
          rowState := after.1
          normalizedStream := progress.1.normalizedStream ++ after.2.1 },
        told, progress.2.2 ++ after.2.1) := by
  induction rows generalizing progress with
  | nil =>
    constructor
    · intro h
      obtain rfl := Except.ok.inj h
      refine ⟨_, progress.2.1, rfl, rfl, ?_⟩
      rw [List.append_nil, List.append_nil]
      rfl
    · rintro ⟨after, told, hafter, htold, rfl⟩
      obtain rfl := Except.ok.inj hafter
      obtain rfl := Except.ok.inj htold
      rw [List.append_nil, List.append_nil]
      rfl
  | cons row rows ih =>
    rw [List.foldlM_cons]
    constructor
    · intro h
      obtain ⟨next, hnext, h⟩ := bind_eq_ok.mp h
      obtain ⟨outcome, houtcome, hnext⟩ := bind_eq_ok.mp hnext
      obtain ⟨told, htold, hnext⟩ := bind_eq_ok.mp hnext
      obtain rfl := Except.ok.inj hnext
      obtain ⟨after, last, hafter, hlast, rfl⟩ := ih.mp h
      refine ⟨_, last, rowsFrom_cons_eq_ok.mpr ⟨outcome, after, houtcome, hafter, rfl⟩, ?_, ?_⟩
      · rw [foldlM_append, foldlM_toList, htold, ok_bind]
        exact hlast
      · simp only [List.length_cons, List.append_assoc, Nat.add_assoc, Nat.add_comm 1]
    · rintro ⟨after, told, hafter, htold, rfl⟩
      obtain ⟨outcome, tail, houtcome, htail, rfl⟩ := rowsFrom_cons_eq_ok.mp hafter
      rw [foldlM_append, foldlM_toList] at htold
      obtain ⟨next, hnext, hlast⟩ := bind_eq_ok.mp htold
      rw [consumeRow, houtcome, ok_bind, hnext, ok_bind, ok_bind]
      refine ih.mpr ⟨tail, told, htail, hlast, ?_⟩
      simp only [List.length_cons, List.append_assoc, Nat.add_assoc, Nat.add_comm 1]

/-- What a batch is accepted for. -/
structure Accepts (session : Session) (batch : IndexedBatch) : Prop where
  capability : batch.capabilityId = session.scope.capabilityId
  range : batch.coveredRange = session.scope.coveredRange
  columns : batch.columns = RAW_COLUMNS session.scope.stream
  count : batch.rowCount = batch.rows.length
  width : ∀ row ∈ batch.rows, row.length = batch.columns.length
  fingerprint : ∃ digest, batch.queryFingerprint = some digest
  same : session.queryFingerprint = none ∨ session.queryFingerprint = batch.queryFingerprint

theorem validateBatch_eq_ok {session session' : Session} {batch : IndexedBatch} :
    session.validateBatch batch = .ok session' ↔ session.Accepts batch ∧
      session' = { session with queryFingerprint := batch.queryFingerprint } := by
  rw [validateBatch]
  simp only [check_bind_eq_ok]
  constructor
  · rintro ⟨hcapability, hrange, hcolumns, hcount, hwidth, hdigest, hsame, h⟩
    refine ⟨⟨not_not.mp (refuseIf_eq_ok.mp hcapability), not_not.mp (refuseIf_eq_ok.mp hrange),
      not_not.mp (refuseIf_eq_ok.mp hcolumns), not_not.mp (refuseIf_eq_ok.mp hcount),
      fun row hrow => ?_, Option.ne_none_iff_exists'.mp (refuseIf_eq_ok.mp hdigest), ?_⟩,
      (Except.ok.inj h).symm⟩
    · by_contra hne
      exact refuseIf_eq_ok.mp hwidth ⟨row, hrow, hne⟩
    · by_contra hne
      exact refuseIf_eq_ok.mp hsame (not_or.mp hne)
  · rintro ⟨haccepts, rfl⟩
    obtain ⟨digest, hdigest⟩ := haccepts.fingerprint
    refine ⟨refuseIf_of_not (not_not.mpr haccepts.capability),
      refuseIf_of_not (not_not.mpr haccepts.range), refuseIf_of_not (not_not.mpr haccepts.columns),
      refuseIf_of_not (not_not.mpr haccepts.count), refuseIf_of_not ?_, refuseIf_of_not ?_,
      refuseIf_of_not ?_, rfl⟩
    · rintro ⟨row, hrow, hne⟩
      exact hne (haccepts.width row hrow)
    · rw [hdigest]
      exact Option.some_ne_none digest
    · rintro ⟨hnone, hother⟩
      exact haccepts.same.elim hnone hother

/-- **A batch a session accepts**: its rows, and the loop of the sink over what they tell. -/
theorem tryNormalize_eq_ok {session session' : Session} {told told' : ω} {batch : IndexedBatch}
    {normalized : PumpfunNormalizedBatch} :
    session.tryNormalize sink told batch = .ok (session', told', normalized) ↔
      session.Accepts batch ∧ ∃ after,
        rowsFrom session.scope session.rowState batch.readRows = .ok after ∧
        after.2.2.foldlM sink told = .ok told' ∧
        session' = { session with
          queryFingerprint := batch.queryFingerprint
          rawRows := session.rawRows + batch.readRows.length
          rowState := after.1
          normalizedStream := session.normalizedStream ++ after.2.1 } ∧
        batch.queryFingerprint = some normalized.queryFingerprint ∧
        normalized = ⟨session.scope.capabilityId, session.scope.coveredRange, after.2.1,
          normalized.queryFingerprint⟩ := by
  rw [tryNormalize]
  constructor
  · intro h
    obtain ⟨progress, hprogress, h⟩ := bind_eq_ok.mp h
    have hbatch : session.normalizeBatch sink told batch = .ok progress := by
      cases hcase : session.normalizeBatch sink told batch with
      | error fault =>
        rw [hcase] at hprogress
        cases hprogress
      | ok other =>
        rw [hcase] at hprogress
        exact congrArg Except.ok (Except.ok.inj hprogress)
    obtain ⟨validated, hvalidated, hrows⟩ := bind_eq_ok.mp hbatch
    obtain ⟨haccepts, rfl⟩ := validateBatch_eq_ok.mp hvalidated
    obtain ⟨after, last, hafter, hlast, rfl⟩ := consumeRows_eq_ok.mp hrows
    obtain ⟨digest, hdigest⟩ := haccepts.fingerprint
    dsimp only at h
    rw [hdigest] at h
    obtain ⟨rfl, hrest⟩ := Prod.mk.inj (Except.ok.inj h)
    obtain ⟨rfl, rfl⟩ := Prod.mk.inj hrest
    exact ⟨haccepts, after, hafter, hlast, by rw [hdigest], hdigest, rfl⟩
  · rintro ⟨haccepts, after, hafter, hlast, rfl, hdigest, hnormalized⟩
    have hbatch : session.normalizeBatch sink told batch =
        .ok ({ session with
            queryFingerprint := batch.queryFingerprint
            rawRows := session.rawRows + batch.readRows.length
            rowState := after.1
            normalizedStream := session.normalizedStream ++ after.2.1 }, told', after.2.1) := by
      rw [normalizeBatch, validateBatch_eq_ok.mpr ⟨haccepts, rfl⟩, ok_bind]
      exact consumeRows_eq_ok.mpr ⟨after, told', hafter, hlast, rfl⟩
    rw [hbatch, hnormalized]
    dsimp only [Except.mapError]
    rw [ok_bind, hdigest]

end Split

end Session

end Source

end OnchainBacktest
