import OnchainBacktest.Source.Evidence
import OnchainBacktest.Source.RowReadings

/-!
# What one step of the evidence does

The inversion of every step of the accumulator, in the terms of the row it consumes: what an
observation, a clock row, a launch, a trade or a lifecycle row had to satisfy and what it changed.
-/

set_option autoImplicit false

namespace OnchainBacktest

namespace Source

open Checked

/-! ## Places -/

/-- The place of the event a raw instruction becomes. -/
def eventPlace (at_ : Place) : Place := place at_.1 at_.2.1 (at_.2.2 * 2)

theorem place_lt_iff {b t i b' t' i' : Nat} :
    place b t i < place b' t' i' ↔ b < b' ∨ b = b' ∧ (t < t' ∨ t = t' ∧ i < i') := by
  rw [place, place, Prod.Lex.toLex_lt_toLex, Prod.Lex.toLex_lt_toLex]

theorem place_inj {b t i b' t' i' : Nat} (h : place b t i = place b' t' i') :
    b = b' ∧ t = t' ∧ i = i' := by
  obtain ⟨hb, h⟩ := Prod.mk.inj (toLex.injective h)
  obtain ⟨ht, hi⟩ := Prod.mk.inj (toLex.injective h)
  exact ⟨hb, ht, hi⟩

theorem eventPlace_place (b t i : Nat) : eventPlace (place b t i) = place b t (i * 2) := rfl

/-- Events stand as their instructions do. -/
theorem eventPlace_lt {a b : Place} (h : a < b) : eventPlace a < eventPlace b := by
  have ha : place a.1 a.2.1 a.2.2 < place b.1 b.2.1 b.2.2 := h
  rw [place_lt_iff] at ha
  rw [eventPlace, eventPlace, place_lt_iff]
  omega

def LaunchRow.place (row : LaunchRow) : Place :=
  Source.place row.blockOrdinal row.transactionIndex row.eventIndex

def TradeRow.place (row : TradeRow) : Place :=
  Source.place row.blockOrdinal row.transactionIndex row.eventIndex

def LifecycleRow.place (row : LifecycleRow) : Place :=
  Source.place row.blockOrdinal row.transactionIndex row.eventIndex

/-! ## Reserves -/

/-- Reserves and the trade that takes them to its own. -/
structure TradeStep (token sol : Nat) (trade : TradeRow) : Prop where
  moves : (trade.side = "BUY" ∧ trade.virtualTokenReservesAtomic + trade.baseAmountAtomic = token ∧
      trade.virtualSolReservesLamports = sol + trade.quoteAmountAtomic) ∨
    (trade.side = "SELL" ∧ trade.virtualTokenReservesAtomic = token + trade.baseAmountAtomic ∧
      trade.virtualSolReservesLamports + trade.quoteAmountAtomic = sol)
  token_floor : PUMPFUN_REAL_TOKEN_OFFSET ≤ trade.virtualTokenReservesAtomic
  sol_floor : PUMPFUN_REAL_SOL_OFFSET ≤ trade.virtualSolReservesLamports

/-- A terminal trade leaves no real token on the curve. -/
abbrev Terminal (trade : TradeRow) : Prop :=
  trade.virtualTokenReservesAtomic = PUMPFUN_REAL_TOKEN_OFFSET

/-! ## Readers -/

section Readers

open EvidenceAccumulator

theorem allOk_eq_true {checks : List (Except LiveFault Bool)} :
    allOk checks = .ok true ↔ ∀ check ∈ checks, check = .ok true := by
  induction checks with
  | nil =>
    constructor
    · intro _ check hcheck
      exact absurd hcheck List.not_mem_nil
    · intro _
      rfl
  | cons check rest ih =>
    rw [List.forall_mem_cons, ← ih, allOk]
    constructor
    · intro h
      obtain ⟨holds, hholds, h⟩ := bind_eq_ok.mp h
      by_cases htrue : holds = true
      · rw [if_pos htrue] at h
        exact ⟨htrue ▸ hholds, h⟩
      · rw [if_neg htrue] at h
        cases h
    · rintro ⟨hcheck, hrest⟩
      rw [hcheck, ok_bind, if_pos rfl]
      exact hrest

theorem map_beq_eq_ok {α : Type} [DecidableEq α] {x : Except LiveFault α} {a : α} :
    x.map (· == a) = .ok true ↔ x = .ok a := by
  cases x with
  | error fault => simp [Except.map]
  | ok b => simp [Except.map]

theorem rowPlace_eq_ok {row : Row} {b t i : String} {at_ : Place} :
    rowPlace row b t i = .ok at_ ↔ ∃ block transaction index : Nat,
      row.cell b = .integer block ∧ row.cell t = .integer transaction ∧
        row.cell i = .integer index ∧ at_ = place block transaction index := by
  constructor
  · intro h
    obtain ⟨block, hblock, h⟩ := bind_eq_ok.mp h
    obtain ⟨transaction, htransaction, h⟩ := bind_eq_ok.mp h
    obtain ⟨index, hindex, h⟩ := bind_eq_ok.mp h
    exact ⟨block, transaction, index, integer_eq_ok.mp hblock, integer_eq_ok.mp htransaction,
      integer_eq_ok.mp hindex, (Except.ok.inj h).symm⟩
  · rintro ⟨block, transaction, index, hblock, htransaction, hindex, rfl⟩
    rw [rowPlace, integer_eq_ok.mpr hblock, ok_bind, integer_eq_ok.mpr htransaction, ok_bind,
      integer_eq_ok.mpr hindex, ok_bind]

theorem place_of_reads {row : Row} {block transaction raw : Nat} {at_ : Place}
    (hreads : PlaceReads row block transaction raw)
    (h : rowPlace row "block_ordinal" "transaction_index" "raw_instruction_index" = .ok at_) :
    at_ = place block transaction raw := by
  obtain ⟨b, t, i, hb, ht, hi, rfl⟩ := rowPlace_eq_ok.mp h
  obtain rfl : b = block := by
    have hsame := hb.symm.trans hreads.block
    exact_mod_cast Cell.integer.inj hsame
  obtain rfl : t = transaction := by
    have hsame := ht.symm.trans hreads.transaction
    exact_mod_cast Cell.integer.inj hsame
  obtain rfl : i = raw := by
    have hsame := hi.symm.trans hreads.instruction
    exact_mod_cast Cell.integer.inj hsame
  rfl

/-- An integer cell has one value. -/
theorem integer_unique {value : Cell} {n m : Nat} (hn : integer value = .ok n)
    (hm : value = .integer m) : n = m := by
  have hsame := (integer_eq_ok.mp hn).symm.trans hm
  exact_mod_cast Cell.integer.inj hsame

end Readers

namespace EvidenceAccumulator

variable {evidence evidence' : EvidenceAccumulator}

/-! ## What a step leaves alone -/

/-- The same clock and the same launches. -/
structure SameBooks (evidence evidence' : EvidenceAccumulator) : Prop where
  clock : evidence'.clock = evidence.clock
  launches : evidence'.launches = evidence.launches
  lastClockBlock : evidence'.lastClockBlock = evidence.lastClockBlock
  lastClockTime : evidence'.lastClockTime = evidence.lastClockTime

theorem observe_same {observation : Observation} (h : evidence.observe observation = .ok evidence') :
    SameBooks evidence evidence' := by
  cases observation with
  | skippedSlot profileId block =>
    obtain ⟨-, h⟩ := check_bind_eq_ok.mp h
    obtain ⟨sentinels, -, h⟩ := bind_eq_ok.mp h
    obtain rfl := Except.ok.inj h
    exact ⟨rfl, rfl, rfl, rfl⟩
  | excludedLaunch policyId reason block transaction eventIndex signature mint =>
    obtain ⟨-, h⟩ := check_bind_eq_ok.mp h
    obtain ⟨exclusions, -, h⟩ := bind_eq_ok.mp h
    obtain rfl := Except.ok.inj h
    exact ⟨rfl, rfl, rfl, rfl⟩
  | derivedLifecycleGroup profileId block transaction terminal completion migration signature mint
      curve =>
    obtain ⟨-, h⟩ := check_bind_eq_ok.mp h
    obtain ⟨groups, -, h⟩ := bind_eq_ok.mp h
    obtain rfl := Except.ok.inj h
    exact ⟨rfl, rfl, rfl, rfl⟩

theorem addSummary_same {stream : CapabilityStream} {blockRange : BlockRange}
    {fingerprint : ContentDigest} {summary : PumpfunNormalizationSummary}
    (h : evidence.addSummary stream blockRange fingerprint summary = .ok evidence') :
    SameBooks evidence evidence' := by
  obtain ⟨-, h⟩ := check_bind_eq_ok.mp h
  obtain rfl := Except.ok.inj h
  exact ⟨rfl, rfl, rfl, rfl⟩

/-! ## The clock -/

theorem consumeClockRow_eq_ok {row : NormalizedRow}
    (h : evidence.consumeClockRow row = .ok evidence') :
    ∃ block : BlockRow, row = .block block ∧ evidence.clock.get? block.blockOrdinal = none ∧
      (∀ last ∈ evidence.lastClockBlock, last < block.blockOrdinal) ∧
      (∀ last ∈ evidence.lastClockTime, last ≤ block.blockTime) ∧
      evidence' = { evidence with
        clock := evidence.clock.set block.blockOrdinal (block.transactionCount, block.blockTime)
        lastClockBlock := some block.blockOrdinal
        lastClockTime := some block.blockTime } := by
  cases row with
  | block block =>
    obtain ⟨hnew, h⟩ := check_bind_eq_ok.mp h
    obtain ⟨hfree, hlater⟩ := not_or.mp (refuseIf_eq_ok.mp hnew)
    obtain ⟨hblock, htime⟩ := not_or.mp hlater
    refine ⟨block, rfl, not_not.mp hfree, fun last hlast => ?_, fun last hlast => ?_,
      (Except.ok.inj h).symm⟩
    · exact not_le.mp fun hle => hblock ⟨last, hlast, hle⟩
    · exact not_lt.mp fun hlt => htime ⟨last, hlast, hlt⟩
  | launch row => cases h
  | trade row => cases h
  | lifecycle row => cases h

/-- A row stands in a block of the clock, below its count and at its time. -/
theorem crossCheckRow_eq_ok {row : Row} {u : Unit} (h : evidence.crossCheckRow row = .ok u) :
    ∃ (block transaction : Nat) (expected : Nat × Nat), row.cell "block_ordinal" = .integer block ∧
      row.cell "transaction_index" = .integer transaction ∧
      evidence.clock.get? block = some expected ∧ transaction < expected.1 ∧
      datetimeNs (row.cell "block_time") = .ok expected.2 := by
  obtain ⟨block, hblock, h⟩ := bind_eq_ok.mp h
  obtain ⟨transaction, htransaction, h⟩ := bind_eq_ok.mp h
  cases hexpected : evidence.clock.get? block with
  | none =>
    rw [hexpected] at h
    cases h
  | some expected =>
    rw [hexpected] at h
    obtain ⟨hcount, h⟩ := check_bind_eq_ok.mp h
    obtain ⟨time, htime, h⟩ := bind_eq_ok.mp h
    obtain rfl := not_not.mp (refuseIf_eq_ok.mp h)
    exact ⟨block, transaction, expected, integer_eq_ok.mp hblock, integer_eq_ok.mp htransaction,
      hexpected, not_le.mp (refuseIf_eq_ok.mp hcount), htime⟩

/-! ## Launches -/

/-- An excluded launch changes nothing, an eligible one is new. -/
theorem consumeLaunchRow_eq_ok {row : Row} (h : evidence.consumeLaunchRow row = .ok evidence') :
    (row.cell "mayhem_mode" = .integer 1 ∧ evidence' = evidence) ∨
      (row.cell "mayhem_mode" ≠ .integer 1 ∧
        ∃ signature mint creator creationUser curve tokenProgram cashback at_,
          sourceText (row.cell "signature") = .ok signature ∧
          sourceText (row.cell "mint") = .ok mint ∧
          sourceText (row.cell "curve_address") = .ok curve ∧
          sourceText (row.cell "token_program") = .ok tokenProgram ∧
          integer (row.cell "cashback_enabled") = .ok cashback ∧
          rowPlace row "block_ordinal" "transaction_index" "raw_instruction_index" = .ok at_ ∧
          evidence.launches.get? mint = none ∧
          evidence' = { evidence with
            launches := evidence.launches.set mint
              ⟨signature, mint, creator, creationUser, curve, tokenProgram, cashback, at_,
                PUMPFUN_INITIAL_VIRTUAL_TOKEN_RESERVES, PUMPFUN_INITIAL_VIRTUAL_SOL_RESERVES, none,
                none, none, false⟩ }) := by
  obtain ⟨mayhem, hmayhem, h⟩ := bind_eq_ok.mp h
  by_cases hone : mayhem = 1
  · rw [if_pos hone] at h
    rw [hone] at hmayhem
    exact .inl ⟨integer_eq_ok.mp hmayhem, (Except.ok.inj h).symm⟩
  · rw [if_neg hone] at h
    obtain ⟨signature, hsignature, h⟩ := bind_eq_ok.mp h
    obtain ⟨mint, hmint, h⟩ := bind_eq_ok.mp h
    obtain ⟨creator, -, h⟩ := bind_eq_ok.mp h
    obtain ⟨creationUser, -, h⟩ := bind_eq_ok.mp h
    obtain ⟨curve, hcurve, h⟩ := bind_eq_ok.mp h
    obtain ⟨tokenProgram, hprogram, h⟩ := bind_eq_ok.mp h
    obtain ⟨cashback, hcashback, h⟩ := bind_eq_ok.mp h
    obtain ⟨at_, hat, h⟩ := bind_eq_ok.mp h
    obtain ⟨hnew, h⟩ := check_bind_eq_ok.mp h
    refine .inr ⟨fun hcell => hone (integer_unique hmayhem (m := 1) hcell), signature, mint, creator,
      creationUser, curve, tokenProgram, cashback, at_, hsignature, hmint, hcurve, hprogram,
      hcashback, hat, not_not.mp (refuseIf_eq_ok.mp hnew), (Except.ok.inj h).symm⟩

/-! ## The launch a row names -/

theorem launchOf_eq_ok {row : Row} {creationMatches : Row → LaunchState → Except LiveFault Bool}
    {fault : LiveFault} {found : String × LaunchState}
    (h : evidence.launchOf row creationMatches fault = .ok found) :
    sourceText (row.cell "mint") = .ok found.1 ∧ evidence.launches.get? found.1 = some found.2 ∧
      creationMatches row found.2 = .ok true := by
  obtain ⟨mint, hmint, h⟩ := bind_eq_ok.mp h
  cases hlaunch : evidence.launches.get? mint with
  | none =>
    rw [hlaunch] at h
    cases h
  | some launch =>
    rw [hlaunch] at h
    obtain ⟨holds, hholds, h⟩ := bind_eq_ok.mp h
    obtain ⟨htrue, h⟩ := check_bind_eq_ok.mp h
    obtain rfl := Except.ok.inj h
    exact ⟨hmint, hlaunch, (Bool.not_eq_false _).mp (refuseIf_eq_ok.mp htrue) ▸ hholds⟩

/-- What both kinds of rows say of the creation of their mint. -/
structure CreationReads (row : Row) (launch : LaunchState) : Prop where
  curve : sourceText (row.cell "curve_address") = .ok launch.curve
  tokenProgram : sourceText (row.cell "token_program") = .ok launch.tokenProgram
  cashback : integer (row.cell "cashback_enabled") = .ok launch.cashbackEnabled

theorem tradeCreation_reads {row : Row} {launch : LaunchState}
    (h : tradeCreationMatches row launch = .ok true) : CreationReads row launch := by
  rw [tradeCreationMatches, allOk_eq_true] at h
  simp only [List.forall_mem_cons] at h
  obtain ⟨-, -, -, hcurve, hprogram, hcashback, -⟩ := h
  exact ⟨map_beq_eq_ok.mp hcurve, map_beq_eq_ok.mp hprogram, map_beq_eq_ok.mp hcashback⟩

theorem lifecycleCreation_reads {row : Row} {launch : LaunchState}
    (h : lifecycleCreationMatches row launch = .ok true) : CreationReads row launch := by
  rw [lifecycleCreationMatches, allOk_eq_true] at h
  simp only [List.forall_mem_cons] at h
  obtain ⟨-, hcurve, hprogram, hcashback, -⟩ := h
  exact ⟨map_beq_eq_ok.mp hcurve, map_beq_eq_ok.mp hprogram, map_beq_eq_ok.mp hcashback⟩

/-! ## Trades -/

/-- What the accumulator keeps of a terminal trade. -/
def terminalOf (trade : TradeRow) (raw : Nat) : TerminalTrade :=
  ⟨trade.blockOrdinal, trade.transactionIndex, raw, trade.signature,
    trade.virtualSolReservesLamports⟩

/-- What an accepted trade had to satisfy, and the launch after it. -/
structure TradeApplied (launch launch' : LaunchState) (trade : TradeRow) (raw : Nat) : Prop where
  after_creation : launch.creationPosition <
    Source.place trade.blockOrdinal trade.transactionIndex raw
  after_last : ∀ last ∈ launch.lastTradePosition,
    last < Source.place trade.blockOrdinal trade.transactionIndex raw
  active : launch.terminal = none
  step : TradeStep launch.virtualToken launch.virtualSol trade
  terminal_buy : Terminal trade → trade.side = "BUY"
  bundled : trade.signature = launch.signature →
    (trade.blockOrdinal, trade.transactionIndex) =
      (launch.creationPosition.1, launch.creationPosition.2.1)
  result : launch' = { launch with
    virtualToken := trade.virtualTokenReservesAtomic
    virtualSol := trade.virtualSolReservesLamports
    lastTradePosition := some (Source.place trade.blockOrdinal trade.transactionIndex raw)
    terminal := if Terminal trade then some (terminalOf trade raw) else none }

theorem expectedReserves_eq_ok {launch : LaunchState} {direction : String} {base quoteAmount : Nat}
    {expected : Int × Int} (h : expectedReserves launch direction base quoteAmount = .ok expected) :
    (direction = "buy" ∧
        expected = ((launch.virtualToken : Int) - base, (launch.virtualSol : Int) + quoteAmount)) ∨
      (direction = "sell" ∧
        expected = ((launch.virtualToken : Int) + base, (launch.virtualSol : Int) - quoteAmount)) := by
  rw [expectedReserves] at h
  by_cases hbuy : direction = "buy"
  · rw [if_pos hbuy] at h
    exact .inl ⟨hbuy, (Except.ok.inj h).symm⟩
  · rw [if_neg hbuy] at h
    by_cases hsell : direction = "sell"
    · rw [if_pos hsell] at h
      exact .inr ⟨hsell, (Except.ok.inj h).symm⟩
    · rw [if_neg hsell] at h
      cases h

/-- The reserves of a row, when they are the expected ones. -/
theorem tradeStep_of_expected {launch : LaunchState} {row : Row} {trade : TradeRow} {raw : Nat}
    {direction : String} {expected : Int × Int} (hreads : TradeReads row trade raw)
    (hdirection : sourceText (row.cell "direction") = .ok direction)
    (h : expectedReserves launch direction trade.baseAmountAtomic trade.quoteAmountAtomic =
      .ok expected)
    (hexpected : expected = ((trade.virtualTokenReservesAtomic : Int),
      (trade.virtualSolReservesLamports : Int))) :
    TradeStep launch.virtualToken launch.virtualSol trade := by
  refine ⟨?_, hreads.token_offset, hreads.sol_offset⟩
  have hside : (direction = "buy" ∧ trade.side = "BUY") ∨
      (direction = "sell" ∧ trade.side = "SELL") := by
    rcases hreads.direction with ⟨hread, hside⟩ | ⟨hread, hside⟩
    · exact .inl ⟨Except.ok.inj (hdirection.symm.trans hread), hside⟩
    · exact .inr ⟨Except.ok.inj (hdirection.symm.trans hread), hside⟩
  rcases expectedReserves_eq_ok h with ⟨hbuy, hreserves⟩ | ⟨hsell, hreserves⟩
  · rcases hside with ⟨-, hside⟩ | ⟨hsell, -⟩
    · rw [hexpected] at hreserves
      obtain ⟨htoken, hsol⟩ := Prod.mk.inj hreserves
      exact .inl ⟨hside, by omega, by omega⟩
    · rw [hbuy] at hsell
      exact absurd hsell (by decide)
  · rcases hside with ⟨hbuy, -⟩ | ⟨-, hside⟩
    · rw [hsell] at hbuy
      exact absurd hbuy (by decide)
    · rw [hexpected] at hreserves
      obtain ⟨htoken, hsol⟩ := Prod.mk.inj hreserves
      exact .inr ⟨hside, by omega, by omega⟩

theorem applyTrade_eq_ok {launch launch' : LaunchState} {row : Row} {trade : TradeRow} {raw : Nat}
    (hreads : TradeReads row trade raw) (h : applyTrade launch row = .ok launch') :
    TradeApplied launch launch' trade raw := by
  obtain ⟨block, hblock, h⟩ := bind_eq_ok.mp h
  obtain rfl := integer_unique hblock hreads.at_.block
  obtain ⟨transaction, htransaction, h⟩ := bind_eq_ok.mp h
  obtain rfl := integer_unique htransaction hreads.at_.transaction
  obtain ⟨instruction, hinstruction, h⟩ := bind_eq_ok.mp h
  obtain rfl := integer_unique hinstruction hreads.at_.instruction
  obtain ⟨hplace, h⟩ := check_bind_eq_ok.mp h
  obtain ⟨hactive, h⟩ := check_bind_eq_ok.mp h
  obtain ⟨direction, hdirection, h⟩ := bind_eq_ok.mp h
  obtain ⟨base, hbase, h⟩ := bind_eq_ok.mp h
  obtain rfl := integer_unique hbase hreads.base
  obtain ⟨quoteAmount, hquote, h⟩ := bind_eq_ok.mp h
  obtain rfl := integer_unique hquote hreads.quoteAmount
  obtain ⟨virtualToken, htoken, h⟩ := bind_eq_ok.mp h
  obtain rfl := integer_unique htoken hreads.virtualToken
  obtain ⟨virtualSol, hsol, h⟩ := bind_eq_ok.mp h
  obtain rfl := integer_unique hsol hreads.virtualSol
  obtain ⟨expected, hreserves, h⟩ := bind_eq_ok.mp h
  obtain ⟨hexpected, h⟩ := check_bind_eq_ok.mp h
  obtain ⟨signature, hsignature, h⟩ := bind_eq_ok.mp h
  obtain rfl := Except.ok.inj (hsignature.symm.trans hreads.signature)
  obtain ⟨hbundled, h⟩ := check_bind_eq_ok.mp h
  obtain ⟨hbuy, h⟩ := check_bind_eq_ok.mp h
  obtain ⟨hcreation, hlast⟩ := not_or.mp (refuseIf_eq_ok.mp hplace)
  have hnone := not_not.mp (refuseIf_eq_ok.mp hactive)
  refine ⟨not_le.mp hcreation, fun last hmem => not_le.mp fun hle => hlast ⟨last, hmem, hle⟩, hnone,
    tradeStep_of_expected hreads hdirection hreserves (not_not.mp (refuseIf_eq_ok.mp hexpected)),
    fun hterminal => ?_, fun hsame => ?_, ?_⟩
  · have hdirections : direction = "buy" := by
      by_contra hne
      exact refuseIf_eq_ok.mp hbuy ⟨hterminal, hne⟩
    rcases hreads.direction with ⟨-, hside⟩ | ⟨hread, -⟩
    · exact hside
    · rw [hdirection, hdirections] at hread
      exact absurd (Except.ok.inj hread) (by decide)
  · by_contra hne
    exact refuseIf_eq_ok.mp hbundled ⟨hsame, .inl hne⟩
  · rw [← Except.ok.inj h, hnone]
    rfl

/-! ## Completions and migrations -/

/-- What an accepted completion or migration had to satisfy, and the launch after it. -/
inductive LifecycleApplied (launch : LaunchState) (row : LifecycleRow) : LaunchState → Prop where
  | completed (terminal : TerminalTrade) (hkind : row.lifecycleKind = .completed)
      (hterminal : launch.terminal = some terminal) (hnew : launch.completionPosition = none)
      (hplace : row.place =
        Source.place terminal.block terminal.transaction (terminal.rawInstruction * 2 + 1))
      (hsignature : row.signature = terminal.signature)
      (hsol : row.virtualSolReservesLamports = terminal.virtualSol) :
      LifecycleApplied launch row { launch with completionPosition := some row.place }
  | migrated (completion : Place) (hkind : row.lifecycleKind = .migrated)
      (hcompletion : launch.completionPosition = some completion) (hlater : completion < row.place)
      (hnew : launch.migrated = false) :
      LifecycleApplied launch row { launch with migrated := true }

theorem applyLifecycle_eq_ok {launch launch' : LaunchState} {row : LifecycleRow}
    (h : applyLifecycle launch row = .ok launch') :
    row.venue = launch.curve ∧ LifecycleApplied launch row launch' := by
  obtain ⟨hvenue, h⟩ := check_bind_eq_ok.mp h
  refine ⟨not_not.mp (refuseIf_eq_ok.mp hvenue), ?_⟩
  cases hkind : row.lifecycleKind with
  | active =>
    rw [hkind] at h
    cases h
  | completed =>
    rw [hkind] at h
    rcases Option.eq_none_or_eq_some launch.terminal with hterminal | ⟨terminal, hterminal⟩
    · rw [hterminal] at h
      cases h
    · rw [hterminal] at h
      obtain ⟨hnew, h⟩ := check_bind_eq_ok.mp h
      obtain ⟨hsame, h⟩ := check_bind_eq_ok.mp h
      obtain ⟨hplace, hrest⟩ := not_or.mp (refuseIf_eq_ok.mp hsame)
      obtain ⟨hsignature, hsol⟩ := not_or.mp hrest
      rw [← Except.ok.inj h, ← hterminal]
      exact .completed terminal hkind hterminal (not_not.mp (refuseIf_eq_ok.mp hnew))
        (not_not.mp hplace) (not_not.mp hsignature) (not_not.mp hsol)
  | migrated =>
    rw [hkind] at h
    obtain ⟨hlater, h⟩ := check_bind_eq_ok.mp h
    obtain ⟨hall, hnew⟩ := not_or.mp (refuseIf_eq_ok.mp hlater)
    obtain rfl := Except.ok.inj h
    rcases Option.eq_none_or_eq_some launch.completionPosition with
      hcompletion | ⟨completion, hcompletion⟩
    · rw [hcompletion] at hall
      exact absurd (fun completion hmem => absurd hmem (Option.not_mem_none completion)) hall
    · refine .migrated completion hkind hcompletion (not_le.mp fun hle => hall ?_)
        ((Bool.not_eq_true _).mp hnew)
      intro other hmem
      rw [hcompletion] at hmem
      obtain rfl := Option.mem_some.mp hmem
      exact hle
  | unknown =>
    rw [hkind] at h
    cases h

end EvidenceAccumulator

end Source

end OnchainBacktest
