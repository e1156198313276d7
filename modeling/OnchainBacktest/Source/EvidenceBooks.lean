import OnchainBacktest.Source.MintHistory

/-!
# The books of a run

What the accumulator has consumed against what it keeps: the block clock, the launches with the
history of each mint, and the place of every row in a block of the clock.  One row of each stream
keeps the books (`MintBooks.of_launch`, `of_trade`, `of_lifecycle`, `ClockBooks.of_block`), and from
them a whole batch does (`Evidenced.of_batch`).
-/

set_option autoImplicit false

namespace OnchainBacktest

namespace Source

open Checked EvidenceAccumulator

/-! ## The clock -/

/-- The clock the accumulator keeps is the produced blocks, in order and in time. -/
structure ClockBooks (evidence : EvidenceAccumulator) (clock : List BlockRow) : Prop where
  recorded : ∀ block expected, evidence.clock.get? block = some expected →
    ∃ row ∈ clock, row.blockOrdinal = block ∧ (row.transactionCount, row.blockTime) = expected
  last_block : ∀ row ∈ clock, ∃ last ∈ evidence.lastClockBlock, row.blockOrdinal ≤ last
  last_time : ∀ row ∈ clock, ∃ last ∈ evidence.lastClockTime, row.blockTime ≤ last
  in_order : (clock.map BlockRow.blockOrdinal).Pairwise (· < ·)
  in_time : (clock.map BlockRow.blockTime).Pairwise (· ≤ ·)

theorem ClockBooks.same {evidence evidence' : EvidenceAccumulator} {clock : List BlockRow}
    (h : ClockBooks evidence clock) (hclock : evidence'.clock = evidence.clock)
    (hblock : evidence'.lastClockBlock = evidence.lastClockBlock)
    (htime : evidence'.lastClockTime = evidence.lastClockTime) : ClockBooks evidence' clock := by
  refine ⟨?_, ?_, ?_, h.in_order, h.in_time⟩
  · rw [hclock]
    exact h.recorded
  · rw [hblock]
    exact h.last_block
  · rw [htime]
    exact h.last_time

theorem ClockBooks.of_block {evidence evidence' : EvidenceAccumulator} {clock : List BlockRow}
    {block : BlockRow} (h : ClockBooks evidence clock)
    (hrow : evidence.consumeClockRow (.block block) = .ok evidence') :
    ClockBooks evidence' (clock ++ [block]) ∧ evidence'.launches = evidence.launches := by
  obtain ⟨found, hfound, hnew, hlater, htime, rfl⟩ := consumeClockRow_eq_ok hrow
  obtain rfl := NormalizedRow.block.inj hfound
  refine ⟨⟨fun ordinal expected hget => ?_, ?_, ?_, ?_, ?_⟩, rfl⟩
  · by_cases hsame : ordinal = block.blockOrdinal
    · subst hsame
      rw [Dict.get?_set_self] at hget
      exact ⟨block, List.mem_append_right _ List.mem_cons_self, rfl, Option.some.inj hget⟩
    · rw [Dict.get?_set_of_ne _ _ hsame] at hget
      obtain ⟨row, hmem, hread⟩ := h.recorded ordinal expected hget
      exact ⟨row, List.mem_append_left _ hmem, hread⟩
  · refine forall_mem_concat (fun row hmem => ?_) ⟨_, rfl, le_rfl⟩
    obtain ⟨last, hlast, hle⟩ := h.last_block row hmem
    exact ⟨_, rfl, hle.trans (hlater last hlast).le⟩
  · refine forall_mem_concat (fun row hmem => ?_) ⟨_, rfl, le_rfl⟩
    obtain ⟨last, hlast, hle⟩ := h.last_time row hmem
    exact ⟨_, rfl, hle.trans (htime last hlast)⟩
  · refine pairwise_concat_map h.in_order fun row hmem => ?_
    obtain ⟨last, hlast, hle⟩ := h.last_block row hmem
    exact hle.trans_lt (hlater last hlast)
  · rw [List.map_append, List.map_singleton, List.pairwise_append]
    refine ⟨h.in_time, List.pairwise_singleton _ _, fun a ha b hb => ?_⟩
    obtain ⟨row, hmem, rfl⟩ := List.mem_map.mp ha
    obtain ⟨last, hlast, hle⟩ := h.last_time row hmem
    rw [List.mem_singleton.mp hb]
    exact hle.trans (htime last hlast)

/-- A row stands in a produced block, below its transaction count and at its time. -/
def Clocked (clock : List BlockRow) (row : Row) : Prop :=
  ∃ block ∈ clock, row.cell "block_ordinal" = .integer block.blockOrdinal ∧
    datetimeNs (row.cell "block_time") = .ok block.blockTime ∧
    ∃ transaction : Nat, row.cell "transaction_index" = .integer transaction ∧
      transaction < block.transactionCount

theorem Clocked.of_crossCheck {evidence : EvidenceAccumulator} {clock : List BlockRow} {row : Row}
    (h : ClockBooks evidence clock) (hrow : evidence.crossCheckRow row = .ok ()) :
    Clocked clock row := by
  obtain ⟨block, transaction, expected, hblock, htransaction, hget, hcount, htime⟩ :=
    crossCheckRow_eq_ok hrow
  obtain ⟨produced, hmem, rfl, rfl⟩ := h.recorded block expected hget
  exact ⟨produced, hmem, hblock, htime, transaction, htransaction, hcount⟩

theorem Clocked.mono {clock clock' : List BlockRow} {row : Row} (h : Clocked clock row)
    (hsub : clock ⊆ clock') : Clocked clock' row := by
  obtain ⟨block, hmem, hread⟩ := h
  exact ⟨block, hsub hmem, hread⟩

/-! ## The mints -/

def tradesOf (mint : String) (trades : List TradeRow) : List TradeRow :=
  trades.filter fun trade => trade.mint = mint

def lifecycleOf (mint : String) (rows : List LifecycleRow) : List LifecycleRow :=
  rows.filter fun row => row.mint = mint

/-- Every mint was launched once, and its record stands for its history. -/
structure MintBooks (records : Dict String LaunchState) (launches : List LaunchRow)
    (trades : List TradeRow) (lifecycle : List LifecycleRow) : Prop where
  known : ∀ mint state, records.get? mint = some state → ∃ launch ∈ launches, launch.mint = mint
  once : (launches.map LaunchRow.mint).Nodup
  record : ∀ launch ∈ launches, ∃ state, records.get? launch.mint = some state ∧
    MintRecord launch state (tradesOf launch.mint trades) (lifecycleOf launch.mint lifecycle)
  traded : ∀ trade ∈ trades, ∃ launch ∈ launches, launch.mint = trade.mint
  cycled : ∀ row ∈ lifecycle, ∃ launch ∈ launches, launch.mint = row.mint

section Mints

variable {records : Dict String LaunchState} {launches : List LaunchRow} {trades : List TradeRow}
  {lifecycle : List LifecycleRow}

theorem MintBooks.unlaunched (h : MintBooks records launches trades lifecycle) {mint : String}
    (hnew : records.get? mint = none) : ∀ launch ∈ launches, launch.mint ≠ mint := by
  intro launch hmem hmint
  obtain ⟨state, hstate, -⟩ := h.record launch hmem
  rw [hmint, hnew] at hstate
  exact absurd hstate.symm (Option.some_ne_none state)

/-- **An eligible launch opens the record of its mint.** -/
theorem MintBooks.of_launch (h : MintBooks records launches trades lifecycle) {launch : LaunchRow}
    {state : LaunchState} (hnew : records.get? launch.mint = none)
    (hstate : MintRecord launch state [] []) :
    MintBooks (records.set launch.mint state) (launches ++ [launch]) trades lifecycle := by
  have hother := h.unlaunched hnew
  have htrades : tradesOf launch.mint trades = [] := by
    refine List.filter_eq_nil_iff.mpr fun trade hmem => ?_
    obtain ⟨other, hlaunch, hmint⟩ := h.traded trade hmem
    rw [decide_eq_true_eq, ← hmint]
    exact hother other hlaunch
  have hlifecycle : lifecycleOf launch.mint lifecycle = [] := by
    refine List.filter_eq_nil_iff.mpr fun row hmem => ?_
    obtain ⟨other, hlaunch, hmint⟩ := h.cycled row hmem
    rw [decide_eq_true_eq, ← hmint]
    exact hother other hlaunch
  refine ⟨fun mint found hget => ?_, ?_, forall_mem_concat (fun other hmem => ?_) ?_,
    fun trade hmem => ?_, fun row hmem => ?_⟩
  · by_cases hsame : mint = launch.mint
    · exact ⟨launch, List.mem_append_right _ List.mem_cons_self, hsame.symm⟩
    · rw [Dict.get?_set_of_ne _ _ hsame] at hget
      obtain ⟨other, hmem, hmint⟩ := h.known mint found hget
      exact ⟨other, List.mem_append_left _ hmem, hmint⟩
  · rw [List.map_append, List.map_singleton]
    refine h.once.append (List.nodup_singleton _) fun mint hmem hsame => ?_
    obtain ⟨other, hlaunch, rfl⟩ := List.mem_map.mp hmem
    exact hother other hlaunch (List.mem_singleton.mp hsame)
  · obtain ⟨found, hget, hrecord⟩ := h.record other hmem
    exact ⟨found, by rw [Dict.get?_set_of_ne _ _ (hother other hmem), hget], hrecord⟩
  · rw [htrades, hlifecycle]
    exact ⟨state, Dict.get?_set_self _ _ _, hstate⟩
  · obtain ⟨other, hlaunch, hmint⟩ := h.traded trade hmem
    exact ⟨other, List.mem_append_left _ hlaunch, hmint⟩
  · obtain ⟨other, hlaunch, hmint⟩ := h.cycled row hmem
    exact ⟨other, List.mem_append_left _ hlaunch, hmint⟩

/-- A launch that shares its mint with one of the books is that one. -/
theorem MintBooks.unique (h : MintBooks records launches trades lifecycle)
    {launch other : LaunchRow} (hlaunch : launch ∈ launches) (hother : other ∈ launches)
    (hmint : other.mint = launch.mint) : other = launch :=
  List.inj_on_of_nodup_map h.once hother hlaunch hmint

/-- The record of a mint that is rewritten, and the rows of the mint with it. -/
theorem MintBooks.rewritten (h : MintBooks records launches trades lifecycle) {launch : LaunchRow}
    {state : LaunchState} {trades' : List TradeRow} {lifecycle' : List LifecycleRow}
    (hlaunch : launch ∈ launches)
    (hstate : MintRecord launch state (tradesOf launch.mint trades')
      (lifecycleOf launch.mint lifecycle'))
    (htrades : ∀ mint, mint ≠ launch.mint → tradesOf mint trades' = tradesOf mint trades)
    (hlifecycle : ∀ mint, mint ≠ launch.mint →
      lifecycleOf mint lifecycle' = lifecycleOf mint lifecycle)
    (htraded : ∀ trade ∈ trades', ∃ launch ∈ launches, launch.mint = trade.mint)
    (hcycled : ∀ row ∈ lifecycle', ∃ launch ∈ launches, launch.mint = row.mint) :
    MintBooks (records.set launch.mint state) launches trades' lifecycle' := by
  refine ⟨fun mint found hget => ?_, h.once, fun other hmem => ?_, htraded, hcycled⟩
  · by_cases hsame : mint = launch.mint
    · exact ⟨launch, hlaunch, hsame.symm⟩
    · rw [Dict.get?_set_of_ne _ _ hsame] at hget
      exact h.known mint found hget
  · by_cases hsame : other.mint = launch.mint
    · obtain rfl := h.unique hlaunch hmem hsame
      exact ⟨state, Dict.get?_set_self _ _ _, hstate⟩
    · obtain ⟨found, hget, hrecord⟩ := h.record other hmem
      rw [htrades _ hsame, hlifecycle _ hsame]
      exact ⟨found, by rw [Dict.get?_set_of_ne _ _ hsame, hget], hrecord⟩

/-- The launch a row of a mint belongs to, with its record. -/
theorem MintBooks.found (h : MintBooks records launches trades lifecycle) {mint : String}
    {state : LaunchState} (hget : records.get? mint = some state) :
    ∃ launch ∈ launches, launch.mint = mint ∧
      MintRecord launch state (tradesOf mint trades) (lifecycleOf mint lifecycle) := by
  obtain ⟨launch, hmem, rfl⟩ := h.known mint state hget
  obtain ⟨found, hfound, hrecord⟩ := h.record launch hmem
  obtain rfl := Option.some.inj (hfound.symm.trans hget)
  exact ⟨launch, hmem, rfl, hrecord⟩

theorem tradesOf_concat {mint : String} {trade : TradeRow} :
    tradesOf mint (trades ++ [trade]) =
      tradesOf mint trades ++ if trade.mint = mint then [trade] else [] := by
  by_cases hsame : trade.mint = mint <;> simp [tradesOf, List.filter_append, hsame]

theorem lifecycleOf_concat {mint : String} {row : LifecycleRow} :
    lifecycleOf mint (lifecycle ++ [row]) =
      lifecycleOf mint lifecycle ++ if row.mint = mint then [row] else [] := by
  by_cases hsame : row.mint = mint <;> simp [lifecycleOf, List.filter_append, hsame]

/-- A row that tells of the creation of its mint as it was reads as the mode of the launch. -/
theorem MintRecord.same_mode {launch : LaunchRow} {state : LaunchState} {row : Row} {read : PumpMode}
    (h : MintRecord launch state trades lifecycle) (hcreation : CreationReads row state)
    (hread : Source.mode (row.cell "token_program") (row.cell "cashback_enabled") = .ok read) :
    read = launch.mode := by
  obtain ⟨other, hother, hmode⟩ := h.mode
  exact mode_unique hread hmode hcreation.tokenProgram hother.tokenProgram hcreation.cashback
    hother.cashback

variable {evidence evidence' : EvidenceAccumulator}

/-- **A trade row extends the trades of its mint.** -/
theorem MintBooks.of_trade (h : MintBooks evidence.launches launches trades lifecycle) {row : Row}
    {trade : TradeRow} {raw : Nat} (hreads : TradeReads row trade raw)
    (hrow : evidence.consumeTradeRow row = .ok evidence') :
    MintBooks evidence'.launches launches (trades ++ [trade]) lifecycle ∧
      evidence' = { evidence with launches := evidence'.launches } := by
  obtain ⟨found, hfound, hrow⟩ := bind_eq_ok.mp hrow
  obtain ⟨state', happlied, hrow⟩ := bind_eq_ok.mp hrow
  obtain rfl := Except.ok.inj hrow
  obtain ⟨hmint, hget, hmatches⟩ := launchOf_eq_ok hfound
  have hsame := Except.ok.inj (hmint.symm.trans hreads.mint)
  obtain ⟨launch, hlaunch, hnamed, hrecord⟩ := h.found hget
  have hcreation := tradeCreation_reads hmatches
  have hcurve : trade.venue = found.2.curve :=
    Except.ok.inj (hreads.venue.symm.trans hcreation.curve)
  have htrade := hrecord.of_trade (applyTrade_eq_ok hreads happlied) hreads.event hcurve
    (hrecord.same_mode hcreation hreads.mode)
  refine ⟨?_, rfl⟩
  rw [← hnamed] at htrade ⊢
  refine h.rewritten hlaunch ?_ (fun mint hne => ?_) (fun mint _ => rfl)
    (forall_mem_concat h.traded ⟨launch, hlaunch, hnamed.trans hsame⟩) h.cycled
  · rw [tradesOf_concat, if_pos (hsame.symm.trans hnamed.symm)]
    exact htrade
  · rw [tradesOf_concat, if_neg, List.append_nil]
    intro hother
    exact hne (hother.symm.trans (hsame.symm.trans hnamed.symm))

/-- What a lifecycle row reads as, whichever kind it is of. -/
structure LifecycleRowReads (row : Row) (output : LifecycleRow) : Prop where
  block : row.cell "block_ordinal" = .integer output.blockOrdinal
  transaction : row.cell "transaction_index" = .integer output.transactionIndex
  signature : sourceText (row.cell "signature") = .ok output.signature
  mint : sourceText (row.cell "mint") = .ok output.mint
  venue : sourceText (row.cell "curve_address") = .ok output.venue
  mode : mode (row.cell "token_program") (row.cell "cashback_enabled") = .ok output.mode

/-- **A lifecycle row extends the lifecycle of its mint.** -/
theorem MintBooks.of_lifecycle (h : MintBooks evidence.launches launches trades lifecycle) {row : Row}
    {output : LifecycleRow} (hreads : LifecycleRowReads row output)
    (hrow : evidence.consumeLifecycleRow (row, .lifecycle output) = .ok evidence') :
    MintBooks evidence'.launches launches trades (lifecycle ++ [output]) ∧
      evidence' = { evidence with launches := evidence'.launches } := by
  obtain ⟨found, hfound, hrow⟩ := bind_eq_ok.mp hrow
  obtain ⟨state', happlied, hrow⟩ := bind_eq_ok.mp hrow
  obtain rfl := Except.ok.inj hrow
  obtain ⟨hmint, hget, hmatches⟩ := launchOf_eq_ok hfound
  have hsame := Except.ok.inj (hmint.symm.trans hreads.mint)
  obtain ⟨launch, hlaunch, hnamed, hrecord⟩ := h.found hget
  have hcreation := lifecycleCreation_reads hmatches
  obtain ⟨hcurve, happlied⟩ := applyLifecycle_eq_ok happlied
  have hcycle := hrecord.of_lifecycle happlied hcurve (hrecord.same_mode hcreation hreads.mode)
  refine ⟨?_, rfl⟩
  rw [← hnamed] at hcycle ⊢
  refine h.rewritten hlaunch ?_ (fun mint _ => rfl) (fun mint hne => ?_) h.traded
    (forall_mem_concat h.cycled ⟨launch, hlaunch, hnamed.trans hsame⟩)
  · rw [lifecycleOf_concat, if_pos (hsame.symm.trans hnamed.symm)]
    exact hcycle
  · rw [lifecycleOf_concat, if_neg, List.append_nil]
    intro hother
    exact hne (hother.symm.trans (hsame.symm.trans hnamed.symm))

/-- An excluded launch opens nothing, and an eligible one the record of its mint. -/
theorem MintBooks.of_eligible (h : MintBooks evidence.launches launches trades lifecycle) {row : Row}
    {launch : LaunchRow} {raw : Nat} (hreads : LaunchReads row launch raw)
    (hrow : evidence.consumeLaunchRow row = .ok evidence') :
    MintBooks evidence'.launches (launches ++ [launch]) trades lifecycle ∧
      evidence' = { evidence with launches := evidence'.launches } := by
  rcases consumeLaunchRow_eq_ok hrow with ⟨hmayhem, -⟩ | ⟨-, signature, mint, creator, creationUser,
    curve, tokenProgram, cashback, at_, hsignature, hmint, hcurve, hprogram, hcashback, hat, hnew, rfl⟩
  · rw [hreads.mayhem] at hmayhem
    exact absurd hmayhem (by decide)
  · obtain rfl := Except.ok.inj (hmint.symm.trans hreads.mint)
    refine ⟨h.of_launch hnew ?_, rfl⟩
    refine mintRecord_launch ?_ ?_ ⟨hcurve, hprogram, hcashback⟩ hreads.mode ?_ rfl rfl
      rfl rfl rfl
    · exact Except.ok.inj (hsignature.symm.trans hreads.signature)
    · exact Except.ok.inj (hcurve.symm.trans hreads.venue)
    · rw [place_of_reads hreads.at_ hat, LaunchRow.place, hreads.event]
      rfl

end Mints

end Source

end OnchainBacktest
