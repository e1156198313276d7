import OnchainBacktest.Source.EvidenceRuns
import OnchainBacktest.Source.StaleMemory

/-!
# Rows across shard edges

A shard begins with a session of its own, so what a session remembers is lost at its edge.  Nothing
lost there matters: the rows of a later shard are of later blocks (`StaleMemory`), the clock goes on
at the block it expects, and only the time of the last block has to be looked after elsewhere.

`rowsIn` is what a source answers a query with, `shardReads` the rows of one shard, and
`whole_of_shards`, `shards_of_whole` say that reading shard after shard is reading the whole range.
-/

set_option autoImplicit false

namespace OnchainBacktest

namespace Source

open Checked

/-! ## Rows of a range -/

/-- The block a row is of. -/
def rowBlock (row : Row) : Option Nat :=
  match row.cell "block_ordinal" with
  | .integer n => if 0 ≤ n then some n.toNat else none
  | _ => none

theorem rowBlock_eq_some {row : Row} {n : Nat} :
    rowBlock row = some n ↔ row.cell "block_ordinal" = .integer n := by
  rw [rowBlock.eq_def]
  constructor
  · intro h
    split at h
    · rename_i i hi
      by_cases hnonneg : 0 ≤ i
      · rw [if_pos hnonneg] at h
        rw [hi, ← Option.some.inj h, Int.toNat_of_nonneg hnonneg]
      · rw [if_neg hnonneg] at h
        cases h
    · cases h
  · intro h
    rw [h]
    exact if_pos (Int.natCast_nonneg n)

/-- A row of one of the blocks from `lo` to below `hi`. -/
def InBlocks (lo hi : Nat) (row : Row) : Prop := ∃ n ∈ rowBlock row, lo ≤ n ∧ n < hi

instance inBlocks_decidable (lo hi : Nat) (row : Row) : Decidable (InBlocks lo hi row) :=
  inferInstanceAs (Decidable (∃ n ∈ rowBlock row, lo ≤ n ∧ n < hi))

def rowsIn (rows : List Row) (lo hi : Nat) : List Row := rows.filter (InBlocks lo hi)

/-- In the order of their blocks. -/
def InBlockOrder (rows : List Row) : Prop :=
  rows.Pairwise fun a b => ∀ x ∈ rowBlock a, ∀ y ∈ rowBlock b, x ≤ y

theorem rowsIn_split {rows : List Row} (horder : InBlockOrder rows) {lo mid hi : Nat}
    (hlo : lo ≤ mid) (hhi : mid ≤ hi) : rowsIn rows lo hi = rowsIn rows lo mid ++ rowsIn rows mid hi := by
  induction rows with
  | nil => rfl
  | cons row rest ih =>
    obtain ⟨hrow, hrest⟩ := List.pairwise_cons.mp horder
    rw [rowsIn, rowsIn, rowsIn, List.filter_cons, List.filter_cons, List.filter_cons]
    have htail := ih hrest
    rw [rowsIn, rowsIn, rowsIn] at htail
    by_cases hfront : InBlocks lo mid row
    · obtain ⟨n, hn, hge, hlt⟩ := hfront
      have hwhole : InBlocks lo hi row := ⟨n, hn, hge, hlt.trans_le hhi⟩
      have hback : ¬ InBlocks mid hi row := by
        rintro ⟨m, hm, hle, -⟩
        obtain rfl := Option.some.inj (hn.symm.trans hm)
        omega
      rw [if_pos (decide_eq_true hwhole), if_pos (decide_eq_true ⟨n, hn, hge, hlt⟩),
        if_neg (by rw [decide_eq_true_eq]; exact hback), htail, List.cons_append]
    · by_cases hback : InBlocks mid hi row
      · obtain ⟨n, hn, hge, hlt⟩ := hback
        have hwhole : InBlocks lo hi row := ⟨n, hn, hlo.trans hge, hlt⟩
        have hnone : rest.filter (InBlocks lo mid) = [] := by
          refine List.filter_eq_nil_iff.mpr fun other hother => ?_
          rw [decide_eq_true_eq]
          rintro ⟨m, hm, -, hlt'⟩
          have hle := hrow other hother n hn m hm
          omega
        rw [if_pos (decide_eq_true hwhole), if_neg (by rw [decide_eq_true_eq]; exact hfront),
          if_pos (decide_eq_true ⟨n, hn, hge, hlt⟩), htail, hnone, List.nil_append, List.nil_append]
      · have hout : ¬ InBlocks lo hi row := by
          rintro ⟨n, hn, hge, hlt⟩
          by_cases hbelow : n < mid
          · exact hfront ⟨n, hn, hge, hbelow⟩
          · exact hback ⟨n, hn, not_lt.mp hbelow, hlt⟩
        rw [if_neg (by rw [decide_eq_true_eq]; exact hout),
          if_neg (by rw [decide_eq_true_eq]; exact hfront),
          if_neg (by rw [decide_eq_true_eq]; exact hback), htail]

/-! ## Stale memories -/

/-- Nothing in memory is of a block from `block` on. -/
structure Stale (block : Nat) (state : RowState) : Prop where
  key : ∀ key ∈ state.lastOrderKey, keyBlock key < block
  launch : ∀ transaction ∈ state.lastLaunchTransaction, transaction.1 < block
  position : ∀ position ∈ state.lifecyclePosition, position.1 < block

theorem stale_start (range : BlockRange) (block : Nat) : Stale block (RowState.start range) :=
  ⟨fun key hkey => absurd hkey (Option.not_mem_none key),
    fun transaction hlast => absurd hlast (Option.not_mem_none transaction),
    fun position hlast => absurd hlast (Option.not_mem_none position)⟩

theorem Stale.mono {block later : Nat} {state : RowState} (h : Stale block state)
    (hle : block ≤ later) : Stale later state :=
  ⟨fun key hkey => (h.key key hkey).trans_le hle, fun t ht => (h.launch t ht).trans_le hle,
    fun p hp => (h.position p hp).trans_le hle⟩

/-- **What is lost at a shard edge does not matter.** -/
theorem Stale.agree {block : Nat} {s f : RowState} (hs : Stale block s) (hf : Stale block f) :
    Agree block s f where
  key := .inr ⟨hs.key, hf.key⟩
  launch := .inr ⟨hs.launch, hf.launch⟩
  lifecycle := .inr ⟨hs.position, hf.position⟩

/-- A row leaves memories of its own block. -/
theorem normalizeRow_stale {feeProfile : PumpFeeProfile} {stream : CapabilityStream}
    {range : BlockRange} {state state' : RowState} {row : Row} {output : Option NormalizedRow}
    {told : Option Observation} {block : Nat} (hstale : Stale block state)
    (hrow : ∀ n : Nat, row.cell "block_ordinal" = .integer n → n < block)
    (h : normalizeRow feeProfile stream range state row = .ok (state', output, told)) :
    Stale block state' := by
  cases stream with
  | blockClock =>
    rcases (normalizeBlock_eq_ok h).2 with ⟨_, -, -, -, ⟨seconds, -, -, rfl⟩, -⟩ | ⟨-, -, rfl⟩
    · exact ⟨hstale.key, hstale.launch, hstale.position⟩
    · exact ⟨hstale.key, hstale.launch, hstale.position⟩
  | tokenLaunch =>
    obtain ⟨n, transaction, raw, signature, mint, hplace, -, -, -, -, -, -, -, hcase⟩ :=
      normalizeLaunch_eq_ok h
    have hlt := hrow n hplace.block
    have hkey : ∀ key ∈ some (orderKey n transaction raw signature mint), keyBlock key < block := by
      rintro key ⟨⟩
      exact hlt
    have hlast : ∀ last ∈ some (n, transaction), last.1 < block := by
      rintro last ⟨⟩
      exact hlt
    rcases hcase with ⟨_, -, -, -, -, -, -, -, rfl⟩ | ⟨-, -, -, rfl⟩
    · exact ⟨hkey, hlast, hstale.position⟩
    · exact ⟨hkey, hlast, hstale.position⟩
  | pumpCurveTrade =>
    obtain ⟨trade, raw, hreads, -, -, -, -, -, -, -, -, rfl⟩ := normalizeTrade_eq_ok h
    refine ⟨?_, hstale.launch, hstale.position⟩
    rintro key ⟨⟩
    exact hrow trade.blockOrdinal hreads.at_.block
  | pumpCurveLifecycle =>
    obtain ⟨fields, kind, hreads, -, -, -, -, -, base, rfl, hkind⟩ := normalizeLifecycle_eq_ok h
    have hlt := hrow fields.block hreads.block
    have hbase : Stale block (RowState.startLifecyclePosition { state with
        lastOrderKey := some
          (orderKey fields.block fields.transaction kind fields.signature fields.mint) }
        fields.block fields.transaction) := by
      have hkey : ∀ key ∈ some (orderKey fields.block fields.transaction kind fields.signature
          fields.mint), keyBlock key < block := by
        rintro key ⟨⟩
        exact hlt
      rw [RowState.startLifecyclePosition]
      split
      · exact ⟨hkey, hstale.launch, hstale.position⟩
      · refine ⟨hkey, hstale.launch, ?_⟩
        rintro position ⟨⟩
        exact hlt
    rcases hkind with ⟨-, hcompletion⟩ | ⟨-, hmigration⟩
    · obtain ⟨raw, virtualSol, -, -, -, -, -, -, -, -, rfl⟩ := normalizeCompletion_eq_ok hcompletion
      exact ⟨hbase.key, hbase.launch, hbase.position⟩
    · obtain ⟨virtualSol, -, -, -, hmigration⟩ := normalizeMigration_eq_ok hmigration
      rcases hmigration with hderived | hstandalone
      · obtain ⟨raw, -, -, -, -, -, rfl⟩ := normalizeDerivedMigration_eq_ok hderived
        exact ⟨hbase.key, hbase.launch, hbase.position⟩
      · obtain ⟨-, -, -, rfl⟩ := normalizeStandaloneMigration_eq_ok hstandalone
        exact ⟨hbase.key, hbase.launch, hbase.position⟩

theorem rowsFrom_stale {scope : SessionScope} {rows : List Row} {block : Nat} {state : RowState}
    {after : RowState × List NormalizedRow × List Observation} (hstale : Stale block state)
    (hrows : ∀ row ∈ rows, ∀ n : Nat, row.cell "block_ordinal" = .integer n → n < block)
    (h : rowsFrom scope state rows = .ok after) : Stale block after.1 := by
  induction rows generalizing state after with
  | nil =>
    obtain rfl := Except.ok.inj h
    exact hstale
  | cons row rest ih =>
    obtain ⟨⟨state', output, told⟩, tail, houtcome, htail, rfl⟩ := rowsFrom_cons_eq_ok.mp h
    have hrest : Stale block tail.1 :=
      ih (normalizeRow_stale hstale (hrows row List.mem_cons_self) houtcome)
        (fun other hmem => hrows other (List.mem_cons_of_mem _ hmem)) htail
    exact hrest

/-! ## Rows of other streams -/

/-- **Rows from `block` on are read alike** from states that agree, whatever range they are read
under. -/
theorem rowsFrom_transfer {scope : SessionScope} (scope' : SessionScope) (hstream : scope.stream ≠ .blockClock)
    (hsame : scope'.stream = scope.stream) (hnormalizer : scope'.normalizer = scope.normalizer)
    {rows : List Row} {block : Nat} {s f : RowState}
    {after : RowState × List NormalizedRow × List Observation} (hagree : Agree block s f)
    (hrows : ∀ row ∈ rows, ∀ n : Nat, row.cell "block_ordinal" = .integer n →
      block ≤ n ∧ scope'.coveredRange.containsBlock n = true)
    (h : rowsFrom scope s rows = .ok after) :
    ∃ f', rowsFrom scope' f rows = .ok (f', after.2) := by
  induction rows generalizing s f after with
  | nil =>
    obtain rfl := Except.ok.inj h
    exact ⟨f, rfl⟩
  | cons row rest ih =>
    obtain ⟨⟨s', output, told⟩, tail, houtcome, htail, rfl⟩ := rowsFrom_cons_eq_ok.mp h
    have hrow := hrows row List.mem_cons_self
    have hnext : ∃ f', normalizeRow scope'.normalizer.feeProfile scope'.stream scope'.coveredRange f
        row = .ok (f', output, told) ∧ Agree block s' f' := by
      rw [hsame, hnormalizer]
      cases hcase : scope.stream with
      | blockClock => exact absurd hcase hstream
      | tokenLaunch =>
        rw [hcase] at houtcome
        exact normalizeLaunch_transfer hagree hrow houtcome
      | pumpCurveTrade =>
        rw [hcase] at houtcome
        exact normalizeTrade_transfer hagree hrow houtcome
      | pumpCurveLifecycle =>
        rw [hcase] at houtcome
        exact normalizeLifecycle_transfer hagree hrow houtcome
    obtain ⟨f', hf', hagree'⟩ := hnext
    obtain ⟨last, hlast⟩ := ih hagree' (fun other hmem => hrows other (List.mem_cons_of_mem _ hmem))
      htail
    exact ⟨last, rowsFrom_cons_eq_ok.mpr ⟨_, _, hf', hlast, rfl⟩⟩

/-! ## Rows of the clock -/

/-- The times of the produced blocks. -/
def producedTimes (normalized : List NormalizedRow) : List Nat :=
  (normalized.filterMap NormalizedRow.block?).map BlockRow.blockTime

theorem producedTimes_append {front back : List NormalizedRow} :
    producedTimes (front ++ back) = producedTimes front ++ producedTimes back := by
  simp [producedTimes, List.filterMap_append]

def NANOSECONDS : Nat := 1000000000

/-- A clock row looks at the block expected and at the time of the last one. -/
theorem normalizeBlock_transfer {s s' f : RowState} {row : Row} {output : Option NormalizedRow}
    {told : Option Observation} (hexpected : f.expectedBlock = s.expectedBlock)
    (htimes : ∀ last ∈ f.lastProducedBlockTime, ∀ time ∈ producedTimes output.toList,
      last * NANOSECONDS ≤ time)
    (h : normalizeBlock s row = .ok (s', output, told)) :
    ∃ f', normalizeBlock f row = .ok (f', output, told) ∧ f'.expectedBlock = s'.expectedBlock ∧
      ((output = none ∧ s'.lastProducedBlockTime = s.lastProducedBlockTime ∧
          f'.lastProducedBlockTime = f.lastProducedBlockTime) ∨
        f'.lastProducedBlockTime = s'.lastProducedBlockTime) := by
  obtain ⟨block, hblock, h⟩ := bind_eq_ok.mp h
  obtain ⟨hnext, h⟩ := check_bind_eq_ok.mp h
  obtain ⟨sources, hsources, h⟩ := bind_eq_ok.mp h
  obtain ⟨hsource, h⟩ := check_bind_eq_ok.mp h
  obtain ⟨variants, hvariants, h⟩ := bind_eq_ok.mp h
  obtain ⟨hvariant, h⟩ := check_bind_eq_ok.mp h
  obtain ⟨flagged, hflagged, h⟩ := bind_eq_ok.mp h
  obtain ⟨time, htime, h⟩ := bind_eq_ok.mp h
  obtain ⟨rawHash, hhash, h⟩ := bind_eq_ok.mp h
  obtain ⟨rawValidator, hvalidator, h⟩ := bind_eq_ok.mp h
  obtain ⟨rewards, hrewards, h⟩ := bind_eq_ok.mp h
  obtain ⟨transactionCount, hcount, h⟩ := bind_eq_ok.mp h
  rw [normalizeBlock, hblock, ok_bind, hexpected, hnext, ok_bind, hsources, ok_bind, hsource, ok_bind,
    hvariants, ok_bind, hvariant, ok_bind, hflagged, ok_bind, htime, ok_bind, hhash, ok_bind,
    hvalidator, ok_bind, hrewards, ok_bind, hcount, ok_bind]
  dsimp only at h ⊢
  split at h
  · rename_i hsentinel
    rw [if_pos hsentinel]
    obtain ⟨rfl, houtput⟩ := Prod.mk.inj (Except.ok.inj h)
    obtain ⟨rfl, rfl⟩ := Prod.mk.inj houtput
    exact ⟨_, rfl, rfl, .inl ⟨rfl, rfl, rfl⟩⟩
  · rename_i hsentinel
    rw [if_neg hsentinel]
    obtain ⟨hshape, h⟩ := check_bind_eq_ok.mp h
    obtain ⟨blockHash, hblockHash, h⟩ := bind_eq_ok.mp h
    obtain ⟨hlast, h⟩ := check_bind_eq_ok.mp h
    obtain ⟨rfl, houtput⟩ := Prod.mk.inj (Except.ok.inj h)
    obtain ⟨rfl, rfl⟩ := Prod.mk.inj houtput
    have hnewer : ¬ ∃ last ∈ f.lastProducedBlockTime, time.1 < last := by
      rintro ⟨last, hmem, hlt⟩
      have hle : last * NANOSECONDS ≤ time.2 := htimes last hmem time.2 List.mem_cons_self
      rw [(blockTime_eq_ok htime).1] at hle
      exact absurd (Nat.le_of_mul_le_mul_right hle (by decide)) (not_le.mpr hlt)
    rw [hshape, ok_bind, hblockHash, ok_bind, refuseIf_of_not hnewer, ok_bind]
    exact ⟨_, rfl, rfl, .inr rfl⟩

/-- The block produced after another one is not earlier. -/
theorem normalizeBlock_time {s s' : RowState} {row : Row} {output : Option NormalizedRow}
    {told : Option Observation} (h : normalizeBlock s row = .ok (s', output, told)) :
    ∀ last ∈ s.lastProducedBlockTime, ∀ time ∈ producedTimes output.toList,
      last * NANOSECONDS ≤ time := by
  rcases (normalizeBlock_eq_ok h).2 with ⟨block, rfl, -, -, ⟨seconds, htime, hlast, -⟩, -⟩ | ⟨rfl, -⟩
  · intro last hmem time htimes
    obtain rfl := List.mem_singleton.mp htimes
    rw [htime]
    exact Nat.mul_le_mul_right _ (hlast last hmem)
  · intro last _ time htimes
    exact absurd htimes List.not_mem_nil

/-- **Clock rows are read alike** by sessions that expect the same block, when the last time either
remembers is the same or is not after the blocks to come. -/
theorem clockRows_transfer {scope : SessionScope} (scope' : SessionScope) (hstream : scope.stream = .blockClock)
    (hsame : scope'.stream = .blockClock) {rows : List Row} {s f : RowState}
    {after : RowState × List NormalizedRow × List Observation}
    (hexpected : f.expectedBlock = s.expectedBlock)
    (htimes : f.lastProducedBlockTime = s.lastProducedBlockTime ∨
      ∀ last ∈ f.lastProducedBlockTime, ∀ time ∈ producedTimes after.2.1, last * NANOSECONDS ≤ time)
    (h : rowsFrom scope s rows = .ok after) :
    ∃ f', rowsFrom scope' f rows = .ok (f', after.2) ∧ f'.expectedBlock = after.1.expectedBlock := by
  induction rows generalizing s f after with
  | nil =>
    obtain rfl := Except.ok.inj h
    exact ⟨f, rfl, hexpected⟩
  | cons row rest ih =>
    obtain ⟨⟨s', output, told⟩, tail, houtcome, htail, rfl⟩ := rowsFrom_cons_eq_ok.mp h
    rw [hstream] at houtcome
    have hrow : ∀ last ∈ f.lastProducedBlockTime, ∀ time ∈ producedTimes output.toList,
        last * NANOSECONDS ≤ time := by
      rcases htimes with heq | hlater
      · rw [heq]
        exact normalizeBlock_time houtcome
      · intro last hmem time htime
        refine hlater last hmem time ?_
        rw [producedTimes_append]
        exact List.mem_append_left _ htime
    obtain ⟨f', hf', hnext, hlast⟩ := normalizeBlock_transfer hexpected hrow houtcome
    have hrest : f'.lastProducedBlockTime = s'.lastProducedBlockTime ∨
        ∀ last ∈ f'.lastProducedBlockTime, ∀ time ∈ producedTimes tail.2.1,
          last * NANOSECONDS ≤ time := by
      rcases hlast with ⟨rfl, hs, hf⟩ | hproduced
      · rcases htimes with heq | hlater
        · exact .inl (hf.trans (heq.trans hs.symm))
        · exact .inr (hf ▸ hlater)
      · exact .inl hproduced
    obtain ⟨last, hlast', hend⟩ := ih hnext hrest htail
    refine ⟨last, rowsFrom_cons_eq_ok.mpr ⟨(f', output, told), (last, tail.2), ?_, hlast', rfl⟩, hend⟩
    rw [hsame]
    exact hf'

/-- The last time in memory is that of a produced block, or the one before the rows. -/
theorem clockRows_last {scope : SessionScope} (hstream : scope.stream = .blockClock)
    {rows : List Row} {s : RowState} {after : RowState × List NormalizedRow × List Observation}
    (h : rowsFrom scope s rows = .ok after) : ∀ last ∈ after.1.lastProducedBlockTime,
      last ∈ s.lastProducedBlockTime ∨ last * NANOSECONDS ∈ producedTimes after.2.1 := by
  induction rows generalizing s after with
  | nil =>
    obtain rfl := Except.ok.inj h
    exact fun last hlast => .inl hlast
  | cons row rest ih =>
    obtain ⟨⟨s', output, told⟩, tail, houtcome, htail, rfl⟩ := rowsFrom_cons_eq_ok.mp h
    rw [hstream] at houtcome
    intro last hlast
    rw [producedTimes_append]
    rcases ih htail last hlast with hmem | hmem
    · rcases (normalizeBlock_eq_ok houtcome).2 with
        ⟨block, rfl, -, -, ⟨seconds, htime, -, rfl⟩, -⟩ | ⟨-, -, rfl⟩
      · obtain rfl := Option.some.inj hmem
        refine .inr (List.mem_append_left _ ?_)
        rw [NANOSECONDS, ← htime]
        exact List.mem_cons_self
      · exact .inl hmem
    · exact .inr (List.mem_append_right _ hmem)

theorem normalizeBlock_block {s : RowState} {row : Row} {outcome : RowOutcome}
    (h : normalizeBlock s row = .ok outcome) :
    row.cell "block_ordinal" = .integer s.expectedBlock ∧
      outcome.1.expectedBlock = s.expectedBlock + 1 := by
  obtain ⟨block, hblock, hrest⟩ := bind_eq_ok.mp h
  obtain ⟨hnext, -⟩ := check_bind_eq_ok.mp hrest
  obtain rfl := not_not.mp (refuseIf_eq_ok.mp hnext)
  refine ⟨(uintUpTo_eq_ok.mp hblock).1, ?_⟩
  obtain ⟨s', output, told⟩ := outcome
  rcases (normalizeBlock_eq_ok h).2 with ⟨_, -, -, -, ⟨_, -, -, rfl⟩, -⟩ | ⟨-, -, rfl⟩
  · rfl
  · rfl

/-- Rows of blocks below `upto` leave the clock expecting `upto` at most. -/
theorem clockRows_le {scope : SessionScope} (hstream : scope.stream = .blockClock) {rows : List Row}
    {s : RowState} {after : RowState × List NormalizedRow × List Observation} {upto : Nat}
    (hrows : ∀ row ∈ rows, ∀ n : Nat, row.cell "block_ordinal" = .integer n → n < upto)
    (hle : s.expectedBlock ≤ upto) (h : rowsFrom scope s rows = .ok after) :
    after.1.expectedBlock ≤ upto := by
  induction rows generalizing s after with
  | nil =>
    obtain rfl := Except.ok.inj h
    exact hle
  | cons row rest ih =>
    obtain ⟨outcome, tail, houtcome, htail, rfl⟩ := rowsFrom_cons_eq_ok.mp h
    rw [hstream] at houtcome
    obtain ⟨hblock, hnext⟩ := normalizeBlock_block houtcome
    have hlt := hrows row List.mem_cons_self _ hblock
    have hrest : tail.1.expectedBlock ≤ upto :=
      ih (fun other hmem => hrows other (List.mem_cons_of_mem _ hmem)) (by omega) htail
    exact hrest

/-- Rows of blocks from `upto` on are only read by a clock that expects it, or there are none. -/
theorem clockRows_ge {scope : SessionScope} (hstream : scope.stream = .blockClock) {rows : List Row}
    {s : RowState} {after : RowState × List NormalizedRow × List Observation} {upto : Nat}
    (hrows : ∀ row ∈ rows, ∀ n : Nat, row.cell "block_ordinal" = .integer n → upto ≤ n)
    (hge : upto ≤ after.1.expectedBlock) (h : rowsFrom scope s rows = .ok after) :
    upto ≤ s.expectedBlock := by
  cases rows with
  | nil =>
    obtain rfl := Except.ok.inj h
    exact hge
  | cons row rest =>
    obtain ⟨outcome, tail, houtcome, -, -⟩ := rowsFrom_cons_eq_ok.mp h
    rw [hstream] at houtcome
    exact hrows row List.mem_cons_self _ (normalizeBlock_block houtcome).1

/-! ## Shard after shard -/

abbrev Reading := RowState × List NormalizedRow × List Observation

/-- What the readings of the shards put out, in order. -/
def outputs (readings : List Reading) : List NormalizedRow := (readings.map fun r => r.2.1).flatten

def tolds (readings : List Reading) : List Observation := (readings.map fun r => r.2.2).flatten

section Shards

variable {reader : SourceReader} {stream : CapabilityStream} {rows : List Row} {range : BlockRange}
  {span : Nat} {hspan : 0 < span}

/-- The rows of a shard, read by a session of its own that then finishes. -/
def ShardReads (reader : SourceReader) (stream : CapabilityStream) (rows : List Row)
    (subrange : BlockRange) (reading : Reading) : Prop :=
  rowsFrom (reader.scope stream subrange) (RowState.start subrange)
      (rowsIn rows subrange.fromBlockOrdinal subrange.toBlockOrdinal) = .ok reading ∧
    (stream = .blockClock → reading.1.expectedBlock = subrange.toBlockOrdinal)

theorem rowsIn_block {lo hi : Nat} : ∀ row ∈ rowsIn rows lo hi, ∀ n : Nat,
    row.cell "block_ordinal" = .integer n → lo ≤ n ∧ n < hi := by
  intro row hmem n hn
  obtain ⟨m, hm, hbounds⟩ := of_decide_eq_true (List.mem_filter.mp hmem).2
  obtain rfl : n = m := Option.some.inj ((rowBlock_eq_some.mpr hn).symm.trans hm)
  exact hbounds

theorem containsBlock_of_bounds {subrange : BlockRange} {n : Nat}
    (hlo : subrange.fromBlockOrdinal ≤ n) (hhi : n < subrange.toBlockOrdinal) :
    subrange.containsBlock n = true := by
  rw [BlockRange.containsBlock, decide_eq_true hlo, decide_eq_true hhi]
  rfl

theorem rowsIn_empty {position : Nat} : rowsIn rows position position = [] := by
  refine List.filter_eq_nil_iff.mpr fun row _ => ?_
  rw [decide_eq_true_eq]
  rintro ⟨n, -, hge, hlt⟩
  omega

/-- The rows of some blocks, read under another range and from another state that agrees. -/
theorem rowsIn_transfer {subrange : BlockRange} (subrange' : BlockRange) {lo hi : Nat}
    {s f : RowState} {reading : Reading} (hlo : subrange'.fromBlockOrdinal ≤ lo)
    (hhi : hi ≤ subrange'.toBlockOrdinal) (hagree : Agree lo s f)
    (hexpected : stream = .blockClock → f.expectedBlock = s.expectedBlock)
    (htimes : stream = .blockClock → f.lastProducedBlockTime = s.lastProducedBlockTime ∨
      ∀ last ∈ f.lastProducedBlockTime, ∀ time ∈ producedTimes reading.2.1, last * NANOSECONDS ≤ time)
    (h : rowsFrom (reader.scope stream subrange) s (rowsIn rows lo hi) = .ok reading) :
    ∃ f', rowsFrom (reader.scope stream subrange') f (rowsIn rows lo hi) = .ok (f', reading.2) ∧
      (stream = .blockClock → f'.expectedBlock = reading.1.expectedBlock) := by
  by_cases hclock : stream = .blockClock
  · obtain ⟨f', hf', hnext⟩ := clockRows_transfer (reader.scope stream subrange') hclock hclock
      (hexpected hclock) (htimes hclock) h
    exact ⟨f', hf', fun _ => hnext⟩
  · have hbounds : ∀ row ∈ rowsIn rows lo hi, ∀ n : Nat, row.cell "block_ordinal" = .integer n →
        lo ≤ n ∧ (reader.scope stream subrange').coveredRange.containsBlock n = true := by
      intro row hmem n hn
      obtain ⟨hge, hlt⟩ := rowsIn_block row hmem n hn
      exact ⟨hge, containsBlock_of_bounds (hlo.trans hge) (hlt.trans_le hhi)⟩
    have hother : (reader.scope stream subrange).stream ≠ .blockClock := hclock
    obtain ⟨f', hf'⟩ := rowsFrom_transfer (reader.scope stream subrange') hother rfl rfl hagree
      hbounds h
    exact ⟨f', hf', fun heq => absurd heq hclock⟩

/-- **Shard after shard is the whole range**, as long as the times are in order. -/
theorem whole_of_shards (horder : InBlockOrder rows) {fuel position : Nat}
    {readings : List Reading} {state : RowState}
    (hfrom : range.fromBlockOrdinal ≤ position) (hto : position ≤ range.toBlockOrdinal)
    (hfuel : range.toBlockOrdinal - position ≤ fuel) (hstale : Stale position state)
    (hexpected : stream = .blockClock → state.expectedBlock = position)
    (htimes : stream = .blockClock → (producedTimes (outputs readings)).Pairwise (· ≤ ·))
    (hlast : stream = .blockClock → ∀ last ∈ state.lastProducedBlockTime,
      ∀ time ∈ producedTimes (outputs readings), last * NANOSECONDS ≤ time)
    (hreads : List.Forall₂ (ShardReads reader stream rows) (shardsFrom range span hspan fuel position)
      readings) :
    ∃ final, rowsFrom (reader.scope stream range) state
        (rowsIn rows position range.toBlockOrdinal) =
          .ok (final, outputs readings, tolds readings) ∧
      (stream = .blockClock → final.expectedBlock = range.toBlockOrdinal) := by
  induction fuel generalizing position readings state with
  | zero =>
    obtain rfl : position = range.toBlockOrdinal := by omega
    rw [rowsIn_empty]
    cases hreads
    exact ⟨state, rfl, hexpected⟩
  | succ fuel ih =>
    rw [shardsFrom] at hreads
    by_cases hmore : position < range.toBlockOrdinal
    · rw [dif_pos hmore] at hreads
      obtain ⟨reading, rest, ⟨hread, hend⟩, hrest, rfl⟩ := List.forall₂_cons_left_iff.mp hreads
      have hmid : position ≤ min (position + span) range.toBlockOrdinal := le_min (by omega) hto
      have hin : min (position + span) range.toBlockOrdinal ≤ range.toBlockOrdinal :=
        Nat.min_le_right _ _
      have hsplit : outputs (reading :: rest) = reading.2.1 ++ outputs rest := List.flatten_cons
      rw [hsplit, producedTimes_append] at htimes hlast
      -- the session of the whole range reads the rows of this shard
      obtain ⟨middle, hmiddle, hmoved⟩ := rowsIn_transfer range hfrom hin
        ((stale_start _ position).agree hstale) hexpected
        (fun hclock => .inr fun last hmem time htime =>
          hlast hclock last hmem time (List.mem_append_left _ htime)) hread
      have hstale' : Stale (min (position + span) range.toBlockOrdinal) middle :=
        rowsFrom_stale (hstale.mono hmid) (fun row hmem n hn => (rowsIn_block row hmem n hn).2)
          hmiddle
      have hlater : stream = .blockClock → ∀ last ∈ middle.lastProducedBlockTime,
          ∀ time ∈ producedTimes (outputs rest), last * NANOSECONDS ≤ time := by
        intro hclock last hmem time htime
        rcases clockRows_last hclock hmiddle last hmem with hold | hnew
        · exact hlast hclock last hold time (List.mem_append_right _ htime)
        · exact (List.pairwise_append.mp (htimes hclock)).2.2 _ hnew time htime
      -- and goes on to the next one
      obtain ⟨final, hfinal, hdone⟩ := ih (hfrom.trans hmid) hin (by omega) hstale'
        (fun hclock => (hmoved hclock).trans (hend hclock))
        (fun hclock => (List.pairwise_append.mp (htimes hclock)).2.1) hlater hrest
      refine ⟨final, ?_, hdone⟩
      rw [rowsIn_split horder hmid hin]
      exact rowsFrom_append_eq_ok.mpr ⟨_, _, hmiddle, hfinal, rfl⟩
    · obtain rfl : position = range.toBlockOrdinal := by omega
      rw [dif_neg hmore] at hreads
      rw [rowsIn_empty]
      cases hreads
      exact ⟨state, rfl, hexpected⟩

theorem shardAt_nonempty (range : BlockRange) (span : Nat) (hspan : 0 < span) (position : Nat)
    (hmore : position < range.toBlockOrdinal) :
    position < min (position + span) range.toBlockOrdinal :=
  lt_min (Nat.lt_add_of_pos_right hspan) hmore

theorem shardAt_to_le (range : BlockRange) (span position : Nat) :
    min (position + span) range.toBlockOrdinal ≤ UINT32_SIZE :=
  (Nat.min_le_right _ _).trans range.to_le

/-- The shard that begins at a position of its range. -/
def shardAt (range : BlockRange) (span : Nat) (hspan : 0 < span) (position : Nat)
    (hmore : position < range.toBlockOrdinal) : BlockRange where
  networkId := range.networkId
  positionSchemaId := range.positionSchemaId
  fromBlockOrdinal := position
  toBlockOrdinal := min (position + span) range.toBlockOrdinal
  schema_supported := range.schema_supported
  nonempty := shardAt_nonempty range span hspan position hmore
  to_le := shardAt_to_le range span position

/-- **The whole range is shard after shard.** -/
theorem shards_of_whole (horder : InBlockOrder rows) {fuel position : Nat} {whole : Reading}
    {state : RowState} (hto : position ≤ range.toBlockOrdinal)
    (hfuel : range.toBlockOrdinal - position ≤ fuel) (hstale : Stale position state)
    (hexpected : stream = .blockClock → state.expectedBlock = position)
    (hwhole : rowsFrom (reader.scope stream range) state
      (rowsIn rows position range.toBlockOrdinal) = .ok whole)
    (hend : stream = .blockClock → whole.1.expectedBlock = range.toBlockOrdinal) :
    ∃ readings, List.Forall₂ (ShardReads reader stream rows)
        (shardsFrom range span hspan fuel position) readings ∧
      whole.2 = (outputs readings, tolds readings) := by
  induction fuel generalizing position whole state with
  | zero =>
    obtain rfl : position = range.toBlockOrdinal := by omega
    rw [rowsIn_empty] at hwhole
    obtain rfl := Except.ok.inj hwhole
    exact ⟨[], .nil, rfl⟩
  | succ fuel ih =>
    rw [shardsFrom]
    by_cases hmore : position < range.toBlockOrdinal
    · rw [dif_pos hmore]
      have hmid : position ≤ min (position + span) range.toBlockOrdinal := le_min (by omega) hto
      have hin : min (position + span) range.toBlockOrdinal ≤ range.toBlockOrdinal :=
        Nat.min_le_right _ _
      rw [rowsIn_split horder hmid hin] at hwhole
      obtain ⟨first, tail, hfirst, htail, rfl⟩ := rowsFrom_append_eq_ok.mp hwhole
      have hstale' : Stale (min (position + span) range.toBlockOrdinal) first.1 :=
        rowsFrom_stale (hstale.mono hmid) (fun row hmem n hn => (rowsIn_block row hmem n hn).2)
          hfirst
      have hreached : stream = .blockClock →
          first.1.expectedBlock = min (position + span) range.toBlockOrdinal := by
        intro hclock
        refine (clockRows_le hclock (fun row hmem n hn => (rowsIn_block row hmem n hn).2) ?_
          hfirst).antisymm (clockRows_ge hclock
            (fun row hmem n hn => (rowsIn_block row hmem n hn).1) ?_ htail)
        · rw [hexpected hclock]
          exact hmid
        · rw [hend hclock]
          exact hin
      -- a session of its own reads the rows of the first shard
      obtain ⟨own, hown, hmoved⟩ := rowsIn_transfer (shardAt range span hspan position hmore) le_rfl
        le_rfl (hstale.agree (stale_start (shardAt range span hspan position hmore) position))
        (fun hclock => (hexpected hclock).symm)
        (fun _ => .inr fun last hmem => absurd hmem (Option.not_mem_none last)) hfirst
      obtain ⟨readings, hreadings, hsame⟩ := ih hin (by omega) hstale' hreached htail hend
      refine ⟨(own, first.2) :: readings, .cons ⟨hown, fun hclock => ?_⟩ hreadings, ?_⟩
      · exact (hmoved hclock).trans (hreached hclock)
      · exact Prod.ext (congrArg (first.2.1 ++ ·) (congrArg Prod.fst hsame))
          (congrArg (first.2.2 ++ ·) (congrArg Prod.snd hsame))
    · obtain rfl : position = range.toBlockOrdinal := by omega
      rw [dif_neg hmore]
      rw [rowsIn_empty] at hwhole
      obtain rfl := Except.ok.inj hwhole
      exact ⟨[], .nil, rfl⟩

end Shards

end Source

end OnchainBacktest
