import OnchainBacktest.Source.EvidenceBooks

/-!
# Runs of the evidence

From one row to a whole run: a batch, a shard, a stream and the four streams keep the books of the
accumulator true to what it has consumed, and the block clock has covered its range up to the block
it expects next.

## What is here

* `Evidenced` — the books of the accumulator stand for the trace of what it consumed.
* `Covers` — produced blocks and sentinels are the blocks of a range, each once.
* `inspect_evidenced` — both hold of every run that reaches its end.
-/

set_option autoImplicit false

namespace OnchainBacktest

namespace Source

open Checked EvidenceAccumulator

/-! ## The books and the trace -/

/-- A launch row of the universe is one without the mayhem flag. -/
def Eligible (row : Row) : Prop := row.cell "mayhem_mode" ≠ .integer 1

instance eligible_decidable (row : Row) : Decidable (Eligible row) :=
  inferInstanceAs (Decidable (_ ≠ _))

/-- The books stand for what was consumed, and every consumed row was read. -/
structure Evidenced (evidence : EvidenceAccumulator) (trace : Trace) : Prop where
  clock : ClockBooks evidence trace.clock
  mints : MintBooks evidence.launches trace.launches trace.trades trace.lifecycle
  launch_clocked : ∀ row ∈ trace.launchRows, Clocked trace.clock row
  trade_clocked : ∀ row ∈ trace.tradeRows, Clocked trace.clock row
  lifecycle_clocked : ∀ row ∈ trace.lifecycleRows, Clocked trace.clock row
  launch_reads : List.Forall₂ (fun row launch => ∃ raw, LaunchReads row launch raw)
    (trace.launchRows.filter Eligible) trace.launches
  trade_reads : List.Forall₂ (fun row trade => ∃ raw, TradeReads row trade raw) trace.tradeRows
    trace.trades
  lifecycle_reads : List.Forall₂ LifecycleRowReads trace.lifecycleRows trace.lifecycle

theorem evidenced_start (launchPolicy : String) :
    Evidenced (EvidenceAccumulator.start launchPolicy) Trace.empty where
  clock :=
    { recorded := fun _ _ hget => absurd hget.symm (Option.some_ne_none _)
      last_block := fun _ hmem => absurd hmem List.not_mem_nil
      last_time := fun _ hmem => absurd hmem List.not_mem_nil
      in_order := List.Pairwise.nil
      in_time := List.Pairwise.nil }
  mints :=
    { known := fun _ _ hget => absurd hget.symm (Option.some_ne_none _)
      once := List.nodup_nil
      record := fun _ hmem => absurd hmem List.not_mem_nil
      traded := fun _ hmem => absurd hmem List.not_mem_nil
      cycled := fun _ hmem => absurd hmem List.not_mem_nil }
  launch_clocked := fun _ hmem => absurd hmem List.not_mem_nil
  trade_clocked := fun _ hmem => absurd hmem List.not_mem_nil
  lifecycle_clocked := fun _ hmem => absurd hmem List.not_mem_nil
  launch_reads := .nil
  trade_reads := .nil
  lifecycle_reads := .nil

theorem Evidenced.same {evidence evidence' : EvidenceAccumulator} {trace : Trace}
    (h : Evidenced evidence trace) (hsame : SameBooks evidence evidence') :
    Evidenced evidence' trace where
  clock := h.clock.same hsame.clock hsame.lastClockBlock hsame.lastClockTime
  mints := by
    rw [hsame.launches]
    exact h.mints
  launch_clocked := h.launch_clocked
  trade_clocked := h.trade_clocked
  lifecycle_clocked := h.lifecycle_clocked
  launch_reads := h.launch_reads
  trade_reads := h.trade_reads
  lifecycle_reads := h.lifecycle_reads

/-- The sentinels of the trace are no part of the books. -/
theorem Evidenced.told {evidence : EvidenceAccumulator} {trace : Trace}
    (h : Evidenced evidence trace) (sentinels : List Observation) :
    Evidenced evidence { trace with sentinels := sentinels } :=
  ⟨h.clock, h.mints, h.launch_clocked, h.trade_clocked, h.lifecycle_clocked, h.launch_reads,
    h.trade_reads, h.lifecycle_reads⟩

/-! ## One row -/

theorem normalizeLifecycle_output {coveredRange : BlockRange} {state state' : RowState} {row : Row}
    {output : Option NormalizedRow} {told : Option Observation}
    (h : normalizeLifecycle coveredRange state row = .ok (state', output, told)) :
    (∃ found : LifecycleRow, output = some (.lifecycle found) ∧ LifecycleRowReads row found) ∧
      ∀ observation ∈ told, ∃ profileId block transaction terminal completion migration signature
        mint curve, observation = .derivedLifecycleGroup profileId block transaction terminal
          completion migration signature mint curve := by
  obtain ⟨fields, kind, hreads, -, -, -, -, -, base, -, hkind⟩ := normalizeLifecycle_eq_ok h
  have hrow : ∀ eventIndex lifecycle virtualSol,
      LifecycleRowReads row (lifecycleRow fields eventIndex lifecycle virtualSol) :=
    fun _ _ _ => ⟨hreads.block, hreads.transaction, hreads.signature, hreads.mint, hreads.venue,
      hreads.mode⟩
  rcases hkind with ⟨-, hcompletion⟩ | ⟨-, hmigration⟩
  · obtain ⟨raw, virtualSol, -, -, -, -, -, -, rfl, rfl, -⟩ := normalizeCompletion_eq_ok hcompletion
    exact ⟨⟨_, rfl, hrow _ _ _⟩, fun _ hmem => absurd hmem (Option.not_mem_none _)⟩
  · obtain ⟨virtualSol, -, -, -, hmigration⟩ := normalizeMigration_eq_ok hmigration
    rcases hmigration with hderived | hstandalone
    · obtain ⟨raw, -, -, -, rfl, rfl, -⟩ := normalizeDerivedMigration_eq_ok hderived
      refine ⟨⟨_, rfl, hrow _ _ _⟩, fun observation hmem => ?_⟩
      exact ⟨_, _, _, _, _, _, _, _, _, (Option.mem_some.mp hmem).symm⟩
    · obtain ⟨-, rfl, rfl, -⟩ := normalizeStandaloneMigration_eq_ok hstandalone
      exact ⟨⟨_, rfl, hrow _ _ _⟩, fun _ hmem => absurd hmem (Option.not_mem_none _)⟩

section Rows

variable {evidence evidence' : EvidenceAccumulator} {trace : Trace} {state state' : RowState}
  {coveredRange : BlockRange} {feeProfile : PumpFeeProfile} {row : Row}
  {output : Option NormalizedRow} {told : Option Observation}

theorem Evidenced.of_block (h : Evidenced evidence trace) {block : BlockRow}
    (hrow : evidence.consumeClockRow (.block block) = .ok evidence') :
    Evidenced evidence' { trace with clock := trace.clock ++ [block] } := by
  obtain ⟨hclock, hlaunches⟩ := h.clock.of_block hrow
  have hsub : trace.clock ⊆ trace.clock ++ [block] := List.subset_append_left _ _
  exact ⟨hclock, hlaunches ▸ h.mints, fun row hmem => (h.launch_clocked row hmem).mono hsub,
    fun row hmem => (h.trade_clocked row hmem).mono hsub,
    fun row hmem => (h.lifecycle_clocked row hmem).mono hsub, h.launch_reads, h.trade_reads,
    h.lifecycle_reads⟩

theorem forall₂_concat {α β : Type} {R : α → β → Prop} {xs : List α} {ys : List β} {x : α} {y : β}
    (h : List.Forall₂ R xs ys) (hlast : R x y) : List.Forall₂ R (xs ++ [x]) (ys ++ [y]) :=
  List.rel_append h (.cons hlast .nil)

theorem Evidenced.of_launchRow (h : Evidenced evidence trace) (hclocked : Clocked trace.clock row)
    (hnormalized : normalizeLaunch coveredRange state row = .ok (state', output, told))
    (hrow : evidence.consumeLaunchRow row = .ok evidence') :
    Evidenced evidence' (trace.consumed .tokenLaunch [row] output.toList) := by
  obtain ⟨_, _, _, _, _, _, _, _, _, _, _, _, _, hcase⟩ := normalizeLaunch_eq_ok hnormalized
  have hrows := forall_mem_concat h.launch_clocked hclocked
  rcases hcase with ⟨launch, hreads, -, -, -, -, rfl, -⟩ | ⟨hmayhem, rfl, -⟩
  · obtain ⟨hmints, hrest⟩ := h.mints.of_eligible hreads hrow
    have heligible : Eligible row := by
      rw [Eligible, hreads.mayhem]
      decide
    rw [hrest]
    refine ⟨h.clock.same rfl rfl rfl, hmints, hrows, h.trade_clocked, h.lifecycle_clocked, ?_,
      h.trade_reads, h.lifecycle_reads⟩
    show List.Forall₂ _ ((trace.launchRows ++ [row]).filter Eligible) (trace.launches ++ [launch])
    rw [List.filter_append, List.filter_singleton, decide_eq_true heligible]
    exact forall₂_concat h.launch_reads ⟨_, hreads⟩
  · rcases consumeLaunchRow_eq_ok hrow with ⟨-, rfl⟩ | ⟨hother, -⟩
    · have hexcluded : ¬ Eligible row := not_not.mpr hmayhem
      refine ⟨h.clock, ?_, hrows, h.trade_clocked, h.lifecycle_clocked, ?_, h.trade_reads,
        h.lifecycle_reads⟩
      · show MintBooks _ (trace.launches ++ []) _ _
        rw [List.append_nil]
        exact h.mints
      · show List.Forall₂ _ ((trace.launchRows ++ [row]).filter Eligible) (trace.launches ++ [])
        rw [List.filter_append, List.filter_singleton, decide_eq_false hexcluded, List.append_nil]
        exact (List.append_nil (trace.launchRows.filter Eligible)).symm ▸ h.launch_reads
    · exact absurd hmayhem hother

theorem Evidenced.of_tradeRow (h : Evidenced evidence trace) (hclocked : Clocked trace.clock row)
    (hnormalized : normalizeTrade feeProfile coveredRange state row = .ok (state', output, told))
    (hrow : evidence.consumeTradeRow row = .ok evidence') :
    Evidenced evidence' (trace.consumed .pumpCurveTrade [row] output.toList) := by
  obtain ⟨trade, raw, hreads, -, -, -, -, -, -, rfl, -, -⟩ := normalizeTrade_eq_ok hnormalized
  obtain ⟨hmints, hrest⟩ := h.mints.of_trade hreads hrow
  rw [hrest]
  exact ⟨h.clock.same rfl rfl rfl, hmints, h.launch_clocked,
    forall_mem_concat h.trade_clocked hclocked, h.lifecycle_clocked, h.launch_reads,
    forall₂_concat h.trade_reads ⟨raw, hreads⟩, h.lifecycle_reads⟩

theorem Evidenced.of_lifecycleRow (h : Evidenced evidence trace) (hclocked : Clocked trace.clock row)
    {found : LifecycleRow} (hreads : LifecycleRowReads row found)
    (hrow : evidence.consumeLifecycleRow (row, .lifecycle found) = .ok evidence') :
    Evidenced evidence' (trace.consumed .pumpCurveLifecycle [row] [.lifecycle found]) := by
  obtain ⟨hmints, hrest⟩ := h.mints.of_lifecycle hreads hrow
  rw [hrest]
  exact ⟨h.clock.same rfl rfl rfl, hmints, h.launch_clocked, h.trade_clocked,
    forall_mem_concat h.lifecycle_clocked hclocked, h.launch_reads, h.trade_reads,
    forall₂_concat h.lifecycle_reads hreads⟩

end Rows

/-! ## A batch -/

/-- The loop of `consume` once the rows are checked against the clock. -/
def consumeRows (stream : CapabilityStream) (evidence : EvidenceAccumulator) (raw : List Row)
    (normalized : List NormalizedRow) : Except LiveFault EvidenceAccumulator :=
  match stream with
  | .blockClock => normalized.foldlM consumeClockRow evidence
  | .tokenLaunch => raw.foldlM consumeLaunchRow evidence
  | .pumpCurveTrade => raw.foldlM consumeTradeRow evidence
  | .pumpCurveLifecycle => (raw.zip normalized).foldlM consumeLifecycleRow evidence

theorem consume_eq_ok {stream : CapabilityStream} {evidence evidence' : EvidenceAccumulator}
    {raw : List Row} {normalized : List NormalizedRow}
    (h : evidence.consume stream raw normalized = .ok evidence') :
    (stream ≠ .blockClock → ∀ row ∈ raw, evidence.crossCheckRow row = .ok ()) ∧
      consumeRows stream evidence raw normalized = .ok evidence' := by
  cases stream with
  | blockClock => exact ⟨fun hne => absurd rfl hne, h⟩
  | tokenLaunch =>
    obtain ⟨hchecks, h⟩ := check_bind_eq_ok.mp h
    exact ⟨fun _ => forM_eq_ok hchecks, h⟩
  | pumpCurveTrade =>
    obtain ⟨hchecks, h⟩ := check_bind_eq_ok.mp h
    exact ⟨fun _ => forM_eq_ok hchecks, h⟩
  | pumpCurveLifecycle =>
    obtain ⟨hchecks, h⟩ := check_bind_eq_ok.mp h
    obtain ⟨-, h⟩ := check_bind_eq_ok.mp h
    exact ⟨fun _ => forM_eq_ok hchecks, h⟩

section Batch

variable {scope : SessionScope}

/-- A row and its output are consumed before the rest. -/
theorem consumeRows_cons {stream : CapabilityStream} {evidence evidence' : EvidenceAccumulator}
    {row : Row} {rest : List Row} {output : Option NormalizedRow} {outputs : List NormalizedRow}
    (hone : stream = .pumpCurveLifecycle → ∃ found, output = some found)
    (h : consumeRows stream evidence (row :: rest) (output.toList ++ outputs) = .ok evidence') :
    ∃ middle, consumeRows stream evidence [row] output.toList = .ok middle ∧
      consumeRows stream middle rest outputs = .ok evidence' := by
  have hhead : ∀ (body : EvidenceAccumulator → Row → Except LiveFault EvidenceAccumulator),
      (row :: rest).foldlM body evidence = .ok evidence' → ∃ middle,
        [row].foldlM body evidence = .ok middle ∧ rest.foldlM body middle = .ok evidence' := by
    intro body h
    rw [← List.singleton_append, foldlM_append] at h
    exact bind_eq_ok.mp h
  cases stream with
  | blockClock =>
    rw [consumeRows, foldlM_append] at h
    exact bind_eq_ok.mp h
  | tokenLaunch => exact hhead _ h
  | pumpCurveTrade => exact hhead _ h
  | pumpCurveLifecycle =>
    obtain ⟨found, rfl⟩ := hone rfl
    rw [consumeRows, Option.toList_some, List.singleton_append, List.zip_cons_cons,
      ← List.singleton_append, foldlM_append] at h
    exact bind_eq_ok.mp h

theorem consumed_cons {stream : CapabilityStream} {trace : Trace} {row : Row} {rest : List Row}
    {outputs outputs' : List NormalizedRow} :
    trace.consumed stream (row :: rest) (outputs ++ outputs') =
      (trace.consumed stream [row] outputs).consumed stream rest outputs' := by
  cases stream <;> simp [Trace.consumed, List.filterMap_append]

/-- **One row keeps the books**, whatever its stream. -/
theorem Evidenced.of_row {evidence evidence' : EvidenceAccumulator} {trace : Trace}
    {state : RowState} {row : Row} {outcome : RowOutcome} (h : Evidenced evidence trace)
    (hclocked : scope.stream ≠ .blockClock → Clocked trace.clock row)
    (hnormalized : normalizeRow scope.normalizer.feeProfile scope.stream scope.coveredRange state
      row = .ok outcome)
    (hrow : consumeRows scope.stream evidence [row] outcome.2.1.toList = .ok evidence') :
    Evidenced evidence' (trace.consumed scope.stream [row] outcome.2.1.toList) := by
  obtain ⟨state', output, told⟩ := outcome
  have hone : ∀ (body : EvidenceAccumulator → Row → Except LiveFault EvidenceAccumulator),
      [row].foldlM body evidence = .ok evidence' → body evidence row = .ok evidence' := by
    intro body h
    obtain ⟨middle, hmiddle, hrest⟩ := bind_eq_ok.mp h
    exact hmiddle.trans hrest
  cases hstream : scope.stream with
  | blockClock =>
    rw [hstream] at hnormalized hrow
    rcases (normalizeBlock_eq_ok hnormalized).2 with ⟨block, rfl, -⟩ | ⟨rfl, -⟩
    · obtain ⟨middle, hmiddle, hrest⟩ := bind_eq_ok.mp hrow
      obtain rfl := Except.ok.inj hrest
      exact h.of_block hmiddle
    · obtain rfl := Except.ok.inj hrow
      show Evidenced evidence { trace with clock := trace.clock ++ [] }
      rw [List.append_nil]
      exact h
  | tokenLaunch =>
    rw [hstream] at hnormalized hrow
    exact h.of_launchRow (hclocked (by rw [hstream]; decide)) hnormalized (hone _ hrow)
  | pumpCurveTrade =>
    rw [hstream] at hnormalized hrow
    exact h.of_tradeRow (hclocked (by rw [hstream]; decide)) hnormalized (hone _ hrow)
  | pumpCurveLifecycle =>
    rw [hstream] at hnormalized hrow
    obtain ⟨⟨found, rfl, hreads⟩, -⟩ := normalizeLifecycle_output hnormalized
    obtain ⟨middle, hmiddle, hrest⟩ := bind_eq_ok.mp hrow
    obtain rfl := Except.ok.inj hrest
    exact h.of_lifecycleRow (hclocked (by rw [hstream]; decide)) hreads hmiddle

/-- The clock of the trace only moves with its own stream. -/
theorem consumed_clock {stream : CapabilityStream} {trace : Trace} {raw : List Row}
    {normalized : List NormalizedRow} (h : stream ≠ .blockClock) :
    (trace.consumed stream raw normalized).clock = trace.clock := by
  cases stream with
  | blockClock => exact absurd rfl h
  | tokenLaunch => rfl
  | pumpCurveTrade => rfl
  | pumpCurveLifecycle => rfl

/-- **The rows of a batch keep the books.** -/
theorem Evidenced.of_rows {rows : List Row} {state : RowState}
    {after : RowState × List NormalizedRow × List Observation}
    {evidence evidence' : EvidenceAccumulator} {trace : Trace} (h : Evidenced evidence trace)
    (hclocked : scope.stream ≠ .blockClock → ∀ row ∈ rows, Clocked trace.clock row)
    (hafter : rowsFrom scope state rows = .ok after)
    (hrows : consumeRows scope.stream evidence rows after.2.1 = .ok evidence') :
    Evidenced evidence' (trace.consumed scope.stream rows after.2.1) := by
  induction rows generalizing state after evidence trace with
  | nil =>
    obtain rfl := Except.ok.inj hafter
    have hsame : evidence = evidence' := by
      cases hstream : scope.stream <;> rw [hstream] at hrows <;> exact Except.ok.inj hrows
    subst hsame
    cases scope.stream <;>
      simpa [Trace.consumed] using h
  | cons row rest ih =>
    obtain ⟨outcome, tail, houtcome, htail, rfl⟩ := rowsFrom_cons_eq_ok.mp hafter
    have hone : scope.stream = .pumpCurveLifecycle → ∃ found, outcome.2.1 = some found := by
      intro hstream
      rw [hstream] at houtcome
      obtain ⟨⟨found, hfound, -⟩, -⟩ := normalizeLifecycle_output houtcome
      exact ⟨_, hfound⟩
    obtain ⟨middle, hmiddle, hrest⟩ := consumeRows_cons hone hrows
    rw [consumed_cons]
    have hrow := h.of_row (fun hne => hclocked hne row List.mem_cons_self) houtcome hmiddle
    refine ih hrow (fun hne other hmem => ?_) htail hrest
    rw [consumed_clock hne]
    exact hclocked hne other (List.mem_cons_of_mem _ hmem)

end Batch

/-! ## Coverage -/

/-- Produced blocks and sentinels are the blocks of a range, each once and in order. -/
structure Covers (start upto : Nat) (produced sentinels : List Nat) : Prop where
  le : start ≤ upto
  blocks : (produced ++ sentinels).Perm (List.range' start (upto - start))
  produced_order : produced.Pairwise (· < ·)
  sentinel_order : sentinels.Pairwise (· < ·)

section Covers

variable {start upto : Nat} {produced sentinels : List Nat}

theorem Covers.below (h : Covers start upto produced sentinels) :
    ∀ block ∈ produced ++ sentinels, block < upto := by
  intro block hmem
  obtain ⟨-, hlt⟩ := List.mem_range'_1.mp (h.blocks.mem_iff.mp hmem)
  have hle := h.le
  omega

theorem covers_succ (h : start ≤ upto) :
    List.range' start (upto + 1 - start) = List.range' start (upto - start) ++ [upto] := by
  rw [Nat.sub_add_comm h, List.range'_concat, Nat.one_mul, Nat.add_sub_cancel' h]

theorem concat_order {blocks : List Nat} {block : Nat} (horder : blocks.Pairwise (· < ·))
    (hbelow : ∀ other ∈ blocks, other < block) : (blocks ++ [block]).Pairwise (· < ·) := by
  rw [List.pairwise_append]
  refine ⟨horder, List.pairwise_singleton _ _, fun other hother last hlast => ?_⟩
  rw [List.mem_singleton.mp hlast]
  exact hbelow other hother

theorem Covers.of_produced (h : Covers start upto produced sentinels) :
    Covers start (upto + 1) (produced ++ [upto]) sentinels where
  le := h.le.trans (Nat.le_succ upto)
  blocks := by
    rw [covers_succ h.le, List.append_assoc]
    refine (List.Perm.append_left produced List.perm_append_comm).trans ?_
    rw [← List.append_assoc]
    exact h.blocks.append_right [upto]
  produced_order := concat_order h.produced_order fun other hother =>
    h.below other (List.mem_append_left _ hother)
  sentinel_order := h.sentinel_order

theorem Covers.of_sentinel (h : Covers start upto produced sentinels) :
    Covers start (upto + 1) produced (sentinels ++ [upto]) where
  le := h.le.trans (Nat.le_succ upto)
  blocks := by
    rw [covers_succ h.le, ← List.append_assoc]
    exact h.blocks.append_right [upto]
  produced_order := h.produced_order
  sentinel_order := concat_order h.sentinel_order fun other hother =>
    h.below other (List.mem_append_right _ hother)

end Covers

/-- The slot an observation found skipped. -/
def sentinelBlock? : Observation → Option Nat
  | .skippedSlot _ block => some block
  | _ => none

def producedBlocks (normalized : List NormalizedRow) : List Nat :=
  (normalized.filterMap NormalizedRow.block?).map BlockRow.blockOrdinal

def sentinelBlocks (told : List Observation) : List Nat := told.filterMap sentinelBlock?

theorem producedBlocks_append {front back : List NormalizedRow} :
    producedBlocks (front ++ back) = producedBlocks front ++ producedBlocks back := by
  simp [producedBlocks, List.filterMap_append]

theorem sentinelBlocks_append {front back : List Observation} :
    sentinelBlocks (front ++ back) = sentinelBlocks front ++ sentinelBlocks back :=
  List.filterMap_append

/-- **The rows of a clock batch cover the blocks up to the one expected next.** -/
theorem Covers.of_rows {scope : SessionScope} (hstream : scope.stream = .blockClock) {rows : List Row}
    {state : RowState} {after : RowState × List NormalizedRow × List Observation} {start : Nat}
    {produced sentinels : List Nat} (h : Covers start state.expectedBlock produced sentinels)
    (hafter : rowsFrom scope state rows = .ok after) :
    Covers start after.1.expectedBlock (produced ++ producedBlocks after.2.1)
      (sentinels ++ sentinelBlocks after.2.2) := by
  induction rows generalizing state after produced sentinels with
  | nil =>
    obtain rfl := Except.ok.inj hafter
    rw [producedBlocks, sentinelBlocks, List.filterMap_nil, List.filterMap_nil, List.map_nil,
      List.append_nil, List.append_nil]
    exact h
  | cons row rest ih =>
    obtain ⟨⟨state', output, told⟩, tail, houtcome, htail, rfl⟩ := rowsFrom_cons_eq_ok.mp hafter
    rw [hstream] at houtcome
    rw [producedBlocks_append, sentinelBlocks_append, ← List.append_assoc, ← List.append_assoc]
    rcases (normalizeBlock_eq_ok houtcome).2 with
      ⟨block, rfl, rfl, hordinal, ⟨seconds, -, -, rfl⟩, -⟩ | ⟨rfl, rfl, rfl⟩
    · refine ih ?_ htail
      have hnext := h.of_produced
      rw [← hordinal] at hnext
      simpa [producedBlocks, sentinelBlocks, NormalizedRow.block?, hordinal] using hnext
    · refine ih ?_ htail
      simpa [producedBlocks, sentinelBlocks, sentinelBlock?] using h.of_sentinel

/-- Only the clock finds skipped slots. -/
theorem rowsFrom_sentinels {scope : SessionScope} (hstream : scope.stream ≠ .blockClock)
    {rows : List Row} {state : RowState}
    {after : RowState × List NormalizedRow × List Observation}
    (hafter : rowsFrom scope state rows = .ok after) : sentinelBlocks after.2.2 = [] := by
  induction rows generalizing state after with
  | nil =>
    obtain rfl := Except.ok.inj hafter
    rfl
  | cons row rest ih =>
    obtain ⟨⟨state', output, told⟩, tail, houtcome, htail, rfl⟩ := rowsFrom_cons_eq_ok.mp hafter
    rw [sentinelBlocks_append, ih htail, List.append_nil]
    cases hcase : scope.stream with
    | blockClock => exact absurd hcase hstream
    | tokenLaunch =>
      rw [hcase] at houtcome
      obtain ⟨_, _, _, _, _, _, _, _, _, _, _, _, _, hlaunch⟩ := normalizeLaunch_eq_ok houtcome
      rcases hlaunch with ⟨launch, -, -, -, -, -, -, rfl, -⟩ | ⟨-, -, rfl, -⟩
      · rfl
      · rfl
    | pumpCurveTrade =>
      rw [hcase] at houtcome
      obtain ⟨_, _, _, _, _, _, _, _, _, _, rfl, _⟩ := normalizeTrade_eq_ok houtcome
      rfl
    | pumpCurveLifecycle =>
      rw [hcase] at houtcome
      obtain ⟨-, htold⟩ := normalizeLifecycle_output houtcome
      cases told with
      | none => rfl
      | some observation =>
        obtain ⟨_, _, _, _, _, _, _, _, _, rfl⟩ := htold observation rfl
        rfl

/-- The produced blocks of a trace and the slots it found skipped. -/
def Trace.Covers (trace : Trace) (start upto : Nat) : Prop :=
  Source.Covers start upto (trace.clock.map BlockRow.blockOrdinal)
    (sentinelBlocks trace.sentinels)

/-! ## The observations of a batch -/

theorem observeTraced_eq_ok {evidence evidence' : Evidence} {observation : Observation}
    (h : observeTraced evidence observation = .ok evidence') :
    SameBooks evidence.1 evidence'.1 ∧ ∃ sentinels,
      evidence'.2 = { evidence.2 with sentinels := sentinels } ∧
      sentinelBlocks sentinels =
        sentinelBlocks evidence.2.sentinels ++ (sentinelBlock? observation).toList := by
  obtain ⟨observed, hobserved, h⟩ := bind_eq_ok.mp h
  obtain rfl := Except.ok.inj h
  refine ⟨observe_same hobserved, ?_⟩
  cases observation with
  | skippedSlot profileId block =>
    refine ⟨_, rfl, ?_⟩
    rw [sentinelBlocks_append]
    rfl
  | excludedLaunch policyId reason block transaction eventIndex signature mint =>
    exact ⟨evidence.2.sentinels, rfl, (List.append_nil _).symm⟩
  | derivedLifecycleGroup profileId block transaction terminal completion migration signature mint
      curve =>
    exact ⟨evidence.2.sentinels, rfl, (List.append_nil _).symm⟩

theorem EvidenceAccumulator.SameBooks.trans {first second third : EvidenceAccumulator} (h : SameBooks first second)
    (h' : SameBooks second third) : SameBooks first third :=
  ⟨h'.clock.trans h.clock, h'.launches.trans h.launches, h'.lastClockBlock.trans h.lastClockBlock,
    h'.lastClockTime.trans h.lastClockTime⟩

/-- What a batch tells leaves the books alone, and the trace keeps its skipped slots. -/
theorem observeTraced_run {told : List Observation} {evidence evidence' : Evidence}
    (h : told.foldlM observeTraced evidence = .ok evidence') :
    SameBooks evidence.1 evidence'.1 ∧ ∃ sentinels,
      evidence'.2 = { evidence.2 with sentinels := sentinels } ∧
      sentinelBlocks sentinels = sentinelBlocks evidence.2.sentinels ++ sentinelBlocks told := by
  induction told generalizing evidence with
  | nil =>
    obtain rfl := Except.ok.inj h
    exact ⟨⟨rfl, rfl, rfl, rfl⟩, evidence.2.sentinels, rfl, (List.append_nil _).symm⟩
  | cons observation rest ih =>
    rw [List.foldlM_cons] at h
    obtain ⟨middle, hmiddle, hrest⟩ := bind_eq_ok.mp h
    obtain ⟨hsame, sentinels, htrace, hblocks⟩ := observeTraced_eq_ok hmiddle
    obtain ⟨hsame', sentinels', htrace', hblocks'⟩ := ih hrest
    refine ⟨hsame.trans hsame', sentinels', by rw [htrace', htrace], ?_⟩
    rw [hblocks', htrace, hblocks, List.append_assoc, ← List.singleton_append,
      sentinelBlocks_append]
    congr 2

/-! ## Batches, shards and streams -/

theorem consumed_producedBlocks {stream : CapabilityStream} {trace : Trace} {raw : List Row}
    {normalized : List NormalizedRow} (h : stream = .blockClock) :
    (trace.consumed stream raw normalized).clock.map BlockRow.blockOrdinal =
      trace.clock.map BlockRow.blockOrdinal ++ producedBlocks normalized := by
  subst h
  exact List.map_append

theorem consumed_sentinels {stream : CapabilityStream} {trace : Trace} {raw : List Row}
    {normalized : List NormalizedRow} :
    (trace.consumed stream raw normalized).sentinels = trace.sentinels := by
  cases stream <;> rfl

/-- How far the clock is covered: the block a clock session expects next, and no further while
another stream is read. -/
def reach (upto : Nat) (session : Session) : Nat :=
  if session.scope.stream = .blockClock then session.rowState.expectedBlock else upto

section Run

variable [OrderedHash] {reader : SourceReader} {request : EvidenceRequest}

/-- What holds between the batches of a shard. -/
structure ShardState (scope : SessionScope) (start upto : Nat) (state : Session × Evidence) :
    Prop where
  scope_eq : state.1.scope = scope
  open_ : state.1.failed = false
  unsealed : state.1.summary = none
  evidenced : Evidenced state.2.1 state.2.2
  covers : state.2.2.Covers start (reach upto state.1)

omit [OrderedHash] in
theorem ShardState.of_batch {stream : CapabilityStream} {subrange : BlockRange} {start upto : Nat}
    {state state' : Session × Evidence} {batch : IndexedBatch}
    (h : ShardState (reader.scope stream subrange) start upto state)
    (hbatch : inspectBatch reader stream subrange state batch = .ok state') :
    ShardState (reader.scope stream subrange) start upto state' := by
  obtain ⟨-, hbatch⟩ := check_bind_eq_ok.mp hbatch
  obtain ⟨⟨session', told', normalized⟩, hnormalized, hbatch⟩ := bind_eq_ok.mp hbatch
  obtain ⟨evidence', hconsumed, hbatch⟩ := bind_eq_ok.mp hbatch
  obtain rfl := Except.ok.inj hbatch
  obtain ⟨-, after, hafter, htold, rfl, -, hrows⟩ := Session.tryNormalize_eq_ok.mp hnormalized
  have houtput : normalized.rows = after.2.1 := by rw [hrows]
  obtain ⟨hsame, sentinels, htrace, hblocks⟩ := observeTraced_run htold
  obtain ⟨hchecks, hconsumed⟩ := consume_eq_ok hconsumed
  have hstream : state.1.scope.stream = stream := by
    rw [h.scope_eq]
    rfl
  have hevidenced : Evidenced told'.1 told'.2 := by
    rw [htrace]
    exact (h.evidenced.same hsame).told sentinels
  rw [houtput] at hconsumed ⊢
  refine ⟨h.scope_eq, h.open_, h.unsealed, ?_, ?_⟩
  · rw [← hstream] at hconsumed ⊢
    refine hevidenced.of_rows (fun hne row hmem => ?_) hafter hconsumed
    exact Clocked.of_crossCheck hevidenced.clock (hchecks (hstream ▸ hne) row hmem)
  · have hcovers := h.covers
    by_cases hclock : stream = .blockClock
    · rw [reach, if_pos (hstream.trans hclock)] at hcovers ⊢
      have hnext := Covers.of_rows (hstream.trans hclock) hcovers hafter
      show Source.Covers _ _ _ _
      rw [consumed_producedBlocks hclock, consumed_sentinels, htrace, hblocks]
      exact hnext
    · have hother : state.1.scope.stream ≠ .blockClock := by rwa [hstream]
      rw [reach, if_neg hother] at hcovers ⊢
      show Source.Covers _ _ _ _
      rw [consumed_clock hclock, consumed_sentinels, htrace, hblocks,
        rowsFrom_sentinels hother hafter, List.append_nil]
      exact hcovers

/-- How far the clock is covered after a shard. -/
def reached (stream : CapabilityStream) (subrange : BlockRange) (upto : Nat) : Nat :=
  if stream = .blockClock then subrange.toBlockOrdinal else upto

/-- **A shard keeps the books**, and the shard of a clock covers its range. -/
theorem shard_evidenced {stream : CapabilityStream} {subrange : BlockRange} {start upto : Nat}
    {evidence evidence' : Evidence} (hevidenced : Evidenced evidence.1 evidence.2)
    (hcovers : evidence.2.Covers start upto)
    (hfrom : stream = .blockClock → subrange.fromBlockOrdinal = upto)
    (h : inspectShard reader stream evidence subrange = .ok evidence') :
    Evidenced evidence'.1 evidence'.2 ∧ evidence'.2.Covers start (reached stream subrange upto) := by
  obtain ⟨state, hstate, h⟩ := bind_eq_ok.mp h
  obtain ⟨summary, hsummary, h⟩ := bind_eq_ok.mp h
  obtain ⟨summed, hsummed, h⟩ := bind_eq_ok.mp h
  obtain rfl := Except.ok.inj h
  have hstart : ShardState (reader.scope stream subrange) start upto
      (Session.start (reader.scope stream subrange), evidence) := by
    refine ⟨rfl, rfl, rfl, hevidenced, ?_⟩
    show evidence.2.Covers start (if stream = .blockClock then subrange.fromBlockOrdinal else upto)
    by_cases hclock : stream = .blockClock
    · rw [if_pos hclock, hfrom hclock]
      exact hcovers
    · rw [if_neg hclock]
      exact hcovers
  have hend : ShardState (reader.scope stream subrange) start upto state :=
    foldlM_keeps (fun batch _ state state' hstate hbatch => hstate.of_batch hbatch) hstart hstate
  refine ⟨hend.evidenced.same (addSummary_same hsummed), ?_⟩
  have hcovers' := hend.covers
  by_cases hclock : stream = .blockClock
  · have hstream : state.1.scope.stream = .blockClock := by
      rw [hend.scope_eq]
      exact hclock
    rw [reach, if_pos hstream] at hcovers'
    rw [reached, if_pos hclock]
    rw [Session.finish, hend.open_, hend.unsealed] at hsummary
    by_cases hcovered : state.1.Covered
    · have hlast : state.1.rowState.expectedBlock = subrange.toBlockOrdinal := by
        rw [hcovered hstream, hend.scope_eq]
        rfl
      rw [hlast] at hcovers'
      exact hcovers'
    · rw [if_neg (by decide), if_neg hcovered] at hsummary
      cases hsummary
  · have hstream : state.1.scope.stream ≠ .blockClock := by
      rw [hend.scope_eq]
      exact hclock
    rw [reach, if_neg hstream] at hcovers'
    rw [reached, if_neg hclock]
    exact hcovers'

omit [OrderedHash] in
theorem reached_reached {stream : CapabilityStream} {subrange range : BlockRange} {upto : Nat} :
    reached stream range (reached stream subrange upto) = reached stream range upto := by
  by_cases hclock : stream = .blockClock
  · rw [reached, if_pos hclock, reached, if_pos hclock]
  · rw [reached, if_neg hclock, reached, if_neg hclock, reached, if_neg hclock]

/-- **The shards of a range keep the books**, and those of a clock cover it to its end. -/
theorem shards_evidenced {stream : CapabilityStream} {range : BlockRange} {span : Nat}
    (hspan : 0 < span) {start : Nat} {fuel position upto : Nat} {evidence evidence' : Evidence}
    (hupto : stream = .blockClock → position = upto) (hle : position ≤ range.toBlockOrdinal)
    (hfuel : range.toBlockOrdinal - position ≤ fuel) (hevidenced : Evidenced evidence.1 evidence.2)
    (hcovers : evidence.2.Covers start upto)
    (h : (shardsFrom range span hspan fuel position).foldlM (inspectShard reader stream) evidence =
      .ok evidence') :
    Evidenced evidence'.1 evidence'.2 ∧ evidence'.2.Covers start (reached stream range upto) := by
  have hdone : range.toBlockOrdinal ≤ position → reached stream range upto = upto := by
    intro hend
    by_cases hclock : stream = .blockClock
    · rw [reached, if_pos hclock, ← hupto hclock]
      exact hend.antisymm hle
    · rw [reached, if_neg hclock]
  induction fuel generalizing position upto evidence with
  | zero =>
    obtain rfl := Except.ok.inj h
    rw [hdone (by omega)]
    exact ⟨hevidenced, hcovers⟩
  | succ fuel ih =>
    rw [shardsFrom] at h
    by_cases hmore : position < range.toBlockOrdinal
    · rw [dif_pos hmore, List.foldlM_cons] at h
      obtain ⟨middle, hmiddle, hrest⟩ := bind_eq_ok.mp h
      obtain ⟨hnext, hreached⟩ := shard_evidenced hevidenced hcovers hupto hmiddle
      rw [← reached_reached]
      refine ih (fun hclock => ?_) (Nat.min_le_right _ _) (by omega) hnext hreached hrest
        (fun hend => ?_)
      · rw [reached, if_pos hclock]
      · by_cases hclock : stream = .blockClock
        · rw [reached, if_pos hclock, reached, if_pos hclock]
          exact hend.antisymm (Nat.min_le_right _ _)
        · rw [reached, if_neg hclock]
    · rw [dif_neg hmore] at h
      obtain rfl := Except.ok.inj h
      rw [hdone (not_lt.mp hmore)]
      exact ⟨hevidenced, hcovers⟩

theorem stream_evidenced {stream : CapabilityStream} {span : Nat} (hspan : 0 < span)
    {start upto : Nat} {evidence evidence' : Evidence}
    (hupto : stream = .blockClock → request.blockRange.fromBlockOrdinal = upto)
    (hevidenced : Evidenced evidence.1 evidence.2) (hcovers : evidence.2.Covers start upto)
    (h : inspectStream reader request span hspan evidence stream = .ok evidence') :
    Evidenced evidence'.1 evidence'.2 ∧
      evidence'.2.Covers start (reached stream (request.selectedRange stream) upto) := by
  refine shards_evidenced hspan (fun hclock => ?_) (request.selectedRange stream).nonempty.le le_rfl
    hevidenced hcovers h
  rw [EvidenceRequest.selectedRange, hclock, if_neg (by decide)]
  exact hupto hclock

/-- **A run of the evidence that ends**: the books stand for what it consumed, the clock has covered
the cut, and the last checks of the accumulator hold. -/
theorem inspect_evidenced {span : Nat} {hspan : 0 < span} {evidence : Evidence}
    (h : inspect reader request span hspan = .ok evidence) :
    Evidenced evidence.1 evidence.2 ∧
      evidence.2.Covers request.blockRange.fromBlockOrdinal request.blockRange.toBlockOrdinal ∧
      evidence.1.finish = .ok () := by
  obtain ⟨last, hstreams, hfinish⟩ := bind_eq_ok.mp (mapError_eq_ok.mp h)
  obtain ⟨hfinished, hlast⟩ := check_bind_eq_ok.mp hfinish
  obtain rfl := Except.ok.inj hlast
  obtain ⟨clocked, hclock, hrest⟩ := bind_eq_ok.mp hstreams
  obtain ⟨launched, hlaunches, hrest⟩ := bind_eq_ok.mp hrest
  obtain ⟨traded, htrades, hrest⟩ := bind_eq_ok.mp hrest
  obtain ⟨cycled, hlifecycle, hrest⟩ := bind_eq_ok.mp hrest
  obtain rfl := Except.ok.inj hrest
  have hstart : Trace.empty.Covers request.blockRange.fromBlockOrdinal
      request.blockRange.fromBlockOrdinal :=
    ⟨le_rfl, by rw [Nat.sub_self]; exact List.Perm.refl _, List.Pairwise.nil, List.Pairwise.nil⟩
  obtain ⟨hevidenced, hcovers⟩ := stream_evidenced hspan (fun _ => rfl)
    (evidenced_start PUMPFUN_LAUNCH_UNIVERSE_POLICY_ID) hstart hclock
  obtain ⟨hevidenced, hcovers⟩ := stream_evidenced hspan (fun hne => absurd hne (by decide))
    hevidenced hcovers hlaunches
  obtain ⟨hevidenced, hcovers⟩ := stream_evidenced hspan (fun hne => absurd hne (by decide))
    hevidenced hcovers htrades
  obtain ⟨hevidenced, hcovers⟩ := stream_evidenced hspan (fun hne => absurd hne (by decide))
    hevidenced hcovers hlifecycle
  exact ⟨hevidenced, hcovers, hfinished⟩

end Run

end Source

end OnchainBacktest
