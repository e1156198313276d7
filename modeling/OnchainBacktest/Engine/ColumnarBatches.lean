import OnchainBacktest.Engine.ColumnarEngine
import OnchainBacktest.Engine.EventGroups
import OnchainBacktest.Engine.SnipingFinish

/-!
# The reader settings of a columnar run

A run reads its pack in windows, and the windows depend on the batch size and the read-ahead.  The
settings are asked for in two places only: the preflight refuses those that do not fit the pack, and
the windows of those that fit tile its boundaries.  A window answers for its rows as the rows do, so
a run is one loop over all boundaries with no settings in it (`run_eq_ok_iff`).
-/

set_option autoImplicit false

namespace OnchainBacktest

namespace Columnar

open Checked

theorem raising_eq_ok {α : Type} {result : Except Fault α} {value : α} :
    raising result = .ok value ↔ result = .ok value := mapError_eq_ok

/-! ## Settings that fit -/

/-- One thread, a batch below the limit, and no boundary larger than a batch. -/
structure Fits (pack : ReplayPack) (settings : EnginePhysicalSettings) : Prop where
  threads : settings.threads = 1
  capped : settings.readerBatchRows ≤ MAX_BATCH_ROWS
  boundaries : FitsBatch pack.boundaryOffsets settings.readerBatchRows

/-- What the preflight asks for whatever the settings are. -/
structure Ready (setup : SnipingSetup) (pack : ReplayPack)
    (schedule : Option ColumnarDeliverySource) : Prop where
  identity : preflightIdentity setup pack = .ok ()
  groups : pack.boundaryOffsets = pack.groupOffsets
  layout : validateLayoutRows setup pack = .ok ()
  deliveries : preflightDeliverySchedule pack schedule = .ok ()

section Preflight

variable {setup : SnipingSetup} {pack : ReplayPack} {schedule : Option ColumnarDeliverySource}
  {settings : EnginePhysicalSettings}

theorem preflight_eq_ok_iff : preflight setup pack schedule settings = .ok () ↔
    Fits pack settings ∧ Ready setup pack schedule := by
  simp only [preflight, validatePrimitiveLayout, check_bind_eq_ok, refuseIf_eq_ok, not_not, not_lt,
    ne_eq]
  constructor
  · rintro ⟨hthreads, hcapped, hidentity, ⟨hgroups, hfits, hlayout⟩, hdeliveries⟩
    exact ⟨⟨hthreads, hcapped, hfits⟩, ⟨hidentity, hgroups, hlayout, hdeliveries⟩⟩
  · rintro ⟨hfits, hready⟩
    exact ⟨hfits.threads, hfits.capped, hready.identity,
      ⟨hready.groups, hfits.boundaries, hready.layout⟩, hready.deliveries⟩

/-- Settings that do not fit are refused by the preflight. -/
theorem preflight_unsupported (hready : Ready setup pack schedule) (hfits : ¬ Fits pack settings) :
    ∃ message, preflight setup pack schedule settings = .error (.optimizedUnsupported message) := by
  rw [preflight]
  by_cases hthreads : settings.threads = 1
  · rw [refuseIf_of_not (not_not.mpr hthreads), ok_bind]
    by_cases hcapped : settings.readerBatchRows ≤ MAX_BATCH_ROWS
    · have hlarge : ¬ FitsBatch pack.boundaryOffsets settings.readerBatchRows :=
        fun h => hfits ⟨hthreads, hcapped, h⟩
      rw [refuseIf_of_not (not_lt.mpr hcapped), ok_bind, hready.identity, ok_bind,
        validatePrimitiveLayout, refuseIf_of_not (not_not.mpr hready.groups), ok_bind,
        refuseIf_of hlarge]
      exact ⟨_, rfl⟩
    · rw [refuseIf_of (not_le.mp hcapped)]
      exact ⟨_, rfl⟩
  · rw [refuseIf_of hthreads]
    exact ⟨_, rfl⟩

end Preflight

/-! ## The offsets of a pack -/

section Offsets

variable {pack : ReplayPack}

theorem offsets_ne_nil (pack : ReplayPack) : pack.boundaryOffsets ≠ [] := by
  intro h
  have hfirst := pack.offsets_first
  rw [h] at hfirst
  simp at hfirst

theorem offset_zero (pack : ReplayPack) : offsetAt pack.boundaryOffsets 0 = 0 := by
  have hfirst := pack.offsets_first
  rw [offsetAt, List.getD_eq_getElem?_getD, ← List.head?_eq_getElem?, hfirst]
  rfl

theorem offset_boundaryCount (pack : ReplayPack) :
    offsetAt pack.boundaryOffsets pack.boundaryCount = pack.eventCount := by
  have hlast := pack.offsets_last
  rw [offsetAt, List.getD_eq_getElem?_getD, ReplayPack.boundaryCount, ← List.getLast?_eq_getElem?,
    hlast]
  rfl

/-- The rows of the windows are all rows. -/
theorem rows_tile {windows : List (Nat × Nat)}
    (h : Tiles 0 windows pack.boundaryCount) :
    Tiles 0 (windows.map fun window => (offsetAt pack.boundaryOffsets window.1,
      offsetAt pack.boundaryOffsets window.2)) pack.eventCount := by
  have hlength := List.length_pos_of_ne_nil (offsets_ne_nil pack)
  have hmap := h.map (f := offsetAt pack.boundaryOffsets) fun i j hij hj => by
    rw [ReplayPack.boundaryCount] at hj
    exact Bisect.getD_strictMono pack.offsets_sorted hij (by omega)
  rw [offset_zero, offset_boundaryCount] at hmap
  exact hmap

end Offsets

/-! ## Packs that can be decoded -/

section Decoding

variable {pack : ReplayPack}

/-- Every row can be decoded. -/
def Decodes (pack : ReplayPack) : Prop :=
  ∀ index, index < pack.eventCount → ∃ state, pack.rowState index = .ok state

theorem exists_decodeBatchStates (h : Decodes pack) {start stop : Nat}
    (hstop : stop ≤ pack.eventCount) :
    ∃ decoded, pack.decodeBatchStates start stop = .ok decoded := by
  have hrows : ∀ index ∈ Tiles.indices (start, stop), ∃ state, pack.rowState index = .ok state :=
    fun index hindex => h index (Nat.lt_of_lt_of_le (Tiles.mem_indices.mp hindex).2 hstop)
  obtain ⟨states, hstates⟩ := exists_mapM_ok hrows
  rw [ReplayPack.decodeBatchStates, hstates]
  exact ⟨_, rfl⟩

/-- A window that could be decoded has rows that can be. -/
theorem rowState_of_decodeBatchStates {start stop : Nat} {decoded : BatchStates}
    (h : pack.decodeBatchStates start stop = .ok decoded) {index : Nat} (hstart : start ≤ index)
    (hstop : index < stop) : ∃ state, pack.rowState index = .ok state := by
  obtain ⟨states, hstates, -⟩ := bind_eq_ok.mp h
  have hindex : index ∈ Tiles.indices (start, stop) := Tiles.mem_indices.mpr ⟨hstart, hstop⟩
  obtain ⟨n, hn, hget⟩ := List.mem_iff_getElem.mp hindex
  have hall := mapM_eq_ok hstates
  have hpair := (List.forall₂_iff_get.mp hall).2 n hn (hall.length_eq ▸ hn)
  rw [List.get_eq_getElem, hget] at hpair
  exact ⟨_, hpair⟩

end Decoding

/-! ## The loop over the windows -/

section Windows

variable [DomainDigest] {setup : SnipingSetup} {pack : ReplayPack} {rounds : Nat}

/-- A boundary is processed alike with both ways to look a row up. -/
theorem processIndex_congr {decoded : BatchStates} {window : Nat × Nat}
    (h : pack.decodeBatchStates (offsetAt pack.boundaryOffsets window.1)
      (offsetAt pack.boundaryOffsets window.2) = .ok decoded) {index : Nat}
    (hrows : offsetAt pack.boundaryOffsets window.1 ≤ offsetAt pack.boundaryOffsets index ∧
      offsetAt pack.boundaryOffsets (index + 1) ≤ offsetAt pack.boundaryOffsets window.2)
    (run : ColumnarRun pack) :
    processIndex setup decoded.item rounds run index =
      processIndex setup pack.rowState rounds run index := by
  have happly := applyHistoricalGroup_congr h hrows.1 hrows.2
  simp only [processIndex, processHistorical, applyGroup, happly]

/-- **The windows of a batch size no boundary exceeds are one loop over the boundaries.** -/
theorem processWindows_eq (hdecodes : Decodes pack) {batchRows readahead : Nat}
    (hfits : FitsBatch pack.boundaryOffsets batchRows) (run : ColumnarRun pack) :
    processWindows setup rounds (boundaryBatches pack.boundaryOffsets batchRows readahead) run =
      (Tiles.indices (0, pack.boundaryCount)).foldlM
        (processIndex setup pack.rowState rounds) run := by
  have hsupported : (boundaryBatches pack.boundaryOffsets batchRows readahead).unsupported = false :=
    (boundaryBatches_supported_iff pack.offsets_sorted).mpr hfits
  have htiles : Tiles 0 (boundaryBatches pack.boundaryOffsets batchRows readahead).windows
      pack.boundaryCount := boundaryBatches_tiles (offsets_ne_nil pack) hsupported
  rw [processWindows, hsupported, refuseIf_of_not (by simp), ← htiles.foldlM_indices]
  have hwindow : ∀ window ∈ (boundaryBatches pack.boundaryOffsets batchRows readahead).windows,
      ∀ run : ColumnarRun pack, processWindow setup rounds run window =
        (Tiles.indices window).foldlM (processIndex setup pack.rowState rounds) run := by
    intro window hw run
    obtain ⟨decoded, hdecoded⟩ := exists_decodeBatchStates hdecodes
      ((rows_tile htiles).bounds (List.mem_map_of_mem hw)).2.2
    rw [processWindow, hdecoded, ok_bind]
    exact foldlM_congr (fun index hindex run => processIndex_congr hdecoded
      (rows_in_window pack.offsets_sorted htiles hw hindex) run) run
  rw [foldlM_congr hwindow run]
  exact bind_pure _

/-- A loop over the windows that returned has decoded every row. -/
theorem decodes_of_processWindows {batchRows readahead : Nat} {run left : ColumnarRun pack}
    (h : processWindows setup rounds (boundaryBatches pack.boundaryOffsets batchRows readahead) run
      = .ok left) : Decodes pack := by
  obtain ⟨state, hwindows, h⟩ := bind_eq_ok.mp h
  obtain ⟨hsupported, -⟩ := check_bind_eq_ok.mp h
  rw [raising_eq_ok, refuseIf_eq_ok, Bool.not_eq_true] at hsupported
  have htiles : Tiles 0 (boundaryBatches pack.boundaryOffsets batchRows readahead).windows
      pack.boundaryCount := boundaryBatches_tiles (offsets_ne_nil pack) hsupported
  intro index hindex
  obtain ⟨rows, hrows, hfirst, hlast⟩ := (rows_tile htiles).exists_window (Nat.zero_le _) hindex
  obtain ⟨window, hw, rfl⟩ := List.mem_map.mp hrows
  obtain ⟨before, after, hpassed⟩ := foldlM_passes hwindows window hw
  obtain ⟨decoded, hdecoded, -⟩ := bind_eq_ok.mp hpassed
  exact rowState_of_decodeBatchStates hdecoded hfirst hlast

end Windows

/-! ## Runs without settings -/

section Runs

variable [DomainDigest] {setup : SnipingSetup} {pack : ReplayPack}
  {schedule : Option ColumnarDeliverySource} {settings : EnginePhysicalSettings} {rounds : Nat}
  {output : SnipingRunOutput}

/-- The run of a pack with all its rows decoded beforehand. -/
def runDecoded (setup : SnipingSetup) (pack : ReplayPack)
    (schedule : Option ColumnarDeliverySource) (rounds : Nat) : Except Halt SnipingRunOutput := do
  let opening ← raising (openingRun setup pack schedule)
  let state ← (Tiles.indices (0, pack.boundaryCount)).foldlM
    (processIndex setup pack.rowState rounds) opening
  finishRun setup state rounds

/-- **What a run is.**  A run gives an output when its settings fit, the pack is ready and can be
decoded, and the run with no settings gives that output. -/
theorem run_eq_ok_iff : run setup pack schedule settings rounds = .ok output ↔
    Fits pack settings ∧ Ready setup pack schedule ∧ Decodes pack ∧
      runDecoded setup pack schedule rounds = .ok output := by
  rw [run]
  constructor
  · intro h
    obtain ⟨hpreflight, h⟩ := check_bind_eq_ok.mp h
    obtain ⟨hfits, hready⟩ := preflight_eq_ok_iff.mp (raising_eq_ok.mp hpreflight)
    obtain ⟨opening, hopening, h⟩ := bind_eq_ok.mp h
    obtain ⟨state, hstate, h⟩ := bind_eq_ok.mp h
    have hdecodes := decodes_of_processWindows hstate
    rw [processWindows_eq hdecodes hfits.boundaries] at hstate
    refine ⟨hfits, hready, hdecodes, ?_⟩
    rw [runDecoded, hopening, ok_bind, hstate, ok_bind, h]
  · rintro ⟨hfits, hready, hdecodes, h⟩
    rw [runDecoded] at h
    have hpreflight := raising_eq_ok.mpr (preflight_eq_ok_iff.mpr ⟨hfits, hready⟩)
    rw [hpreflight, ok_bind]
    simp only [processWindows_eq hdecodes hfits.boundaries]
    exact h

/-! ## Rounds -/

/-- More rounds than a loop needs change nothing. -/
theorem drain_more {due : Nat → Bool} {more : Nat} (hle : rounds ≤ more)
    {run left : ColumnarRun pack} (h : drain setup due rounds run = .ok left) :
    drain setup due more run = .ok left := by
  induction rounds generalizing more run with
  | zero =>
    rw [drain] at h
    split_ifs at h with hnone
    cases more with
    | zero =>
      rw [drain, if_pos hnone]
      exact h
    | succ more =>
      rw [drain, hnone]
      exact h
  | succ rounds ih =>
    obtain ⟨more, rfl⟩ : ∃ m, more = m + 1 := ⟨more - 1, by omega⟩
    rw [drain] at h ⊢
    cases hnext : nextScheduled due run.desk.scheduled with
    | none =>
      rw [hnext] at h
      exact h
    | some boundary =>
      rw [hnext] at h
      obtain ⟨next, hnext, h⟩ := bind_eq_ok.mp h
      refine bind_eq_ok.mpr ⟨next, hnext, ?_⟩
      exact ih (Nat.le_of_succ_le_succ hle) h

theorem runDecoded_more {more : Nat} (hle : rounds ≤ more)
    (h : runDecoded setup pack schedule rounds = .ok output) :
    runDecoded setup pack schedule more = .ok output := by
  obtain ⟨opening, hopening, h⟩ := bind_eq_ok.mp h
  obtain ⟨state, hstate, h⟩ := bind_eq_ok.mp h
  obtain ⟨left, hleft, h⟩ := bind_eq_ok.mp h
  have hloop : (Tiles.indices (0, pack.boundaryCount)).foldlM
      (processIndex setup pack.rowState more) opening = .ok state := by
    refine foldlM_transfer (fun index _ before after hpassed => ?_) hstate
    obtain ⟨boundary, hboundary, hpassed⟩ := bind_eq_ok.mp hpassed
    obtain ⟨drained, hdrained, hpassed⟩ := bind_eq_ok.mp hpassed
    exact bind_eq_ok.mpr ⟨boundary, hboundary,
      bind_eq_ok.mpr ⟨drained, drain_more hle hdrained, hpassed⟩⟩
  exact bind_eq_ok.mpr ⟨opening, hopening, bind_eq_ok.mpr ⟨state, hloop,
    bind_eq_ok.mpr ⟨left, drain_more hle hleft, h⟩⟩⟩

/-- A run that ends with an output. -/
def Finishes (setup : SnipingSetup) (pack : ReplayPack) (schedule : Option ColumnarDeliverySource)
    (settings : EnginePhysicalSettings) (output : SnipingRunOutput) : Prop :=
  ∃ rounds, run setup pack schedule settings rounds = .ok output

/-- **A run finishes as the run without settings does, if its settings fit.** -/
theorem finishes_iff : Finishes setup pack schedule settings output ↔
    Fits pack settings ∧ Ready setup pack schedule ∧ Decodes pack ∧
      ∃ rounds, runDecoded setup pack schedule rounds = .ok output := by
  constructor
  · rintro ⟨rounds, h⟩
    obtain ⟨hfits, hready, hdecodes, h⟩ := run_eq_ok_iff.mp h
    exact ⟨hfits, hready, hdecodes, rounds, h⟩
  · rintro ⟨hfits, hready, hdecodes, rounds, h⟩
    exact ⟨rounds, run_eq_ok_iff.mpr ⟨hfits, hready, hdecodes, h⟩⟩

/-- Two runs that finish have one output, whatever their settings are. -/
theorem finishes_unique {settings' : EnginePhysicalSettings} {output' : SnipingRunOutput}
    (h : Finishes setup pack schedule settings output)
    (h' : Finishes setup pack schedule settings' output') : output' = output := by
  obtain ⟨-, -, -, rounds, hrun⟩ := finishes_iff.mp h
  obtain ⟨-, -, -, rounds', hrun'⟩ := finishes_iff.mp h'
  have hmore := runDecoded_more (Nat.le_max_left rounds rounds') hrun
  have hmore' := runDecoded_more (Nat.le_max_right rounds rounds') hrun'
  exact Except.ok.inj (hmore'.symm.trans hmore)

end Runs

/-! ## Groups, batches and results -/

/-- **Groups partition their stream, windows cover their pack, and settings change no result.**  A
stream that is cut without a fault is regrouped.  The windows of a pack end with a fault exactly
when a boundary has more rows than a batch, and cover the boundaries otherwise.  Where a run
finishes, a run with other settings finishes with the same output if they fit the pack, and is
refused if they do not. -/
theorem reader_settings_outcome :
    (∀ (clock : CompactTransactionClock) (events : List CanonicalEvent),
      (eventGroups clock events).fault = none →
        Regrouped events (eventGroups clock events).groups) ∧
    (∀ (pack : ReplayPack) (batchRows readahead : Nat),
      ((boundaryBatches pack.boundaryOffsets batchRows readahead).unsupported = true ↔
        ∃ index, index < pack.boundaryCount ∧
          batchRows < boundaryRows pack.boundaryOffsets index) ∧
      ((boundaryBatches pack.boundaryOffsets batchRows readahead).unsupported = false →
        Covering pack.boundaryOffsets
          (boundaryBatches pack.boundaryOffsets batchRows readahead).windows)) ∧
    ∀ [DomainDigest] (setup : SnipingSetup) (pack : ReplayPack)
      (schedule : Option ColumnarDeliverySource) (settings settings' : EnginePhysicalSettings)
      (output : SnipingRunOutput), Finishes setup pack schedule settings output →
        (Fits pack settings' → ∀ output',
          Finishes setup pack schedule settings' output' ↔ output' = output) ∧
        (¬ Fits pack settings' → ∃ message, ∀ rounds,
          run setup pack schedule settings' rounds
            = .error (.raised (.optimizedUnsupported message))) := by
  refine ⟨fun clock events hfault => eventGroups_regrouped hfault,
    fun pack batchRows readahead => ?_,
    fun setup pack schedule settings settings' output h => ?_⟩
  · refine ⟨?_, boundaryBatches_covering pack.offsets_sorted (offsets_ne_nil pack)⟩
    rw [← Bool.not_eq_false, boundaryBatches_supported_iff pack.offsets_sorted, FitsBatch]
    simp only [List.mem_range, not_forall, not_le, exists_prop]
    rfl
  · obtain ⟨-, hready, hdecodes, hrounds⟩ := finishes_iff.mp h
    refine ⟨fun hfits output' => ⟨finishes_unique h, ?_⟩, fun hfits => ?_⟩
    · rintro rfl
      exact finishes_iff.mpr ⟨hfits, hready, hdecodes, hrounds⟩
    · obtain ⟨message, hmessage⟩ := preflight_unsupported hready hfits
      refine ⟨message, fun rounds => ?_⟩
      rw [run, hmessage]
      rfl

/-! ## A small pack

Three blocks; the first one has a transaction with two rows of another protocol. -/

section Sample

attribute [local instance] sampleDigest

def sampleBlockRow (block : Nat) : ReplayRow 2 1 1 where
  boundaryOrdinal := block * 2 ^ 32
  blockOrdinal := block
  transactionIndex := -1
  eventIndex := 0
  eventIndexValid := false
  orderingFidelity := .transactionPartial
  canonicalEventId := { hex := Fin.ofNat _ block }
  stableCausalId := { hex := Fin.ofNat _ block }
  transactionGroupId := { hex := Fin.ofNat _ block }
  protocolCode := 0
  protocolVersionCode := 0
  protocolPayloadSchemaCode := 0
  protocolPayload := []
  payload := .block

def sampleTradeRow (eventIndex : Nat) : ReplayRow 2 1 1 where
  boundaryOrdinal := 100 * 2 ^ 32 + 1
  blockOrdinal := 100
  transactionIndex := 0
  eventIndex := eventIndex
  eventIndexValid := true
  orderingFidelity := .instructionExact
  canonicalEventId := { hex := Fin.ofNat _ (200 + eventIndex) }
  stableCausalId := { hex := Fin.ofNat _ (200 + eventIndex) }
  transactionGroupId := { hex := 200 }
  protocolCode := 0
  protocolVersionCode := 0
  protocolPayloadSchemaCode := 0
  protocolPayload := []
  payload := .venueTrade 0 0 1

def samplePack : ReplayPack where
  networkId := sampleNetwork
  positionSchemaId := BLOCK32_TRANSACTION32_POSITION_SCHEMA_ID
  decisionRange := sampleConfig.decisionRange
  transactionClock := sampleClock
  assets := [SOLANA_NATIVE_ASSET_ID, ⟨"TOKEN"⟩]
  accounts := [.address "dev"]
  venues := [⟨"pool"⟩]
  protocols := ["other"]
  protocolVersions := ["1"]
  protocolPayloadSchemas := ["other-v1"]
  rows := [sampleBlockRow 100, sampleTradeRow 0, sampleTradeRow 1, sampleBlockRow 101,
    sampleBlockRow 102]
  boundaryOffsets := [0, 1, 3, 4, 5]
  groupOffsets := [0, 1, 3, 4, 5]
  boundaryOrdinals := [100 * 2 ^ 32, 100 * 2 ^ 32 + 1, 101 * 2 ^ 32, 102 * 2 ^ 32]
  offsets_first := rfl
  offsets_last := rfl
  offsets_sorted := by decide
  ordinals_length := rfl
  ordinals_sorted := by decide

/-- One thread that reads one batch at a time. -/
def sampleSettings (readerBatchRows : Nat) (h : 0 < readerBatchRows) : EnginePhysicalSettings where
  readerBatchRows := readerBatchRows
  readerReadahead := 1
  threads := 1
  rows_pos := h
  readahead_mem := List.mem_cons_self
  threads_pos := Nat.one_pos

theorem ready_sample : Ready sampleSetup samplePack none where
  identity := by decide
  groups := rfl
  layout := by decide
  deliveries := rfl

theorem decodes_sample : Decodes samplePack := by
  have hdecoded : samplePack.decodeBatchStates 0 5 = .ok ⟨0, 5, List.replicate 5 none⟩ := by decide
  exact fun index hindex => rowState_of_decodeBatchStates hdecoded (Nat.zero_le _) hindex

theorem runDecoded_sample : ∃ output, runDecoded sampleSetup samplePack none 0 = .ok output := by
  have h : (runDecoded sampleSetup samplePack none 0).toBool = true := by decide
  cases hrun : runDecoded sampleSetup samplePack none 0 with
  | ok output => exact ⟨output, rfl⟩
  | error halt =>
    rw [hrun] at h
    cases h

theorem boundaryBatches_sample :
    boundaryBatches samplePack.boundaryOffsets 1 1 = ⟨[(0, 1)], true⟩ := by
  simp [samplePack, boundaryBatches, boundaryBatchesFrom, batchLength, offsetAt, pendingWindow]

/-- **A batch that is too small is refused.**  The pack is read with batches of two rows; with
batches of one row its second boundary is in no window, and the run does not finish. -/
theorem batch_below_boundary :
    ¬ Covering samplePack.boundaryOffsets (boundaryBatches samplePack.boundaryOffsets 1 1).windows ∧
      ∃ output, Finishes sampleSetup samplePack none (sampleSettings 2 (by decide)) output ∧
        ¬ Finishes sampleSetup samplePack none (sampleSettings 1 (by decide)) output := by
  refine ⟨fun h => ?_, ?_⟩
  · have honce := h.once
    rw [boundaryBatches_sample] at honce
    revert honce
    decide
  · obtain ⟨output, houtput⟩ := runDecoded_sample
    refine ⟨output, finishes_iff.mpr ⟨⟨rfl, by decide, by decide⟩, ready_sample, decodes_sample, 0,
      houtput⟩, fun h => ?_⟩
    have hsmall := (finishes_iff.mp h).1.boundaries
    revert hsmall
    decide

end Sample

end Columnar

end OnchainBacktest
