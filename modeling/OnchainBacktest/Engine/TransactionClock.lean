import Mathlib.Algebra.BigOperators.Group.List.Basic
import OnchainBacktest.Lib.Bisect
import OnchainBacktest.Domain.Chain

/-!
# The compact transaction clock

One row per produced block: its ordinal, how many transactions it holds, how many all earlier
blocks hold, and its time.  Blocks without transactions keep their row, so the prefix may repeat
while the ordinals strictly increase.

Positions are looked up by bisection over the ordinals, a delay in transactions is an addition on
global transaction indexes followed by a bisection over the cumulative ends, and a delay in time is
a bisection over the block times followed by a scan for a block that holds a transaction.  This
file has the code and one specification for each lookup; the facts on order that a scheduler
needs (a delay leads to a strictly later boundary) are read off from those.
-/

set_option autoImplicit false

namespace OnchainBacktest

open Checked Bisect

/-! ## Prefix sums -/

/-- How many transactions all preceding blocks hold. -/
def transactionPrefix : Nat → List Nat → List Nat
  | _, [] => []
  | acc, c :: rest => acc :: transactionPrefix (acc + c) rest

/-- How many transactions a block and all preceding ones hold. -/
def transactionEnds : Nat → List Nat → List Nat
  | _, [] => []
  | acc, c :: rest => (acc + c) :: transactionEnds (acc + c) rest

@[simp] theorem length_transactionPrefix (acc : Nat) (counts : List Nat) :
    (transactionPrefix acc counts).length = counts.length := by
  induction counts generalizing acc with
  | nil => rfl
  | cons c rest ih => simp [transactionPrefix, ih]

@[simp] theorem length_transactionEnds (acc : Nat) (counts : List Nat) :
    (transactionEnds acc counts).length = counts.length := by
  induction counts generalizing acc with
  | nil => rfl
  | cons c rest ih => simp [transactionEnds, ih]

theorem getD_transactionPrefix (acc : Nat) (counts : List Nat) {i : Nat}
    (hi : i < counts.length) :
    (transactionPrefix acc counts).getD i 0 = acc + (counts.take i).sum := by
  induction counts generalizing acc i with
  | nil => simp at hi
  | cons c rest ih =>
    cases i with
    | zero => simp [transactionPrefix]
    | succ i =>
      have h1 := ih (acc + c) (i := i) (by simpa using hi)
      simp only [transactionPrefix, List.getD_cons_succ, List.take_succ_cons, List.sum_cons, h1]
      omega

theorem getD_transactionEnds (acc : Nat) (counts : List Nat) {i : Nat}
    (hi : i < counts.length) :
    (transactionEnds acc counts).getD i 0 = acc + (counts.take (i + 1)).sum := by
  induction counts generalizing acc i with
  | nil => simp at hi
  | cons c rest ih =>
    cases i with
    | zero => simp [transactionEnds]
    | succ i =>
      have h1 := ih (acc + c) (i := i) (by simpa using hi)
      simp only [transactionEnds, List.getD_cons_succ, List.take_succ_cons, List.sum_cons, h1]
      omega

theorem sum_take_succ (counts : List Nat) {i : Nat} (hi : i < counts.length) :
    (counts.take (i + 1)).sum = (counts.take i).sum + counts.getD i 0 := by
  rw [List.getD_eq_getElem _ _ hi, List.take_succ_eq_append_getElem hi, List.sum_append]
  simp

theorem sum_take_le_sum_take (counts : List Nat) {i j : Nat} (hij : i ≤ j) :
    (counts.take i).sum ≤ (counts.take j).sum := by
  have h1 : counts.take i = (counts.take j).take i := by
    rw [List.take_take, Nat.min_eq_left hij]
  rw [h1]
  conv_rhs => rw [← List.take_append_drop i (counts.take j), List.sum_append]
  omega

/-- The first fault of a prefix column, row by row: a prefix that is not the running count, or a
running count that leaves 64 bits. -/
def prefixFault : Nat → List Nat → List Nat → Option TransactionClockErrorCode
  | expected, p :: prefixes, c :: counts =>
    if p ≠ expected then some .prefixInvalid
    else if UINT64_MAX < expected + c then some .prefixOverflow
    else prefixFault (expected + c) prefixes counts
  | _, _, _ => none

/-- A column without a fault is the column of running counts, all in 64 bits. -/
theorem prefixFault_eq_none {expected : Nat} {prefixes counts : List Nat}
    (hlen : prefixes.length = counts.length) (h : prefixFault expected prefixes counts = none) :
    prefixes = transactionPrefix expected counts ∧
      ∀ e ∈ transactionEnds expected counts, e ≤ UINT64_MAX := by
  induction counts generalizing expected prefixes with
  | nil =>
    rw [List.length_nil, List.length_eq_zero_iff] at hlen
    exact ⟨hlen, by simp [transactionEnds]⟩
  | cons c counts ih =>
    cases prefixes with
    | nil => simp at hlen
    | cons p prefixes =>
      rw [prefixFault] at h
      split at h
      · cases h
      · rename_i hp
        split at h
        · cases h
        · rename_i hle
          obtain ⟨h1, h2⟩ := ih (by simpa using hlen) h
          refine ⟨?_, ?_⟩
          · rw [transactionPrefix, ← h1, not_not.mp hp]
          · intro e he
            rw [transactionEnds, List.mem_cons] at he
            rcases he with rfl | he
            · exact not_lt.mp hle
            · exact h2 e he

/-! ## The clock -/

/-- One-network block clock with exact cumulative transaction prefixes. -/
structure CompactTransactionClock where
  networkId : NetworkId
  positionSchemaId : PositionSchemaId
  blockOrdinals : List Nat
  transactionCounts : List Nat
  cumulativeTransactionPrefix : List Nat
  blockTimeNs : List Nat
  ordinals_ne : blockOrdinals ≠ []
  counts_length : transactionCounts.length = blockOrdinals.length
  times_length : blockTimeNs.length = blockOrdinals.length
  ordinals_sorted : blockOrdinals.Pairwise (· < ·)
  counts_le : ∀ c ∈ transactionCounts, c ≤ UINT32_MAX
  prefix_exact : cumulativeTransactionPrefix = transactionPrefix 0 transactionCounts
  ends_le : ∀ e ∈ transactionEnds 0 transactionCounts, e ≤ UINT64_MAX
  times_resolution : ∀ t ∈ blockTimeNs, t % 1000000000 = 0
  times_sorted : blockTimeNs.Pairwise (· ≤ ·)
  deriving DecidableEq

namespace CompactTransactionClock

/-- The constructor of a clock, with its checks in the order the source makes them. -/
def make (networkId : NetworkId) (positionSchemaId : PositionSchemaId)
    (blockOrdinals transactionCounts cumulativeTransactionPrefix blockTimeNs : List Nat) :
    Except Fault CompactTransactionClock :=
  if h1 : blockOrdinals ≠ [] then
    if h2 : transactionCounts.length = blockOrdinals.length ∧
        cumulativeTransactionPrefix.length = blockOrdinals.length ∧
        blockTimeNs.length = blockOrdinals.length then
      if h3 : blockOrdinals.Pairwise (· < ·) then
        if h4 : ∀ c ∈ transactionCounts, c ≤ UINT32_MAX then
          match h5 : prefixFault 0 cumulativeTransactionPrefix transactionCounts with
          | some code => .error (.transactionClock code)
          | none =>
            if h6 : ∀ t ∈ blockTimeNs, t % 1000000000 = 0 then
              if h7 : blockTimeNs.Pairwise (· ≤ ·) then
                .ok ⟨networkId, positionSchemaId, blockOrdinals, transactionCounts,
                  cumulativeTransactionPrefix, blockTimeNs, h1, h2.1, h2.2.2, h3, h4,
                  (prefixFault_eq_none (h2.2.1.trans h2.1.symm) h5).1,
                  (prefixFault_eq_none (h2.2.1.trans h2.1.symm) h5).2, h6, h7⟩
              else .error (.transactionClock .blockTimeRegression)
            else .error (.transactionClock .blockTimeResolutionInvalid)
        else .error (.transactionClock .transactionCountInvalid)
      else .error (.transactionClock .blockOrderInvalid)
    else .error (.transactionClock .arrayLengthMismatch)
  else .error (.transactionClock .emptyClock)

section Lookups

variable (clock : CompactTransactionClock)

/-- How many rows the clock has. -/
def rowCount : Nat := clock.blockOrdinals.length

/-- `_cumulative_transaction_end`. -/
def cumulativeTransactionEnd : List Nat := transactionEnds 0 clock.transactionCounts

/-- How many transactions the whole clock holds. -/
def totalTransactionCount : Nat :=
  clock.cumulativeTransactionPrefix.getD (clock.rowCount - 1) 0
    + clock.transactionCounts.getD (clock.rowCount - 1) 0

/-- Validate a real transaction position and return its clock row. -/
def requirePosition (position : ChainPosition) : Except Fault Nat := do
  refuseIf (position.networkId ≠ clock.networkId ∨
      position.positionSchemaId ≠ clock.positionSchemaId)
    (.chainIdentityMismatch "position and transaction clock use different chain identities")
  let blockIndex := bisectLeft clock.blockOrdinals position.blockOrdinal 0
  refuseIf (blockIndex = clock.rowCount ∨
      clock.blockOrdinals.getD blockIndex 0 ≠ position.blockOrdinal)
    (.transactionClock .positionOutsideClock)
  refuseIf (¬ (0 ≤ position.transactionIndex ∧
      position.transactionIndex < clock.transactionCounts.getD blockIndex 0))
    (.transactionClock .transactionIndexOutOfRange)
  .ok blockIndex

def blockTimeForPosition (position : ChainPosition) : Except Fault Nat := do
  let row ← clock.requirePosition position
  .ok (clock.blockTimeNs.getD row 0)

/-- The modeled time of a produced block, empty blocks included. -/
def blockTimeForBlock (blockOrdinal : Nat) : Except Fault Nat := do
  let blockIndex := bisectLeft clock.blockOrdinals blockOrdinal 0
  refuseIf (blockIndex = clock.rowCount ∨ clock.blockOrdinals.getD blockIndex 0 ≠ blockOrdinal)
    (.transactionClock .positionOutsideClock)
  .ok (clock.blockTimeNs.getD blockIndex 0)

def globalTransactionIndex (position : ChainPosition) : Except Fault Nat := do
  let row ← clock.requirePosition position
  .ok (clock.cumulativeTransactionPrefix.getD row 0 + position.transactionIndex.toNat)

/-- The boundary after exactly `transactionDelay` next transactions. -/
def transactionAfter (position : ChainPosition) (transactionDelay : Nat) :
    Except Fault ChainPosition := do
  refuseIf (transactionDelay < 1) (.transactionClock .nonPositiveTransactionDelay)
  let target := (← clock.globalTransactionIndex position) + transactionDelay
  refuseIf (clock.totalTransactionCount ≤ target) (.transactionClock .settlementTailExhausted)
  let blockIndex := bisectRight clock.cumulativeTransactionEnd target
  ChainPosition.make clock.networkId clock.positionSchemaId
    (clock.blockOrdinals.getD blockIndex 0)
    ((target : Int) - clock.cumulativeTransactionPrefix.getD blockIndex 0) none

/-- Step over empty blocks; the bound on the steps is the number of rows. -/
def skipEmpty (targetTimeNs : Nat) : Nat → Nat → Nat
  | 0, index => index
  | steps + 1, index =>
    if index < clock.rowCount ∧ clock.transactionCounts.getD index 0 = 0 then
      let next := index + 1
      if next < clock.rowCount ∧ clock.blockTimeNs.getD next 0 < targetTimeNs then
        skipEmpty targetTimeNs steps (bisectLeft clock.blockTimeNs targetTimeNs next)
      else skipEmpty targetTimeNs steps next
    else index

/-- Ceil a duration to the first later block that holds a transaction. -/
def firstNonemptyTransactionAtOrAfter (afterPosition : ChainPosition) (targetTimeNs : Nat) :
    Except Fault ChainPosition := do
  let startIndex := (← clock.requirePosition afterPosition) + 1
  let index := clock.skipEmpty targetTimeNs clock.rowCount
    (bisectLeft clock.blockTimeNs targetTimeNs startIndex)
  refuseIf (index = clock.rowCount) (.transactionClock .durationTargetOutsideClock)
  ChainPosition.make clock.networkId clock.positionSchemaId
    (clock.blockOrdinals.getD index 0) 0 none

end Lookups

/-! ## What a lookup says -/

/-- `row` is the row of the clock that holds the transaction of `position`. -/
structure Covers (clock : CompactTransactionClock) (position : ChainPosition) (row : Nat) :
    Prop where
  network : position.networkId = clock.networkId
  schema : position.positionSchemaId = clock.positionSchemaId
  row_lt : row < clock.rowCount
  block : clock.blockOrdinals.getD row 0 = position.blockOrdinal
  nonneg : 0 ≤ position.transactionIndex
  lt_count : position.transactionIndex < clock.transactionCounts.getD row 0

/-- The global index of a position the clock covers at `row`. -/
def globalAt (clock : CompactTransactionClock) (row : Nat) (position : ChainPosition) : Nat :=
  clock.cumulativeTransactionPrefix.getD row 0 + position.transactionIndex.toNat

variable {clock : CompactTransactionClock} {p q : ChainPosition} {r s : Nat}

theorem rowCount_pos : 0 < clock.rowCount := List.length_pos_of_ne_nil clock.ordinals_ne

theorem ordinals_le_sorted : clock.blockOrdinals.Pairwise (· ≤ ·) :=
  clock.ordinals_sorted.imp fun h => Nat.le_of_lt h

/-- **A position is accepted exactly at the row that covers it.** -/
theorem requirePosition_eq_ok : clock.requirePosition p = .ok r ↔ clock.Covers p r := by
  simp only [requirePosition, bind_eq_ok, refuseIf_eq_ok, exists_const, not_or, not_not,
    Except.ok.injEq]
  constructor
  · rintro ⟨⟨h1, h2⟩, ⟨h3, h4⟩, ⟨h5, h6⟩, rfl⟩
    have h7 := bisectLeft_le (l := clock.blockOrdinals) (x := p.blockOrdinal) (Nat.zero_le _)
    exact ⟨h1, h2, lt_of_le_of_ne h7 h3, h4, h5, h6⟩
  · intro h
    have h1 : bisectLeft clock.blockOrdinals p.blockOrdinal 0 = r := by
      rw [← h.block]
      exact bisectLeft_getD clock.ordinals_sorted h.row_lt
    rw [h1]
    exact ⟨⟨h.network, h.schema⟩, ⟨Nat.ne_of_lt h.row_lt, h.block⟩, ⟨h.nonneg, h.lt_count⟩, rfl⟩

theorem Covers.row_unique (h : clock.Covers p r) (h' : clock.Covers p s) : r = s := by
  have h1 := requirePosition_eq_ok.mpr h
  rw [requirePosition_eq_ok.mpr h'] at h1
  exact (Except.ok.inj h1).symm

theorem blockTimeForPosition_eq_ok {t : Nat} :
    clock.blockTimeForPosition p = .ok t ↔
      ∃ r, clock.Covers p r ∧ clock.blockTimeNs.getD r 0 = t := by
  simp only [blockTimeForPosition, bind_eq_ok, requirePosition_eq_ok, Except.ok.injEq]

theorem globalTransactionIndex_eq_ok {g : Nat} :
    clock.globalTransactionIndex p = .ok g ↔
      ∃ r, clock.Covers p r ∧ clock.globalAt r p = g := by
  simp only [globalTransactionIndex, bind_eq_ok, requirePosition_eq_ok, Except.ok.injEq, globalAt]

/-! ## Global indexes and the order of boundaries -/

theorem getD_prefixSum (hr : r < clock.rowCount) :
    clock.cumulativeTransactionPrefix.getD r 0 = (clock.transactionCounts.take r).sum := by
  rw [clock.prefix_exact, getD_transactionPrefix 0 _ (clock.counts_length ▸ hr), Nat.zero_add]

theorem getD_end (hr : r < clock.rowCount) :
    clock.cumulativeTransactionEnd.getD r 0
      = (clock.transactionCounts.take r).sum + clock.transactionCounts.getD r 0 := by
  have h1 : r < clock.transactionCounts.length := clock.counts_length ▸ hr
  rw [cumulativeTransactionEnd, getD_transactionEnds 0 _ h1, Nat.zero_add, sum_take_succ _ h1]

theorem totalTransactionCount_eq :
    clock.totalTransactionCount = clock.cumulativeTransactionEnd.getD (clock.rowCount - 1) 0 := by
  have h1 : clock.rowCount - 1 < clock.rowCount := Nat.sub_lt rowCount_pos Nat.one_pos
  rw [totalTransactionCount, getD_prefixSum h1, getD_end h1]

theorem length_cumulativeTransactionEnd :
    clock.cumulativeTransactionEnd.length = clock.rowCount := by
  rw [cumulativeTransactionEnd, length_transactionEnds, clock.counts_length, rowCount]

/-- The last transaction of a row comes before the first of any later row. -/
theorem end_le_prefix (hrs : r < s) (hs : s < clock.rowCount) :
    (clock.transactionCounts.take r).sum + clock.transactionCounts.getD r 0
      ≤ (clock.transactionCounts.take s).sum := by
  have h1 : r < clock.transactionCounts.length := clock.counts_length ▸ Nat.lt_trans hrs hs
  rw [← sum_take_succ _ h1]
  exact sum_take_le_sum_take _ hrs

theorem Covers.globalAt_eq (h : clock.Covers p r) :
    (clock.globalAt r p : Int)
      = (clock.transactionCounts.take r).sum + p.transactionIndex := by
  have h1 := h.nonneg
  rw [globalAt, getD_prefixSum h.row_lt]
  omega

/-- **Global indexes are ordered as boundaries are.** -/
theorem Covers.globalAt_lt_iff (hp : clock.Covers p r) (hq : clock.Covers q s) :
    clock.globalAt r p < clock.globalAt s q ↔ p.boundaryOrdinal < q.boundaryOrdinal := by
  have hp1 := hp.globalAt_eq
  have hq1 := hq.globalAt_eq
  have hp2 := hp.lt_count
  have hq2 := hq.lt_count
  have hp3 := hp.nonneg
  have hq3 := hq.nonneg
  rw [ChainPosition.boundaryOrdinal_lt_iff, ← hp.block, ← hq.block]
  rcases Nat.lt_trichotomy r s with hrs | rfl | hrs
  · have h1 := end_le_prefix hrs hq.row_lt
    have h2 := getD_strictMono clock.ordinals_sorted hrs hq.row_lt
    omega
  · omega
  · have h1 := end_le_prefix hrs hp.row_lt
    have h2 := getD_strictMono clock.ordinals_sorted hrs hp.row_lt
    omega

/-! ## A delay in transactions -/

/-- The row a global index below the total falls in. -/
theorem row_of_global {g : Nat} (hg : g < clock.totalTransactionCount) :
    bisectRight clock.cumulativeTransactionEnd g < clock.rowCount ∧
      clock.cumulativeTransactionPrefix.getD (bisectRight clock.cumulativeTransactionEnd g) 0 ≤ g ∧
      g < clock.cumulativeTransactionPrefix.getD (bisectRight clock.cumulativeTransactionEnd g) 0
        + clock.transactionCounts.getD (bisectRight clock.cumulativeTransactionEnd g) 0 := by
  rw [totalTransactionCount_eq] at hg
  have hlen := clock.length_cumulativeTransactionEnd
  have hpos := clock.rowCount_pos
  have hle := bisectRight_le_of_lt hg
  set k := bisectRight clock.cumulativeTransactionEnd g with hk
  have hrow : k < clock.rowCount := by omega
  have hend := lt_getD_bisectRight (x := g) (l := clock.cumulativeTransactionEnd) (by omega)
  rw [← hk, getD_end hrow] at hend
  rw [getD_prefixSum hrow]
  refine ⟨hrow, ?_, hend⟩
  rcases Nat.eq_zero_or_pos k with h0 | h0
  · simp [h0]
  · have h1 : k - 1 < clock.rowCount := by omega
    have h2 := getD_le_of_lt_bisectRight (l := clock.cumulativeTransactionEnd) (x := g)
      (i := k - 1) (by omega)
    rw [getD_end h1, ← sum_take_succ _ (clock.counts_length ▸ h1), Nat.sub_add_cancel h0] at h2
    exact h2

/-- **A delay of `d` transactions leads to the position whose global index is `d` further.** -/
theorem transactionAfter_eq_ok {d : Nat} (h : clock.transactionAfter p d = .ok q) :
    ∃ r s, clock.Covers p r ∧ clock.Covers q s ∧
      clock.globalAt s q = clock.globalAt r p + d ∧ 1 ≤ d ∧ q.eventIndex = none := by
  simp only [transactionAfter, bind_eq_ok, refuseIf_eq_ok, exists_const, not_lt, not_le] at h
  obtain ⟨hd, g, hg, htot, hq⟩ := h
  obtain ⟨r, hr, rfl⟩ := globalTransactionIndex_eq_ok.mp hg
  obtain ⟨h1, h2, h3⟩ := row_of_global htot
  obtain ⟨e1, e2, e3, e4, e5⟩ := ChainPosition.make_eq_ok hq
  have hcov : clock.Covers q (bisectRight clock.cumulativeTransactionEnd (clock.globalAt r p + d)) :=
    ⟨e1, e2, h1, e3.symm, by omega, by omega⟩
  refine ⟨r, _, hr, hcov, ?_, hd, e5⟩
  rw [globalAt]
  omega

/-! ## A delay in time -/

theorem skipEmpty_of_mono (clock : CompactTransactionClock) (target steps index : Nat)
    (hle : index ≤ clock.rowCount) (hsteps : clock.rowCount ≤ index + steps)
    (htimes : index < clock.rowCount → target ≤ clock.blockTimeNs.getD index 0) :
    index ≤ clock.skipEmpty target steps index ∧
      clock.skipEmpty target steps index ≤ clock.rowCount ∧
      (∀ i, index ≤ i → i < clock.skipEmpty target steps index →
        clock.transactionCounts.getD i 0 = 0) ∧
      (clock.skipEmpty target steps index < clock.rowCount →
        clock.transactionCounts.getD (clock.skipEmpty target steps index) 0 ≠ 0) := by
  induction steps generalizing index with
  | zero =>
    rw [skipEmpty]
    exact ⟨le_rfl, hle, fun i h1 h2 => by omega, fun h => by omega⟩
  | succ steps ih =>
    rw [skipEmpty]
    split
    · rename_i hempty
      have hnext : index + 1 < clock.rowCount → target ≤ clock.blockTimeNs.getD (index + 1) 0 := by
        intro h
        refine (htimes hempty.1).trans (getD_mono clock.times_sorted (Nat.le_succ _) ?_)
        rw [clock.times_length]
        exact h
      have hno : ¬ (index + 1 < clock.rowCount ∧
          clock.blockTimeNs.getD (index + 1) 0 < target) := by
        rintro ⟨h1, h2⟩
        exact absurd (hnext h1) (Nat.not_le_of_lt h2)
      -- The times are sorted, so the second bisection of the source never runs.
      simp only [if_neg hno]
      obtain ⟨h1, h2, h3, h4⟩ := ih (index + 1) (by omega) (by omega) hnext
      refine ⟨by omega, h2, ?_, h4⟩
      intro i hi1 hi2
      rcases Nat.eq_or_lt_of_le hi1 with rfl | hlt
      · exact hempty.2
      · exact h3 i hlt hi2
    · rename_i hfull
      refine ⟨le_rfl, hle, fun i h1 h2 => by omega, fun h hz => hfull ⟨h, hz⟩⟩

/-- **A deadline falls on the first transaction of the first later block that holds one and is
not earlier than the target time.** -/
theorem firstNonempty_eq_ok {target : Nat}
    (h : clock.firstNonemptyTransactionAtOrAfter p target = .ok q) :
    ∃ r s, clock.Covers p r ∧ clock.Covers q s ∧ r < s ∧ q.transactionIndex = 0 ∧
      q.eventIndex = none ∧ target ≤ clock.blockTimeNs.getD s 0 ∧
      ∀ i, r < i → i < s → clock.transactionCounts.getD i 0 = 0 ∨
        clock.blockTimeNs.getD i 0 < target := by
  simp only [firstNonemptyTransactionAtOrAfter, bind_eq_ok, refuseIf_eq_ok, exists_const] at h
  obtain ⟨r, hr, hne, hq⟩ := h
  have hr := requirePosition_eq_ok.mp hr
  have hlen : clock.blockTimeNs.length = clock.rowCount := clock.times_length
  have hrow := hr.row_lt
  have h1 : r + 1 ≤ bisectLeft clock.blockTimeNs target (r + 1) := le_bisectLeft
  have h2 := bisectLeft_le (l := clock.blockTimeNs) (x := target) (k := r + 1) (by omega)
  obtain ⟨h3, h4, h5, h6⟩ := skipEmpty_of_mono clock target clock.rowCount
    (bisectLeft clock.blockTimeNs target (r + 1))
    (by omega) (by omega) (fun h => le_getD_bisectLeft (by omega))
  have h7 := h6 (by omega)
  obtain ⟨e1, e2, e3, e4, e5⟩ := ChainPosition.make_eq_ok hq
  refine ⟨r, _, hr, ⟨e1, e2, by omega, e3.symm, by omega, by omega⟩, by omega, e4, e5, ?_, ?_⟩
  · exact le_getD_of_bisectLeft_le clock.times_sorted h3 (by omega)
  · intro i hi1 hi2
    rcases Nat.lt_or_ge i (bisectLeft clock.blockTimeNs target (r + 1)) with hlt | hge
    · exact Or.inr (lt_of_lt_bisectLeft hi1 hlt)
    · exact Or.inl (h5 i hge hi2)

end CompactTransactionClock

end OnchainBacktest
