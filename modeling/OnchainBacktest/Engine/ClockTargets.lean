import OnchainBacktest.Engine.TransactionClock

/-!
# Targets on the transaction clock

Both ways to move ahead on a clock, in full.  A delay in transactions leads to the position at a
global index (`positionAt`), so delays compose and keep order; a duration leads to the first
transaction of the first row that a search over all later rows would find (`FirstAt`).

A clock does not bound its block ordinals and a position does: where the block of a target does not
fit 32 bits, the constructor of the position stops with an overflow.  That is the only way in which a
target can be missed (`ceils_iff`).
-/

set_option autoImplicit false

namespace OnchainBacktest

namespace ChainPosition

/-- The constructor returns for coordinates that fit their fields. -/
theorem make_fits {networkId : NetworkId} {positionSchemaId : PositionSchemaId} {block : Nat}
    {transactionIndex : Int} (hschema : positionSchemaId = BLOCK32_TRANSACTION32_POSITION_SCHEMA_ID)
    (hblock : block ≤ UINT32_MAX) (hlow : -1 ≤ transactionIndex)
    (hhigh : transactionIndex < UINT32_MAX) :
    ∃ p, make networkId positionSchemaId block transactionIndex none = .ok p := by
  rw [make, dif_pos hschema, dif_pos hblock, dif_pos hlow, dif_pos hhigh, dif_pos eventless_le]
  exact ⟨_, rfl⟩

/-- Positions with the same coordinates are one. -/
theorem ext_of_fields {p q : ChainPosition} (hnetwork : p.networkId = q.networkId)
    (hblock : p.blockOrdinal = q.blockOrdinal) (htransaction : p.transactionIndex = q.transactionIndex)
    (hevent : p.eventIndex = q.eventIndex) : p = q := by
  cases p
  cases q
  simp_all

/-- **Boundaries are the positions outside events.**  Encoding keeps the order of the chain.
Decoding gives back the position with its event forgotten, and what it takes are the values of 64
bits, each of them the boundary of the position it gives. -/
theorem boundary_codec (networkId : NetworkId) :
    (∀ p : ChainPosition, fromBoundaryOrdinal p.networkId p.positionSchemaId p.boundaryOrdinal
      = .ok p.withoutEvent) ∧
    (∀ p q : ChainPosition, p.boundaryOrdinal < q.boundaryOrdinal ↔
      toLex (p.blockOrdinal, p.transactionIndex) < toLex (q.blockOrdinal, q.transactionIndex)) ∧
    ∀ value, value ≤ UINT64_MAX ↔ ∃ p, p.boundaryOrdinal = value ∧
      fromBoundaryOrdinal networkId BLOCK32_TRANSACTION32_POSITION_SCHEMA_ID value = .ok p := by
  refine ⟨fromBoundaryOrdinal_boundaryOrdinal, fun p q => ?_, fun value => ⟨fun h => ?_, ?_⟩⟩
  · rw [boundaryOrdinal_lt_iff, Prod.Lex.toLex_lt_toLex]
  · have hmax : UINT64_MAX = 2 ^ 64 - 1 := rfl
    have hmax' : UINT32_MAX = 2 ^ 32 - 1 := rfl
    obtain ⟨p, hp⟩ : ∃ p, make networkId BLOCK32_TRANSACTION32_POSITION_SCHEMA_ID
        (boundaryCoordinates value).1 (boundaryCoordinates value).2 none = .ok p := make_fits rfl
      (show (boundaryCoordinates value).1 ≤ UINT32_MAX by simp only [boundaryCoordinates]; omega)
      (show -1 ≤ (boundaryCoordinates value).2 by simp only [boundaryCoordinates]; omega)
      (by simp only [boundaryCoordinates]; omega)
    have hdecoded : fromBoundaryOrdinal networkId BLOCK32_TRANSACTION32_POSITION_SCHEMA_ID value
        = .ok p := by
      rw [fromBoundaryOrdinal, Checked.refuseIf_of_not (not_not.mpr rfl),
        Checked.refuseIf_of_not (not_lt.mpr h)]
      exact hp
    exact ⟨p, (fromBoundaryOrdinal_eq_ok hdecoded).2.2, hdecoded⟩
  · rintro ⟨p, rfl, -⟩
    exact p.boundaryOrdinal_le

end ChainPosition

open Checked Bisect

namespace CompactTransactionClock

variable {clock : CompactTransactionClock} {p q p' q' : ChainPosition} {r s r' : Nat}

/-- The position at a global index. -/
def positionAt (clock : CompactTransactionClock) (target : Nat) : Except Fault ChainPosition := do
  refuseIf (clock.totalTransactionCount ≤ target) (.transactionClock .settlementTailExhausted)
  let blockIndex := bisectRight clock.cumulativeTransactionEnd target
  ChainPosition.make clock.networkId clock.positionSchemaId
    (clock.blockOrdinals.getD blockIndex 0)
    ((target : Int) - clock.cumulativeTransactionPrefix.getD blockIndex 0) none

/-- `row` holds the transaction of a global index. -/
def RowOf (clock : CompactTransactionClock) (target row : Nat) : Prop :=
  row < clock.rowCount ∧ clock.cumulativeTransactionPrefix.getD row 0 ≤ target ∧
    target < clock.cumulativeTransactionPrefix.getD row 0 + clock.transactionCounts.getD row 0

/-- `q` is the transaction of a global index, with no event in it. -/
def HoldsIndex (clock : CompactTransactionClock) (q : ChainPosition) (target : Nat) : Prop :=
  q.eventIndex = none ∧ ∃ s, clock.Covers q s ∧ clock.globalAt s q = target

/-! ## Global indexes and rows -/

/-- A transaction count fits 32 bits. -/
theorem count_le (row : Nat) : clock.transactionCounts.getD row 0 ≤ UINT32_MAX := by
  by_cases hrow : row < clock.transactionCounts.length
  · rw [List.getD_eq_getElem _ _ hrow]
    exact clock.counts_le _ (List.getElem_mem hrow)
  · rw [List.getD_eq_default _ _ (not_lt.mp hrow)]
    exact Nat.zero_le _

/-- A global index is below the total exactly when a row holds it. -/
theorem lt_total_iff {target : Nat} :
    target < clock.totalTransactionCount ↔ ∃ row, clock.RowOf target row := by
  constructor
  · exact fun h => ⟨_, row_of_global h⟩
  · rintro ⟨row, hrow, _, hlt⟩
    have hlast : clock.rowCount - 1 < clock.rowCount := by omega
    rw [totalTransactionCount_eq, getD_end hlast]
    rw [getD_prefixSum hrow] at hlt
    rcases Nat.eq_or_lt_of_le (show row ≤ clock.rowCount - 1 by omega) with rfl | hbefore
    · exact hlt
    · have hle := end_le_prefix hbefore hlast
      omega

/-- A global index is in one row only. -/
theorem RowOf.unique {target : Nat} (h : clock.RowOf target r) (h' : clock.RowOf target s) :
    r = s := by
  obtain ⟨hr, hle, hlt⟩ := h
  obtain ⟨hs, hle', hlt'⟩ := h'
  rw [getD_prefixSum hr] at hle hlt
  rw [getD_prefixSum hs] at hle' hlt'
  rcases Nat.lt_trichotomy r s with hrs | hrs | hrs
  · have hend := end_le_prefix hrs hs
    omega
  · exact hrs
  · have hend := end_le_prefix hrs hr
    omega

/-- A covered position is in the row of its index. -/
theorem Covers.rowOf (h : clock.Covers p r) : clock.RowOf (clock.globalAt r p) r := by
  have hnonneg := h.nonneg
  have hlt := h.lt_count
  refine ⟨h.row_lt, ?_, ?_⟩
  · rw [globalAt]
    omega
  · rw [globalAt]
    omega

/-- One position at most holds an index. -/
theorem HoldsIndex.unique {target : Nat} (h : clock.HoldsIndex q target)
    (h' : clock.HoldsIndex q' target) : q = q' := by
  obtain ⟨hevent, s, hs, rfl⟩ := h
  obtain ⟨hevent', s', hs', hsame⟩ := h'
  have hrow := hs.rowOf
  rw [← hsame] at hrow
  obtain rfl := hs'.rowOf.unique hrow
  have hq := hs.globalAt_eq
  have hq' := hs'.globalAt_eq
  rw [hsame] at hq'
  refine ChainPosition.ext_of_fields ?_ ?_ ?_ ?_
  · rw [hs.network, hs'.network]
  · rw [← hs.block, ← hs'.block]
  · omega
  · rw [hevent, hevent']

/-- Indexes lead to boundaries in their order. -/
theorem HoldsIndex.boundary_le {target target' : Nat} (h : clock.HoldsIndex q target)
    (h' : clock.HoldsIndex q' target') (hle : target ≤ target') :
    q.boundaryOrdinal ≤ q'.boundaryOrdinal := by
  obtain ⟨_, s, hs, rfl⟩ := h
  obtain ⟨_, s', hs', rfl⟩ := h'
  have hlt := hs'.globalAt_lt_iff hs
  omega

/-! ## A delay in transactions -/

/-- The position at a global index is the one that holds it. -/
theorem positionAt_eq_ok {target : Nat} :
    clock.positionAt target = .ok q ↔ clock.HoldsIndex q target := by
  constructor
  · intro h
    simp only [positionAt, bind_eq_ok, refuseIf_eq_ok, exists_const, not_le] at h
    obtain ⟨htotal, hq⟩ := h
    obtain ⟨hrow, hle, hlt⟩ := row_of_global htotal
    obtain ⟨e1, e2, e3, e4, e5⟩ := ChainPosition.make_eq_ok hq
    refine ⟨e5, _, ⟨e1, e2, hrow, e3.symm, by omega, by omega⟩, ?_⟩
    rw [globalAt]
    omega
  · rintro ⟨hevent, s, hs, rfl⟩
    have htotal := lt_total_iff.mpr ⟨s, hs.rowOf⟩
    have hrow := hs.rowOf.unique (row_of_global htotal)
    have hnonneg := hs.nonneg
    rw [positionAt, refuseIf_of_not (not_le.mpr htotal), ok_bind]
    have htransaction : (clock.globalAt s q : Int) - clock.cumulativeTransactionPrefix.getD s 0
        = q.transactionIndex := by
      rw [globalAt]
      omega
    rw [← hrow]
    dsimp only
    rw [htransaction, hs.block, ← hs.network, ← hs.schema, ← hevent]
    exact ChainPosition.make_self q

/-- The tail is exhausted exactly when no transaction has the index. -/
theorem positionAt_eq_tail {target : Nat} :
    clock.positionAt target = .error (.transactionClock .settlementTailExhausted) ↔
      clock.totalTransactionCount ≤ target := by
  simp only [positionAt, bind_eq_error, refuseIf_eq_error, and_true, refuseIf_eq_ok, exists_const]
  constructor
  · rintro (h | ⟨_, h⟩)
    · exact h
    · exact absurd h (ChainPosition.make_ne_clock _)
  · exact fun h => .inl h

/-- An index of a block that fits has a position. -/
theorem exists_positionAt {target : Nat}
    (hschema : clock.positionSchemaId = BLOCK32_TRANSACTION32_POSITION_SCHEMA_ID)
    (hrow : clock.RowOf target s) (hblock : clock.blockOrdinals.getD s 0 ≤ UINT32_MAX) :
    ∃ q, clock.positionAt target = .ok q := by
  have htotal := lt_total_iff.mpr ⟨s, hrow⟩
  have hsame := hrow.unique (row_of_global htotal)
  obtain ⟨_, hle, hlt⟩ := hrow
  have hcount := clock.count_le s
  rw [positionAt, refuseIf_of_not (not_le.mpr htotal), ok_bind, ← hsame]
  exact ChainPosition.make_fits hschema hblock (by omega) (by omega)

/-- A delay from a covered position is a global index. -/
theorem transactionAfter_eq (hp : clock.Covers p r) {delay : Nat} (hdelay : 1 ≤ delay) :
    clock.transactionAfter p delay = clock.positionAt (clock.globalAt r p + delay) := by
  rw [transactionAfter, refuseIf_of_not (not_lt.mpr hdelay), ok_bind,
    globalTransactionIndex_eq_ok.mpr ⟨r, hp, rfl⟩, ok_bind]
  rfl

/-- **A delay in transactions.**  No delay is refused.  Any other leads to the one position whose
global index is that many further, and is refused with an exhausted tail exactly when the clock has
no such index; for an index of a block that fits a position there is no other outcome.  Delays
compose, and they keep order: a position reached from further on, or after more, is no earlier. -/
theorem transactionAfter_exact (clock : CompactTransactionClock) :
    (∀ p, clock.transactionAfter p 0
      = .error (.transactionClock .nonPositiveTransactionDelay)) ∧
    (∀ p r, clock.Covers p r → ∀ delay, 1 ≤ delay →
      (∀ q, clock.transactionAfter p delay = .ok q ↔
        clock.HoldsIndex q (clock.globalAt r p + delay)) ∧
      (clock.transactionAfter p delay = .error (.transactionClock .settlementTailExhausted) ↔
        clock.totalTransactionCount ≤ clock.globalAt r p + delay) ∧
      (clock.globalAt r p + delay < clock.totalTransactionCount →
        ∃ s, clock.RowOf (clock.globalAt r p + delay) s ∧
          (clock.blockOrdinals.getD s 0 ≤ UINT32_MAX →
            ∃ q, clock.transactionAfter p delay = .ok q ∧
              ∀ q', clock.HoldsIndex q' (clock.globalAt r p + delay) → q' = q))) ∧
    (∀ p q first, clock.transactionAfter p first = .ok q → ∀ second, 1 ≤ second →
      clock.transactionAfter q second = clock.transactionAfter p (first + second)) ∧
    ∀ p r p' r', clock.Covers p r → clock.Covers p' r' →
      p.boundaryOrdinal ≤ p'.boundaryOrdinal → ∀ delay delay', 1 ≤ delay → delay ≤ delay' →
        (∀ q q', clock.transactionAfter p delay = .ok q → clock.transactionAfter p' delay' = .ok q' →
          q.boundaryOrdinal ≤ q'.boundaryOrdinal) ∧
        (clock.transactionAfter p delay = .error (.transactionClock .settlementTailExhausted) →
          clock.transactionAfter p' delay'
            = .error (.transactionClock .settlementTailExhausted)) := by
  refine ⟨fun p => rfl, ?_, ?_, ?_⟩
  · intro p r hp delay hdelay
    rw [transactionAfter_eq hp hdelay]
    refine ⟨fun q => positionAt_eq_ok, positionAt_eq_tail, fun htotal => ?_⟩
    obtain ⟨s, hs⟩ := lt_total_iff.mp htotal
    refine ⟨s, hs, fun hblock => ?_⟩
    obtain ⟨q, hq⟩ := exists_positionAt (hp.schema ▸ p.schema_supported) hs hblock
    exact ⟨q, hq, fun q' hq' => hq'.unique (positionAt_eq_ok.mp hq)⟩
  · intro p q first hq second hsecond
    obtain ⟨r, s, hr, hs, hindex, hfirst, _⟩ := transactionAfter_eq_ok hq
    rw [transactionAfter_eq hs hsecond, transactionAfter_eq hr (by omega), hindex, Nat.add_assoc]
  · intro p r p' r' hp hp' hle delay delay' hdelay hdelays
    have hindex : clock.globalAt r p ≤ clock.globalAt r' p' := by
      have hlt := hp'.globalAt_lt_iff hp
      omega
    rw [transactionAfter_eq hp hdelay, transactionAfter_eq hp' (by omega)]
    refine ⟨fun q q' hq hq' => ?_, fun htail => ?_⟩
    · exact (positionAt_eq_ok.mp hq).boundary_le (positionAt_eq_ok.mp hq') (by omega)
    · rw [positionAt_eq_tail] at htail ⊢
      omega

/-! ## A delay in time -/

/-- `row` comes after another, holds a transaction and is not before a time. -/
def LaterAt (clock : CompactTransactionClock) (after target row : Nat) : Prop :=
  after < row ∧ row < clock.rowCount ∧ clock.transactionCounts.getD row 0 ≠ 0 ∧
    target ≤ clock.blockTimeNs.getD row 0

/-- `row` is the first such row. -/
def FirstAt (clock : CompactTransactionClock) (after target row : Nat) : Prop :=
  clock.LaterAt after target row ∧ ∀ other, clock.LaterAt after target other → row ≤ other

/-- The row the search ends at. -/
def searchedRow (clock : CompactTransactionClock) (after target : Nat) : Nat :=
  clock.skipEmpty target clock.rowCount (bisectLeft clock.blockTimeNs target (after + 1))

/-- **The search finds the first row there is**, and stops behind the last row when there is none;
its loop ends within as many passes as the clock has rows. -/
theorem searchedRow_spec (hafter : r < clock.rowCount) (target : Nat) :
    ¬ (clock.searchedRow r target < clock.rowCount ∧
        clock.transactionCounts.getD (clock.searchedRow r target) 0 = 0) ∧
      (clock.searchedRow r target = clock.rowCount ∧ (∀ s, ¬ clock.LaterAt r target s) ∨
        clock.FirstAt r target (clock.searchedRow r target)) := by
  have hlength : clock.blockTimeNs.length = clock.rowCount := clock.times_length
  have hstart : r + 1 ≤ bisectLeft clock.blockTimeNs target (r + 1) := le_bisectLeft
  have hbound : bisectLeft clock.blockTimeNs target (r + 1) ≤ clock.blockTimeNs.length :=
    bisectLeft_le (by omega)
  obtain ⟨hle, hend, hskipped, hfull⟩ := skipEmpty_of_mono clock target clock.rowCount
    (bisectLeft clock.blockTimeNs target (r + 1)) (by omega) (by omega)
    (fun h => le_getD_bisectLeft (by omega))
  rw [← searchedRow] at hle hend hskipped hfull
  -- what the search passed over is too early or empty
  have hbefore : ∀ s, clock.LaterAt r target s → clock.searchedRow r target ≤ s := by
    rintro s ⟨hlater, hrow, hcount, htime⟩
    by_contra hlt
    by_cases hearly : s < bisectLeft clock.blockTimeNs target (r + 1)
    · exact absurd (lt_of_lt_bisectLeft hlater hearly) (not_lt.mpr htime)
    · exact hcount (hskipped s (not_lt.mp hearly) (not_le.mp hlt))
  refine ⟨fun h => hfull h.1 h.2, ?_⟩
  rcases Nat.eq_or_lt_of_le hend with hnone | hrow
  · exact .inl ⟨hnone, fun s hs => absurd (hbefore s hs) (by have := hs.2.1; omega)⟩
  · refine .inr ⟨⟨by omega, hrow, hfull hrow, ?_⟩, hbefore⟩
    exact le_getD_of_bisectLeft_le clock.times_sorted hle (by omega)

/-- There is one first row at most. -/
theorem FirstAt.unique {target : Nat} (h : clock.FirstAt r target s)
    (h' : clock.FirstAt r target r') : s = r' :=
  le_antisymm (h.2 _ h'.1) (h'.2 _ h.1)

/-- A later start and a later time lead to a later first row. -/
theorem FirstAt.mono {target target' s' : Nat} (h : clock.FirstAt r target s)
    (h' : clock.LaterAt r' target' s') (hr : r ≤ r') (htarget : target ≤ target') : s ≤ s' := by
  obtain ⟨hlater, hrow, hcount, htime⟩ := h'
  exact h.2 s' ⟨by omega, hrow, hcount, by omega⟩

/-- What the search from a covered position returns. -/
theorem firstNonempty_eq (hp : clock.Covers p r) (target : Nat) :
    clock.firstNonemptyTransactionAtOrAfter p target
      = if clock.searchedRow r target = clock.rowCount then
          .error (.transactionClock .durationTargetOutsideClock)
        else ChainPosition.make clock.networkId clock.positionSchemaId
          (clock.blockOrdinals.getD (clock.searchedRow r target) 0) 0 none := by
  rw [firstNonemptyTransactionAtOrAfter, requirePosition_eq_ok.mpr hp, ok_bind]
  by_cases hnone : clock.searchedRow r target = clock.rowCount
  · rw [if_pos hnone]
    exact congrArg (· >>= _) (refuseIf_of hnone)
  · rw [if_neg hnone]
    exact congrArg (· >>= _) (refuseIf_of_not hnone)

/-- What a delay in time is for: the first transaction of the first later row that holds one and is
not before the target time, and a refusal when there is no such row. -/
def Ceils (clock : CompactTransactionClock) (p : ChainPosition) (r target : Nat) : Prop :=
  (∀ s, clock.FirstAt r target s →
    ∃ q, clock.firstNonemptyTransactionAtOrAfter p target = .ok q ∧ clock.Covers q s ∧
      q.transactionIndex = 0 ∧ q.eventIndex = none) ∧
  ((∃ e, clock.firstNonemptyTransactionAtOrAfter p target = .error e) ↔
    ∀ s, ¬ clock.LaterAt r target s)

/-- The search returns the row it found when its block fits. -/
theorem firstNonempty_of_fits {target : Nat} (hp : clock.Covers p r)
    (hs : clock.FirstAt r target s) (hblock : clock.blockOrdinals.getD s 0 ≤ UINT32_MAX) :
    ∃ q, clock.firstNonemptyTransactionAtOrAfter p target = .ok q ∧ clock.Covers q s ∧
      q.transactionIndex = 0 ∧ q.eventIndex = none := by
  have hfound : clock.searchedRow r target = s := by
    rcases (searchedRow_spec hp.row_lt target).2 with ⟨_, hnone⟩ | hfirst
    · exact absurd hs.1 (hnone s)
    · exact hfirst.unique hs
  have hrow : s < clock.rowCount := hs.1.2.1
  have hcount := hs.1.2.2.1
  obtain ⟨q, hq⟩ : ∃ q, ChainPosition.make clock.networkId clock.positionSchemaId
      (clock.blockOrdinals.getD s 0) 0 none = .ok q :=
    ChainPosition.make_fits (hp.schema ▸ p.schema_supported) hblock ChainPosition.first_ge
      ChainPosition.first_lt
  obtain ⟨e1, e2, e3, e4, e5⟩ := ChainPosition.make_eq_ok hq
  refine ⟨q, ?_, ⟨e1, e2, hrow, e3.symm, by omega, by omega⟩, e4, e5⟩
  rw [firstNonempty_eq hp, hfound, if_neg (Nat.ne_of_lt hrow)]
  exact hq

/-- **A delay in time ceils exactly when the block it leads to fits a position.**  Its loop ends on
every clock.  A position reached from an earlier start, or for an earlier time, is no later. -/
theorem ceils_iff (hp : clock.Covers p r) (target : Nat) :
    (clock.Ceils p r target ↔
      ∀ s, clock.FirstAt r target s → clock.blockOrdinals.getD s 0 ≤ UINT32_MAX) ∧
    ¬ (clock.searchedRow r target < clock.rowCount ∧
      clock.transactionCounts.getD (clock.searchedRow r target) 0 = 0) ∧
    ∀ p' r' target', clock.Covers p' r' → p.boundaryOrdinal ≤ p'.boundaryOrdinal →
      target ≤ target' → ∀ q', clock.firstNonemptyTransactionAtOrAfter p' target' = .ok q' →
        ∃ q, clock.firstNonemptyTransactionAtOrAfter p target = .ok q ∧
          q.boundaryOrdinal ≤ q'.boundaryOrdinal := by
  obtain ⟨hends, hfound⟩ := searchedRow_spec hp.row_lt target
  refine ⟨⟨fun h s hs => ?_, fun hfits => ?_⟩, hends, ?_⟩
  · obtain ⟨q, _, hq, _⟩ := h.1 s hs
    rw [hq.block]
    exact q.block_le
  · refine ⟨fun s hs => firstNonempty_of_fits hp hs (hfits s hs), ?_⟩
    rcases hfound with ⟨hend, hnone⟩ | hfirst
    · refine iff_of_true ⟨.transactionClock .durationTargetOutsideClock, ?_⟩ hnone
      rw [firstNonempty_eq hp, if_pos hend]
    · refine iff_of_false ?_ fun hnone => hnone _ hfirst.1
      rintro ⟨e, he⟩
      obtain ⟨q, hq, _⟩ := firstNonempty_of_fits hp hfirst (hfits _ hfirst)
      rw [hq] at he
      cases he
  · intro p' r' target' hp' hle htarget q' hq'
    obtain ⟨_, s', hcovers, hq, hlater, _, _, htime, _⟩ := firstNonempty_eq_ok hq'
    obtain rfl := hp'.row_unique hcovers
    have hcount : clock.transactionCounts.getD s' 0 ≠ 0 := by
      have hlt := hq.lt_count
      have hnonneg := hq.nonneg
      omega
    have hat' : clock.LaterAt r' target' s' := ⟨hlater, hq.row_lt, hcount, htime⟩
    have hr : r ≤ r' := by
      by_contra hlt
      have hblocks := getD_strictMono clock.ordinals_sorted (not_le.mp hlt) hp.row_lt
      rw [hp.block, hp'.block] at hblocks
      have hbefore := ChainPosition.boundaryOrdinal_lt_iff.mpr (.inl hblocks)
      omega
    have hat : clock.LaterAt r target s' :=
      ⟨by omega, hat'.2.1, hcount, by omega⟩
    obtain ⟨hsome, hfirst⟩ | hfirst := hfound
    · exact absurd hat (hfirst s')
    · have hrows := hfirst.mono hat' hr htarget
      have hblocks : clock.blockOrdinals.getD (clock.searchedRow r target) 0
          ≤ clock.blockOrdinals.getD s' 0 := getD_mono ordinals_le_sorted hrows hq.row_lt
      have hfits : clock.blockOrdinals.getD s' 0 ≤ UINT32_MAX := hq.block ▸ q'.block_le
      obtain ⟨q, hok, hcovered, hzero, _⟩ := firstNonempty_of_fits hp hfirst (hblocks.trans hfits)
      refine ⟨q, hok, ?_⟩
      by_contra hlt
      have hlt' := ChainPosition.boundaryOrdinal_lt_iff.mp (not_le.mp hlt)
      rw [← hcovered.block, ← hq.block] at hlt'
      have hnonneg := hq.nonneg
      omega

/-! ## A block that fits no position -/

/-- Two blocks of one transaction each. -/
def pairClock (second : Nat) (h : 0 < second) : CompactTransactionClock where
  networkId := ⟨"solana:5eykt4UsFv8P8NJdTREpY1vzqKqZKvdpKuc147dw2N9d"⟩
  positionSchemaId := BLOCK32_TRANSACTION32_POSITION_SCHEMA_ID
  blockOrdinals := [0, second]
  transactionCounts := [1, 1]
  cumulativeTransactionPrefix := [0, 1]
  blockTimeNs := [0, 0]
  ordinals_ne := List.cons_ne_nil _ _
  counts_length := rfl
  times_length := rfl
  ordinals_sorted := List.pairwise_pair.mpr h
  counts_le := by decide
  prefix_exact := rfl
  ends_le := by decide
  times_resolution := by decide
  times_sorted := by decide

/-- The second block has a number of 33 bits. -/
def wideClock : CompactTransactionClock := pairClock 4294967296 (by decide)

/-- The transaction of the first block. -/
def pairStart : ChainPosition where
  networkId := ⟨"solana:5eykt4UsFv8P8NJdTREpY1vzqKqZKvdpKuc147dw2N9d"⟩
  positionSchemaId := BLOCK32_TRANSACTION32_POSITION_SCHEMA_ID
  blockOrdinal := 0
  transactionIndex := 0
  eventIndex := none
  schema_supported := rfl
  block_le := by decide
  neg_one_le := by decide
  transaction_lt := by decide
  event_le := ChainPosition.eventless_le

theorem pairStart_covered (second : Nat) (h : 0 < second) :
    (pairClock second h).Covers pairStart 0 :=
  ⟨rfl, rfl, Nat.two_pos, rfl, le_rfl, show (0 : Int) < ((1 : Nat) : Int) by decide⟩

/-- From the first block the second is the next to hold a transaction. -/
theorem pairClock_firstAt (second : Nat) (h : 0 < second) : (pairClock second h).FirstAt 0 0 1 :=
  ⟨⟨Nat.one_pos, Nat.one_lt_two, one_ne_zero, le_rfl⟩, fun _ h => h.1⟩

/-- No delay is refused, and the next transaction of a clock is neither reached nor said to be
missing when its block fits no position. -/
theorem transactionAfter_not_exact :
    wideClock.Covers pairStart 0 ∧
      wideClock.transactionAfter pairStart 0
        = .error (.transactionClock .nonPositiveTransactionDelay) ∧
      wideClock.globalAt 0 pairStart + 1 < wideClock.totalTransactionCount ∧
      wideClock.transactionAfter pairStart 1 = .error (.overflow "block_ordinal exceeds UInt32") :=
  ⟨pairStart_covered _ _, rfl, by decide, by decide⟩

/-- The next transaction is that of the second block when it fits. -/
theorem transactionAfter_exact_pair :
    ∃ q, (pairClock 1 (by decide)).transactionAfter pairStart 1 = .ok q := by
  obtain ⟨s, hs, h⟩ := ((transactionAfter_exact (pairClock 1 (by decide))).2.1 pairStart 0
    (pairStart_covered 1 (by decide)) 1 le_rfl).2.2 (by decide)
  have hrow : (pairClock 1 (by decide)).RowOf 1 1 :=
    ⟨by decide, by decide, by decide⟩
  obtain rfl := hs.unique hrow
  obtain ⟨q, hq, _⟩ := h (by decide)
  exact ⟨q, hq⟩

/-- The second block is found when it fits. -/
theorem ceils_iff_pair : (pairClock 1 (by decide)).Ceils pairStart 0 0 :=
  (ceils_iff (pairStart_covered 1 (by decide)) 0).1.mpr fun s hs => by
    rw [hs.unique (pairClock_firstAt 1 (by decide))]
    decide

/-- **A clock the constructor accepts, whose second block holds a transaction and is not found.** -/
theorem wideClock_not_ceils :
    make wideClock.networkId wideClock.positionSchemaId [0, 4294967296] [1, 1] [0, 1] [0, 0]
        = .ok wideClock ∧
      wideClock.Covers pairStart 0 ∧ wideClock.FirstAt 0 0 1 ∧
      wideClock.firstNonemptyTransactionAtOrAfter pairStart 0
          = .error (.overflow "block_ordinal exceeds UInt32") ∧
      ¬ wideClock.Ceils pairStart 0 0 := by
  have hstops : wideClock.firstNonemptyTransactionAtOrAfter pairStart 0
      = .error (.overflow "block_ordinal exceeds UInt32") := by
    decide
  refine ⟨by decide, pairStart_covered _ _, pairClock_firstAt _ _, hstops, fun h => ?_⟩
  obtain ⟨q, hq, _⟩ := h.1 1 (pairClock_firstAt _ _)
  rw [hstops] at hq
  cases hq

end CompactTransactionClock

end OnchainBacktest
