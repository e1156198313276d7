import OnchainBacktest.Source.BoundedEvidence

/-!
# Bounded evidence does not depend on the order of rows

What the reader derives from the rows of a bounded query is a fact about the rows as a multiset.
`inspectBoundedEvidence_perm` says so for the receipts: rows in another order, cut into other
batches, give the same receipts.  The other theorems say which facts these are, with no order in
them: which counts are known (`get?_blockTransactionCounts`), when a position is refuted
(`transactionIndexStatus_eq_refuted`), when a clock is monotone (`blockTimeStatuses_monotone`), and
what is hashed (`evidenceRowsDigest_eq_ok`).

Each loop has its invariant as a statement about the rows it has seen.  The dictionary of counts
has one for the counts and one for the blocks that can have none any more.
-/

set_option autoImplicit false

namespace OnchainBacktest

namespace Source

open Checked

/-! ## Known counts -/

section Counts

variable {columns : List String} {rows seen : List Cells} {row : Cells} {block count : Int}

/-- The row is about the block. -/
def Carries (columns : List String) (block : Int) (row : Cells) : Prop :=
  exactCount (cellOf columns "block_ordinal" row) = some block

instance carries_decidable (columns : List String) (block : Int) :
    DecidablePred (Carries columns block) := fun row =>
  inferInstanceAs (Decidable (exactCount (cellOf columns "block_ordinal" row) = some block))

/-- The count of a row, when it is a valid integer. -/
def rowCount (columns : List String) (row : Cells) : Option Int :=
  exactCount (cellOf columns "transaction_count" row)

/-- The rows about a block. -/
def carriers (columns : List String) (block : Int) (rows : List Cells) : List Cells :=
  rows.filter fun row => Carries columns block row

/-- One single row is about the block, and its count is a valid integer. -/
def KnownCount (columns : List String) (rows : List Cells) (block count : Int) : Prop :=
  ∃ row, carriers columns block rows = [row] ∧ rowCount columns row = some count

theorem carriers_append : carriers columns block (seen ++ [row])
    = if Carries columns block row then carriers columns block seen ++ [row]
      else carriers columns block seen := by
  rw [carriers, List.filter_append]
  by_cases h : Carries columns block row
  · rw [if_pos h, List.filter_cons_of_pos (by simpa using h), List.filter_nil]
    rfl
  · rw [if_neg h, List.filter_cons_of_neg (by simpa using h), List.filter_nil, List.append_nil]
    rfl

/-- What the state says of the rows seen: its counts are the known ones, and a block is invalid
when rows are about it and no count is known. -/
structure CountsSeen (columns : List String) (seen : List Cells) (state : BlockCounts) : Prop where
  known : ∀ block count, state.counts.get? block = some count ↔ KnownCount columns seen block count
  invalid : ∀ block, block ∈ state.invalid ↔
    carriers columns block seen ≠ [] ∧ ∀ count, ¬ KnownCount columns seen block count

theorem countsSeen_nil : CountsSeen columns [] ⟨Dict.empty, []⟩ where
  known block count := by simp [KnownCount, carriers]
  invalid block := by simp [carriers]

/-- A block that is not mentioned keeps its count. -/
theorem knownCount_append_of_not (h : ¬ Carries columns block row) :
    KnownCount columns (seen ++ [row]) block count ↔ KnownCount columns seen block count := by
  rw [KnownCount, KnownCount, carriers_append, if_neg h]

/-- The first row about a block decides its count. -/
theorem knownCount_append_first (h : Carries columns block row)
    (hnone : carriers columns block seen = []) :
    KnownCount columns (seen ++ [row]) block count ↔ rowCount columns row = some count := by
  rw [KnownCount, carriers_append, if_pos h, hnone, List.nil_append]
  constructor
  · rintro ⟨other, hother, hcount⟩
    rw [List.singleton_inj] at hother
    exact hother ▸ hcount
  · exact fun hcount => ⟨row, rfl, hcount⟩

/-- A second row about a block leaves it without a count. -/
theorem not_knownCount_append (h : Carries columns block row)
    (hsome : carriers columns block seen ≠ []) :
    ¬ KnownCount columns (seen ++ [row]) block count := by
  rintro ⟨other, hother, _⟩
  rw [carriers_append, if_pos h] at hother
  have hlen := congrArg List.length hother
  have hpos := List.length_pos_iff.mpr hsome
  simp only [List.length_append, List.length_singleton] at hlen
  omega

/-- **One row more, seen.** -/
theorem CountsSeen.step {state : BlockCounts} (h : CountsSeen columns seen state) (row : Cells) :
    CountsSeen columns (seen ++ [row]) (countBlockRow columns state row) := by
  have hother : ∀ {block' : Int}, ¬ Carries columns block' row →
      carriers columns block' (seen ++ [row]) = carriers columns block' seen := fun hnot => by
    rw [carriers_append, if_neg hnot]
  cases hblock : exactCount (cellOf columns "block_ordinal" row) with
  | none =>
    -- the row is about no block
    have hnot : ∀ block', ¬ Carries columns block' row := fun block' hc => by
      rw [Carries, hblock] at hc
      cases hc
    rw [countBlockRow, hblock]
    refine ⟨fun block' count => ?_, fun block' => ?_⟩
    · rw [knownCount_append_of_not (hnot block')]
      exact h.known block' count
    · rw [hother (hnot block'), h.invalid block']
      simp only [knownCount_append_of_not (hnot block')]
  | some block =>
    have hcarries : Carries columns block row := hblock
    have hnot : ∀ {block'}, block' ≠ block → ¬ Carries columns block' row := fun hne hc => by
      rw [Carries, hblock] at hc
      exact hne (Option.some.inj hc).symm
    have hfull : carriers columns block (seen ++ [row]) ≠ [] := by
      rw [carriers_append, if_pos hcarries]
      simp
    -- a state that drops the block, once no count of it is known any more
    have hdropped : (∀ count, ¬ KnownCount columns (seen ++ [row]) block count) →
        CountsSeen columns (seen ++ [row]) ⟨state.counts.erase block, block :: state.invalid⟩ := by
      intro hunknown
      refine ⟨fun block' count => ?_, fun block' => ?_⟩
      · rw [Dict.get?_erase]
        by_cases hb : block' = block
        · subst hb
          simp [hunknown count]
        · rw [if_neg hb, knownCount_append_of_not (hnot hb)]
          exact h.known block' count
      · rw [List.mem_cons]
        by_cases hb : block' = block
        · subst hb
          simp [hfull, hunknown]
        · rw [hother (hnot hb), h.invalid block']
          simp only [hb, false_or, knownCount_append_of_not (hnot hb)]
    cases hcount : exactCount (cellOf columns "transaction_count" row) with
    | none =>
      have hunknown : ∀ count, ¬ KnownCount columns (seen ++ [row]) block count := by
        intro count hknown
        by_cases hnone : carriers columns block seen = []
        · rw [knownCount_append_first hcarries hnone, rowCount, hcount] at hknown
          cases hknown
        · exact not_knownCount_append hcarries hnone hknown
      rw [countBlockRow, hblock]
      dsimp only
      rw [hcount]
      exact hdropped hunknown
    | some count =>
      rw [countBlockRow, hblock]
      dsimp only
      rw [hcount]
      dsimp only
      by_cases hget : state.counts.get? block = none
      · rw [if_neg (not_not.mpr hget)]
        have hunseen : ∀ count, ¬ KnownCount columns seen block count := fun c hc => by
          rw [← h.known, hget] at hc
          cases hc
        by_cases hinvalid : block ∈ state.invalid
        · rw [if_pos hinvalid]
          have hsome := ((h.invalid block).mp hinvalid).1
          refine ⟨fun block' c => ?_, fun block' => ?_⟩
          · by_cases hb : block' = block
            · subst hb
              simp [hget, not_knownCount_append hcarries hsome]
            · rw [knownCount_append_of_not (hnot hb)]
              exact h.known block' c
          · by_cases hb : block' = block
            · subst hb
              simp [hinvalid, hfull, not_knownCount_append hcarries hsome]
            · rw [hother (hnot hb), h.invalid block']
              simp only [knownCount_append_of_not (hnot hb)]
        · rw [if_neg hinvalid]
          have hnone : carriers columns block seen = [] := by
            by_contra hsome
            exact hinvalid ((h.invalid block).mpr ⟨hsome, hunseen⟩)
          have hfirst : ∀ c, KnownCount columns (seen ++ [row]) block c ↔ some count = some c := by
            intro c
            rw [knownCount_append_first hcarries hnone, rowCount, hcount]
          refine ⟨fun block' c => ?_, fun block' => ?_⟩
          · rw [Dict.get?_set]
            by_cases hb : block' = block
            · subst hb
              rw [if_pos rfl, hfirst]
            · rw [if_neg hb, knownCount_append_of_not (hnot hb)]
              exact h.known block' c
          · by_cases hb : block' = block
            · subst hb
              simp [hinvalid, hfirst]
            · rw [hother (hnot hb), h.invalid block']
              simp only [knownCount_append_of_not (hnot hb)]
      · rw [if_pos hget]
        have hsome : carriers columns block seen ≠ [] := by
          cases hc : state.counts.get? block with
          | none => exact absurd hc hget
          | some c =>
            obtain ⟨other, hcarrier, _⟩ := (h.known block c).mp hc
            simp [hcarrier]
        exact hdropped fun c => not_knownCount_append hcarries hsome

theorem countsSeen_foldl (rest : List Cells) {state : BlockCounts}
    (h : CountsSeen columns seen state) :
    CountsSeen columns (seen ++ rest) (rest.foldl (countBlockRow columns) state) := by
  induction rest generalizing seen state with
  | nil => rwa [List.append_nil]
  | cons row rest ih =>
    have hstep := ih (h.step row)
    rwa [List.append_assoc, List.singleton_append] at hstep

/-- **A block's count is known exactly when one single row is about it and its count is a valid
integer.** -/
theorem get?_blockTransactionCounts :
    (blockTransactionCounts columns rows).get? block = some count
      ↔ KnownCount columns rows block count :=
  (countsSeen_foldl rows countsSeen_nil).known block count

theorem KnownCount.perm {rows' : List Cells} (hperm : rows.Perm rows')
    (h : KnownCount columns rows block count) : KnownCount columns rows' block count := by
  obtain ⟨row, hrow, hcount⟩ := h
  refine ⟨row, ?_, hcount⟩
  have hfiltered : (carriers columns block rows).Perm (carriers columns block rows') :=
    hperm.filter _
  rw [hrow] at hfiltered
  exact List.perm_singleton.mp hfiltered.symm

/-- Rows in another order have the same counts. -/
theorem get?_blockTransactionCounts_perm {rows' : List Cells} (hperm : rows.Perm rows')
    (block : Int) : (blockTransactionCounts columns rows).get? block
      = (blockTransactionCounts columns rows').get? block := by
  refine Option.ext fun count => ?_
  simp only [get?_blockTransactionCounts]
  exact ⟨KnownCount.perm hperm, KnownCount.perm hperm.symm⟩

end Counts

/-! ## Refuted positions -/

section Positions

variable {columns : List String} {counts : Dict Int Int} {rows : List Cells} {row : Cells}

/-- The row is no position: one of its indices is no integer, or negative inside its block. -/
def Malformed (columns : List String) (row : Cells) : Prop :=
  exactInteger (cellOf columns "block_ordinal" row) = none ∨
    exactCount (cellOf columns "transaction_index" row) = none ∨
    exactCount (cellOf columns "event_index" row) = none

/-- The transaction of the row is one of a block whose count is known. -/
def LiesInside (columns : List String) (counts : Dict Int Int) (row : Cells) : Prop :=
  ∃ block transaction count, exactInteger (cellOf columns "block_ordinal" row) = some block ∧
    exactInteger (cellOf columns "transaction_index" row) = some transaction ∧
    counts.get? block = some count ∧ transaction < count

theorem exactCount_eq_none {value : Cell} :
    exactCount value = none ↔ ∀ n, exactInteger value = some n → n < 0 := by
  rw [exactCount]
  cases exactInteger value with
  | none => simp
  | some n => simp [Option.filter]

/-- What refutes a position: a malformed row, or one outside every known count. -/
theorem refutesPosition_iff : refutesPosition columns counts row = true ↔
    Malformed columns row ∨ ¬ LiesInside columns counts row := by
  rw [Malformed, LiesInside, exactCount_eq_none, exactCount_eq_none, refutesPosition]
  cases hblock : exactInteger (cellOf columns "block_ordinal" row) with
  | none => simp
  | some block =>
    cases htransaction : exactInteger (cellOf columns "transaction_index" row) with
    | none => simp
    | some transaction =>
      cases hevent : exactInteger (cellOf columns "event_index" row) with
      | none => simp
      | some event =>
        cases hcount : counts.get? block with
        | none => simp [hcount]
        | some count => simp [hcount, or_assoc]

theorem positionLoop_eq_refuted :
    positionLoop columns counts rows = .refuted ↔
      ∃ row ∈ rows, refutesPosition columns counts row = true := by
  induction rows with
  | nil => simp [positionLoop]
  | cons row rest ih =>
    rw [positionLoop]
    by_cases h : refutesPosition columns counts row = true
    · simp [h]
    · rw [if_neg h, ih]
      simp [h]

theorem positionLoop_ne_proven : positionLoop columns counts rows ≠ .proven := by
  induction rows with
  | nil => simp [positionLoop]
  | cons row rest ih =>
    rw [positionLoop]
    split
    · simp
    · exact ih

/-- **A position is refuted exactly when some row is malformed or outside a known count.** -/
theorem transactionIndexStatus_eq_refuted :
    transactionIndexStatus columns rows counts = .refuted ↔
      ∃ row ∈ rows, Malformed columns row ∨ ¬ LiesInside columns counts row := by
  rw [transactionIndexStatus]
  by_cases h : rows = []
  · simp [h]
  · rw [if_neg h, positionLoop_eq_refuted]
    simp only [refutesPosition_iff]

/-- **A position is never proven.** -/
theorem transactionIndexStatus_ne_proven :
    transactionIndexStatus columns rows counts ≠ .proven := by
  rw [transactionIndexStatus]
  split
  · simp
  · exact positionLoop_ne_proven

/-- A status that is never proven is told by when it is refuted. -/
theorem status_congr {a b : EvidenceStatus} (ha : a ≠ .proven) (hb : b ≠ .proven)
    (h : a = .refuted ↔ b = .refuted) : a = b := by
  cases a <;> cases b <;> simp_all

theorem transactionIndexStatus_perm {rows' : List Cells} {counts' : Dict Int Int}
    (hperm : rows.Perm rows') (hcounts : ∀ block, counts.get? block = counts'.get? block) :
    transactionIndexStatus columns rows counts = transactionIndexStatus columns rows' counts' := by
  refine status_congr transactionIndexStatus_ne_proven transactionIndexStatus_ne_proven ?_
  simp only [transactionIndexStatus_eq_refuted, LiesInside, hcounts, hperm.mem_iff]

end Positions

/-! ## Times -/

section Times

variable {columns : List String} {rows : List Cells}

/-- Every row has a block and a time of whole seconds. -/
def WholeSeconds (columns : List String) (rows : List Cells) : Prop :=
  ∀ row ∈ rows, ∃ block timeNs, exactCount (cellOf columns "block_ordinal" row) = some block ∧
    secondResolutionTimeNs (cellOf columns "block_time" row) = some timeNs

/-- The times that can be read, with their blocks. -/
def timedBlocks (columns : List String) (rows : List Cells) : List (Int × Int) :=
  rows.filterMap (timedBlock columns)

theorem timedBlock_eq_some {row : Cells} {timed : Int × Int} :
    timedBlock columns row = some timed ↔
      exactCount (cellOf columns "block_ordinal" row) = some timed.1 ∧
        secondResolutionTimeNs (cellOf columns "block_time" row) = some timed.2 := by
  rw [timedBlock]
  cases exactCount (cellOf columns "block_ordinal" row) with
  | none => simp
  | some block =>
    cases secondResolutionTimeNs (cellOf columns "block_time" row) with
    | none => simp
    | some timeNs => simp [Prod.ext_iff]

theorem wholeSeconds_iff : WholeSeconds columns rows ↔
    ∀ row ∈ rows, ∃ timed, timedBlock columns row = some timed := by
  refine forall₂_congr fun row _ => ⟨?_, ?_⟩
  · rintro ⟨block, timeNs, h⟩
    exact ⟨(block, timeNs), timedBlock_eq_some.mpr h⟩
  · rintro ⟨timed, h⟩
    exact ⟨timed.1, timed.2, timedBlock_eq_some.mp h⟩

/-- The loop reads every row, or none. -/
theorem convertedLoop_eq (columns : List String) (rows : List Cells)
    (converted : List (Int × Int)) :
    convertedLoop columns rows converted = none ∧ ¬ WholeSeconds columns rows ∨
      convertedLoop columns rows converted = some (converted ++ timedBlocks columns rows) ∧
        WholeSeconds columns rows := by
  simp only [wholeSeconds_iff]
  induction rows generalizing converted with
  | nil => exact .inr (by simp [convertedLoop, timedBlocks])
  | cons row rest ih =>
    rw [convertedLoop, timedBlocks]
    cases htimed : timedBlock columns row with
    | none => exact .inl (by simp [htimed])
    | some timed =>
      rw [List.filterMap_cons_some htimed]
      rcases ih (converted ++ [timed]) with ⟨hnone, hnot⟩ | ⟨hsome, hall⟩
      · refine .inl ⟨hnone, fun h => hnot fun other hmem => h other (List.mem_cons_of_mem _ hmem)⟩
      · refine .inr ⟨?_, ?_⟩
        · simpa [timedBlocks] using hsome
        · intro other hmem
          rcases List.mem_cons.mp hmem with rfl | hmem
          · exact ⟨timed, htimed⟩
          · exact hall other hmem

instance timedLe_total : Std.Total timedLe := ⟨fun a b => le_total (toLex a) (toLex b)⟩

instance timedLe_trans : IsTrans (Int × Int) timedLe := ⟨fun _ _ _ h h' => le_trans h h'⟩

theorem pairwiseNondecreasing_iff {l : List (Int × Int)} :
    pairwiseNondecreasing l = true ↔ l.Pairwise fun a b => a.2 ≤ b.2 := by
  induction l with
  | nil => simp [pairwiseNondecreasing]
  | cons a rest ih =>
    cases rest with
    | nil => simp [pairwiseNondecreasing]
    | cons b rest =>
      rw [pairwiseNondecreasing, Bool.and_eq_true, ih, decide_eq_true_iff]
      constructor
      · rintro ⟨hab, hrest⟩
        refine List.pairwise_cons.mpr ⟨fun c hc => ?_, hrest⟩
        rcases List.mem_cons.mp hc with rfl | hc
        · exact hab
        · exact hab.trans ((List.pairwise_cons.mp hrest).1 c hc)
      · intro h
        obtain ⟨ha, hrest⟩ := List.pairwise_cons.mp h
        exact ⟨ha b List.mem_cons_self, hrest⟩

/-- No time falls in block order. -/
def Nondecreasing (timed : List (Int × Int)) : Prop :=
  ∀ a ∈ timed, ∀ b ∈ timed, a.1 < b.1 → a.2 ≤ b.2

/-- Of distinct blocks the sorted times are nondecreasing when no time falls in block order. -/
theorem pairwise_sorted_iff {timed : List (Int × Int)} (hnd : (timed.map Prod.fst).Nodup) :
    ((timed.insertionSort timedLe).Pairwise fun a b => a.2 ≤ b.2) ↔ Nondecreasing timed := by
  have hperm := List.perm_insertionSort timedLe timed
  have hsorted := List.pairwise_insertionSort timedLe timed
  have hdistinct : (timed.insertionSort timedLe).Pairwise fun a b => a.1 ≠ b.1 :=
    List.pairwise_map.mp ((hperm.map Prod.fst).nodup_iff.mpr hnd)
  constructor
  · intro htimes a ha b hb
    have hin := hsorted.and htimes
    refine List.Pairwise.forall_of_forall_of_flip
      (R := fun a b : Int × Int => a.1 < b.1 → a.2 ≤ b.2) (l := timed.insertionSort timedLe)
      (fun x _ hlt => absurd hlt (lt_irrefl _)) (hin.imp fun h _ => h.2) (hin.imp ?_)
      (hperm.mem_iff.mpr ha) (hperm.mem_iff.mpr hb)
    intro x y hxy hlt
    have hle := Prod.Lex.le_iff.mp hxy.1
    simp only [ofLex_toLex] at hle
    omega
  · intro h
    have hall : ∀ a ∈ timed.insertionSort timedLe, ∀ b ∈ timed.insertionSort timedLe,
        timedLe a b ∧ a.1 ≠ b.1 → a.2 ≤ b.2 := by
      rintro a ha b hb ⟨hle, hne⟩
      have hlex := Prod.Lex.le_iff.mp hle
      simp only [ofLex_toLex] at hlex
      exact h a (hperm.mem_iff.mp ha) b (hperm.mem_iff.mp hb) (by omega)
    exact (hsorted.and hdistinct).imp_of_mem fun ha hb => hall _ ha _ hb

/-- Every row has its own block, whole seconds, and no time falls in block order. -/
structure MonotoneTimes (columns : List String) (rows : List Cells) : Prop where
  nonempty : rows ≠ []
  wholeSeconds : WholeSeconds columns rows
  onePerBlock : ((timedBlocks columns rows).map Prod.fst).Nodup
  nondecreasing : Nondecreasing (timedBlocks columns rows)

theorem dedup_length_eq {l : List Int} : l.dedup.length = l.length ↔ l.Nodup := by
  rw [← List.dedup_eq_self]
  exact ⟨fun h => (List.dedup_sublist l).eq_of_length h, fun h => congrArg List.length h⟩

/-- The two statuses, told from the rows alone. -/
theorem blockTimeStatuses_cases (columns : List String) (hne : rows ≠ []) :
    blockTimeStatuses columns rows = (.refuted, .refuted) ∧ ¬ WholeSeconds columns rows ∨
      blockTimeStatuses columns rows = (.proven, .proven) ∧ MonotoneTimes columns rows ∨
      blockTimeStatuses columns rows = (.proven, .refuted) ∧ WholeSeconds columns rows ∧
        ¬ MonotoneTimes columns rows := by
  rw [blockTimeStatuses, if_neg hne]
  rcases convertedLoop_eq columns rows [] with ⟨hnone, hnot⟩ | ⟨hsome, hall⟩
  · rw [hnone]
    exact .inl ⟨rfl, hnot⟩
  · rw [hsome, List.nil_append]
    dsimp only
    have hperm := List.perm_insertionSort timedLe (timedBlocks columns rows)
    have hnd : (((timedBlocks columns rows).insertionSort timedLe).map Prod.fst).Nodup
        ↔ ((timedBlocks columns rows).map Prod.fst).Nodup := (hperm.map Prod.fst).nodup_iff
    have hlength : (((timedBlocks columns rows).insertionSort timedLe).map Prod.fst).dedup.length
        = ((timedBlocks columns rows).insertionSort timedLe).length
        ↔ ((timedBlocks columns rows).map Prod.fst).Nodup := by
      rw [← hnd, ← dedup_length_eq, List.length_map]
    by_cases hdistinct : ((timedBlocks columns rows).map Prod.fst).Nodup
    · rw [if_neg (not_not.mpr (hlength.mpr hdistinct))]
      by_cases htimes : pairwiseNondecreasing ((timedBlocks columns rows).insertionSort timedLe)
          = true
      · rw [if_pos htimes]
        have hnondecreasing :=
          (pairwise_sorted_iff hdistinct).mp (pairwiseNondecreasing_iff.mp htimes)
        exact .inr (.inl ⟨rfl, hne, hall, hdistinct, hnondecreasing⟩)
      · rw [if_neg htimes]
        refine .inr (.inr ⟨rfl, hall, fun h => htimes ?_⟩)
        exact pairwiseNondecreasing_iff.mpr ((pairwise_sorted_iff hdistinct).mpr h.nondecreasing)
    · rw [if_pos fun h => hdistinct (hlength.mp h)]
      exact .inr (.inr ⟨rfl, hall, fun h => hdistinct h.onePerBlock⟩)

/-- **A clock is proven monotone exactly when its rows are.** -/
theorem blockTimeStatuses_monotone :
    (blockTimeStatuses columns rows).2 = .proven ↔ MonotoneTimes columns rows := by
  by_cases hne : rows = []
  · subst hne
    exact ⟨fun h => (by cases h), fun h => absurd rfl h.nonempty⟩
  · rcases blockTimeStatuses_cases columns hne with ⟨hs, hnot⟩ | ⟨hs, hmono⟩ | ⟨hs, _, hnot⟩
    · rw [hs]
      exact ⟨fun h => (by cases h), fun h => absurd h.wholeSeconds hnot⟩
    · rw [hs]
      exact ⟨fun _ => hmono, fun _ => rfl⟩
    · rw [hs]
      exact ⟨fun h => (by cases h), fun h => absurd h hnot⟩

theorem WholeSeconds.perm {rows' : List Cells} (hperm : rows.Perm rows')
    (h : WholeSeconds columns rows) : WholeSeconds columns rows' :=
  fun row hmem => h row (hperm.mem_iff.mpr hmem)

theorem MonotoneTimes.perm {rows' : List Cells} (hperm : rows.Perm rows')
    (h : MonotoneTimes columns rows) : MonotoneTimes columns rows' := by
  have htimed : (timedBlocks columns rows).Perm (timedBlocks columns rows') :=
    hperm.filterMap _
  refine ⟨?_, h.wholeSeconds.perm hperm, (htimed.map Prod.fst).nodup_iff.mp h.onePerBlock,
    fun a ha b hb => h.nondecreasing a (htimed.mem_iff.mpr ha) b (htimed.mem_iff.mpr hb)⟩
  rintro rfl
  exact h.nonempty hperm.eq_nil

theorem blockTimeStatuses_perm {rows' : List Cells} (hperm : rows.Perm rows') :
    blockTimeStatuses columns rows = blockTimeStatuses columns rows' := by
  by_cases hne : rows = []
  · subst hne
    rw [hperm.nil_eq]
  · have hne' : rows' ≠ [] := fun h => hne (by rw [h] at hperm; exact hperm.eq_nil)
    have hmono : MonotoneTimes columns rows ↔ MonotoneTimes columns rows' :=
      ⟨.perm hperm, .perm hperm.symm⟩
    have hwhole : WholeSeconds columns rows ↔ WholeSeconds columns rows' :=
      ⟨.perm hperm, .perm hperm.symm⟩
    rcases blockTimeStatuses_cases columns hne with ⟨hs, h⟩ | ⟨hs, h⟩ | ⟨hs, h, hn⟩ <;>
      rcases blockTimeStatuses_cases columns hne' with
        ⟨hs', h'⟩ | ⟨hs', h'⟩ | ⟨hs', h', hn'⟩ <;> rw [hs, hs']
    · exact absurd (hwhole.mpr h'.wholeSeconds) h
    · exact absurd (hwhole.mpr h') h
    · exact absurd (hwhole.mp h.wholeSeconds) h'
    · exact absurd (hmono.mp h) hn'
    · exact absurd (hwhole.mp h) h'
    · exact absurd (hmono.mpr h') hn

end Times

/-! ## Claims -/

theorem launchSuccessStatus_perm {columns : List String} {rows rows' : List Cells}
    (hperm : rows.Perm rows') :
    launchSuccessStatus columns rows = launchSuccessStatus columns rows' := by
  have hvalues := hperm.map (cellOf columns "transaction_succeeded")
  have hnil : rows.map (cellOf columns "transaction_succeeded") = []
      ↔ rows'.map (cellOf columns "transaction_succeeded") = [] :=
    ⟨fun h => by rw [h] at hvalues; exact hvalues.nil_eq.symm,
      fun h => by rw [h] at hvalues; exact hvalues.eq_nil⟩
  have hall : (rows.map (cellOf columns "transaction_succeeded")).all isTrue
      = (rows'.map (cellOf columns "transaction_succeeded")).all isTrue := hvalues.all_eq
  rw [launchSuccessStatus, launchSuccessStatus]
  simp only [hnil, hall]

/-- **The claims of a stream do not depend on the order of its rows.** -/
theorem deriveProofs_perm {stream : CapabilityStream} {columns : List String}
    {rows rows' : List Cells} {counts counts' : Dict Int Int} (hperm : rows.Perm rows')
    (hcounts : ∀ block, counts.get? block = counts'.get? block) :
    deriveProofs stream columns rows counts = deriveProofs stream columns rows' counts' := by
  rw [deriveProofs, deriveProofs, blockTimeStatuses_perm hperm,
    transactionIndexStatus_perm hperm hcounts, launchSuccessStatus_perm hperm]

/-! ## Digests -/

/-- Sorting forgets the order. -/
theorem insertionSort_perm {α : Type} {r : α → α → Prop} [DecidableRel r] [Std.Total r]
    [IsTrans α r] (hantisymm : ∀ a b, r a b → r b a → a = b) {l l' : List α} (h : l.Perm l') :
    l.insertionSort r = l'.insertionSort r := by
  have hperm : (l.insertionSort r).Perm (l'.insertionSort r) :=
    (List.perm_insertionSort r l).trans (h.trans (List.perm_insertionSort r l').symm)
  exact hperm.eq_of_pairwise (fun a b _ _ => hantisymm a b) (List.pairwise_insertionSort r l)
    (List.pairwise_insertionSort r l')

/-- A loop that maps maps rows in another order to results in another order. -/
theorem mapM_perm {α β ε : Type} {f : α → Except ε β} {l l' : List α} (h : l.Perm l')
    {results : List β} (hmap : l.mapM f = .ok results) :
    ∃ results', l'.mapM f = .ok results' ∧ results.Perm results' := by
  induction h generalizing results with
  | nil => exact ⟨results, hmap, .refl _⟩
  | cons a _ ih =>
    rw [List.mapM_cons] at hmap
    obtain ⟨b, hb, hmap⟩ := bind_eq_ok.mp hmap
    obtain ⟨more, hmore, hmap⟩ := bind_eq_ok.mp hmap
    cases hmap
    obtain ⟨more', hmore', hperm⟩ := ih hmore
    refine ⟨b :: more', ?_, hperm.cons b⟩
    rw [List.mapM_cons, hb, ok_bind, hmore', ok_bind]
    rfl
  | swap a a' rest =>
    rw [List.mapM_cons, List.mapM_cons] at hmap
    obtain ⟨b', hb', hmap⟩ := bind_eq_ok.mp hmap
    obtain ⟨tail, htail, hmap⟩ := bind_eq_ok.mp hmap
    obtain ⟨b, hb, htail⟩ := bind_eq_ok.mp htail
    obtain ⟨more, hmore, htail⟩ := bind_eq_ok.mp htail
    cases htail
    cases hmap
    refine ⟨b :: b' :: more, ?_, .swap b b' more⟩
    rw [List.mapM_cons, hb, ok_bind, List.mapM_cons, hb', ok_bind, hmore, ok_bind]
    rfl
  | trans _ _ ih ih' =>
    obtain ⟨middle, hmiddle, hperm⟩ := ih hmap
    obtain ⟨results', hresults', hperm'⟩ := ih' hmiddle
    exact ⟨results', hresults', hperm.trans hperm'⟩

instance bytesLe_total : Std.Total bytesLe :=
  ⟨fun a b => le_total (a.map UInt8.toNat) (b.map UInt8.toNat)⟩

instance bytesLe_trans : IsTrans (List UInt8) bytesLe := ⟨fun _ _ _ h h' => le_trans h h'⟩

theorem bytesLe_antisymm (a b : List UInt8) (h : bytesLe a b) (h' : bytesLe b a) : a = b :=
  List.map_injective_iff.mpr (fun _ _ => UInt8.toNat_inj.mp) (le_antisymm h h')

instance digestPairLe_total : Std.Total digestPairLe := ⟨fun a b => le_total (toLex a) (toLex b)⟩

instance digestPairLe_trans : IsTrans DigestPair digestPairLe :=
  ⟨fun _ _ _ h h' => le_trans h h'⟩

theorem digestPairLe_antisymm (a b : DigestPair) (h : digestPairLe a b) (h' : digestPairLe b a) :
    a = b := toLex_inj.mp (le_antisymm h h')

/-- The loop encodes every row and stays within its limit. -/
theorem foldlM_encodeRow (rows : List Cells) {state : List (List UInt8) × Nat}
    (result : List (List UInt8) × Nat) (hstate : state.2 ≤ EVIDENCE_MAX_CANONICAL_BYTES) :
    rows.foldlM encodeRow state = .ok result ↔
      ∃ encoded, rows.mapM encodedRow = .ok encoded ∧
        state.2 + (encoded.map List.length).sum ≤ EVIDENCE_MAX_CANONICAL_BYTES ∧
        result = (state.1 ++ encoded, state.2 + (encoded.map List.length).sum) := by
  induction rows generalizing state with
  | nil =>
    constructor
    · intro h
      cases h
      exact ⟨[], List.mapM_nil, by simpa using hstate, by simp⟩
    · rintro ⟨encoded, hencoded, _, rfl⟩
      cases hencoded
      simp only [List.reverse_nil, List.append_nil, List.map_nil, List.sum_nil, add_zero]
      rfl
  | cons row rest ih =>
    rw [List.foldlM_cons, List.mapM_cons]
    constructor
    · intro h
      obtain ⟨next, hnext, h⟩ := bind_eq_ok.mp h
      obtain ⟨encoded, hencoded, hnext⟩ := bind_eq_ok.mp hnext
      rw [check_bind_eq_ok, refuseIf_eq_ok, not_lt] at hnext
      obtain ⟨hlimit, hnext⟩ := hnext
      cases hnext
      obtain ⟨more, hmore, hsum, rfl⟩ := (ih hlimit).mp h
      refine ⟨encoded :: more, ?_, ?_, ?_⟩
      · rw [hencoded, ok_bind, hmore, ok_bind]
        rfl
      · simp only [List.map_cons, List.sum_cons] at hsum ⊢
        omega
      · simp [add_assoc]
    · rintro ⟨encodings, hencodings, hsum, rfl⟩
      obtain ⟨encoded, hencoded, hencodings⟩ := bind_eq_ok.mp hencodings
      obtain ⟨more, hmore, hencodings⟩ := bind_eq_ok.mp hencodings
      cases hencodings
      simp only [List.map_cons, List.sum_cons] at hsum
      have hlimit : state.2 + encoded.length ≤ EVIDENCE_MAX_CANONICAL_BYTES := by omega
      rw [encodeRow, hencoded, ok_bind, refuseIf_of_not (not_lt.mpr hlimit), ok_bind, ok_bind]
      refine (ih hlimit).mpr ⟨more, hmore, by simp only; omega, ?_⟩
      simp [add_assoc]

section Hashes

variable [EvidenceHash] {columns : List String} {rows rows' : List Cells}

/-- **The digest of rows is the hash of their encodings in order**, as long as every row has one
and they are not too long in all. -/
theorem evidenceRowsDigest_eq_ok {digest : ContentDigest} :
    evidenceRowsDigest columns rows = .ok digest ↔
      ∃ encoded, rows.mapM encodedRow = .ok encoded ∧
        (encoded.map List.length).sum ≤ EVIDENCE_MAX_CANONICAL_BYTES ∧
        digest = sha256 (evidenceMaterial columns (encoded.insertionSort bytesLe)) := by
  have hzero : (([], 0) : List (List UInt8) × Nat).2 ≤ EVIDENCE_MAX_CANONICAL_BYTES :=
    Nat.zero_le _
  rw [evidenceRowsDigest]
  constructor
  · intro h
    obtain ⟨result, hresult, h⟩ := bind_eq_ok.mp h
    obtain ⟨encoded, hencoded, hsum, rfl⟩ := (foldlM_encodeRow rows result hzero).mp hresult
    simp only [List.nil_append, zero_add] at hsum h
    exact ⟨encoded, hencoded, hsum, (Except.ok.inj h).symm⟩
  · rintro ⟨encoded, hencoded, hsum, rfl⟩
    have hresult := (foldlM_encodeRow rows (encoded, (encoded.map List.length).sum) hzero).mpr
      ⟨encoded, hencoded, by simpa using hsum, by simp⟩
    rw [hresult, ok_bind]

/-- Rows in another order have the same digest, or none as well. -/
theorem evidenceRowsDigest_perm (hperm : rows.Perm rows') {digest : ContentDigest}
    (h : evidenceRowsDigest columns rows = .ok digest) :
    evidenceRowsDigest columns rows' = .ok digest := by
  obtain ⟨encoded, hencoded, hsum, rfl⟩ := evidenceRowsDigest_eq_ok.mp h
  obtain ⟨encoded', hencoded', hencodings⟩ := mapM_perm hperm hencoded
  refine evidenceRowsDigest_eq_ok.mpr ⟨encoded', hencoded', ?_, ?_⟩
  · rwa [(hencodings.map List.length).sum_eq] at hsum
  · rw [insertionSort_perm bytesLe_antisymm hencodings]

/-- **The combined digest does not depend on the order of the queries.** -/
theorem combinedResultDigest_perm {values values' : List (ContentDigest × ContentDigest)}
    (hperm : values.Perm values') : combinedResultDigest values = combinedResultDigest values' := by
  rw [combinedResultDigest, combinedResultDigest, insertionSort_perm digestPairLe_antisymm
    (hperm.map fun value : ContentDigest × ContentDigest => (value.1.hex, value.2.hex))]

end Hashes

/-! ## Reading and inspecting -/

section Reading

variable {query : BoundedQuery} {blockRange : BlockRange} {maxRows : Nat}

/-- The row is one a query may return. -/
def Returned (query : BoundedQuery) (blockRange : BlockRange) (row : Cells) : Prop :=
  validateBoundedRow query.columns.length query.blockOrdinalColumnIndex blockRange row = .ok ()

/-- Batches are read one after the other. -/
theorem foldlM_readBatch (blocks : List (List Cells)) {selected rows : List Cells}
    (hselected : selected.length ≤ maxRows) :
    blocks.foldlM (readBatch query blockRange maxRows) selected = .ok rows ↔
      rows = selected ++ blocks.flatten ∧ rows.length ≤ maxRows ∧
        ∀ row ∈ blocks.flatten, Returned query blockRange row := by
  induction blocks generalizing selected with
  | nil =>
    constructor
    · intro h
      cases h
      simpa using hselected
    · rintro ⟨rfl, _, _⟩
      rw [List.flatten_nil, List.append_nil]
      rfl
  | cons block rest ih =>
    rw [List.foldlM_cons, List.flatten_cons]
    constructor
    · intro h
      obtain ⟨next, hnext, h⟩ := bind_eq_ok.mp h
      rw [readBatch, check_bind_eq_ok, refuseIf_eq_ok, not_lt, check_bind_eq_ok] at hnext
      obtain ⟨hlimit, hvalid, hnext⟩ := hnext
      cases hnext
      rw [mapError_eq_ok] at hvalid
      obtain ⟨rfl, hlength, hreturned⟩ := (ih (by simpa using hlimit)).mp h
      refine ⟨List.append_assoc _ _ _, hlength, fun row hmem => ?_⟩
      rcases List.mem_append.mp hmem with hmem | hmem
      · exact forM_eq_ok hvalid row hmem
      · exact hreturned row hmem
    · rintro ⟨rfl, hlength, hreturned⟩
      have hlimit : selected.length + block.length ≤ maxRows := by
        simp only [List.length_append] at hlength
        omega
      have hvalid := forM_of_forall fun row hmem =>
        hreturned row (List.mem_append_left _ hmem)
      rw [readBatch, refuseIf_of_not (not_lt.mpr hlimit), ok_bind, mapError_eq_ok.mpr hvalid,
        ok_bind, ok_bind]
      refine (ih (by simpa using hlimit)).mpr ⟨(List.append_assoc _ _ _).symm, hlength, ?_⟩
      exact fun row hmem => hreturned row (List.mem_append_right _ hmem)

/-- **Which rows are read does not depend on how they were cut into batches.** -/
theorem readBoundedRows_eq_ok {blocks : List (List Cells)} {rows : List Cells} :
    readBoundedRows query blockRange maxRows blocks = .ok rows ↔
      rows = blocks.flatten ∧ rows.length ≤ maxRows ∧
        ∀ row ∈ blocks.flatten, Returned query blockRange row :=
  foldlM_readBatch blocks (Nat.zero_le _)

end Reading

section Inspecting

variable [EvidenceHash] {queries : CapabilityStream → BoundedQuery} {blockRange : BlockRange}
  {maxRows : Nat} {answers answers' : CapabilityStream → List (List Cells)}

/-- Observations that differ in the order of their rows alone. -/
structure SameObservation (a b : BoundedObservation) : Prop where
  stream : a.stream = b.stream
  query : a.query = b.query
  digest : a.digest = b.digest
  rows : a.rows.Perm b.rows

theorem observe_perm {stream : CapabilityStream} {a : BoundedObservation}
    (hperm : (answers stream).flatten.Perm (answers' stream).flatten)
    (h : observe queries blockRange maxRows answers stream = .ok a) :
    ∃ b, observe queries blockRange maxRows answers' stream = .ok b ∧ SameObservation a b := by
  obtain ⟨rows, hrows, h⟩ := bind_eq_ok.mp h
  obtain ⟨digest, hdigest, h⟩ := bind_eq_ok.mp h
  cases h
  obtain ⟨rfl, hlength, hreturned⟩ := readBoundedRows_eq_ok.mp hrows
  have hrows' : readBoundedRows (queries stream) blockRange maxRows (answers' stream)
      = .ok (answers' stream).flatten :=
    readBoundedRows_eq_ok.mpr ⟨rfl, hperm.length_eq ▸ hlength, fun row hmem =>
      hreturned row (hperm.mem_iff.mpr hmem)⟩
  refine ⟨⟨stream, queries stream, (answers' stream).flatten, digest⟩, ?_, rfl, rfl, rfl, hperm⟩
  rw [observe, hrows', ok_bind, evidenceRowsDigest_perm hperm hdigest, ok_bind]

/-- A receipt reads of its observations nothing but what they have in common. -/
theorem receiptOf_congr {clock clock' a b : BoundedObservation} (hclock : SameObservation clock clock')
    (h : SameObservation a b) : receiptOf clock a = receiptOf clock' b := by
  have hcounts := fun block =>
    @get?_blockTransactionCounts_perm clock'.query.columns clock.rows clock'.rows hclock.rows block
  rw [receiptOf, receiptOf, hclock.query, hclock.digest, h.stream, h.query, h.digest,
    h.rows.length_eq, deriveProofs_perm h.rows hcounts]

theorem mapM_observe_perm
    (hperm : ∀ stream, (answers stream).flatten.Perm (answers' stream).flatten)
    (streams : List CapabilityStream) {observations : List BoundedObservation}
    (h : streams.mapM (observe queries blockRange maxRows answers) = .ok observations) :
    ∃ observations',
      streams.mapM (observe queries blockRange maxRows answers') = .ok observations' ∧
      List.Forall₂ SameObservation observations observations' := by
  induction streams generalizing observations with
  | nil =>
    cases h
    exact ⟨[], rfl, .nil⟩
  | cons stream rest ih =>
    rw [List.mapM_cons] at h
    obtain ⟨a, ha, h⟩ := bind_eq_ok.mp h
    obtain ⟨more, hmore, h⟩ := bind_eq_ok.mp h
    cases h
    obtain ⟨b, hb, hsame⟩ := observe_perm (hperm stream) ha
    obtain ⟨more', hmore', hall⟩ := ih hmore
    refine ⟨b :: more', ?_, .cons hsame hall⟩
    rw [List.mapM_cons, hb, ok_bind, hmore', ok_bind]
    rfl

theorem map_receiptOf_congr {clock clock' : BoundedObservation} (hclock : SameObservation clock clock')
    {observations observations' : List BoundedObservation}
    (h : List.Forall₂ SameObservation observations observations') :
    observations.map (receiptOf clock) = observations'.map (receiptOf clock') := by
  induction h with
  | nil => rfl
  | cons hsame _ ih => rw [List.map_cons, List.map_cons, receiptOf_congr hclock hsame, ih]

/-- **Rows in another order, cut into other batches, give the same receipts.** -/
theorem inspectBoundedEvidence_perm
    (hperm : ∀ stream, (answers stream).flatten.Perm (answers' stream).flatten)
    {receipts : List EvidenceReceipt}
    (h : inspectBoundedEvidence queries blockRange maxRows answers = .ok receipts) :
    inspectBoundedEvidence queries blockRange maxRows answers' = .ok receipts := by
  obtain ⟨observations, hobservations, h⟩ := bind_eq_ok.mp h
  obtain ⟨observations', hobservations', hall⟩ := mapM_observe_perm hperm STREAMS hobservations
  rw [inspectBoundedEvidence, hobservations', ok_bind]
  cases hall with
  | nil => cases h
  | cons hclock hrest =>
    have hreceipts := map_receiptOf_congr hclock (.cons hclock hrest)
    exact (congrArg Except.ok hreceipts.symm).trans h

end Inspecting

end Source

end OnchainBacktest
