import OnchainBacktest.Source.ProfileQueries

/-!
# Shards of the fixed queries

A range of blocks can be read in adjacent shards: the rows of the shards, one shard after the other,
are then an answer to the query of the whole range.  The block clock and the launches always add up
so.  A query that groups swaps by their occurrence, which does not name the slot, adds up exactly
when no occurrence has swaps in two shards (`shard_additive`), and the lifecycle candidates add up
when no transaction of a terminal trade and no migration has rows in two shards.

`split_occurrence` is a table that does not add up: one occurrence recorded in two slots is one row
with two source rows in a read of both slots, and two rows in a read of each.
-/

set_option autoImplicit false

namespace OnchainBacktest

namespace Queries

open Bags PumpfunIndexerV1Profile

/-! ## Answers to a query -/

/-- **The answers for the shards, one after the other, are the rows of an answer for the whole
range, in the same order up to ties.** -/
def ProfileQuery.Additive (query : ProfileQuery) (slots : Slots) (shards : List Slots) : Prop :=
  ∀ parts whole, List.Forall₂ (fun shard part => Answers query.order (query.rows shard) part)
    shards parts → Answers query.order (query.rows slots) whole →
      parts.flatten.Perm whole ∧ parts.flatten.map query.order = whole.map query.order

/-- The block of a row is in the range. -/
def ResultRow.InRange (range : Slots) (row : ResultRow) : Prop :=
  ∃ block : Nat, row.cell "block_ordinal" = .integer block ∧ range.contains block = true

/-- The rows of a range are ordered by their blocks first, which are in the range. -/
structure ProfileQuery.Located (query : ProfileQuery) : Prop where
  first : query.orderBy.head? = some "block_ordinal"
  inRange : ∀ range, ∀ row ∈ query.rows range, row.InRange range

theorem ProfileQuery.Located.order_lt {query : ProfileQuery} (h : query.Located)
    {a b : ResultRow} {left right : Slots} (hadjacent : left.stop ≤ right.start)
    (ha : a.InRange left) (hb : b.InRange right) : query.order a < query.order b := by
  obtain ⟨columns, hcolumns⟩ : ∃ columns, query.orderBy = "block_ordinal" :: columns :=
    List.head?_eq_some_iff.mp h.first
  obtain ⟨n, hn, hleft⟩ := ha
  obtain ⟨m, hm, hright⟩ := hb
  rw [Slots.contains_iff] at hleft hright
  rw [ProfileQuery.order, ProfileQuery.order, hcolumns, List.map_cons, List.map_cons, hn, hm]
  exact List.cons_lt_cons_iff.mpr (.inl (SqlValue.integer_lt (by omega)))

section Answers

variable {query : ProfileQuery} {slots : Slots} {shards : List Slots}

/-- Answers for the shards are in order when they stand one after the other. -/
theorem answers_flatten (hlocated : query.Located) (hcuts : Cuts slots shards)
    {parts : List (List ResultRow)}
    (hparts : List.Forall₂ (fun shard part => Answers query.order (query.rows shard) part)
      shards parts) : Answers query.order (shards.flatMap query.rows) parts.flatten := by
  induction hcuts generalizing parts with
  | nil at_ =>
    cases hparts
    exact ⟨.refl _, .nil⟩
  | @cons start middle stop shards hlt rest ih =>
    cases hparts with
    | @cons _ part _ parts hpart hparts =>
      have hrest := ih hparts
      rw [List.flatMap_cons, List.flatten_cons]
      refine ⟨hpart.perm.append hrest.perm, List.pairwise_append.mpr
        ⟨hpart.sorted, hrest.sorted, fun a ha b hb => ?_⟩⟩
      obtain ⟨shard, hshard, hb⟩ := List.mem_flatMap.mp (hrest.perm.mem_iff.mp hb)
      exact (hlocated.order_lt (rest.within shard hshard).1
        (hlocated.inRange _ a (hpart.perm.mem_iff.mp ha))
        (hlocated.inRange _ b hb)).le

/-- **A query adds up exactly when its bags do.** -/
theorem additive_iff (hlocated : query.Located) (hcuts : Cuts slots shards) :
    query.Additive slots shards ↔ (shards.flatMap query.rows).Perm (query.rows slots) := by
  constructor
  · intro hadditive
    obtain ⟨whole, hwhole⟩ := exists_answers query.order (query.rows slots)
    obtain ⟨parts, hparts⟩ : ∃ parts, List.Forall₂
        (fun shard part => Answers query.order (query.rows shard) part) shards parts := by
      clear hadditive hcuts hwhole
      induction shards with
      | nil => exact ⟨[], .nil⟩
      | cons shard shards ih =>
        obtain ⟨parts, hparts⟩ := ih
        obtain ⟨part, hpart⟩ := exists_answers query.order (query.rows shard)
        exact ⟨part :: parts, .cons hpart hparts⟩
    have hflatten := answers_flatten hlocated hcuts hparts
    exact hflatten.perm.symm.trans ((hadditive parts whole hparts hwhole).1.trans hwhole.perm)
  · intro hperm parts whole hparts hwhole
    have hflatten := answers_flatten hlocated hcuts hparts
    have hsame : Answers query.order (query.rows slots) parts.flatten :=
      ⟨hflatten.perm.trans hperm, hflatten.sorted⟩
    exact hsame.unique hwhole

end Answers

/-! ## The blocks of the rows -/

section Located

variable {α : Type} {slot : α → Nat} {range : Slots}

theorem least_mem {values : List SqlValue} (h : values ≠ []) : least values ∈ values := by
  obtain ⟨value, hvalue⟩ := Option.isSome_iff_exists.mp (List.isSome_min?_of_ne_nil h)
  rw [least, hvalue]
  exact List.min?_mem hvalue

/-- The block of an aggregated row is one of its group. -/
theorem inRange_aggregated {values : Projection α} {groupedNames : List String} {group : List α}
    (hfirst : values.head? = some ("block_ordinal", fun row => .integer (slot row)))
    (hne : group ≠ []) (hrange : ∀ row ∈ group, range.contains (slot row) = true)
    (more : ResultRow) :
    ResultRow.InRange range (aggregatedProjection values groupedNames group ++ more) := by
  obtain ⟨rest, rfl⟩ : ∃ rest, values = ("block_ordinal", fun row => .integer (slot row)) :: rest :=
    List.head?_eq_some_iff.mp hfirst
  have hmem : ∀ value ∈ group.map fun row => SqlValue.integer (slot row),
      ∃ block : Nat, value = .integer block ∧ range.contains block = true := by
    intro value hvalue
    obtain ⟨row, hrow, rfl⟩ := List.mem_map.mp hvalue
    exact ⟨slot row, rfl, hrange row hrow⟩
  rw [ResultRow.InRange, aggregatedProjection, List.map_cons, List.cons_append,
    ResultRow.cell_cons_self]
  dsimp only
  split
  · obtain ⟨first, tail, rfl⟩ := List.exists_cons_of_ne_nil hne
    exact hmem _ (List.mem_cons_self)
  · exact hmem _ (least_mem (by simpa using hne))

end Located

/-! ## Clock and launches -/

section Streams

variable (profile : PumpfunIndexerV1Profile) (tables : PhysicalTables) {slots : Slots}
  {shards : List Slots}

theorem located_blockClock : (profile.blockClock tables).Located := by
  refine ⟨rfl, fun range row hrow => ?_⟩
  obtain ⟨group, hgroup, rfl⟩ := List.mem_map.mp hrow
  refine @inRange_aggregated _ BlockRow.slot _ _ _ _ rfl (groups_ne_nil hgroup) (fun b hb => ?_) _
  have hmem := (mem_of_mem_group hgroup hb).1
  exact Slots.contains_iff.mpr (mem_selectSlots.mp hmem).2

/-- **The rows of the block clock add up over every cut.** -/
theorem blockClock_additive (hcuts : Cuts slots shards) :
    (profile.blockClock tables).Additive slots shards := by
  rw [additive_iff (located_blockClock profile tables) hcuts]
  refine (groups_cut_iff hcuts fun group => profile.blockClockRow group.2).mpr ?_
  intro a _ b _ hkey shard _
  exact congrArg shard.contains hkey

theorem located_tokenLaunch (mints : String → Bool) :
    (profile.tokenLaunch tables mints).Located := by
  refine ⟨rfl, fun range row hrow => ?_⟩
  obtain ⟨launch, hlaunch, rfl⟩ := List.mem_map.mp hrow
  refine ⟨launch.slot, by simp [project, launchProjection], ?_⟩
  exact Slots.contains_iff.mpr (mem_selectSlots.mp (List.mem_filter.mp hlaunch).1).2

/-- **So do the launches.** -/
theorem tokenLaunch_additive (mints : String → Bool) (hcuts : Cuts slots shards) :
    (profile.tokenLaunch tables mints).Additive slots shards := by
  rw [additive_iff (located_tokenLaunch profile tables mints) hcuts]
  have hrows := (@selectSlots_cut _ CreationRow.slot tables.creations _ _ hcuts).filter
    fun l => l.quoteCoin = profile.nativeSolQuote && mints (toStringCutToZero l.mint)
  have hprojected := hrows.map (project launchProjection)
  rw [List.filter_flatMap, List.map_flatMap] at hprojected
  exact hprojected

/-! ## Trades and candidates -/

/-- Swaps are selected by their slot before the join or after it. -/
theorem joinedSwaps_select (swaps : List SwapRow) (launches : List CreationRow)
    (more : SwapRow → Bool) (range : Slots) :
    profile.joinedSwaps (selectSlots SwapRow.slot range swaps) launches more =
      selectSlots joinedSlot range (profile.joinedSwaps swaps launches more) := by
  rw [joinedSwaps, selectSlots, join_filter, List.filter_filter, joinedSwaps, selectSlots,
    List.filter_filter]
  exact List.filter_congr fun pair _ => Bool.and_comm _ _

/-- The occurrence of a joined swap. -/
def joinedOccurrence (pair : SwapRow × CreationRow) : String × Int := occurrence pair.1

theorem inRange_tradeRows {joined : List (SwapRow × CreationRow)} {range : Slots}
    (hjoined : ∀ pair ∈ joined, range.contains (joinedSlot pair) = true) :
    ∀ row ∈ tradeRows joined, row.InRange range := by
  intro row hrow
  obtain ⟨group, hgroup, rfl⟩ := List.mem_map.mp hrow
  exact @inRange_aggregated _ joinedSlot _ _ _ _ rfl (groups_ne_nil hgroup)
    (fun pair hpair => hjoined pair (mem_of_mem_group hgroup hpair).1) _

theorem contains_of_selected {α : Type} {slot : α → Nat} {range : Slots} {rows : List α} :
    ∀ row ∈ selectSlots slot range rows, range.contains (slot row) = true :=
  fun _ hrow => Slots.contains_iff.mpr (mem_selectSlots.mp hrow).2

theorem located_curveTrade (launches : List CreationRow) :
    (profile.curveTrade tables launches).Located := by
  refine ⟨rfl, fun range row hrow => ?_⟩
  refine inRange_tradeRows ?_ row hrow
  rw [joinedSwaps_select]
  exact contains_of_selected

/-- The swaps a trade query of the whole range groups. -/
def tradeSwaps (launches : List CreationRow) (slots : Slots) : List (SwapRow × CreationRow) :=
  selectSlots joinedSlot slots (profile.joinedSwaps tables.swaps launches fun _ => true)

/-- **Trades add up exactly when no occurrence has swaps in two shards.** -/
theorem curveTrade_additive_iff (launches : List CreationRow) (hcuts : Cuts slots shards) :
    (profile.curveTrade tables launches).Additive slots shards ↔
      Unsplit joinedSlot joinedOccurrence shards (tradeSwaps profile tables launches slots) := by
  rw [additive_iff (located_curveTrade profile tables launches) hcuts, tradeSwaps,
    ← groups_cut_iff hcuts fun group =>
      countedProjection tradeSourceProjection ["raw_instruction_index", "signature"] group.2]
  simp only [← joinedSwaps_select]
  exact Iff.rfl

/-- The swaps a candidate query of the whole range groups. -/
def candidateSwaps (selection : CopySourceSelection) (slots : Slots) : List SwapRow :=
  selectSlots SwapRow.slot slots (tables.swaps.filter (selection.candidateBuy profile))

theorem filter_selectSlots {α : Type} {slot : α → Nat} (p : α → Bool) (range : Slots)
    (rows : List α) :
    (selectSlots slot range rows).filter p = selectSlots slot range (rows.filter p) := by
  rw [selectSlots, selectSlots, List.filter_filter, List.filter_filter]
  exact List.filter_congr fun row _ => Bool.and_comm _ _

theorem located_candidates (selection : CopySourceSelection) :
    (selection.candidates profile tables).Located := by
  refine ⟨rfl, fun range row hrow => ?_⟩
  obtain ⟨group, hgroup, rfl⟩ := List.mem_map.mp hrow
  refine @inRange_aggregated _ SwapRow.slot _ _ _ _ rfl (groups_ne_nil hgroup)
    (fun swap hswap => ?_) _
  exact contains_of_selected _ (List.mem_filter.mp (mem_of_mem_group hgroup hswap).1).1

/-- **Candidates add up exactly when no occurrence has swaps in two shards.** -/
theorem candidates_additive_iff (selection : CopySourceSelection) (hcuts : Cuts slots shards) :
    (selection.candidates profile tables).Additive slots shards ↔
      Unsplit SwapRow.slot occurrence shards (candidateSwaps profile tables selection slots) := by
  rw [additive_iff (located_candidates profile tables selection) hcuts, candidateSwaps,
    ← groups_cut_iff hcuts fun group =>
      countedProjection swapProjection ["signature", "raw_instruction_index"] group.2]
  simp only [← filter_selectSlots]
  exact Iff.rfl

end Streams

/-! ## Lifecycle candidates -/

section Lifecycle

variable (profile : PumpfunIndexerV1Profile) (tables : PhysicalTables)
  (launches : List CreationRow)

/-- A property of signatures, of a row. -/
def ofSignature (f : SqlValue → Bool) (row : ResultRow) : Bool := f (row.cell "signature")

/-- A trade row has the signature of its occurrence. -/
theorem signature_tradeRow {joined : List (SwapRow × CreationRow)}
    {group : (String × Int) × List (SwapRow × CreationRow)}
    (hgroup : group ∈ groups joinedOccurrence joined) :
    ResultRow.cell (countedProjection tradeSourceProjection ["raw_instruction_index", "signature"]
      group.2) "signature" = .text group.1.1 := by
  obtain ⟨key, members⟩ := group
  cases members with
  | nil => exact absurd rfl (groups_ne_nil hgroup)
  | cons pair members =>
    have hkey := (mem_of_mem_group hgroup (List.mem_cons_self)).2
    rw [← show pair.1.signature = key.1 from congrArg Prod.fst hkey]
    simp [countedProjection, aggregatedProjection, tradeSourceProjection, swapProjection,
      Projection.of]

/-- Swaps of some signatures can be selected before they are grouped or after it. -/
theorem tradeRows_filter {joined : List (SwapRow × CreationRow)}
    {p : SwapRow × CreationRow → Bool} {f : SqlValue → Bool}
    (hp : ∀ pair ∈ joined, p pair = f (.text pair.1.signature)) :
    tradeRows (joined.filter p) = (tradeRows joined).filter (ofSignature f) := by
  have hkeys : ∀ pair ∈ joined, p pair = f (.text (joinedOccurrence pair).1) := hp
  have hgroups := @groups_filter _ _ _ joinedOccurrence joined p (fun key => f (.text key.1)) hkeys
  rw [tradeRows, tradeRows, List.filter_map]
  refine congrArg (List.map _) (hgroups.trans (List.filter_congr fun group hgroup => ?_))
  show f (.text group.1.1) = ofSignature f _
  rw [ofSignature, signature_tradeRow hgroup]

/-- So can terminal trades before they are put together by transaction. -/
theorem terminalByTransaction_filter (f : SqlValue → Bool) (terminals : List ResultRow) :
    terminalByTransaction (terminals.filter (ofSignature f)) =
      (terminalByTransaction terminals).filter (ofSignature f) := by
  have hgroups := @groups_filter _ _ _ transactionKey terminals (ofSignature f)
    (fun key => f key.1) fun _ _ => rfl
  rw [terminalByTransaction, terminalByTransaction, List.filter_map]
  refine congrArg (List.map _) (hgroups.trans (List.filter_congr fun group hgroup => ?_))
  obtain ⟨key, members⟩ := group
  cases members with
  | nil => exact absurd rfl (groups_ne_nil hgroup)
  | cons row members =>
    have hkey := (mem_of_mem_group hgroup (List.mem_cons_self)).2
    have hcell : ResultRow.cell (transactionRow (row :: members)) "signature" = key.1 := by
      rw [← show row.cell "signature" = key.1 from congrArg Prod.fst hkey]
      simp [transactionRow]
    show _ = ofSignature f (transactionRow (row :: members))
    rw [ofSignature, hcell]

theorem inRange_terminalByTransaction {terminals : List ResultRow} {range : Slots}
    (hterminals : ∀ row ∈ terminals, row.InRange range) :
    ∀ row ∈ terminalByTransaction terminals, row.InRange range := by
  intro row hrow
  obtain ⟨group, hgroup, rfl⟩ := List.mem_map.mp hrow
  have hmem : least (group.2.map fun u => u.cell "block_ordinal") ∈
      group.2.map fun u => u.cell "block_ordinal" :=
    least_mem (by simpa using groups_ne_nil hgroup)
  obtain ⟨u, hu, hcell⟩ := List.mem_map.mp hmem
  obtain ⟨block, hblock, hrange⟩ := hterminals u (mem_of_mem_group hgroup hu).1
  refine ⟨block, ?_, hrange⟩
  rw [← hblock, hcell]
  simp [transactionRow]

theorem inRange_migrationRows {migrations : List MigrationRow} {range : Slots}
    (hmigrations : ∀ m ∈ migrations, range.contains m.slot = true) :
    ∀ row ∈ migrationRows migrations, row.InRange range := by
  intro row hrow
  obtain ⟨group, hgroup, rfl⟩ := List.mem_map.mp hrow
  exact @inRange_aggregated _ MigrationRow.slot _ _ _ _ rfl (groups_ne_nil hgroup)
    (fun m hm => hmigrations m (mem_of_mem_group hgroup hm).1) _

/-- The terminal trades of a range. -/
theorem terminalTrade_eq (which : SwapRow → Bool) (range : Slots) :
    profile.terminalTrade tables launches which range = tradeRows (selectSlots joinedSlot range
      (profile.joinedSwaps tables.swaps launches which)) := by
  rw [terminalTrade, joinedSwaps_select]

theorem inRange_terminalTrade (which : SwapRow → Bool) (range : Slots) :
    ∀ row ∈ profile.terminalTrade tables launches which range, row.InRange range := by
  rw [terminalTrade_eq]
  exact inRange_tradeRows contains_of_selected

theorem located_curveLifecycle : (profile.curveLifecycle tables launches).Located := by
  refine ⟨rfl, fun range row hrow => ?_⟩
  rcases List.mem_append.mp hrow with hrow | hrow
  · obtain ⟨t, ht, rfl⟩ := List.mem_map.mp hrow
    obtain ⟨block, hblock, hrange⟩ := inRange_terminalTrade profile tables launches _ range t ht
    exact ⟨block, by simp [completionCandidate, ← hblock], hrange⟩
  · obtain ⟨pair, hpair, hrow⟩ := List.mem_flatMap.mp hrow
    obtain ⟨t, _, rfl⟩ := List.mem_map.mp hrow
    obtain ⟨block, hblock, hrange⟩ :=
      inRange_migrationRows contains_of_selected pair.1 (mem_join.mp hpair).1
    exact ⟨block, by simp [migrationCandidate, ← hblock], hrange⟩

/-- The candidates of two bags of migrations. -/
theorem migrationCandidates_append (left right byTransaction : List ResultRow) :
    migrationCandidates (left ++ right) launches byTransaction =
      migrationCandidates left launches byTransaction ++
        migrationCandidates right launches byTransaction := by
  rw [migrationCandidates, join, List.flatMap_append, List.flatMap_append]
  rfl

theorem migrationCandidates_perm {left right : List ResultRow} (h : left.Perm right)
    (byTransaction : List ResultRow) : (migrationCandidates left launches byTransaction).Perm
      (migrationCandidates right launches byTransaction) :=
  (h.flatMap_right _).flatMap_right _

/-- The candidates of migrations only look at the terminal trades of their transactions. -/
theorem migrationCandidates_congr {migrations left right : List ResultRow}
    (h : ∀ m ∈ migrations, left.filter (sameTransaction m) = right.filter (sameTransaction m)) :
    migrationCandidates migrations launches left = migrationCandidates migrations launches right := by
  refine List.flatMap_congr fun pair hpair => ?_
  rw [terminalsOf, terminalsOf, h pair.1 (mem_join.mp hpair).1]

/-- Terminal trades of one part of a range are those a migration of that part is joined to. -/
theorem filter_sameTransaction {range other : Slots} {byTransaction : List ResultRow}
    {p : ResultRow → Bool}
    (hdisjoint : ∀ block, ¬ (range.contains block = true ∧ other.contains block = true))
    (hother : ∀ t ∈ byTransaction, p t = false → t.InRange other) {m : ResultRow}
    (hm : m.InRange range) :
    byTransaction.filter (sameTransaction m) =
      (byTransaction.filter p).filter (sameTransaction m) := by
  rw [List.filter_filter]
  refine List.filter_congr fun t ht => ?_
  cases hsame : sameTransaction m t with
  | false => rfl
  | true =>
    rw [Bool.true_and]
    by_contra hp
    obtain ⟨block, hblock, hin⟩ := hother t ht (by simpa using hp)
    obtain ⟨block', hblock', hin'⟩ := hm
    simp only [sameTransaction, Bool.and_eq_true, decide_eq_true_eq] at hsame
    have hboth : (block' : Int) = block :=
      SqlValue.integer.inj (hblock'.symm.trans (hsame.1.2.trans hblock))
    obtain rfl := Int.ofNat_inj.mp hboth
    exact hdisjoint block' ⟨hin', hin⟩

/-- So the candidates of migrations of one part of a range need only the terminal trades of that
part. -/
theorem migrationCandidates_side {range other : Slots} {migrations byTransaction side :
    List ResultRow} {p : ResultRow → Bool} (hside : side = byTransaction.filter p)
    (hdisjoint : ∀ block, ¬ (range.contains block = true ∧ other.contains block = true))
    (hother : ∀ t ∈ byTransaction, p t = false → t.InRange other)
    (hmigrations : ∀ m ∈ migrations, m.InRange range) :
    migrationCandidates migrations launches byTransaction =
      migrationCandidates migrations launches side := by
  refine migrationCandidates_congr launches fun m hm => ?_
  rw [hside]
  exact filter_sameTransaction hdisjoint hother (hmigrations m hm)

/-- No signature of a terminal trade has swaps in two shards, and no migration has rows in two. -/
structure LifecycleUnsplit (slots : Slots) (shards : List Slots) : Prop where
  terminals : Unsplit joinedSlot (fun pair => pair.1.signature) shards
    (selectSlots joinedSlot slots
      (profile.joinedSwaps tables.swaps launches profile.terminal))
  migrations : Unsplit MigrationRow.slot migrationKey shards
    (selectSlots MigrationRow.slot slots tables.migrations)

/-- The terminal trades of the migration instruction are terminal trades. -/
theorem mem_joined_terminal {pair : SwapRow × CreationRow} (h : pair ∈ profile.joinedSwaps
    tables.swaps launches profile.migrationTerminal) :
    pair ∈ profile.joinedSwaps tables.swaps launches profile.terminal := by
  simp only [joinedSwaps, List.mem_filter, migrationTerminal, Bool.and_eq_true] at h ⊢
  exact ⟨h.1, h.2.1, h.2.2.1.1⟩

section Split

variable {start middle stop : Nat} (hlo : start ≤ middle) (hhi : middle ≤ stop)

include hlo hhi

/-- Terminal trades whose signatures stay on one side of a slot are those of either side. -/
theorem terminalTrade_split {which : SwapRow → Bool}
    (hsame : ∀ a ∈ selectSlots joinedSlot ⟨start, stop⟩
        (profile.joinedSwaps tables.swaps launches which),
      ∀ b ∈ selectSlots joinedSlot ⟨start, stop⟩
        (profile.joinedSwaps tables.swaps launches which),
      a.1.signature = b.1.signature →
        decide (joinedSlot a < middle) = decide (joinedSlot b < middle)) :
    ∃ f, profile.terminalTrade tables launches which ⟨start, middle⟩ =
        (profile.terminalTrade tables launches which ⟨start, stop⟩).filter (ofSignature f) ∧
      profile.terminalTrade tables launches which ⟨middle, stop⟩ =
        (profile.terminalTrade tables launches which ⟨start, stop⟩).filter
          (ofSignature fun signature => !f signature) := by
  obtain ⟨hbefore, hafter⟩ := @selectSlots_split _ joinedSlot
    (profile.joinedSwaps tables.swaps launches which) _ _ _ hlo hhi
  have hside := @ofKeys_key _ _ _ (fun pair : SwapRow × CreationRow =>
      SqlValue.text pair.1.signature)
    (selectSlots joinedSlot ⟨start, stop⟩ (profile.joinedSwaps tables.swaps launches which))
    (fun pair => decide (joinedSlot pair < middle))
    fun a ha b hb hkey => hsame a ha b hb (SqlValue.text.inj hkey)
  simp only [terminalTrade_eq, hbefore, hafter]
  exact ⟨_, tradeRows_filter hside, tradeRows_filter fun pair hpair => by rw [hside pair hpair]⟩

/-- **The lifecycle candidates of a range are those before a slot and those from it on.** -/
theorem curveLifecycle_split
    (hterminals : ∀ a ∈ selectSlots joinedSlot ⟨start, stop⟩
        (profile.joinedSwaps tables.swaps launches profile.terminal),
      ∀ b ∈ selectSlots joinedSlot ⟨start, stop⟩
        (profile.joinedSwaps tables.swaps launches profile.terminal),
      a.1.signature = b.1.signature →
        decide (joinedSlot a < middle) = decide (joinedSlot b < middle))
    (hmigrations : ∀ a ∈ selectSlots MigrationRow.slot ⟨start, stop⟩ tables.migrations,
      ∀ b ∈ selectSlots MigrationRow.slot ⟨start, stop⟩ tables.migrations,
      migrationKey a = migrationKey b → decide (a.slot < middle) = decide (b.slot < middle)) :
    ((profile.curveLifecycle tables launches).rows ⟨start, stop⟩).Perm
      ((profile.curveLifecycle tables launches).rows ⟨start, middle⟩ ++
        (profile.curveLifecycle tables launches).rows ⟨middle, stop⟩) := by
  -- Completions and migrations are grouped by keys that stay on one side.
  have hcompletions : (profile.terminalTrade tables launches profile.terminal ⟨start, stop⟩).Perm
      (profile.terminalTrade tables launches profile.terminal ⟨start, middle⟩ ++
        profile.terminalTrade tables launches profile.terminal ⟨middle, stop⟩) := by
    obtain ⟨f, hearly, hlate⟩ :=
      terminalTrade_split profile tables launches hlo hhi hterminals
    rw [hearly, hlate]
    exact (List.filter_append_perm (ofSignature f) _).symm
  have hmoves : (migrationRows (selectSlots MigrationRow.slot ⟨start, stop⟩ tables.migrations)).Perm
      (migrationRows (selectSlots MigrationRow.slot ⟨start, middle⟩ tables.migrations) ++
        migrationRows (selectSlots MigrationRow.slot ⟨middle, stop⟩ tables.migrations)) := by
    obtain ⟨hbefore, hafter⟩ := @selectSlots_split _ MigrationRow.slot tables.migrations _ _ _ hlo hhi
    simp only [hbefore, hafter, migrationRows, ← List.map_append]
    exact (groups_split hmigrations).map _
  -- The terminal trades of a transaction all stand on the side of its signature.
  have hsub : ∀ pair ∈ selectSlots joinedSlot ⟨start, stop⟩
      (profile.joinedSwaps tables.swaps launches profile.migrationTerminal),
      pair ∈ selectSlots joinedSlot ⟨start, stop⟩
        (profile.joinedSwaps tables.swaps launches profile.terminal) := by
    intro pair hpair
    obtain ⟨hmem, hrange⟩ := mem_selectSlots.mp hpair
    exact mem_selectSlots.mpr ⟨mem_joined_terminal profile tables launches hmem, hrange⟩
  obtain ⟨f, hearly, hlate⟩ := terminalTrade_split profile tables launches hlo hhi
    fun a ha b hb hkey => hterminals a (hsub a ha) b (hsub b hb) hkey
  have hbefore := terminalByTransaction_filter f
    (profile.terminalTrade tables launches profile.migrationTerminal ⟨start, stop⟩)
  have hafter := terminalByTransaction_filter (fun signature => !f signature)
    (profile.terminalTrade tables launches profile.migrationTerminal ⟨start, stop⟩)
  rw [← hearly] at hbefore
  rw [← hlate] at hafter
  have hfirst := @inRange_terminalByTransaction _ _
    (inRange_terminalTrade profile tables launches profile.migrationTerminal ⟨start, middle⟩)
  have hsecond := @inRange_terminalByTransaction _ _
    (inRange_terminalTrade profile tables launches profile.migrationTerminal ⟨middle, stop⟩)
  -- A migration is only joined to terminal trades of its own block.
  have hleft := migrationCandidates_side launches hbefore
    (fun _ => Slots.contains_adjacent)
    (fun t ht hno => hsecond t (hafter ▸ List.mem_filter.mpr
      ⟨ht, by rw [ofSignature, Bool.not_eq_true']; exact hno⟩))
    (inRange_migrationRows (@contains_of_selected _ MigrationRow.slot ⟨start, middle⟩
      tables.migrations))
  have hright := migrationCandidates_side launches hafter
    (fun _ hboth => Slots.contains_adjacent hboth.symm)
    (fun t ht hno => hfirst t (hbefore ▸ List.mem_filter.mpr
      ⟨ht, (Bool.not_eq_false' _).mp hno⟩))
    (inRange_migrationRows (@contains_of_selected _ MigrationRow.slot ⟨middle, stop⟩
      tables.migrations))
  have hcandidates := migrationCandidates_perm launches hmoves (terminalByTransaction
    (profile.terminalTrade tables launches profile.migrationTerminal ⟨start, stop⟩))
  rw [migrationCandidates_append, hleft, hright] at hcandidates
  have hall := (hcompletions.map completionCandidate).append hcandidates
  rw [List.map_append] at hall
  refine hall.trans ?_
  -- Only the order of the four parts is left.
  simp only [curveLifecycle, List.append_assoc]
  refine List.Perm.append_left _ ?_
  rw [← List.append_assoc, ← List.append_assoc]
  exact List.perm_append_comm.append_right _

end Split

/-- **Lifecycle candidates add up when no signature of a terminal trade and no migration has rows in
two shards.** -/
theorem curveLifecycle_additive {slots : Slots} {shards : List Slots} (hcuts : Cuts slots shards)
    (h : LifecycleUnsplit profile tables launches slots shards) :
    (profile.curveLifecycle tables launches).Additive slots shards := by
  rw [additive_iff (located_curveLifecycle profile tables launches) hcuts]
  refine @Cuts.additive _ (profile.curveLifecycle tables launches).rows
    (LifecycleUnsplit profile tables launches) (fun at_ => ?_) (fun hlt hle hP => ?_) _ _ hcuts h
  · simp only [curveLifecycle, terminalTrade_eq, selectSlots_empty]
    rfl
  · exact ⟨curveLifecycle_split profile tables launches hlt.le hle hP.terminals.head
      hP.migrations.head, hP.terminals.tail hlt.le, hP.migrations.tail hlt.le⟩

end Lifecycle

/-! ## Every query -/

/-- **Shards of the fixed queries.**  Over every cut of a range into adjacent shards, clock and
launches add up; trades and copy candidates add up exactly when no occurrence among the swaps they
group has rows in two shards; lifecycle candidates add up when no signature of a terminal trade and
no migration has. -/
theorem shard_additive (profile : PumpfunIndexerV1Profile) (tables : PhysicalTables)
    (scope : LaunchScope) (selection : CopySourceSelection) {slots : Slots} {shards : List Slots}
    (hcuts : Cuts slots shards) :
    (buildQuery profile tables scope .blockClock).Additive slots shards ∧
    (buildQuery profile tables scope .tokenLaunch).Additive slots shards ∧
    ((buildQuery profile tables scope .pumpCurveTrade).Additive slots shards ↔
      Unsplit joinedSlot joinedOccurrence shards
        (tradeSwaps profile tables (scope.eligible profile tables) slots)) ∧
    ((selection.candidates profile tables).Additive slots shards ↔
      Unsplit SwapRow.slot occurrence shards (candidateSwaps profile tables selection slots)) ∧
    (LifecycleUnsplit profile tables (scope.eligible profile tables) slots shards →
      (buildQuery profile tables scope .pumpCurveLifecycle).Additive slots shards) :=
  ⟨blockClock_additive profile tables hcuts, tokenLaunch_additive profile tables _ hcuts,
    curveTrade_additive_iff profile tables _ hcuts,
    candidates_additive_iff profile tables selection hcuts,
    curveLifecycle_additive profile tables _ hcuts⟩

section Sample

/-- The values the profile is installed with. -/
def sampleProfile : PumpfunIndexerV1Profile where
  sentinel :=
    { blockTimeEpochSeconds := 0, blockHash := "", validator := "MISSING", rewards := 0
      transactionCount := 0 }
  nativeSolQuote := "11111111111111111111111111111111"
  wrappedSolQuote := "So11111111111111111111111111111111111111112"
  terminalVirtualTokenReserves := 279900000000000

def sampleCreation : CreationRow where
  slot := 10
  blockTime := 1700000000
  txIdx := 0
  creationIxIndex := 0
  signature := "creation"
  mint := "mint"
  creator := "creator"
  feePayer := "creator"
  curveAddress := "curve"
  quoteCoin := "11111111111111111111111111111111"
  mayhemMode := 0
  tokenProgram := "token"
  isCashbackEnabled := .integer 0
  directPfInvocation := .integer 1
  pfProgramIndex := .integer 0
  parentProgram := .null
  version := .integer 1
  bundleSize := .integer 0
  bundleStructure := .null
  bundledBuys := .null
  bundledBuysCount := .integer 0
  devBalance := .integer 0

def sampleSwap (slot : Nat) : SwapRow where
  slot := slot
  blockTime := 1700000000
  txIdx := 3
  ixIdx := 2
  signature := "trade"
  baseCoin := "mint"
  quoteCoin := "So11111111111111111111111111111111111111112"
  direction := "buy"
  instructionType := "buy_v2"
  baseCoinAmount := .integer 1000
  quoteCoinAmount := .integer 50
  virtualTokenBalanceAfter := 1072999999999000
  virtualSolBalanceAfter := .integer 30000000050
  failed := 0
  signingWallet := "leader"
  feePayer := .text "leader"
  parentProgram := .null
  providedGasFee := .integer 0
  providedGasLimit := .integer 0
  fee := .integer 5000
  consumedGas := .integer 0
  pfProgramAccountIndex := .integer 0
  cuPriceIxIndex := .integer 0
  cuLimitIxIndex := .integer 0
  tipIndex := .integer 0
  numSignatures := .integer 1
  transactionVersion := .integer 0
  blockhashPrefix := .null

/-- One launch, and one occurrence of a trade recorded in the given slots. -/
def sampleTables (slots : List Nat) : PhysicalTables where
  blocks := []
  creations := [sampleCreation]
  swaps := slots.map sampleSwap
  migrations := []

theorem sampleCut : Cuts ⟨10, 12⟩ [⟨10, 11⟩, ⟨11, 12⟩] :=
  .cons (by decide) (.cons (by decide) (.nil 12))

/-- The swaps of the sample that a trade query groups. -/
theorem tradeSwaps_sample :
    tradeSwaps sampleProfile (sampleTables [10, 11])
        (LaunchScope.eligible (.decisions ⟨10, 12⟩) sampleProfile (sampleTables [10, 11])) ⟨10, 12⟩
      = [(sampleSwap 10, sampleCreation), (sampleSwap 11, sampleCreation)] := by
  rfl

/-- **One occurrence recorded in two slots does not add up.**  The whole range has one row with two
source rows, the two shards have a row each. -/
theorem split_occurrence :
    Cuts ⟨10, 12⟩ [⟨10, 11⟩, ⟨11, 12⟩] ∧
      ¬ (buildQuery sampleProfile (sampleTables [10, 11]) (.decisions ⟨10, 12⟩)
        .pumpCurveTrade).Additive ⟨10, 12⟩ [⟨10, 11⟩, ⟨11, 12⟩] := by
  refine ⟨sampleCut, fun hadditive => ?_⟩
  have hunsplit := (curveTrade_additive_iff sampleProfile (sampleTables [10, 11])
    (LaunchScope.eligible (.decisions ⟨10, 12⟩) sampleProfile (sampleTables [10, 11]))
    sampleCut).mp hadditive
  rw [tradeSwaps_sample] at hunsplit
  have hsame := hunsplit (sampleSwap 10, sampleCreation) (by simp)
    (sampleSwap 11, sampleCreation) (by simp) rfl ⟨10, 11⟩ (by simp)
  cases hsame

/-- A trade recorded once adds up, and so does everything else. -/
theorem shard_additive_sample :
    (buildQuery sampleProfile (sampleTables [11]) (.decisions ⟨10, 12⟩) .pumpCurveTrade).Additive
        ⟨10, 12⟩ [⟨10, 11⟩, ⟨11, 12⟩] ∧
      (buildQuery sampleProfile (sampleTables [11]) (.decisions ⟨10, 12⟩)
        .pumpCurveLifecycle).Additive ⟨10, 12⟩ [⟨10, 11⟩, ⟨11, 12⟩] := by
  obtain ⟨_, _, htrades, _, hlifecycle⟩ := shard_additive sampleProfile (sampleTables [11])
    (.decisions ⟨10, 12⟩) ⟨["leader"], ⟨10, 12⟩, ⟨10, 12⟩⟩ sampleCut
  have hone : tradeSwaps sampleProfile (sampleTables [11])
      (LaunchScope.eligible (.decisions ⟨10, 12⟩) sampleProfile (sampleTables [11])) ⟨10, 12⟩
        = [(sampleSwap 11, sampleCreation)] := rfl
  have hnone : selectSlots joinedSlot ⟨10, 12⟩ (sampleProfile.joinedSwaps (sampleTables [11]).swaps
      (LaunchScope.eligible (.decisions ⟨10, 12⟩) sampleProfile (sampleTables [11]))
        sampleProfile.terminal) = [] := rfl
  refine ⟨htrades.mpr ?_, hlifecycle ⟨?_, ?_⟩⟩
  · intro a ha b hb _ _ _
    rw [hone, List.mem_singleton] at ha hb
    rw [ha, hb]
  · intro a ha
    rw [hnone] at ha
    exact (List.not_mem_nil ha).elim
  · intro a ha
    exact (List.not_mem_nil ha).elim

end Sample

end Queries

end OnchainBacktest
