import OnchainBacktest.Results.RoundTripPaging
import OnchainBacktest.Results.StrategyEntries

/-!
# Paging through the entries of a result

The entries of a result have keys that strictly increase (`HasRows.ordered`).  A page is the page of
the entries above its cursor (`entries_eq_iff`), and following the cursors from the start reads every
entry once; a lookup returns the entry of its key (`entry_eq_iff`).

All of this holds for a digest that is written without the display prefix.  Where it has one, the
orders of a FirstSwap audit at the boundary of a cursor all count as lying before it, and no entry is
ever found under the key.
-/

set_option autoImplicit false

namespace OnchainBacktest

namespace Results

open Checked PositionFamily

/-! ## Keys -/

section Keys

variable {ρ : Type} [PositionFamily ρ] [EntryProjection ρ]

/-- An entry, and the cursor that stands at it. -/
abbrev EntryRow := StrategyEntry × RoundTripCursor

/-- The key of an entry. -/
def rowKey (row : EntryRow) : RowKey := row.2.key

/-- The row of a record. -/
def recordRow (record : ρ) : Except Fault EntryRow := do
  let entry ← projectEntry record
  .ok (entry, cursorAt record)

/-- Before a bare cursor, keys and texts compare alike. -/
theorem value_lt_iff {cursor : RoundTripCursor} (h : cursor.roundtripId.prefixed = false)
    (entry : StrategyEntry) : cursor.value < (entryCursor entry).value ↔ cursor.key < entry.key := by
  simp [RoundTripCursor.value, RoundTripCursor.key, StrategyEntry.key, entryCursor, Prod.Lex.lt_iff,
    h]

theorem value_le_iff {a b : StrategyEntry} :
    (entryCursor a).value ≤ (entryCursor b).value ↔ a.key ≤ b.key := by
  simp [RoundTripCursor.value, RoundTripCursor.key, StrategyEntry.key, entryCursor, Prod.Lex.le_iff]

/-- Behind a cursor with the prefix there are only entries of later boundaries. -/
theorem prefixed_value_lt_iff {cursor : RoundTripCursor} (h : cursor.roundtripId.prefixed = true)
    (entry : StrategyEntry) : cursor.value < (entryCursor entry).value ↔
      cursor.targetBoundaryOrdinal < entry.boundaryOrdinal := by
  simp [RoundTripCursor.value, entryCursor, Prod.Lex.lt_iff, h]

/-- Two cursors are one when their keys are and neither has the prefix. -/
theorem entryCursor_eq_iff {entry : StrategyEntry} {key : RoundTripCursor} :
    entryCursor entry = key ↔ entry.key = key.key ∧ key.roundtripId.prefixed = false := by
  obtain ⟨boundary, hex, marked⟩ := key
  simp only [entryCursor, StrategyEntry.key, RoundTripCursor.key, RoundTripCursor.mk.injEq,
    ContentDigest.mk.injEq, EmbeddingLike.apply_eq_iff_eq, Prod.mk.injEq, Fin.val_inj]
  tauto

/-- The row of a record has the key of the record. -/
theorem recordRow_eq_ok {record : ρ} {row : EntryRow} (h : recordRow record = .ok row) :
    projectEntry record = .ok row.1 ∧ cursorAt record = row.2 ∧ row.1.key = rowKey row := by
  obtain ⟨entry, hentry, h⟩ := bind_eq_ok.mp h
  cases h
  refine ⟨hentry, rfl, ?_⟩
  obtain ⟨detail, _, hmade⟩ := bind_eq_ok.mp hentry
  cases hmade
  rfl

/-- The orders of an audit come out in strictly increasing key order. -/
theorem orderEntries_ordered {records : List AuditRecord} {entries : List StrategyEntry}
    (h : orderEntries records = .ok entries) : (entries.map StrategyEntry.key).Pairwise (· < ·) := by
  obtain ⟨found, hfound, hmade⟩ := bind_eq_ok.mp h
  clear h
  cases hmade
  -- the orders are the keys of one dictionary
  have hids : found.map StrategyEntry.entryId = (groupRecords records).keys := by
    rw [Dict.keys]
    generalize (groupRecords records).entries = groups at hfound
    have hall := mapM_eq_ok hfound
    clear hfound
    induction hall with
    | nil => rfl
    | @cons group entry groups found hentry _ ih =>
      have hid : entry.entryId = group.1 := by
        simp only [genericEntry, bind_eq_ok] at hentry
        obtain ⟨_, _, _, _, _, _, _, _, _, _, hentry⟩ := hentry
        cases hentry
        rfl
      rw [List.map_cons, List.map_cons, hid, ih]
  have hnodup : (found.map StrategyEntry.entryId).Nodup := hids ▸ (groupRecords records).nodup_keys
  have hsorted : (found.insertionSort fun a b => (entryCursor a).value ≤ (entryCursor b).value).Pairwise
      fun a b => (entryCursor a).value ≤ (entryCursor b).value :=
    List.pairwise_insertionSort _ _
  have hdistinct := ((List.perm_insertionSort
    (fun a b => (entryCursor a).value ≤ (entryCursor b).value) found).map
      StrategyEntry.entryId).nodup_iff.mpr hnodup
  rw [List.nodup_iff_pairwise_ne, List.pairwise_map] at hdistinct
  rw [List.pairwise_map]
  refine (hsorted.and hdistinct).imp fun {a b} hab => ?_
  refine lt_of_le_of_ne (value_le_iff.mp hab.1) fun heq => hab.2 ?_
  simp only [StrategyEntry.key, RoundTripCursor.key, entryCursor, EmbeddingLike.apply_eq_iff_eq,
    Prod.mk.injEq] at heq
  exact Fin.val_injective heq.2

/-! ## The key before a key -/

/-- **What lies behind the predecessor of a key is what is not before the key.** -/
theorem predecessor_lt_iff (key : RoundTripCursor) (row : EntryRow) :
    (∀ cursor ∈ (predecessor key).map RoundTripCursor.key, cursor < rowKey row) ↔
      key.key ≤ rowKey row := by
  obtain ⟨⟨boundary, hboundary⟩, ⟨⟨hex, hhex⟩, marked⟩⟩ := key
  obtain ⟨entry, ⟨⟨rowBoundary, hrowBoundary⟩, ⟨⟨rowHex, hrowHex⟩, rowMarked⟩⟩⟩ := row
  by_cases hdigest : hex = 0
  · by_cases hzero : boundary = 0
    · simp [predecessor, hdigest, hzero, rowKey, RoundTripCursor.key, Prod.Lex.le_iff]
      omega
    · have hbefore : (boundary - 1) % 2 ^ 64 = boundary - 1 := Nat.mod_eq_of_lt (by omega)
      have hlast : (2 ^ 256 - 1) % 2 ^ 256 = 2 ^ 256 - 1 := Nat.mod_eq_of_lt (by omega)
      simp only [predecessor, hdigest, hzero, rowKey, RoundTripCursor.key, Prod.Lex.le_iff,
        Prod.Lex.lt_iff, ne_eq, not_true_eq_false, not_false_eq_true, if_false, if_true,
        Option.map_some, Option.mem_def, Option.some.injEq, forall_eq', Fin.ofNat, hbefore, hlast,
        ofLex_toLex]
      omega
  · have hbefore : (hex - 1) % 2 ^ 256 = hex - 1 := Nat.mod_eq_of_lt (by omega)
    simp only [predecessor, hdigest, rowKey, RoundTripCursor.key, Prod.Lex.le_iff,
      Prod.Lex.lt_iff, ne_eq, not_false_eq_true, if_true, Option.map_some, Option.mem_def,
      Option.some.injEq, forall_eq', Fin.ofNat, hbefore, ofLex_toLex]
    omega

/-- The predecessor of a key is written without the prefix. -/
theorem predecessor_bare (key : RoundTripCursor) :
    ∀ cursor ∈ predecessor key, cursor.roundtripId.prefixed = false := by
  intro cursor hcursor
  simp only [predecessor] at hcursor
  split at hcursor
  · cases hcursor
    rfl
  · split at hcursor
    · cases hcursor
      rfl
    · cases hcursor

end Keys

/-! ## The entries of a result -/

section Entries

variable {ρ : Type} [PositionFamily ρ] [EntryProjection ρ] [CanonicalStreamHash]

/-- **The entries of a result**: the projections of its records, or the orders of its audit. -/
inductive HasRows (ρ : Type) [PositionFamily ρ] [EntryProjection ρ] (result : StoredResult) :
    List EntryRow → Prop
  | positions {records : List ρ} {rows : List EntryRow} (hrun : Complete result.run records)
      (hrows : records.mapM recordRow = .ok rows) : HasRows ρ result rows
  | orders {records : List AuditRecord} {entries : List StrategyEntry}
      (hfamily : result.run.manifest.summary = .firstSwap) (haudit : result.audit = .ok records)
      (hentries : orderEntries records = .ok entries) :
      HasRows ρ result (entries.map fun entry => (entry, entryCursor entry))

variable {result : StoredResult} {rows : List EntryRow}

/-- A row stands at the key of its entry. -/
theorem HasRows.key (h : HasRows ρ result rows) : ∀ row ∈ rows, row.1.key = rowKey row := by
  cases h with
  | positions hrun hrows =>
    intro row hrow
    obtain ⟨record, _, hrecord⟩ := exists_of_mem_mapM hrows hrow
    exact (recordRow_eq_ok hrecord).2.2
  | orders hfamily haudit hentries =>
    intro row hrow
    obtain ⟨entry, _, rfl⟩ := List.mem_map.mp hrow
    rfl

/-- **The keys of the entries strictly increase.** -/
theorem HasRows.ordered (h : HasRows ρ result rows) : (rows.map rowKey).Pairwise (· < ·) := by
  cases h with
  | positions hrun hrows =>
    have hkeys : ∀ {records : List ρ} {rows : List EntryRow}, records.mapM recordRow = .ok rows →
        rows.map rowKey = records.map recordKey := by
      intro records rows hrows
      have hall := mapM_eq_ok hrows
      clear hrows
      induction hall with
      | nil => rfl
      | cons hrow _ ih =>
        rw [List.map_cons, List.map_cons, ih, rowKey, ← (recordRow_eq_ok hrow).2.1]
        rfl
    rw [hkeys hrows]
    exact hrun.table.ordered
  | orders hfamily haudit hentries =>
    rw [List.map_map]
    exact orderEntries_ordered hentries

/-! ## Pages -/

/-- The page of the entries above a cursor. -/
def pageOfRows (rows : List EntryRow) (after : Option RoundTripCursor) (limit : Nat) :
    StrategyEntryPage :=
  (Paging.page Prod.snd RoundTripCursor.key rows after limit).map Prod.fst

/-- The entry of a key. -/
def lookup (rows : List EntryRow) (key : RoundTripCursor) :
    Except StrategyResultsError StrategyEntry :=
  match rows.find? fun row => rowKey row = key.key with
  | none => .error .entryNotFound
  | some row => .ok row.1

/-- A cursor passes over no order: it is written without the prefix, or the result has positions, or
no order at its boundary has a greater identity. -/
def PassesNothing (result : StoredResult) (rows : List EntryRow)
    (after : Option RoundTripCursor) : Prop :=
  ∀ cursor ∈ after, cursor.roundtripId.prefixed = true →
    result.run.manifest.summary = .firstSwap →
      ∀ row ∈ rows, row.1.boundaryOrdinal = cursor.targetBoundaryOrdinal →
        row.1.entryId ≤ cursor.roundtripId.hex

variable {store : RunId → Option StoredResult} {id : RunId}

/-- A moment that opening and using readers leads to. -/
def MomentReached (ρ : Type) [PositionFamily ρ] (store : RunId → Option StoredResult)
    (moment : Moment) : Prop :=
  ∃ capacity, Reachable ρ (fun id => (store id).map StoredResult.run) capacity moment.factory

/-- A page of positions is a page of their rows. -/
theorem resultPage_positions {moment : Moment} (hmoment : MomentReached ρ store moment)
    (hstored : store id = some result) {records : List ρ} (hrun : Complete result.run records)
    (hrows : records.mapM recordRow = .ok rows) {limit : Nat} (hpositive : 1 ≤ limit)
    (hlimit : limit ≤ MAX_ROUNDTRIP_PAGE_SIZE) (after : Option RoundTripCursor) :
    resultPage ρ id result moment after limit = .ok (pageOfRows rows after limit) := by
  obtain ⟨capacity, hreached⟩ := hmoment
  have hrunStored : (store id).map StoredResult.run = some result.run := by rw [hstored]; rfl
  have hopened := (sound_of_reachable hreached).opened hrunStored moment.evictedOpen
  have hpage := ((roundtrips_spec hopened moment.evictedCall after limit).2 _).mpr
    ⟨⟨hpositive, hlimit⟩, hrun.positions, hrun.balances, records, hrun.table, rfl⟩
  have hall := mapM_eq_ok hrows
  have habove : List.Forall₂ (fun record row => recordRow record = .ok row)
      (Paging.above recordKey (after.map RoundTripCursor.key) records)
      (Paging.above rowKey (after.map RoundTripCursor.key) rows) :=
    Paging.forall₂_above (fun record row h => by
      rw [rowKey, ← (recordRow_eq_ok h).2.1]
      rfl) hall _
  have hitems : (pageOf records after limit).items.mapM projectEntry
      = .ok (pageOfRows rows after limit).items := by
    have htaken := List.forall₂_take limit habove
    show ((Paging.above recordKey (after.map RoundTripCursor.key) records).take limit).mapM
      projectEntry
      = .ok (((Paging.above rowKey (after.map RoundTripCursor.key) rows).take limit).map Prod.fst)
    generalize (Paging.above recordKey (after.map RoundTripCursor.key) records).take limit = taken
      at htaken
    generalize (Paging.above rowKey (after.map RoundTripCursor.key) rows).take limit = shown
      at htaken
    induction htaken with
    | nil => rfl
    | cons hrow _ ih =>
      rw [List.mapM_cons, (recordRow_eq_ok hrow).1, ok_bind, ih, ok_bind]
      rfl
  have hnext : (pageOf records after limit).next = (pageOfRows rows after limit).next :=
    @Paging.cut_next_eq ρ RoundTripCursor EntryRow (fun record row => recordRow record = .ok row)
      _ _ cursorAt Prod.snd (fun record row h => (recordRow_eq_ok h).2.1) habove limit
  rw [resultPage, if_pos hrun.positions, hpage]
  show (unavailable ((pageOf records after limit).items.mapM projectEntry) >>= fun items =>
    (.ok ⟨items, (pageOf records after limit).next⟩ :
      Except StrategyResultsError StrategyEntryPage)) = _
  rw [hitems, hnext]
  rfl

/-- A page of orders is cut from those whose cursors compare greater. -/
theorem resultPage_orders {moment : Moment} {records : List AuditRecord}
    {entries : List StrategyEntry} (hfamily : result.run.manifest.summary = .firstSwap)
    (haudit : result.audit = .ok records) (hentries : orderEntries records = .ok entries)
    (after : Option RoundTripCursor) (limit : Nat) :
    resultPage ρ id result moment after limit
      = .ok (Paging.cut entryCursor limit (entries.filter fun entry =>
          decide (∀ cursor ∈ after, cursor.value < (entryCursor entry).value))) := by
  rw [resultPage, if_neg (not_not.mpr hfamily), haudit, ok_bind, hentries]
  rfl

omit [CanonicalStreamHash] in
/-- The page of the rows of orders. -/
theorem pageOfRows_orders (entries : List StrategyEntry) (after : Option RoundTripCursor)
    (limit : Nat) :
    pageOfRows (entries.map fun entry => (entry, entryCursor entry)) after limit
      = Paging.cut entryCursor limit (entries.filter fun entry =>
          decide (∀ cursor ∈ after, cursor.key < entry.key)) := by
  have habove : Paging.above rowKey (after.map RoundTripCursor.key)
      (entries.map fun entry => (entry, entryCursor entry))
      = (entries.filter fun entry => decide (∀ cursor ∈ after, cursor.key < entry.key)).map
        fun entry => (entry, entryCursor entry) := by
    rw [Paging.above, List.filter_map]
    congr 1
    refine List.filter_congr fun entry _ => ?_
    simp [rowKey, StrategyEntry.key]
  show (Paging.cut Prod.snd limit (Paging.above rowKey (after.map RoundTripCursor.key)
    (entries.map fun entry => (entry, entryCursor entry)))).map Prod.fst = _
  rw [habove]
  generalize (entries.filter fun entry => decide (∀ cursor ∈ after, cursor.key < entry.key)) = kept
  simp only [Paging.cut, Paging.Page.map, List.length_map]
  rw [← List.map_take, List.getLast?_map, Option.map_map, List.map_map]
  simp only [Function.comp_def, List.map_id']

/-- **A page is the page of the entries above its cursor exactly when the cursor passes over no
order.** -/
theorem resultPage_eq_iff {moment : Moment} (hmoment : MomentReached ρ store moment)
    (hstored : store id = some result) (h : HasRows ρ result rows) {limit : Nat}
    (hpositive : 1 ≤ limit) (hlimit : limit ≤ MAX_ROUNDTRIP_PAGE_SIZE)
    (after : Option RoundTripCursor) :
    resultPage ρ id result moment after limit = .ok (pageOfRows rows after limit) ↔
      PassesNothing result rows after := by
  cases h with
  | @positions records _ hrun hrows =>
    refine iff_of_true (resultPage_positions hmoment hstored hrun hrows hpositive hlimit after) ?_
    intro cursor _ _ hfamily
    exact absurd hfamily hrun.positions
  | @orders records entries hfamily haudit hentries =>
    rw [resultPage_orders hfamily haudit hentries, pageOfRows_orders, Except.ok.injEq]
    constructor
    · intro hsame cursor hcursor hprefixed _ row hrow hboundary
      by_contra hgreater
      obtain ⟨entry, hentry, rfl⟩ := List.mem_map.mp hrow
      obtain rfl := Option.mem_def.mp hcursor
      -- the first entry above the cursor is at its boundary, so it was passed over
      have habove : cursor.key < entry.key := by
        rw [RoundTripCursor.key, StrategyEntry.key, RoundTripCursor.key, Prod.Lex.lt_iff]
        exact .inr ⟨congrArg Fin.val hboundary.symm, not_le.mp hgreater⟩
      have hmem : entry ∈ entries.filter fun entry =>
          decide (∀ c ∈ some cursor, c.key < entry.key) := by
        simpa using ⟨hentry, habove⟩
      obtain ⟨first, kept, hkept⟩ := List.exists_cons_of_ne_nil (List.ne_nil_of_mem hmem)
      have hfirst : first ∈ (entries.filter fun entry =>
          decide (∀ c ∈ some cursor, c.value < (entryCursor entry).value)).take limit := by
        have hitems := congrArg Paging.Page.items hsame
        simp only [Paging.cut] at hitems
        rw [hitems, hkept, List.take_cons hpositive]
        exact List.mem_cons_self
      have hlater : cursor.targetBoundaryOrdinal < first.boundaryOrdinal := by
        have hvalue := (List.mem_filter.mp (List.mem_of_mem_take hfirst)).2
        rw [← prefixed_value_lt_iff hprefixed]
        simpa using hvalue
      have hsorted := (orderEntries_ordered hentries).sublist
        ((List.filter_sublist (p := fun entry : StrategyEntry =>
          decide (∀ c ∈ some cursor, c.key < entry.key))).map StrategyEntry.key)
      have hle : first.key ≤ entry.key := by
        rw [hkept] at hmem hsorted
        rw [List.map_cons] at hsorted
        rcases List.mem_cons.mp hmem with rfl | hmem
        · exact le_rfl
        · exact ((List.pairwise_cons.mp hsorted).1 _ (List.mem_map_of_mem hmem)).le
      have hlate : cursor.targetBoundaryOrdinal.val < first.boundaryOrdinal.val := hlater
      rw [StrategyEntry.key, StrategyEntry.key, RoundTripCursor.key, RoundTripCursor.key,
        Prod.Lex.le_iff] at hle
      have hboundary' : entry.boundaryOrdinal.val = cursor.targetBoundaryOrdinal.val :=
        congrArg Fin.val hboundary
      simp only [entryCursor, ofLex_toLex] at hle
      omega
    · intro hpasses
      congr 1
      refine List.filter_congr fun entry hentry => ?_
      rw [decide_eq_decide]
      refine forall₂_congr fun cursor hcursor => ?_
      cases hprefixed : cursor.roundtripId.prefixed with
      | false => exact value_lt_iff hprefixed entry
      | true =>
        have hnone := hpasses cursor hcursor hprefixed hfamily (entry, entryCursor entry)
          (List.mem_map_of_mem hentry)
        rw [prefixed_value_lt_iff hprefixed, RoundTripCursor.key, StrategyEntry.key,
          RoundTripCursor.key, Prod.Lex.lt_iff]
        constructor
        · exact fun hlt => .inl hlt
        · rintro (hlt | ⟨hboundary, hlt⟩)
          · exact hlt
          · exact absurd (hnone (Fin.val_injective hboundary.symm)) (not_le.mpr hlt)

omit [CanonicalStreamHash] in
/-- A cursor without the prefix passes over nothing. -/
theorem passesNothing_of_bare {after : Option RoundTripCursor}
    (h : ∀ cursor ∈ after, cursor.roundtripId.prefixed = false) : PassesNothing result rows after := by
  intro cursor hcursor hprefixed
  rw [h cursor hcursor] at hprefixed
  cases hprefixed

/-! ## Lookups -/

/-- The row a lookup finds is the first at its key or above it. -/
theorem entry_eq {moment : Moment} (hmoment : MomentReached ρ store moment)
    (hstored : store id = some result) (h : HasRows ρ result rows) (key : RoundTripCursor) :
    entry ρ store moment id key
      = match rows.find? fun row => decide (key.key ≤ rowKey row) with
        | none => .error .entryNotFound
        | some row => if entryCursor row.1 = key then .ok row.1 else .error .entryNotFound := by
  have hpage : resultPage ρ id result moment (predecessor key) 1
      = .ok (pageOfRows rows (predecessor key) 1) :=
    (resultPage_eq_iff hmoment hstored h le_rfl (by decide) _).mpr
      (passesNothing_of_bare (predecessor_bare key))
  have hfirst : (pageOfRows rows (predecessor key) 1).items.head?
      = (rows.find? fun row => decide (key.key ≤ rowKey row)).map Prod.fst := by
    show (((Paging.above rowKey ((predecessor key).map RoundTripCursor.key) rows).take 1).map
      Prod.fst).head? = _
    rw [List.head?_map, List.head?_take, if_neg one_ne_zero, Paging.above, List.head?_filter]
    simp only [predecessor_lt_iff]
  rw [entry, openResult, hstored, ok_bind, hpage, ok_bind, hfirst]
  cases rows.find? fun row => decide (key.key ≤ rowKey row) with
  | none => rfl
  | some row =>
    show (refuseIf (entryCursor row.1 ≠ key) StrategyResultsError.entryNotFound >>= fun _ =>
      Except.ok row.1) = _
    by_cases hkey : entryCursor row.1 = key
    · rw [refuseIf_of_not (not_not.mpr hkey), ok_bind]
      exact (if_pos hkey).symm
    · rw [refuseIf_of hkey]
      exact (if_neg hkey).symm

/-- **A lookup returns the entry of its key exactly when the key is written without the prefix or no
entry has it.** -/
theorem entry_eq_iff {moment : Moment} (hmoment : MomentReached ρ store moment)
    (hstored : store id = some result) (h : HasRows ρ result rows) (key : RoundTripCursor) :
    entry ρ store moment id key = lookup rows key ↔
      key.roundtripId.prefixed = false ∨ ∀ row ∈ rows, rowKey row ≠ key.key := by
  have hsame : ∀ row ∈ rows, (entryCursor row.1 = key ↔
      rowKey row = key.key ∧ key.roundtripId.prefixed = false) := by
    intro row hrow
    rw [entryCursor_eq_iff, h.key row hrow]
  have hfound := Paging.find?_eq h.ordered key.key
  have habsent : (∀ row ∈ rows, rowKey row ≠ key.key) ↔
      rows.find? (fun row => decide (rowKey row = key.key)) = none := by
    simp [List.find?_eq_none]
  rw [entry_eq hmoment hstored h, lookup, habsent]
  cases hat : rows.find? fun row => decide (key.key ≤ rowKey row) with
  | none =>
    rw [hat] at hfound
    rw [hfound]
    simp
  | some row =>
    rw [hat] at hfound
    have hiff := hsame row (List.mem_of_find?_eq_some hat)
    rw [hfound]
    by_cases hkey : rowKey row = key.key
    · by_cases hbare : key.roundtripId.prefixed = false
      · simp [hiff, hkey, hbare, Option.filter]
      · simp [hiff, hkey, hbare, Option.filter]
    · simp [hiff, hkey, Option.filter]

/-! ## Following the cursors -/

/-- A call for a page. -/
structure EntryVisit (ρ : Type) [PositionFamily ρ] (store : RunId → Option StoredResult) where
  moment : Moment
  reached : MomentReached ρ store moment
  limit : Nat
  positive : 1 ≤ limit
  bounded : limit ≤ MAX_ROUNDTRIP_PAGE_SIZE

/-- What the call returns. -/
def EntryVisit.page (id : RunId) (visit : EntryVisit ρ store) (after : Option RoundTripCursor) :
    Except QueryError StrategyEntryPage :=
  entries ρ store visit.moment id after visit.limit

/-- The page a call returns. -/
theorem EntryVisit.page_eq (visit : EntryVisit ρ store) (hstored : store id = some result)
    (after : Option RoundTripCursor) :
    visit.page id after
      = (resultPage ρ id result visit.moment after visit.limit).mapError .results := by
  have hlimit : ¬ ¬ (1 ≤ visit.limit ∧ visit.limit ≤ MAX_ROUNDTRIP_PAGE_SIZE) :=
    not_not.mpr ⟨visit.positive, visit.bounded⟩
  rw [EntryVisit.page, entries, refuseIf_of_not hlimit, ok_bind, openResult, hstored]
  rfl

omit [CanonicalStreamHash] in
/-- The cursor of a row passes over nothing. -/
theorem HasRows.passesNothing [CanonicalStreamHash] (h : HasRows ρ result rows) :
    ∀ row ∈ rows, PassesNothing result rows (some row.2) := by
  cases h with
  | positions hrun _ =>
    intro _ _ _ _ _ hfamily
    exact absurd hfamily hrun.positions
  | orders _ _ _ =>
    intro row hrow
    obtain ⟨entry, _, rfl⟩ := List.mem_map.mp hrow
    refine passesNothing_of_bare fun cursor hcursor => ?_
    obtain rfl := Option.some.inj hcursor
    rfl

/-- **Paging and lookups over the entries of a result.**  Whoever follows the cursors of the pages
from the start reads every entry once, in key order.  The page after any other cursor is right
exactly when the cursor passes over no order, and a lookup is right exactly when its key is written
without the prefix or no entry has it. -/
theorem entry_paging (hstored : store id = some result) (h : HasRows ρ result rows) :
    (∀ visits : List (EntryVisit ρ store),
      Paging.walk (EntryVisit.page id) visits none
        = .ok ((rows.map Prod.fst).take (visits.map (·.limit)).sum,
          decide (visits ≠ [] ∧ rows.length ≤ (visits.map (·.limit)).sum))) ∧
    (∀ (visit : EntryVisit ρ store) (after : Option RoundTripCursor),
      visit.page id after = .ok (pageOfRows rows after visit.limit) ↔
        PassesNothing result rows after) ∧
    ∀ (moment : Moment) (key : RoundTripCursor), MomentReached ρ store moment →
      (entry ρ store moment id key = lookup rows key ↔
        key.roundtripId.prefixed = false ∨ ∀ row ∈ rows, rowKey row ≠ key.key) := by
  have hcall : ∀ (visit : EntryVisit ρ store) (after : Option RoundTripCursor),
      visit.page id after = .ok (pageOfRows rows after visit.limit) ↔
        PassesNothing result rows after := by
    intro visit after
    rw [visit.page_eq hstored, mapError_eq_ok]
    exact resultPage_eq_iff visit.reached hstored h visit.positive visit.bounded after
  refine ⟨fun visits => ?_, hcall, fun moment key hmoment => entry_eq_iff hmoment hstored h key⟩
  have hstart : PassesNothing result rows none := by
    intro cursor hcursor
    cases hcursor
  have hwalk := @Paging.walk_eq EntryRow RoundTripCursor RowKey _ _ _ Prod.snd RoundTripCursor.key
    rows StrategyEntry Prod.fst h.ordered (EntryVisit.page id) (fun visit => visit.limit) visits
    (PassesNothing result rows) h.passesNothing
    (fun visit _ after hafter => (hcall visit after).mpr hafter) (fun visit _ => visit.positive) none
    hstart
  simpa [List.map_take] using hwalk

end Entries


/-! ## A prefixed cursor -/

section Prefixed

/-- A record of an order that was rejected where it was decided. -/
def rejectionRecord (recordType : String) (reason : Option String) : AuditRecord where
  recordType
  orderId := some 1
  boundaryOrdinal := some 5
  reason
  fill := none

/-- The audit of one rejected order. -/
def rejectionAudit : List AuditRecord :=
  [rejectionRecord "INTENT_PROPOSED" none, rejectionRecord "ORDER_REJECTED" (some "NO_QUOTE")]

theorem five_lt : 5 < 2 ^ 64 := by decide

/-- The boundary the order was decided at. -/
def fifthBoundary : Fin (2 ^ 64) := ⟨5, five_lt⟩

/-- Its entry. -/
def rejectedEntry : StrategyEntry where
  entryId := 1
  boundaryOrdinal := fifthBoundary
  detail :=
    { signalEventId := none
      assetId := none
      quoteAssetId := none
      actorRole := none
      actorId := none
      status := "REJECTED"
      exitReason := none
      realizedCashPnlAtomic := none
      economicPnlAtomic := none
      valuationStatus := "NOT_APPLICABLE"
      attempts :=
        [{ side := "ENTRY"
           number := 0
           status := "REJECTED"
           decisionBoundary := 5
           landingBoundary := none
           referenceOutAtomic := none
           landingOutAtomic := none
           minimumOutAtomic := none
           failureCode := some "NO_QUOTE" }]
      chartAvailability := "UNAVAILABLE" }

/-- A FirstSwap result with that audit. -/
def rejectedResult [CanonicalStreamHash] : StoredResult where
  run :=
    { manifest :=
        { summary := .firstSwap
          networkId := suppressedRecord.networkId
          positionSchemaId := suppressedRecord.positionSchemaId
          roundtrips := writtenDescriptor ([] : List RoundTripRecord) }
      file := ⟨ROUNDTRIP_RESULT_SCHEMA_V4, []⟩
      balances := .ok () }
  audit := .ok rejectionAudit

/-- Before any reader is open. -/
def firstMoment : Moment := ⟨⟨LruCache.empty 1, []⟩, false, false⟩

/-- A cursor at the boundary of the order. -/
def boundaryCursor (hex : Fin (2 ^ 256)) (prefixed : Bool) : RoundTripCursor :=
  ⟨fifthBoundary, ⟨hex, prefixed⟩⟩

/-- The orders of the audit. -/
theorem orderEntries_rejection : orderEntries rejectionAudit = .ok [rejectedEntry] := by
  decide

theorem rejectedResult_hasRows [CanonicalStreamHash] :
    HasRows RoundTripRecord rejectedResult [(rejectedEntry, entryCursor rejectedEntry)] :=
  .orders rfl rfl orderEntries_rejection

theorem firstMoment_reached [CanonicalStreamHash] (store : RunId → Option StoredResult) :
    MomentReached RoundTripRecord store firstMoment := ⟨1, .start⟩

/-- The first page of the result, and the lookup of its order. -/
theorem entry_paging_rejected :
    let _ : CanonicalStreamHash := blindHash
    let store : RunId → Option StoredResult := fun _ => some rejectedResult
    entry RoundTripRecord store firstMoment 0 (boundaryCursor 1 false) = .ok rejectedEntry := by
  intro _ store
  have hstored : store 0 = some rejectedResult := rfl
  exact ((entry_paging hstored rejectedResult_hasRows).2.2 firstMoment (boundaryCursor 1 false)
    (firstMoment_reached store)).mpr (.inl rfl)

/-- **A cursor with the prefix passes over the order at its boundary**, and the order is not found
under its key. -/
theorem prefixed_cursor_passes_over :
    let _ : CanonicalStreamHash := blindHash
    let store : RunId → Option StoredResult := fun _ => some rejectedResult
    let rows := [(rejectedEntry, entryCursor rejectedEntry)]
    (HasRows RoundTripRecord rejectedResult rows ∧ MomentReached RoundTripRecord store firstMoment) ∧
      entries RoundTripRecord store firstMoment 0 (some (boundaryCursor 0 true)) 1
          = .ok ⟨[], none⟩ ∧
        pageOfRows rows (some (boundaryCursor 0 true)) 1 = ⟨[rejectedEntry], none⟩ ∧
      entry RoundTripRecord store firstMoment 0 (boundaryCursor 1 true) = .error .entryNotFound ∧
        lookup rows (boundaryCursor 1 true) = .ok rejectedEntry := by
  intro _ store rows
  have hstored : store 0 = some rejectedResult := rfl
  refine ⟨⟨rejectedResult_hasRows, firstMoment_reached store⟩, ?_, ?_, ?_, ?_⟩
  · have hpage : resultPage RoundTripRecord 0 rejectedResult firstMoment
        (some (boundaryCursor 0 true)) 1 = _ :=
      resultPage_orders rfl rfl orderEntries_rejection _ _
    rw [entries, refuseIf_of_not (by decide), ok_bind, openResult, hstored]
    show (resultPage RoundTripRecord 0 rejectedResult firstMoment (some (boundaryCursor 0 true))
      1).mapError QueryError.results = _
    rw [hpage]
    decide
  · decide
  · rw [entry_eq (firstMoment_reached store) hstored rejectedResult_hasRows]
    decide
  · decide

end Prefixed
end Results

end OnchainBacktest
