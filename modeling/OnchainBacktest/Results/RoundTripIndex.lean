import OnchainBacktest.Results.RoundTripScan

/-!
# The sparse index of a round-trip table

The index has at most 1024 entries (`length_sparseIndex_le`), comes in the order of the table, and
ends at the last row group when the table has a row (`getLast?_sparseIndex`).  No row up to a
sampled row group goes above its entry (`le_maximum`), so the row group a page read starts in has no
row above the cursor before it (`rowGroupsAfter_skips`).

With that the two ways of reading agree: a page read through the index, or without it, is the page
the scan takes (`readRoundtripPage_eq`, `scanRoundtrips_eq_ok`).
-/

set_option autoImplicit false

namespace OnchainBacktest

namespace Results

open Checked PositionFamily

/-! ## The index of a table -/

section Index

variable {file : RoundTripFile}

/-- The entries are those of the sampled row groups that end some rows. -/
theorem mem_checkpointsFrom {groups : Nat} {rest : List (List RoundTripRow)} {entry : Nat × RowKey}
    (before : List RoundTripRow) (group : Nat) :
    entry ∈ checkpointsFrom groups before rest group ↔
      ∃ i < rest.length, entry.1 = group + i ∧ sampled groups entry.1 ∧
        lastKey (before ++ (rest.take (i + 1)).flatten) = some entry.2 := by
  have hone : ∀ {n : Nat} {rows : List RoundTripRow}, entry ∈ checkpoint groups n rows ↔
      entry.1 = n ∧ sampled groups entry.1 ∧ lastKey rows = some entry.2 := by
    intro n rows
    obtain ⟨number, maximum⟩ := entry
    rw [checkpoint]
    cases lastKey rows with
    | none => simp
    | some last =>
      by_cases hsampled : sampled groups n
      · simp only [hsampled, if_true, List.mem_singleton, Prod.mk.injEq, Option.some.injEq]
        exact ⟨fun h => ⟨h.1, h.1 ▸ hsampled, h.2.symm⟩, fun h => ⟨h.1, h.2.2.symm⟩⟩
      · simp only [hsampled, if_false, List.not_mem_nil, false_iff]
        rintro ⟨rfl, h, _⟩
        exact hsampled h
  induction rest generalizing before group with
  | nil => simp [checkpointsFrom]
  | cons rows rest ih =>
    rw [checkpointsFrom, List.mem_append, hone]
    constructor
    · rintro (⟨hn, hsampled, hlast⟩ | hrest)
      · exact ⟨0, Nat.succ_pos _, hn, hsampled, by simpa using hlast⟩
      · obtain ⟨i, hi, hn, hsampled, hlast⟩ := (ih (before ++ rows) (group + 1)).mp hrest
        exact ⟨i + 1, Nat.succ_lt_succ hi, by omega, hsampled, by simpa using hlast⟩
    · rintro ⟨i, hi, hn, hsampled, hlast⟩
      cases i with
      | zero => exact .inl ⟨hn, hsampled, by simpa using hlast⟩
      | succ i =>
        exact .inr ((ih (before ++ rows) (group + 1)).mpr
          ⟨i, Nat.lt_of_succ_lt_succ hi, by omega, hsampled, by simpa using hlast⟩)

theorem mem_sparseIndex {group : Nat} {maximum : RowKey} :
    (group, maximum) ∈ sparseIndex file ↔ group < file.rowGroups.length ∧
      sampled file.rowGroups.length group ∧
      lastKey (file.rowGroups.take (group + 1)).flatten = some maximum := by
  rw [sparseIndex, mem_checkpointsFrom]
  constructor
  · rintro ⟨i, hi, hn, hsampled, hlast⟩
    obtain rfl : group = i := by simpa using hn
    exact ⟨hi, hsampled, by simpa using hlast⟩
  · rintro ⟨hi, hsampled, hlast⟩
    exact ⟨group, hi, by simp, hsampled, by simpa using hlast⟩

/-- The entries come in the order of the row groups. -/
theorem pairwise_sparseIndex : (sparseIndex file).Pairwise fun a b => a.1 < b.1 := by
  have hall : ∀ (groups : Nat) (rest : List (List RoundTripRow)) (before : List RoundTripRow)
      (group : Nat), (checkpointsFrom groups before rest group).Pairwise fun a b => a.1 < b.1 := by
    intro groups rest
    induction rest with
    | nil => intro before group; exact .nil
    | cons rows rest ih =>
      intro before group
      rw [checkpointsFrom, List.pairwise_append]
      refine ⟨?_, ih _ _, ?_⟩
      · rw [checkpoint]
        cases lastKey (before ++ rows) with
        | none => exact .nil
        | some last =>
          dsimp only
          split
          · exact List.pairwise_singleton _ _
          · exact .nil
      · intro a ha b hb
        obtain ⟨i, _, hnumber, _⟩ := (mem_checkpointsFrom _ _).mp hb
        have hfirst : a.1 = group := by
          rw [checkpoint] at ha
          cases hlast : lastKey (before ++ rows) with
          | none => simp [hlast] at ha
          | some last =>
            simp only [hlast] at ha
            split at ha
            · rw [List.mem_singleton.mp ha]
            · cases ha
        omega
  exact hall _ _ _ _

/-- A sampled row group lies in an earlier stride than the ones after it. -/
theorem stride_injective {groups a b : Nat} (ha : sampled groups a) (hlt : a < b)
    (hgroups : b < groups) :
    a / checkpointStride groups ≠ b / checkpointStride groups := by
  have hstride : 0 < checkpointStride groups := Nat.lt_of_lt_of_le Nat.one_pos (le_max_left _ _)
  rw [sampled] at ha
  generalize checkpointStride groups = stride at *
  -- the earlier one is not the last row group, so it ends a stride
  have hends : (a + 1) % stride = 0 := by
    rcases ha with h | h
    · exact h
    · omega
  obtain ⟨n, hn⟩ := Nat.dvd_of_mod_eq_zero hends
  have hbelow : a / stride < n := by
    rw [Nat.div_lt_iff_lt_mul hstride]
    nlinarith [Nat.mul_comm stride n]
  have habove : n ≤ b / stride := by
    rw [Nat.le_div_iff_mul_le hstride]
    nlinarith [Nat.mul_comm stride n]
  omega

/-- **The index has at most 1024 entries.** -/
theorem length_sparseIndex_le : (sparseIndex file).length ≤ MAX_ROUNDTRIP_PAGE_CHECKPOINTS := by
  have hpositive : 0 < checkpointStride file.rowGroups.length :=
    Nat.lt_of_lt_of_le Nat.one_pos (le_max_left _ _)
  have hnodup : ((sparseIndex file).map fun e =>
      e.1 / checkpointStride file.rowGroups.length).Nodup := by
    rw [List.nodup_iff_pairwise_ne, List.pairwise_map]
    refine pairwise_sparseIndex.imp_of_mem fun {a b} ha hb hlt => ?_
    exact stride_injective (mem_sparseIndex.mp ha).2.1 hlt (mem_sparseIndex.mp hb).1
  have hsub : ((sparseIndex file).map fun e => e.1 / checkpointStride file.rowGroups.length)
      ⊆ List.range MAX_ROUNDTRIP_PAGE_CHECKPOINTS := by
    intro n hn
    obtain ⟨e, he, rfl⟩ := List.mem_map.mp hn
    have hlt := (mem_sparseIndex.mp he).1
    have hstride : file.rowGroups.length
        ≤ checkpointStride file.rowGroups.length * MAX_ROUNDTRIP_PAGE_CHECKPOINTS := by
      have h : (file.rowGroups.length + 1024 - 1) / 1024 ≤ checkpointStride file.rowGroups.length :=
        le_max_right _ _
      simp only [MAX_ROUNDTRIP_PAGE_CHECKPOINTS]
      omega
    rw [List.mem_range, Nat.div_lt_iff_lt_mul hpositive, Nat.mul_comm]
    omega
  have hlength := (hnodup.subperm hsub).length_le
  rwa [List.length_map, List.length_range] at hlength

variable (hordered : (file.rows.map RoundTripRow.indexedKey).Pairwise (· < ·))

omit hordered in
/-- The greatest key of ordered rows is the key of one of them, and none goes above it. -/
theorem le_lastKey {rows : List RoundTripRow}
    (h : (rows.map RoundTripRow.indexedKey).Pairwise (· < ·)) {maximum : RowKey}
    (hlast : lastKey rows = some maximum) :
    (∃ row ∈ rows, row.indexedKey = maximum) ∧ ∀ row ∈ rows, row.indexedKey ≤ maximum := by
  refine ⟨List.mem_map.mp (List.mem_of_getLast? hlast), fun row hrow => ?_⟩
  obtain ⟨front, hfront⟩ := List.getLast?_eq_some_iff.mp hlast
  have hmem := List.mem_map_of_mem (f := RoundTripRow.indexedKey) hrow
  rw [hfront] at hmem h
  rcases List.mem_append.mp hmem with hmem | hmem
  · exact ((List.pairwise_append.mp h).2.2 _ hmem maximum (by simp)).le
  · exact (List.mem_singleton.mp hmem).le

omit hordered in
/-- The rows of the first row groups are the first rows. -/
theorem flatten_take_sublist (n : Nat) :
    (file.rowGroups.take n).flatten.Sublist file.rows :=
  (List.take_sublist _ _).flatten

include hordered in
/-- **No row up to a sampled row group goes above its entry.** -/
theorem le_maximum {group : Nat} {maximum : RowKey} (hentry : (group, maximum) ∈ sparseIndex file) :
    ∀ row ∈ (file.rowGroups.take (group + 1)).flatten, row.indexedKey ≤ maximum :=
  (le_lastKey (hordered.sublist ((flatten_take_sublist _).map _)) (mem_sparseIndex.mp hentry).2.2).2

include hordered in
/-- The keys of the entries do not decrease. -/
theorem maxima_sparseIndex : (sparseIndex file).Pairwise fun a b => a.2 ≤ b.2 := by
  refine pairwise_sparseIndex.imp_of_mem fun {a b} ha hb hlt => ?_
  obtain ⟨⟨row, hrow, hkey⟩, _⟩ :=
    le_lastKey (hordered.sublist ((flatten_take_sublist _).map _)) (mem_sparseIndex.mp ha).2.2
  refine hkey ▸ le_maximum hordered hb row ?_
  have hsub : (file.rowGroups.take (a.1 + 1)).Sublist (file.rowGroups.take (b.1 + 1)) :=
    List.take_sublist_take_left (by omega)
  exact hsub.flatten.subset hrow

omit hordered in
/-- **The index of a table with a row ends at the last row group.** -/
theorem getLast?_sparseIndex (hrows : file.rows ≠ []) :
    ∃ maximum, lastKey file.rows = some maximum ∧
      (sparseIndex file).getLast? = some (file.rowGroups.length - 1, maximum) := by
  have hgroups : 0 < file.rowGroups.length := by
    rw [List.length_pos_iff]
    intro hnil
    rw [RoundTripFile.rows, hnil] at hrows
    exact hrows rfl
  obtain ⟨maximum, hmaximum⟩ : ∃ maximum, lastKey file.rows = some maximum := by
    rw [← Option.isSome_iff_exists, lastKey, List.getLast?_isSome]
    simpa using hrows
  refine ⟨maximum, hmaximum, ?_⟩
  have hmem : (file.rowGroups.length - 1, maximum) ∈ sparseIndex file := by
    refine mem_sparseIndex.mpr ⟨by omega, .inr (by omega), ?_⟩
    rwa [Nat.sub_add_cancel hgroups, List.take_length]
  obtain ⟨front, last, hsplit⟩ : ∃ front last, sparseIndex file = front ++ [last] :=
    ⟨_, _, (List.dropLast_append_getLast (List.ne_nil_of_mem hmem)).symm⟩
  have hincrease : (sparseIndex file).Pairwise fun a b => a.1 < b.1 := pairwise_sparseIndex
  have hlastLt : last.1 < file.rowGroups.length :=
    (mem_sparseIndex.mp (hsplit ▸ List.mem_append_right front List.mem_cons_self)).1
  rw [hsplit] at hmem hincrease
  rcases List.mem_append.mp hmem with hfront | hlast
  · have := (List.pairwise_append.mp hincrease).2.2 _ hfront last List.mem_cons_self
    dsimp only at this
    omega
  · rw [hsplit, List.getLast?_concat, List.mem_singleton.mp hlast]

omit hordered in
/-- The last entry is the one of the last row group. -/
theorem covers_sparseIndex :
    ¬ ∃ last ∈ (sparseIndex file).getLast?, last.1 + 1 ≠ file.rowGroups.length := by
  rintro ⟨last, hlast, hne⟩
  obtain ⟨hlt, _, hkey⟩ := mem_sparseIndex.mp (List.mem_of_getLast? hlast)
  have hrows : file.rows ≠ [] := by
    intro hnil
    have hsub : (file.rowGroups.take (last.1 + 1)).flatten.Sublist file.rows :=
      flatten_take_sublist _
    rw [hnil, List.sublist_nil] at hsub
    rw [hsub] at hkey
    cases hkey
  obtain ⟨maximum, _, hend⟩ := getLast?_sparseIndex hrows
  rw [Option.mem_def.mp hlast] at hend
  obtain rfl := Option.some.inj hend
  dsimp only at hne
  omega

end Index

/-! ## Where a page read starts -/

section Seek

variable {file : RoundTripFile}

/-- The loop over entries in order: it starts behind an entry that is not above the cursor. -/
theorem startGroup_eq_ok {groups : Nat} {cursor : RowKey} (index : PageIndex) (start : Nat)
    {previous : Option (Nat × RowKey)}
    (hordered : (previous.toList ++ index).Pairwise fun a b => a.1 < b.1 ∧ a.2 ≤ b.2)
    (hbound : ∀ entry ∈ index, entry.1 < groups) :
    ∃ first, startGroup groups cursor start previous index = .ok first ∧
      (first = start ∨ ∃ entry ∈ index, first = entry.1 + 1 ∧ entry.2 ≤ cursor) := by
  induction index generalizing start previous with
  | nil => exact ⟨start, rfl, .inl rfl⟩
  | cons entry rest ih =>
    obtain ⟨group, maximum⟩ := entry
    have hgroup : group < groups := hbound _ List.mem_cons_self
    have hbefore : ∀ before ∈ previous, before.1 < group ∧ before.2 ≤ maximum := by
      intro before hprevious
      refine (List.pairwise_append.mp hordered).2.2 before ?_ (group, maximum) List.mem_cons_self
      simpa using hprevious
    have hposition : ¬ ((∃ before ∈ previous, group ≤ before.1) ∨ groups ≤ group) := by
      rintro (⟨before, hprevious, hle⟩ | hle)
      · have := (hbefore before hprevious).1
        omega
      · omega
    have hkeys : ¬ ∃ before ∈ previous, maximum < before.2 := by
      rintro ⟨before, hprevious, hlt⟩
      exact absurd (hbefore before hprevious).2 (not_le.mpr hlt)
    rw [startGroup, refuseIf_of_not hposition, ok_bind, refuseIf_of_not hkeys, ok_bind]
    by_cases hle : maximum ≤ cursor
    · rw [if_pos hle]
      have hrest : ((some (group, maximum)).toList ++ rest).Pairwise
          fun a b => a.1 < b.1 ∧ a.2 ≤ b.2 := (List.pairwise_append.mp hordered).2.1
      obtain ⟨first, hfirst, h⟩ :=
        ih (group + 1) hrest fun e he => hbound e (List.mem_cons_of_mem _ he)
      refine ⟨first, hfirst, .inr ?_⟩
      rcases h with rfl | ⟨e, he, h⟩
      · exact ⟨(group, maximum), List.mem_cons_self, rfl, hle⟩
      · exact ⟨e, List.mem_cons_of_mem _ he, h⟩
    · rw [if_neg hle]
      exact ⟨start, rfl, .inl rfl⟩

/-- **What a page read skips is not above the cursor**, with the index of the table or without. -/
theorem rowGroupsAfter_skips (hordered : (file.rows.map RoundTripRow.indexedKey).Pairwise (· < ·))
    {index : Option PageIndex} (hindex : ∀ entries ∈ index, entries = sparseIndex file)
    (cursor : Option RowKey) :
    ∃ first, roundtripRowGroupsAfter index file.rowGroups.length cursor = .ok first ∧
      ∀ row ∈ (file.rowGroups.take first).flatten, ∃ c ∈ cursor, row.indexedKey ≤ c := by
  cases cursor with
  | none => exact ⟨0, rfl, by simp⟩
  | some cursor =>
    cases index with
    | none => exact ⟨0, rfl, by simp⟩
    | some entries =>
      obtain rfl := hindex entries rfl
      have hentries : ((none : Option (Nat × RowKey)).toList ++ sparseIndex file).Pairwise
          fun a b => a.1 < b.1 ∧ a.2 ≤ b.2 := pairwise_sparseIndex.and (maxima_sparseIndex hordered)
      obtain ⟨first, hfirst, h⟩ : ∃ first,
          startGroup file.rowGroups.length cursor 0 none (sparseIndex file) = .ok first ∧
          (first = 0 ∨ ∃ entry ∈ sparseIndex file, first = entry.1 + 1 ∧ entry.2 ≤ cursor) :=
        startGroup_eq_ok _ 0 hentries fun entry hentry => (mem_sparseIndex.mp hentry).1
      refine ⟨first, ?_, fun row hrow => ⟨cursor, rfl, ?_⟩⟩
      · rw [roundtripRowGroupsAfter, refuseIf_of_not covers_sparseIndex, ok_bind]
        exact hfirst
      · rcases h with rfl | ⟨entry, hentry, rfl, hle⟩
        · simp at hrow
        · exact (le_maximum hordered hentry row hrow).trans hle

end Seek

/-! ## Pages -/

section Pages

variable {ρ : Type} [PositionFamily ρ] {manifest : RunManifest} {file : RoundTripFile}
  {records : List ρ} {limit : Nat}

/-- The page of records after a cursor. -/
def pageOf (records : List ρ) (after : Option RoundTripCursor) (limit : Nat) : RoundTripPage ρ :=
  Paging.page cursorAt RoundTripCursor.key records after limit

/-- The rows a page read selects: those above the cursor, one more than the limit when there are
more. -/
theorem selectRows_eq {rows : List RoundTripRow}
    (hdecoded : List.Forall₂ (Decodes manifest) rows records) (cursor : Option RowKey)
    {selected : List ρ} (hselected : selected.length ≤ limit) :
    selectRows manifest cursor limit selected rows
      = .ok ((selected ++ Paging.above recordKey cursor records).take (limit + 1)) := by
  induction hdecoded generalizing selected with
  | nil =>
    rw [selectRows, Paging.above_nil, List.append_nil, List.take_of_length_le (by omega)]
  | @cons row record rows records hrow _ ih =>
    have hsplit : Paging.above recordKey cursor (record :: records)
        = Paging.above recordKey cursor [record] ++ Paging.above recordKey cursor records :=
      @Paging.above_append ρ RowKey _ recordKey cursor [record] records
    rw [selectRows, hsplit, hrow.indexedKey]
    by_cases hbelow : ∃ c ∈ cursor, recordKey record ≤ c
    · have hnone : Paging.above recordKey cursor [record] = [] := by
        obtain ⟨c, hc, hle⟩ := hbelow
        obtain rfl := Option.mem_def.mp hc
        exact Paging.above_eq_nil fun r hr => List.mem_singleton.mp hr ▸ hle
      rw [if_pos hbelow, ih hselected, hnone, List.nil_append]
    · have hone : Paging.above recordKey cursor [record] = [record] := by
        rw [Paging.above, List.filter_eq_self]
        intro r hr
        obtain rfl := List.mem_singleton.mp hr
        simpa using hbelow
      have hdecode : decodeRoundtripRow manifest row
          = .ok (row.recordJson, record, recordKey record) := hrow
      rw [if_neg hbelow, hdecode, ok_bind, hone]
      dsimp only
      rw [refuseIf_of_not (not_not.mpr rfl), ok_bind, ← List.append_assoc]
      have hlength : (selected ++ [record]).length = selected.length + 1 := by simp
      by_cases hfull : limit < (selected ++ [record]).length
      · rw [if_pos hfull, List.take_append_of_le_length (by omega),
          List.take_of_length_le (by omega)]
      · rw [if_neg hfull, ih (by omega)]

/-- The records that remain above the cursor without the rows that are skipped. -/
theorem exists_decoded_drop {first : Nat} {cursor : Option RowKey}
    (hdecoded : List.Forall₂ (Decodes manifest) file.rows records)
    (hskip : ∀ row ∈ (file.rowGroups.take first).flatten, ∃ c ∈ cursor, row.indexedKey ≤ c) :
    ∃ rest, List.Forall₂ (Decodes manifest) (file.rowGroups.drop first).flatten rest ∧
      Paging.above recordKey cursor rest = Paging.above recordKey cursor records := by
  have hrows : file.rows
      = (file.rowGroups.take first).flatten ++ (file.rowGroups.drop first).flatten := by
    rw [← List.flatten_append, List.take_append_drop]
    rfl
  rw [hrows] at hdecoded
  have hfront := (List.forall₂_take_append records _ _ hdecoded.flip).flip
  refine ⟨_, (List.forall₂_drop_append records _ _ hdecoded.flip).flip, ?_⟩
  generalize (file.rowGroups.take first).flatten = skipped at hskip hfront
  have habove : Paging.above recordKey cursor (records.take skipped.length) = [] := by
    rw [Paging.above, List.filter_eq_nil_iff]
    intro record hrecord
    have hkey : recordKey record ∈ skipped.map RoundTripRow.indexedKey := by
      rw [map_indexedKey hfront]
      exact List.mem_map_of_mem hrecord
    obtain ⟨row, hrow, hkey⟩ := List.mem_map.mp hkey
    obtain ⟨c, hc, hle⟩ := hskip row hrow
    simp only [decide_eq_true_eq, not_forall, not_lt]
    exact ⟨c, hc, hkey ▸ hle⟩
  conv_rhs => rw [← List.take_append_drop skipped.length records, Paging.above_append, habove]
  rw [List.nil_append]

variable [CanonicalStreamHash]

/-- **A page read returns the page of the records**, with the index of the table or without. -/
theorem readRoundtripPage_eq (hverified : Verified manifest file records)
    (hlimit : limit ≤ MAX_ROUNDTRIP_PAGE_SIZE) {index : Option PageIndex}
    (hindex : ∀ entries ∈ index, entries = sparseIndex file) (after : Option RoundTripCursor)
    (hpositive : 0 < limit) :
    readRoundtripPage manifest file index after limit = .ok (pageOf records after limit) := by
  have hkeys : (file.rows.map RoundTripRow.indexedKey).Pairwise (· < ·) := by
    rw [map_indexedKey hverified.decoded]
    exact hverified.ordered
  obtain ⟨first, hfirst, hskip⟩ := rowGroupsAfter_skips hkeys hindex (after.map RoundTripCursor.key)
  obtain ⟨rest, hrest, habove⟩ := exists_decoded_drop hverified.decoded hskip
  have hnone : ([] : List ρ).length ≤ limit := Nat.zero_le _
  have hselect := selectRows_eq hrest (after.map RoundTripCursor.key) hnone
  rw [readRoundtripPage, hverified.schema, ok_bind, hfirst, ok_bind, hselect, ok_bind, habove,
    List.nil_append]
  exact selectedPage_eq hlimit (hverified.ordered.sublist (List.filter_sublist.map _))
    (if_pos hpositive).symm

/-- **The scan of a table returns exactly when the table is verified**; it returns the page of the
records and the index of the table. -/
theorem scanRoundtrips_eq_ok (hlimit : limit ≤ MAX_ROUNDTRIP_PAGE_SIZE)
    (after : Option RoundTripCursor) {result : RoundTripPage ρ × PageIndex} :
    scanRoundtrips manifest file after limit = .ok result ↔
      ∃ records, Verified manifest file records ∧
        result = (pageOf records after limit, sparseIndex file) := by
  have hempty : (ScanState.empty : ScanState ρ)
      = scanned (after.map RoundTripCursor.key) limit [] [] [] := by
    simp [ScanState.empty, scanned, selectedRows]
  have hloop : ∀ {state}, file.rowGroups.zipIdx.foldlM
      (scanGroup manifest file.rowGroups.length (after.map RoundTripCursor.key) limit)
      ScanState.empty = .ok state ↔
      ∃ records : List ρ, List.Forall₂ (Decodes manifest) file.rows records ∧
        (∀ record ∈ records, OfFamily manifest record) ∧
        (records.map recordKey).Pairwise (· < ·) ∧
        state
          = scanned (after.map RoundTripCursor.key) limit file.rows records (sparseIndex file) := by
    intro state
    rw [hempty, foldlM_scanGroup List.Pairwise.nil .nil]
    rfl
  have hpage : ∀ {records : List ρ}, (records.map recordKey).Pairwise (· < ·) →
      selectedPage (selectedRows (after.map RoundTripCursor.key) limit records) limit
        = .ok (pageOf records after limit) := by
    intro records hordered
    exact selectedPage_eq hlimit (hordered.sublist (List.filter_sublist.map _)) rfl
  rw [scanRoundtrips]
  constructor
  · intro h
    obtain ⟨hschema, h⟩ := check_bind_eq_ok.mp h
    obtain ⟨state, hstate, h⟩ := bind_eq_ok.mp h
    obtain ⟨records, hdecoded, hfamily, hordered, rfl⟩ := hloop.mp hstate
    obtain ⟨hdigest, h⟩ := check_bind_eq_ok.mp h
    obtain ⟨htotals, h⟩ := check_bind_eq_ok.mp h
    obtain ⟨_, h⟩ := check_bind_eq_ok.mp h
    obtain ⟨page, hselected, h⟩ := bind_eq_ok.mp h
    rw [refuseIf_eq_ok, not_or, not_not, not_not] at hdigest
    refine ⟨records, ⟨hschema, hdecoded, hfamily, hordered, hdigest.2, htotals⟩, ?_⟩
    have hsame := (hpage hordered).symm.trans hselected
    obtain rfl := Except.ok.inj hsame
    exact (Except.ok.inj h).symm
  · rintro ⟨records, hverified, rfl⟩
    have hcount : (file.rows.map (·.recordJson)).length = manifest.roundtrips.rowCount := by
      have hschema := hverified.schema
      rw [requireParquetSchema, check_bind_eq_ok, refuseIf_eq_ok, refuseIf_eq_ok, not_not,
        not_not] at hschema
      rw [List.length_map]
      exact hschema.2
    refine check_bind_eq_ok.mpr ⟨hverified.schema, bind_eq_ok.mpr ⟨_, hloop.mpr
      ⟨records, hverified.decoded, hverified.family, hverified.ordered, rfl⟩, ?_⟩⟩
    refine check_bind_eq_ok.mpr ⟨refuseIf_eq_ok.mpr ?_, ?_⟩
    · rintro (h | h)
      · exact h hcount
      · exact h hverified.digest
    refine check_bind_eq_ok.mpr ⟨hverified.totals, ?_⟩
    refine check_bind_eq_ok.mpr ⟨refuseIf_eq_ok.mpr (Nat.not_lt.mpr length_sparseIndex_le), ?_⟩
    exact bind_eq_ok.mpr ⟨_, hpage hverified.ordered, rfl⟩

end Pages

end Results

end OnchainBacktest
