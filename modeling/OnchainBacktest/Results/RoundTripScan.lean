import OnchainBacktest.Results.RoundTripTable

/-!
# What a scan and a page read return

`Verified` says what the scan checks of a table.  The loops of the scan go through exactly when the
rows decode, are of the family of the run and come in keyset order (`scanRow_eq_ok`,
`scanGroup_eq_ok`, `foldlM_scanGroup`), and the rows they select give the page of the records
(`selectedPage_eq`).
-/

set_option autoImplicit false

namespace OnchainBacktest

namespace Results

open Checked PositionFamily

variable {ρ : Type} [PositionFamily ρ]

/-- A row holds a record of the run, and its columns are those of the record. -/
def Decodes (manifest : RunManifest) (row : RoundTripRow) (record : ρ) : Prop :=
  decodeRoundtripRow manifest row = .ok (row.recordJson, record, recordKey record)

/-- A record of a copy table is one of a copy run. -/
def OfFamily (manifest : RunManifest) (record : ρ) : Prop :=
  ∀ totals, manifest.summary = .copy totals → isCopy record = true

/-- **A verified table.**  Its rows hold the records in keyset order, and their stream and their
totals are the ones its descriptor and its summary were made with. -/
structure Verified [CanonicalStreamHash] (manifest : RunManifest) (file : RoundTripFile)
    (records : List ρ) : Prop where
  schema : requireParquetSchema manifest.roundtrips file = .ok ()
  decoded : List.Forall₂ (Decodes manifest) file.rows records
  family : ∀ record ∈ records, OfFamily manifest record
  ordered : (records.map recordKey).Pairwise (· < ·)
  digest : CanonicalStreamHash.digest (roundtripDomain manifest) (file.rows.map (·.recordJson))
    = manifest.roundtrips.canonicalDigest
  totals : checkTotals manifest records = .ok ()

/-! ## Rows -/

section Rows

variable {manifest : RunManifest} {row : RoundTripRow} {record : ρ}

/-- A row decodes when its text is that of a record of the run with the columns of the row. -/
theorem decodeRoundtripRow_eq_ok {encoded : List UInt8} {key : RowKey} :
    decodeRoundtripRow manifest row = .ok (encoded, record, key) ↔
      decodeRecord manifest.roundtrips.schemaId row.recordJson = .ok record ∧
        (row.targetBoundaryOrdinal = targetBoundary record ∧
          row.roundtripId = (roundtripId record).hex ∧ row.status = status record) ∧
        (networkId record = manifest.networkId ∧
          positionSchemaId record = manifest.positionSchemaId) ∧
        encoded = row.recordJson ∧ key = recordKey record := by
  rw [decodeRoundtripRow, bind_eq_ok]
  constructor
  · rintro ⟨found, hfound, h⟩
    obtain ⟨hcolumns, h⟩ := check_bind_eq_ok.mp h
    obtain ⟨hchain, h⟩ := check_bind_eq_ok.mp h
    cases h
    rw [refuseIf_eq_ok] at hcolumns hchain
    simp only [not_or, not_not] at hcolumns hchain
    exact ⟨hfound, hcolumns, hchain, rfl, rfl⟩
  · rintro ⟨hfound, ⟨hboundary, hid, hstatus⟩, hchain, rfl, rfl⟩
    refine ⟨record, hfound, check_bind_eq_ok.mpr ⟨refuseIf_eq_ok.mpr ?_, ?_⟩⟩
    · simp [hboundary, hid, hstatus]
    · refine check_bind_eq_ok.mpr ⟨refuseIf_eq_ok.mpr ?_, rfl⟩
      simp [hchain]

/-- The key in the columns is the key of the record. -/
theorem Decodes.indexedKey (h : Decodes manifest row record) :
    row.indexedKey = recordKey record := by
  obtain ⟨_, ⟨hboundary, hid, _⟩, _⟩ := decodeRoundtripRow_eq_ok.mp h
  rw [RoundTripRow.indexedKey, hboundary, hid]
  rfl

variable {rows : List RoundTripRow} {records : List ρ}

/-- The keys in the columns of a table are the keys of its records. -/
theorem map_indexedKey (h : List.Forall₂ (Decodes manifest) rows records) :
    rows.map RoundTripRow.indexedKey = records.map recordKey := by
  induction h with
  | nil => rfl
  | cons hrow _ ih => rw [List.map_cons, List.map_cons, hrow.indexedKey, ih]

end Rows

/-! ## The page of the selected rows -/

section Selected

variable {kept : List ρ} {limit : Nat}

/-- A cut of ordered records passes the checks of a page. -/
theorem checkPage_cut (hlimit : limit ≤ MAX_ROUNDTRIP_PAGE_SIZE)
    (hordered : (kept.map recordKey).Pairwise (· < ·)) :
    checkPage (Paging.cut cursorAt limit kept) = .ok () := by
  have hlength : ¬ MAX_ROUNDTRIP_PAGE_SIZE < (kept.take limit).length := by
    rw [List.length_take]
    omega
  have hkeys : ((kept.take limit).map recordKey).Pairwise (· < ·) :=
    hordered.sublist ((List.take_sublist _ _).map _)
  rw [checkPage]
  refine check_bind_eq_ok.mpr ⟨refuseIf_eq_ok.mpr hlength, ?_⟩
  refine check_bind_eq_ok.mpr ⟨refuseIf_eq_ok.mpr (not_not.mpr hkeys), ?_⟩
  cases hnext : (Paging.cut cursorAt limit kept).next with
  | none => rfl
  | some cursor =>
    obtain ⟨_, last, hlast, rfl⟩ := Paging.cut_next_eq_some hnext
    have hitems : (Paging.cut cursorAt limit kept).items.getLast? = some last := hlast
    simp only [hitems]
    exact refuseIf_of_not (not_not.mpr rfl)

/-- **The selected rows give the page of the rows they were selected from.** -/
theorem selectedPage_eq {selected : List ρ} (hlimit : limit ≤ MAX_ROUNDTRIP_PAGE_SIZE)
    (hordered : (kept.map recordKey).Pairwise (· < ·))
    (hselected : selected = if 0 < limit then kept.take (limit + 1) else []) :
    selectedPage selected limit = .ok (Paging.cut cursorAt limit kept) := by
  have hcut : Paging.cut cursorAt limit selected = Paging.cut cursorAt limit kept := by
    rw [hselected]
    split
    · exact Paging.cut_take limit
    · obtain rfl : limit = 0 := by omega
      simp [Paging.cut]
  have hpage : (⟨selected.take limit,
      if limit < selected.length then (selected.take limit).getLast?.map cursorAt else none⟩ :
        RoundTripPage ρ) = Paging.cut cursorAt limit kept := hcut
  rw [selectedPage, hpage, checkPage_cut hlimit hordered]
  rfl

end Selected

/-! ## The loops of the scan -/

section Scan

variable {manifest : RunManifest} {cursor : Option RowKey} {limit : Nat}

/-- The rows taken for a page of these records: one more than the limit when there are more. -/
def selectedRows (cursor : Option RowKey) (limit : Nat) (records : List ρ) : List ρ :=
  if 0 < limit then (Paging.above recordKey cursor records).take (limit + 1) else []

/-- The state of a scan that has taken rows which hold these records. -/
def scanned (cursor : Option RowKey) (limit : Nat) (rows : List RoundTripRow) (records : List ρ)
    (checkpoints : PageIndex) : ScanState ρ where
  encoded := rows.map (·.recordJson)
  records := records
  previous := (records.map recordKey).getLast?
  selected := selectedRows cursor limit records
  checkpoints := checkpoints

/-- One more row is taken for the page when it lies above the cursor and the page lacks it. -/
theorem selectedRows_concat (records : List ρ) (record : ρ) :
    selectedRows cursor limit (records ++ [record])
      = if (∃ c ∈ cursor, recordKey record ≤ c) ∨
          ¬ (0 < limit ∧ (selectedRows cursor limit records).length ≤ limit)
        then selectedRows cursor limit records
        else selectedRows cursor limit records ++ [record] := by
  by_cases hpositive : 0 < limit
  · have hselected : ∀ l : List ρ, selectedRows cursor limit l
        = (Paging.above recordKey cursor l).take (limit + 1) := fun l => if_pos hpositive
    rw [hselected (records ++ [record]), Paging.above_append]
    by_cases hbelow : ∃ c ∈ cursor, recordKey record ≤ c
    · have hnone : Paging.above recordKey cursor [record] = [] := by
        obtain ⟨c, hc, hle⟩ := hbelow
        obtain rfl := Option.mem_def.mp hc
        exact Paging.above_eq_nil fun r hr => List.mem_singleton.mp hr ▸ hle
      rw [if_pos (.inl hbelow), hnone, List.append_nil, hselected]
    · have hone : Paging.above recordKey cursor [record] = [record] := by
        rw [Paging.above, List.filter_eq_self]
        intro r hr
        obtain rfl := List.mem_singleton.mp hr
        simpa using hbelow
      have hlength : (selectedRows cursor limit records).length
          = min (limit + 1) (Paging.above recordKey cursor records).length := by
        rw [hselected, List.length_take]
      by_cases hroom : (Paging.above recordKey cursor records).length ≤ limit
      · have hlack : ¬ ((∃ c ∈ cursor, recordKey record ≤ c) ∨
            ¬ (0 < limit ∧ (selectedRows cursor limit records).length ≤ limit)) := by
          rintro (h | h)
          · exact hbelow h
          · omega
        have hshort : (Paging.above recordKey cursor records ++ [record]).length ≤ limit + 1 := by
          simpa using hroom
        rw [if_neg hlack, hone, hselected, List.take_of_length_le hshort,
          List.take_of_length_le (Nat.le_succ_of_le hroom)]
      · rw [if_pos (.inr (by omega)), hselected, List.take_append_of_le_length (by omega)]
  · rw [if_pos (.inr fun h => hpositive h.1), selectedRows, selectedRows, if_neg hpositive,
      if_neg hpositive]

/-- One more row is taken. -/
theorem take_scanned {rows : List RoundTripRow} {records : List ρ} {checkpoints : PageIndex}
    (row : RoundTripRow) (record : ρ) :
    (scanned cursor limit rows records checkpoints).take cursor limit row.recordJson record
        (recordKey record)
      = scanned cursor limit (rows ++ [row]) (records ++ [record]) checkpoints := by
  rw [scanned, scanned, selectedRows_concat, ScanState.take]
  simp only [List.map_append, List.map_cons, List.map_nil, List.getLast?_concat]

theorem requireFamily_eq_ok {record : ρ} :
    requireFamily manifest record = .ok () ↔ OfFamily manifest record := by
  rw [requireFamily, OfFamily]
  cases manifest.summary <;> simp

/-- **One row of the scan.**  A row is taken when it decodes, is of the family of the run and goes
above the last one. -/
theorem scanRow_eq_ok {rows : List RoundTripRow} {records : List ρ} {checkpoints : PageIndex}
    {row : RoundTripRow} {state : ScanState ρ} :
    scanRow manifest cursor limit (scanned cursor limit rows records checkpoints) row = .ok state ↔
      ∃ record, Decodes manifest row record ∧ OfFamily manifest record ∧
        (∀ before ∈ (records.map recordKey).getLast?, before < recordKey record) ∧
        state = scanned cursor limit (rows ++ [row]) (records ++ [record]) checkpoints := by
  rw [scanRow, bind_eq_ok]
  constructor
  · rintro ⟨⟨encoded, record, key⟩, hdecode, h⟩
    obtain ⟨_, _, _, rfl, rfl⟩ := decodeRoundtripRow_eq_ok.mp hdecode
    obtain ⟨hmember, h⟩ := check_bind_eq_ok.mp h
    obtain ⟨horder, h⟩ := check_bind_eq_ok.mp h
    rw [refuseIf_eq_ok] at horder
    refine ⟨record, hdecode, requireFamily_eq_ok.mp hmember, ?_, ?_⟩
    · intro before hbefore
      exact not_le.mp fun hle => horder ⟨before, hbefore, hle⟩
    · rw [← take_scanned]
      exact (Except.ok.inj h).symm
  · rintro ⟨record, hdecode, hmember, horder, rfl⟩
    refine ⟨_, hdecode, check_bind_eq_ok.mpr ⟨requireFamily_eq_ok.mpr hmember, ?_⟩⟩
    refine check_bind_eq_ok.mpr ⟨refuseIf_eq_ok.mpr ?_, by rw [← take_scanned]⟩
    rintro ⟨before, hbefore, hle⟩
    exact absurd hle (not_le.mpr (horder before hbefore))

/-- **The rows of a row group.** -/
theorem foldlM_scanRow {records : List ρ} {checkpoints : PageIndex} {state : ScanState ρ}
    (hordered : (records.map recordKey).Pairwise (· < ·)) {before : List RoundTripRow}
    (rows : List RoundTripRow) :
    rows.foldlM (scanRow manifest cursor limit) (scanned cursor limit before records checkpoints)
        = .ok state ↔
      ∃ more, List.Forall₂ (Decodes manifest) rows more ∧
        (∀ record ∈ more, OfFamily manifest record) ∧
        ((records ++ more).map recordKey).Pairwise (· < ·) ∧
        state = scanned cursor limit (before ++ rows) (records ++ more) checkpoints := by
  induction rows generalizing records before with
  | nil =>
    rw [List.foldlM_nil]
    constructor
    · intro h
      obtain rfl := Except.ok.inj h
      exact ⟨[], .nil, by simp, by simpa using hordered, by simp⟩
    · rintro ⟨more, hdecoded, _, _, rfl⟩
      cases hdecoded
      simp only [List.append_nil]
      rfl
  | cons row rows ih =>
    have hconcat : ∀ record : ρ, (∀ k ∈ (records.map recordKey).getLast?, k < recordKey record) ↔
        ((records ++ [record]).map recordKey).Pairwise (· < ·) := by
      intro record
      rw [List.map_append, List.pairwise_append]
      constructor
      · intro h
        refine ⟨hordered, by simp, fun k hk l hl => ?_⟩
        obtain rfl := List.mem_singleton.mp hl
        obtain ⟨front, last, hsplit⟩ : ∃ front last, records.map recordKey = front ++ [last] :=
          ⟨_, _, (List.dropLast_append_getLast (List.ne_nil_of_mem hk)).symm⟩
        rw [hsplit] at hk h hordered
        have hlast := h last (by simp)
        rcases List.mem_append.mp hk with hk | hk
        · exact ((List.pairwise_append.mp hordered).2.2 k hk last (by simp)).trans hlast
        · exact List.mem_singleton.mp hk ▸ hlast
      · rintro ⟨_, _, h⟩ k hk
        exact h k (List.mem_of_getLast? hk) _ (by simp)
    rw [List.foldlM_cons, bind_eq_ok]
    constructor
    · rintro ⟨next, hrow, hrest⟩
      obtain ⟨record, hdecode, hmember, habove, rfl⟩ := scanRow_eq_ok.mp hrow
      obtain ⟨more, hdecoded, hfamily, hmore, rfl⟩ := (ih ((hconcat record).mp habove)).mp hrest
      refine ⟨record :: more, .cons hdecode hdecoded, List.forall_mem_cons.mpr ⟨hmember, hfamily⟩,
        ?_, by simp⟩
      simpa using hmore
    · rintro ⟨more, hdecoded, hfamily, hmore, rfl⟩
      obtain ⟨record, more, hdecode, hrest, rfl⟩ := List.forall₂_cons_left_iff.mp hdecoded
      obtain ⟨hmember, hfamily⟩ := List.forall_mem_cons.mp hfamily
      rw [List.append_cons records record more] at hmore
      have hfirst : ((records ++ [record]).map recordKey).Pairwise (· < ·) := by
        rw [List.map_append] at hmore
        exact (List.pairwise_append.mp hmore).1
      refine ⟨_, scanRow_eq_ok.mpr ⟨record, hdecode, hmember, (hconcat record).mpr hfirst, rfl⟩, ?_⟩
      refine (ih hfirst).mpr ⟨more, hrest, hfamily, hmore, ?_⟩
      simp

/-! ## The sampled row groups -/

/-- The greatest key of rows in keyset order. -/
def lastKey (rows : List RoundTripRow) : Option RowKey :=
  (rows.map RoundTripRow.indexedKey).getLast?

/-- The entry of a row group that ends these rows. -/
def checkpoint (groups group : Nat) (rows : List RoundTripRow) : PageIndex :=
  match lastKey rows with
  | none => []
  | some last => if sampled groups group then [(group, last)] else []

/-- The entries of row groups that come after other rows, numbered from a number on. -/
def checkpointsFrom (groups : Nat) :
    List RoundTripRow → List (List RoundTripRow) → Nat → PageIndex
  | _, [], _ => []
  | before, rows :: rest, group =>
    checkpoint groups group (before ++ rows)
      ++ checkpointsFrom groups (before ++ rows) rest (group + 1)

/-- The index of a table. -/
def sparseIndex (file : RoundTripFile) : PageIndex :=
  checkpointsFrom file.rowGroups.length [] file.rowGroups 0

/-- The end of a row group adds its entry. -/
theorem endGroup_scanned {groups group : Nat} {rows : List RoundTripRow} {records : List ρ}
    {checkpoints : PageIndex} (hdecoded : List.Forall₂ (Decodes manifest) rows records) :
    (scanned cursor limit rows records checkpoints).endGroup groups group
      = scanned cursor limit rows records (checkpoints ++ checkpoint groups group rows) := by
  have hkey : lastKey rows = (records.map recordKey).getLast? := by
    rw [lastKey, map_indexedKey hdecoded]
  rw [checkpoint, hkey]
  cases hlast : (records.map recordKey).getLast? with
  | none => simp [ScanState.endGroup, scanned, hlast]
  | some last =>
    by_cases hsampled : sampled groups group
    · simp [ScanState.endGroup, scanned, hlast, hsampled]
    · simp [ScanState.endGroup, scanned, hlast, hsampled]

/-- **One row group of the scan.** -/
theorem scanGroup_eq_ok {groups group : Nat} {before rows : List RoundTripRow} {records : List ρ}
    {checkpoints : PageIndex} {state : ScanState ρ}
    (hordered : (records.map recordKey).Pairwise (· < ·))
    (hbefore : List.Forall₂ (Decodes manifest) before records) :
    scanGroup manifest groups cursor limit (scanned cursor limit before records checkpoints)
        (rows, group) = .ok state ↔
      ∃ more, List.Forall₂ (Decodes manifest) rows more ∧
        (∀ record ∈ more, OfFamily manifest record) ∧
        ((records ++ more).map recordKey).Pairwise (· < ·) ∧
        state = scanned cursor limit (before ++ rows) (records ++ more)
          (checkpoints ++ checkpoint groups group (before ++ rows)) := by
  rw [scanGroup, bind_eq_ok]
  constructor
  · rintro ⟨middle, hrows, h⟩
    obtain ⟨more, hdecoded, hfamily, hmore, rfl⟩ := (foldlM_scanRow hordered rows).mp hrows
    refine ⟨more, hdecoded, hfamily, hmore, ?_⟩
    rw [← endGroup_scanned (List.rel_append hbefore hdecoded)]
    exact (Except.ok.inj h).symm
  · rintro ⟨more, hdecoded, hfamily, hmore, rfl⟩
    refine ⟨_, (foldlM_scanRow hordered rows).mpr ⟨more, hdecoded, hfamily, hmore, rfl⟩, ?_⟩
    exact congrArg Except.ok (endGroup_scanned (List.rel_append hbefore hdecoded))

/-- **The row groups of a table.** -/
theorem foldlM_scanGroup {groups : Nat} {records : List ρ} {checkpoints : PageIndex}
    {state : ScanState ρ} (hordered : (records.map recordKey).Pairwise (· < ·))
    {before : List RoundTripRow} (hbefore : List.Forall₂ (Decodes manifest) before records)
    (rest : List (List RoundTripRow)) (group : Nat) :
    (rest.zipIdx group).foldlM (scanGroup manifest groups cursor limit)
        (scanned cursor limit before records checkpoints) = .ok state ↔
      ∃ more, List.Forall₂ (Decodes manifest) rest.flatten more ∧
        (∀ record ∈ more, OfFamily manifest record) ∧
        ((records ++ more).map recordKey).Pairwise (· < ·) ∧
        state = scanned cursor limit (before ++ rest.flatten) (records ++ more)
          (checkpoints ++ checkpointsFrom groups before rest group) := by
  induction rest generalizing records checkpoints before group with
  | nil =>
    rw [List.zipIdx_nil, List.foldlM_nil]
    constructor
    · intro h
      obtain rfl := Except.ok.inj h
      exact ⟨[], .nil, by simp, by simpa using hordered, by simp [checkpointsFrom]⟩
    · rintro ⟨more, hdecoded, _, _, rfl⟩
      cases hdecoded
      simp only [List.flatten_nil, List.append_nil, checkpointsFrom]
      rfl
  | cons rows rest ih =>
    rw [List.zipIdx_cons, List.foldlM_cons, bind_eq_ok]
    constructor
    · rintro ⟨middle, hfirst, hrest⟩
      obtain ⟨first, hdecoded, hfamily, hfirstOrdered, rfl⟩ :=
        (scanGroup_eq_ok hordered hbefore).mp hfirst
      obtain ⟨more, hmoreDecoded, hmoreFamily, hmore, rfl⟩ :=
        (ih hfirstOrdered (List.rel_append hbefore hdecoded) (group + 1)).mp hrest
      refine ⟨first ++ more, ?_, ?_, ?_, ?_⟩
      · rw [List.flatten_cons]
        exact List.rel_append hdecoded hmoreDecoded
      · intro record hrecord
        exact (List.mem_append.mp hrecord).elim (hfamily record) (hmoreFamily record)
      · rwa [← List.append_assoc]
      · simp [checkpointsFrom]
    · rintro ⟨all, hdecoded, hfamily, hordered', rfl⟩
      rw [List.flatten_cons] at hdecoded
      obtain ⟨first, more, hfirst, hmore, rfl⟩ : ∃ first more,
          List.Forall₂ (Decodes manifest) rows first ∧
          List.Forall₂ (Decodes manifest) rest.flatten more ∧ all = first ++ more :=
        ⟨_, _, (List.forall₂_take_append all rows rest.flatten hdecoded.flip).flip,
          (List.forall₂_drop_append all rows rest.flatten hdecoded.flip).flip,
          (List.take_append_drop _ _).symm⟩
      rw [← List.append_assoc] at hordered'
      have hfirstOrdered : ((records ++ first).map recordKey).Pairwise (· < ·) := by
        rw [List.map_append] at hordered'
        exact (List.pairwise_append.mp hordered').1
      refine ⟨_, (scanGroup_eq_ok hordered hbefore).mpr ⟨first, hfirst,
        fun r hr => hfamily r (List.mem_append_left _ hr), hfirstOrdered, rfl⟩, ?_⟩
      refine (ih hfirstOrdered (List.rel_append hbefore hfirst) (group + 1)).mpr
        ⟨more, hmore, fun r hr => hfamily r (List.mem_append_right _ hr), hordered', ?_⟩
      simp [checkpointsFrom]

end Scan

end Results

end OnchainBacktest
