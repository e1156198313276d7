import OnchainBacktest.Artifacts.RebuiltTables

/-!
# The incremental index against the rebuilt one

For a set of artifacts that a rebuild accepts, every sequence of calls over that set returns, and
keeps the projection of the runs complete and free of quarantined ones.  Its tables are those of the
rebuild but for the mapping of the build keys: there the calls keep the artifact that came first,
and the rebuild, like the check at a clean shutdown, takes the one with the smallest identity.  So
the mappings agree, and the shutdown is recorded as clean, exactly when the first artifact of every
build key to be indexed is the smallest.
-/

set_option autoImplicit false

namespace OnchainBacktest

namespace Artifacts

open Checked Contest

variable {repository : ArtifactRepository} {calls calls' done : List IndexCall} {call : IndexCall}
  {artifacts : List CommittedArtifact} {catalog catalog' rebuilt : Catalog}

/-! ## A sequence of calls -/

theorem describes_empty : Describes repository [] Catalog.empty := by
  refine ⟨fun _ => rfl, fun _ => rfl, fun _ _ => ?_, fun _ => rfl, fun _ => rfl⟩
  simp [Catalog.empty, bids]

/-- A call for an artifact that can be indexed returns. -/
theorem indexCommitted_describes (h : Describes repository calls catalog)
    (hcomplete : catalog.runIndexState.status = .complete)
    (hall : ∀ call ∈ calls, Indexable repository call.artifact)
    (hcall : Indexable repository call.artifact) :
    ∃ catalog' collision,
      indexCommitted repository catalog call.artifact call.nowNs = .ok (catalog', collision) ∧
      Describes repository (calls ++ [call]) catalog' ∧
      catalog'.runIndexState.status = .complete ∧
      catalog'.reconciliationState = catalog.reconciliationState := by
  obtain ⟨verified, hverified⟩ := hcall.verifies
  obtain ⟨entry, hentry⟩ := hcall.projects
  have hsame := (verifyFilesystem_eq_ok hverified).2
  obtain ⟨catalog', collision, hwrite, hrest⟩ :=
    writeVerified_describes h hcomplete hall hcall hentry
  refine ⟨catalog', collision, ?_, hrest⟩
  rw [indexCommitted, hverified, ok_bind, entryOf_congr hsame, hentry, ok_bind,
    writeVerified_congr call.nowNs hsame, hwrite]

/-- **A sequence of calls.**  Calls for artifacts that can be indexed all return, and the tables
after them are described by the calls. -/
theorem indexAll_describes (h : Describes repository done catalog)
    (hcomplete : catalog.runIndexState.status = .complete)
    (hall : ∀ call ∈ done ++ calls, Indexable repository call.artifact) :
    ∃ catalog', indexAll repository catalog calls = .ok catalog' ∧
      Describes repository (done ++ calls) catalog' ∧
      catalog'.runIndexState.status = .complete ∧
      catalog'.reconciliationState = catalog.reconciliationState := by
  induction calls generalizing done catalog with
  | nil => exact ⟨catalog, rfl, (List.append_nil done).symm ▸ h, hcomplete, rfl⟩
  | cons call rest ih =>
    obtain ⟨next, collision, hcall, hnext, hcomplete', hstate⟩ :=
      indexCommitted_describes h hcomplete (fun c hc => hall c (List.mem_append_left _ hc))
        (hall call (by simp))
    have happend : done ++ call :: rest = done ++ [call] ++ rest := by simp
    obtain ⟨catalog', hrest, hdescribes, hcomplete'', hstate'⟩ :=
      ih hnext hcomplete' (happend ▸ hall)
    refine ⟨catalog', ?_, happend ▸ hdescribes, hcomplete'', hstate'.trans hstate⟩
    rw [indexAll, List.foldlM_cons, hcall]
    exact hrest

/-! ## What holds after every call -/

/-- No two verified artifacts have one build key. -/
theorem Describes.verified_unique (h : Describes repository calls catalog) {id id' : ArtifactId}
    {row row' : ArtifactRow} (hid : catalog.artifactIndex.get? id = some row)
    (hid' : catalog.artifactIndex.get? id' = some row') (hverified : row.status = .verified)
    (hkey : row.buildKey = row'.buildKey) : id = id' := by
  obtain ⟨first, hfirst, rfl⟩ := Option.map_eq_some_iff.mp ((h.artifacts id).symm.trans hid)
  obtain ⟨first', hfirst', rfl⟩ := Option.map_eq_some_iff.mp ((h.artifacts id').symm.trans hid')
  obtain ⟨hmem, rfl⟩ := firstCall_mem hfirst
  obtain ⟨hmem', rfl⟩ := firstCall_mem hfirst'
  have hfree : ¬ Contested (bids calls) first.buildKey := by
    intro hc
    rw [rowOf] at hverified
    simp [hc] at hverified
  have hkey' : first.buildKey = first'.buildKey := hkey
  exact eq_of_not_contested hfree (bid_mem hmem) (hkey' ▸ bid_mem hmem')

/-- A run on a page is a verified artifact. -/
theorem listRunEntries_verified {logicalRunId : Option ContentDigest} {limit offset : Nat}
    {after : Option RunListCursor} {page : List RunIndexEntry}
    (h : listRunEntries catalog logicalRunId limit offset after = .ok page)
    {entry : RunIndexEntry} (hmem : entry ∈ page) :
    ∃ row, catalog.artifactIndex.get? entry.artifactId = some row ∧ row.status = .verified := by
  obtain ⟨-, h⟩ := check_bind_eq_ok.mp h
  obtain ⟨-, h⟩ := check_bind_eq_ok.mp h
  obtain ⟨-, h⟩ := check_bind_eq_ok.mp h
  obtain ⟨-, h⟩ := check_bind_eq_ok.mp h
  obtain ⟨run, hrun, hentry⟩ := exists_of_mem_mapM h hmem
  have hid : entry.artifactId = run.artifactId := by
    obtain ⟨-, hentry⟩ := check_bind_eq_ok.mp (mapError_eq_ok.mp hentry)
    cases hentry
    rfl
  have hlisted := List.mem_of_mem_drop (List.mem_of_mem_take hrun)
  rw [List.mem_insertionSort] at hlisted
  obtain ⟨listed, hfiltered, hcolumns⟩ := List.mem_filterMap.mp (List.mem_filter.mp hlisted).1
  obtain ⟨columns, -, rfl⟩ := Option.map_eq_some_iff.mp hcolumns
  have hbehind : runListed catalog listed.1 listed.2 := by
    simpa using (List.mem_filter.mp hfiltered).2
  obtain ⟨row, hrow, -, hstatus, -⟩ := hbehind
  exact ⟨row, hid ▸ hrow, hstatus⟩

/-! ## Two descriptions of one set -/

/-- A row without its times. -/
def ArtifactRow.untimed (row : ArtifactRow) :
    ArtifactKind × DigestText × DigestText × ArtifactCatalogStatus × Option String :=
  (row.kind, row.manifestDigest, row.buildKey, row.status, row.statusReason)

/-- The tables are the same, timestamps aside, but for what the build keys resolve to. -/
structure SameTables (catalog rebuilt : Catalog) : Prop where
  artifacts : ∀ artifactId, (catalog.artifactIndex.get? artifactId).map ArtifactRow.untimed =
    (rebuilt.artifactIndex.get? artifactId).map ArtifactRow.untimed
  conflicts : ∀ key, (catalog.artifactBuildConflicts.get? key).isSome =
    (rebuilt.artifactBuildConflicts.get? key).isSome
  lineage : ∀ edge, catalog.lineageEdges.get? edge = rebuilt.lineageEdges.get? edge
  runs : ∀ artifactId, catalog.runIndex.get? artifactId = rebuilt.runIndex.get? artifactId

/-- The build keys resolve to the same, timestamps aside. -/
def SameMapping (catalog rebuilt : Catalog) : Prop :=
  ∀ buildKey, (catalog.buildKeyMapping.get? buildKey).map (fun row => (row.artifactId, row.status)) =
    (rebuilt.buildKeyMapping.get? buildKey).map fun row => (row.artifactId, row.status)

theorem Describes.edge (h : Describes repository calls catalog) {edge : ArtifactId × ArtifactId}
    {n : Nat} : catalog.lineageEdges.get? edge = some n ↔
      (edge, n) ∈ ((firstCall calls edge.1).map fun call => edgesOf call.artifact).getD [] := by
  rw [Dict.get?_eq_some_iff, ← h.lineage, List.mem_filter]
  simp

section Comparison

variable (h : Describes repository calls catalog) (h' : Describes repository calls' rebuilt)
  (hall : ∀ call ∈ calls, Indexable repository call.artifact)
  (hall' : ∀ call ∈ calls', Indexable repository call.artifact)
  (hbids : ∀ bid, bid ∈ bids calls ↔ bid ∈ bids calls')

include hall hall' hbids

/-- The first calls for an artifact are for one descriptor. -/
theorem firstCall_same (artifactId : ArtifactId) :
    firstCall calls artifactId = none ∧ firstCall calls' artifactId = none ∨
      ∃ first first', firstCall calls artifactId = some first ∧
        firstCall calls' artifactId = some first' ∧
        sameDescriptor first.artifact first'.artifact := by
  cases hfirst : firstCall calls artifactId with
  | none =>
    refine .inl ⟨rfl, firstCall_eq_none.mpr fun call hcall hid => ?_⟩
    obtain ⟨call', hcall', -, hid'⟩ := mem_bids.mp ((hbids _).mpr (bid_mem hcall))
    exact firstCall_eq_none.mp hfirst call' hcall' (hid'.trans hid)
  | some first =>
    obtain ⟨hmem, hid⟩ := firstCall_mem hfirst
    obtain ⟨call', hcall', -, hid'⟩ := mem_bids.mp ((hbids _).mp (bid_mem hmem))
    obtain ⟨first', hfirst'⟩ := exists_firstCall hcall' (hid'.trans hid)
    obtain ⟨hmem', hid''⟩ := firstCall_mem hfirst'
    exact .inr ⟨first, first', rfl, hfirst',
      (hall first hmem).same (hall' first' hmem') (hid.trans hid''.symm)⟩

include h h'

/-- Descriptions of calls that ask for the same are the same tables. -/
theorem sameTables_of_describes : SameTables catalog rebuilt := by
  have hcontested : ∀ buildKey, Contested (bids calls) buildKey ↔ Contested (bids calls') buildKey :=
    fun _ => contested_congr hbids
  refine ⟨?_, ?_, ?_, ?_⟩
  · intro artifactId
    rw [h.artifacts, h'.artifacts]
    rcases firstCall_same hall hall' hbids artifactId with ⟨hn, hn'⟩ | ⟨f, f', hf, hf', hsame⟩
    · rw [hn, hn']
      rfl
    · obtain ⟨-, hkind, hmanifest, hkey, -⟩ := hsame
      have hkey' : f.buildKey = f'.buildKey := hkey
      rw [hf, hf', Option.map_some, Option.map_some, Option.map_some, Option.map_some,
        Option.some.injEq]
      simp only [ArtifactRow.untimed, rowOf, hkind, hmanifest, hkey', hcontested]
  · intro key
    obtain ⟨⟨buildKey, artifactId⟩, rfl⟩ := toLex.surjective key
    rw [Bool.eq_iff_iff, h.conflicts, h'.conflicts, hcontested, hbids]
  · intro edge
    refine Option.ext fun n => ?_
    rw [h.edge, h'.edge]
    rcases firstCall_same hall hall' hbids edge.1 with ⟨hn, hn'⟩ | ⟨f, f', hf, hf', hsame⟩
    · rw [hn, hn']
    · rw [hf, hf', Option.map_some, Option.map_some, edgesOf, edgesOf, hsame.1, hsame.2.2.2.2]
  · intro artifactId
    rw [h.runs, h'.runs]
    rcases firstCall_same hall hall' hbids artifactId with ⟨hn, hn'⟩ | ⟨f, f', hf, hf', hsame⟩
    · rw [hn, hn']
      rfl
    · have hkey : f.buildKey = f'.buildKey := hsame.2.2.2.1
      rw [hf, hf', Option.bind_some, Option.bind_some, runOf_congr hsame]
      simp only [hsame.2.1, hkey, hcontested]

omit hall hall' in
/-- The build keys resolve to the same exactly when their owners are the same. -/
theorem sameMapping_iff :
    SameMapping catalog rebuilt ↔ ∀ buildKey, owner (bids calls) buildKey =
      owner (bids calls') buildKey := by
  refine forall_congr' fun buildKey => ?_
  rw [h.mappings, h'.mappings]
  simp only [contested_congr hbids]
  constructor
  · intro he
    have hids := congrArg (Option.map Prod.fst) he
    simpa [Option.map_map, Function.comp_def] using hids
  · intro he
    rw [he]

end Comparison

/-! ## The check at a clean shutdown -/

theorem Describes.mem_rowGroup (h : Describes repository calls catalog)
    (hall : ∀ call ∈ calls, Indexable repository call.artifact) {buildKey : DigestText}
    {artifactId : ArtifactId} :
    artifactId ∈ rowGroup catalog buildKey ↔ (buildKey, artifactId) ∈ bids calls := by
  rw [rowGroup, List.mem_map]
  constructor
  · rintro ⟨⟨id, row⟩, hmem, rfl⟩
    obtain ⟨hrow, hkey⟩ := List.mem_filter.mp hmem
    have hget := Table.mem_rows.mp hrow
    obtain ⟨first, hfirst, rfl⟩ := Option.map_eq_some_iff.mp ((h.artifacts id).symm.trans hget)
    obtain ⟨hcall, rfl⟩ := firstCall_mem hfirst
    have hkey : first.buildKey = buildKey := of_decide_eq_true hkey
    exact hkey ▸ bid_mem hcall
  · intro hbid
    obtain ⟨call, hcall, rfl, rfl⟩ := mem_bids.mp hbid
    obtain ⟨first, hfirst⟩ := exists_firstCall hcall rfl
    obtain ⟨hmem, hid⟩ := firstCall_mem hfirst
    have hkey : first.buildKey = call.buildKey :=
      ((hall first hmem).same (hall call hcall) hid).2.2.2.1
    refine ⟨(call.artifactId, _), List.mem_filter.mpr ⟨Table.mem_rows.mpr (h.row hfirst), ?_⟩, rfl⟩
    simpa [rowOf] using hkey

theorem rowGroup_sorted (catalog : Catalog) (buildKey : DigestText) :
    (rowGroup catalog buildKey).Pairwise (· < ·) := by
  have hkeys : ((Table.rows catalog.artifactIndex).map Prod.fst).Pairwise (· < ·) := by
    rw [Table.rows_map_eq (g := id) fun _ _ _ => rfl, List.map_id]
    exact Table.keys_sorted
  exact hkeys.sublist (List.filter_sublist.map _)

section Shutdown

variable (h : Describes repository calls catalog)
  (hall : ∀ call ∈ calls, Indexable repository call.artifact)

include h hall

/-- A build key has more than one row when it is contested. -/
theorem Describes.contested_rows {buildKey : DigestText} :
    1 < (rowGroup catalog buildKey).length ↔ Contested (bids calls) buildKey :=
  (contested_iff_length ((rowGroup_sorted catalog buildKey).imp ne_of_lt)
    fun _ => h.mem_rowGroup hall).symm

/-- The statuses and the reasons are the expected ones. -/
theorem Describes.statuses_expected :
    ∀ row ∈ Table.rows catalog.artifactIndex,
      (row.2.status, row.2.statusReason) = expectedStatus catalog row.2.buildKey := by
  rintro ⟨id, row⟩ hrow
  have hget := Table.mem_rows.mp hrow
  obtain ⟨first, hfirst, rfl⟩ := Option.map_eq_some_iff.mp ((h.artifacts id).symm.trans hget)
  rw [expectedStatus]
  simp only [h.contested_rows hall, rowOf]
  by_cases hc : Contested (bids calls) first.buildKey
  · simp [hc]
  · simp [hc]

theorem Describes.mem_rowKeys {buildKey : DigestText} :
    buildKey ∈ rowKeys catalog ↔ ∃ artifactId, (buildKey, artifactId) ∈ bids calls := by
  rw [rowKeys, List.mem_insertionSort, List.mem_dedup, List.mem_map]
  constructor
  · rintro ⟨⟨id, row⟩, hrow, rfl⟩
    exact ⟨id, (h.mem_rowGroup hall).mp
      (List.mem_map.mpr ⟨(id, row), List.mem_filter.mpr ⟨hrow, by simp⟩, rfl⟩)⟩
  · rintro ⟨id, hbid⟩
    obtain ⟨row, hrow, -⟩ := List.mem_map.mp ((h.mem_rowGroup hall).mpr hbid)
    obtain ⟨hrow, hkey⟩ := List.mem_filter.mp hrow
    exact ⟨row, hrow, by simpa using hkey⟩

omit h hall in
theorem rowKeys_sorted (catalog : Catalog) : (rowKeys catalog).Pairwise (· < ·) := by
  have hle : (rowKeys catalog).Pairwise (· ≤ ·) := List.pairwise_insertionSort _ _
  have hne : (rowKeys catalog).Nodup :=
    (List.perm_insertionSort _ _).nodup_iff.mpr (List.nodup_dedup _)
  exact (hle.and hne).imp fun h => lt_of_le_of_ne h.1 h.2

/-- The conflicts are the expected ones. -/
theorem Describes.conflicts_expected :
    Table.keys catalog.artifactBuildConflicts =
      (rowKeys catalog).flatMap (expectedConflicts catalog) := by
  refine Table.eq_of_sorted Table.keys_sorted ?_ ?_
  · rw [List.pairwise_flatMap]
    refine ⟨fun buildKey _ => ?_, (rowKeys_sorted catalog).imp ?_⟩
    · rw [expectedConflicts]
      split
      · rw [List.pairwise_map]
        refine (rowGroup_sorted catalog buildKey).imp ?_
        intro id id' hlt
        exact Prod.Lex.toLex_lt_toLex.mpr (.inr ⟨rfl, hlt⟩)
      · exact List.Pairwise.nil
    · intro buildKey buildKey' hlt key hkey key' hkey'
      rw [expectedConflicts] at hkey hkey'
      split at hkey <;> split at hkey' <;> try simp at hkey hkey'
      obtain ⟨id, -, rfl⟩ := hkey
      obtain ⟨id', -, rfl⟩ := hkey'
      exact Prod.Lex.toLex_lt_toLex.mpr (.inl hlt)
  · intro key
    obtain ⟨⟨buildKey, artifactId⟩, rfl⟩ := toLex.surjective key
    rw [Table.mem_keys, ← Option.isSome_iff_exists, h.conflicts, List.mem_flatMap]
    constructor
    · rintro ⟨hc, hbid⟩
      refine ⟨buildKey, (h.mem_rowKeys hall).mpr ⟨artifactId, hbid⟩, ?_⟩
      rw [expectedConflicts, if_pos ((h.contested_rows hall).mpr hc)]
      exact List.mem_map.mpr ⟨artifactId, (h.mem_rowGroup hall).mpr hbid, rfl⟩
    · rintro ⟨buildKey', -, hmem⟩
      rw [expectedConflicts] at hmem
      split at hmem
      · rename_i hc
        obtain ⟨id, hid, he⟩ := List.mem_map.mp hmem
        obtain ⟨rfl, rfl⟩ := Prod.mk.inj (toLex_inj.mp he)
        exact ⟨(h.contested_rows hall).mp hc, (h.mem_rowGroup hall).mp hid⟩
      · cases hmem

/-- The mappings are the expected ones exactly when the first to ask for each key is the least. -/
theorem Describes.mappings_expected :
    (Table.rows catalog.buildKeyMapping).map
        (fun row => (row.1, some row.2.artifactId, row.2.status)) =
      (rowKeys catalog).map (expectedMapping catalog) ↔ LeastFirst (bids calls) := by
  have hrows : (Table.rows catalog.buildKeyMapping).map
      (fun row => (row.1, some row.2.artifactId, row.2.status)) =
      (Table.keys catalog.buildKeyMapping).map fun buildKey => (buildKey,
        owner (bids calls) buildKey,
        if Contested (bids calls) buildKey then MappingStatus.conflict else .verified) := by
    refine Table.rows_map_eq fun buildKey row hrow => ?_
    have hmapping := h.mappings buildKey
    rw [hrow, Option.map_some] at hmapping
    obtain ⟨id, hid, he⟩ := Option.map_eq_some_iff.mp hmapping.symm
    obtain ⟨rfl, hstatus⟩ := Prod.mk.inj he
    rw [hid, hstatus]
  have hkeys : Table.keys catalog.buildKeyMapping = rowKeys catalog := by
    refine Table.eq_of_sorted Table.keys_sorted (rowKeys_sorted catalog) fun buildKey => ?_
    rw [Table.mem_keys, h.mem_rowKeys hall]
    have hmapping := congrArg Option.isSome (h.mappings buildKey)
    rw [Option.isSome_map, Option.isSome_map] at hmapping
    rw [← Option.isSome_iff_exists, hmapping, Option.isSome_iff_exists]
    exact ⟨fun ⟨id, hid⟩ => ⟨id, owner_mem hid⟩, fun ⟨id, hid⟩ => exists_owner hid⟩
  rw [hrows, hkeys, List.map_inj_left, leastFirst_iff (rowGroup_sorted catalog)
    fun _ _ => h.mem_rowGroup hall]
  constructor
  · intro heq buildKey
    by_cases hkey : buildKey ∈ rowKeys catalog
    · exact (Prod.mk.inj (Prod.mk.inj (heq buildKey hkey)).2).1
    · have hnone : ∀ id, (buildKey, id) ∉ bids calls := fun id hid =>
        hkey ((h.mem_rowKeys hall).mpr ⟨id, hid⟩)
      have hnil : rowGroup catalog buildKey = [] :=
        List.eq_nil_iff_forall_not_mem.mpr fun id hid => hnone id ((h.mem_rowGroup hall).mp hid)
      rw [owner_eq_none.mpr hnone, hnil, List.head?_nil]
  · intro heq buildKey _
    rw [expectedMapping, heq]
    simp only [h.contested_rows hall]

omit hall in
/-- Every edge of the lineage is one of an indexed artifact. -/
theorem Describes.edge_indexed {edge : (ArtifactId × ArtifactId) × Nat}
    (hedge : edge ∈ catalog.lineageEdges.entries) :
    ∃ first, firstCall calls edge.1.1 = some first ∧
      (catalog.lineageEdges.entries.filter fun other => other.1.1 = edge.1.1) =
        edgesOf first.artifact := by
  have hmem : edge ∈ catalog.lineageEdges.entries.filter fun other => other.1.1 = edge.1.1 :=
    List.mem_filter.mpr ⟨hedge, by simp⟩
  have hlineage := h.lineage edge.1.1
  cases hfirst : firstCall calls edge.1.1 with
  | none =>
    rw [hlineage, hfirst] at hmem
    cases hmem
  | some first =>
    rw [hfirst] at hlineage
    exact ⟨first, rfl, hlineage⟩

omit hall in
/-- The positions of the inputs count from zero. -/
theorem Describes.ordinals : ∀ edge ∈ catalog.lineageEdges.entries,
    ordinalsCount catalog edge.1.1 := by
  intro edge hedge
  obtain ⟨first, -, hedges⟩ := h.edge_indexed hedge
  have hordinals : (edgesOf first.artifact).map Prod.snd =
      List.range first.artifact.inputArtifactIds.length := by
    rw [edgesOf, List.map_map, List.range_eq_range', ← List.zipIdx_map_snd]
    rfl
  have hlength : (edgesOf first.artifact).length = first.artifact.inputArtifactIds.length := by
    rw [edgesOf, List.length_map, List.length_zipIdx]
  rw [ordinalsCount, hedges, hordinals, hlength]
  exact (List.pairwise_le_range).insertionSort_eq

end Shutdown

/-- The inventory is about the artifacts, and no others. -/
structure ArtifactInventory.Lists (inventory : ArtifactInventory)
    (artifacts : List CommittedArtifact) : Prop where
  listed : ∀ entry ∈ inventory.entries, ∃ artifact ∈ artifacts,
    sameDescriptor entry.descriptor artifact
  lists : ∀ artifact ∈ artifacts, ∃ entry ∈ inventory.entries,
    sameDescriptor entry.descriptor artifact

/-- No files of an artifact changed after it was first indexed. -/
def UnchangedSince (calls : List IndexCall) (inventory : ArtifactInventory) : Prop :=
  ∀ entry ∈ inventory.entries, ∀ call ∈ firstCall calls entry.descriptor.artifactId,
    entry.latestChangeNs ≤ call.nowNs

section Inventory

variable {inventory : ArtifactInventory} (h : Describes repository calls catalog)
  (hall : ∀ call ∈ calls, Indexable repository call.artifact)
  (hlists : inventory.Lists (calls.map fun call => call.artifact))

include h hlists

omit hall in
/-- There are as many rows as entries. -/
theorem Describes.inventory_length :
    (Table.rows catalog.artifactIndex).length = inventory.entries.length := by
  have hkeys : (Table.rows catalog.artifactIndex).map Prod.fst =
      inventory.entries.map fun entry => entry.descriptor.artifactId := by
    rw [Table.rows_map_eq (g := id) fun _ _ _ => rfl, List.map_id]
    refine Table.eq_of_sorted Table.keys_sorted inventory.ordered fun id => ?_
    rw [Table.mem_keys, List.mem_map]
    constructor
    · rintro ⟨row, hrow⟩
      obtain ⟨first, hfirst, -⟩ := Option.map_eq_some_iff.mp ((h.artifacts id).symm.trans hrow)
      obtain ⟨hmem, rfl⟩ := firstCall_mem hfirst
      obtain ⟨entry, hentry, hsame⟩ := hlists.lists _ (List.mem_map_of_mem hmem)
      exact ⟨entry, hentry, hsame.1⟩
    · rintro ⟨entry, hentry, rfl⟩
      obtain ⟨artifact, hartifact, hsame⟩ := hlists.listed entry hentry
      obtain ⟨call, hcall, rfl⟩ := List.mem_map.mp hartifact
      obtain ⟨first, hfirst⟩ := exists_firstCall hcall hsame.1.symm
      exact ⟨_, h.row hfirst⟩
  rw [← List.length_map (f := Prod.fst), hkeys, List.length_map]

omit hall in
/-- The rows agree with the entries exactly when no files changed since they were verified. -/
theorem Describes.entries_match :
    (∀ row ∈ Table.rows catalog.artifactIndex, ∃ entry ∈ inventory.entries,
      entry.descriptor.artifactId = row.1 ∧ entryMatches catalog entry row.2) ↔
        UnchangedSince calls inventory := by
  constructor
  · intro hrows entry hentry first hfirst
    obtain ⟨entry', hentry', hid, -, -, -, -, hchange⟩ :=
      hrows (_, _) (Table.mem_rows.mpr (h.row hfirst))
    have hsame : entry' = entry :=
      List.inj_on_of_nodup_map (inventory.ordered.imp ne_of_lt) hentry' hentry hid
    exact hsame ▸ hchange
  · rintro hunchanged ⟨id, row⟩ hrow
    obtain ⟨first, hfirst, rfl⟩ :=
      Option.map_eq_some_iff.mp ((h.artifacts id).symm.trans (Table.mem_rows.mp hrow))
    obtain ⟨hmem, rfl⟩ := firstCall_mem hfirst
    obtain ⟨entry, hentry, hid, hkind, hmanifest, hkey, hinputs⟩ :=
      hlists.lists _ (List.mem_map_of_mem hmem)
    have hlineage : lineageRows catalog entry.descriptor.artifactId =
        entry.descriptor.inputArtifactIds := by
      rw [hid, hinputs]
      refine lineageRows_eq ?_
      rw [h.lineage]
      exact congrArg (fun o => (o.map fun call => edgesOf call.artifact).getD []) hfirst
    have hid' : entry.descriptor.artifactId = first.artifactId := hid
    refine ⟨entry, hentry, hid, hkind.symm, hmanifest.symm, hkey.symm, hlineage, ?_⟩
    exact hunchanged entry hentry first (hid' ▸ hfirst)

include hall

/-- **The shutdown check.**  It accepts an inventory of the artifacts exactly when the first of
each build key to be indexed is the smallest, and no files changed since. -/
theorem Describes.inventory_matches_iff (hcomplete : catalog.runIndexState.status = .complete) :
    inventoryMatchesCatalog catalog inventory = true ↔
      LeastFirst (bids calls) ∧ UnchangedSince calls inventory := by
  have hindexed : ∀ edge ∈ catalog.lineageEdges.entries,
      (catalog.artifactIndex.get? edge.1.1).isSome := by
    intro edge hedge
    obtain ⟨first, hfirst, -⟩ := h.edge_indexed hedge
    rw [h.row hfirst, Option.isSome_some]
  have hruns : verifyRunIndexCompleteness catalog = .ok () := by
    rw [verifyRunIndexCompleteness, requireRunIndexComplete,
      refuseIf_of_not (not_not.mpr hcomplete), ok_bind, h.verifies hall]
  simp only [inventoryMatchesCatalog, Bool.and_eq_true, decide_eq_true_eq,
    h.entries_match hlists, h.mappings_expected hall]
  constructor
  · rintro ⟨⟨⟨⟨⟨⟨⟨-, -⟩, hunchanged⟩, -⟩, -⟩, hfirst⟩, -⟩, -⟩
    exact ⟨hfirst, hunchanged⟩
  · rintro ⟨hfirst, hunchanged⟩
    exact ⟨⟨⟨⟨⟨⟨⟨h.inventory_length hlists, h.ordinals⟩, hunchanged⟩, hindexed⟩,
      h.statuses_expected hall⟩, hfirst⟩, h.conflicts_expected hall⟩, hruns⟩

end Inventory

/-! ## The incremental index against the rebuilt one -/

/-- What holds after every call: the projection of the runs is complete, a build key has one
verified artifact at most, and a page lists verified artifacts only. -/
structure Kept (catalog : Catalog) : Prop where
  complete : catalog.runIndexState.status = .complete
  unique : ∀ id id' row row', catalog.artifactIndex.get? id = some row →
    catalog.artifactIndex.get? id' = some row' → row.status = .verified →
    row'.status = .verified → row.buildKey = row'.buildKey → id = id'
  listed : ∀ logicalRunId limit offset after page,
    listRunEntries catalog logicalRunId limit offset after = .ok page → ∀ entry ∈ page,
      ∃ row, catalog.artifactIndex.get? entry.artifactId = some row ∧ row.status = .verified

/-- The tables are those of the rebuild, timestamps aside, and the shutdown is recorded as clean
when the inventory is the set and none of its files changed. -/
structure MatchesRebuild (artifacts : List CommittedArtifact) (calls : List IndexCall)
    (catalog rebuilt : Catalog) : Prop where
  tables : SameTables catalog rebuilt
  mapping : SameMapping catalog rebuilt
  finishes : ∀ inventory : ArtifactInventory, inventory.Lists artifacts →
    UnchangedSince calls inventory → (finishReconciliationSession catalog inventory).2 = true

/-- **The incremental index against the rebuilt one.**  For a set of artifacts that a rebuild
accepts, every sequence of calls over it returns and keeps what it should after every call.  The
tables are those of the rebuild but for what the build keys resolve to; those agree too, and the
shutdown is recorded as clean, exactly when the first artifact of every build key to be indexed has
the smallest identity. -/
theorem index_matches_rebuild {prior : Catalog} {nowNs : Nat} {report : CatalogRebuildReport}
    (hset : ∀ artifact, artifact ∈ artifacts ↔ ∃ call ∈ calls, call.artifact = artifact)
    (hrebuilt : rebuildIndex repository prior artifacts nowNs = .ok (rebuilt, report)) :
    (∀ before after, calls = before ++ after →
      ∃ reached, indexAll repository Catalog.empty before = .ok reached ∧ Kept reached) ∧
    ∃ catalog, indexAll repository Catalog.empty calls = .ok catalog ∧
      SameTables catalog rebuilt ∧
      (MatchesRebuild artifacts calls catalog rebuilt ↔ LeastFirst (bids calls)) ∧
      ∀ inventory : ArtifactInventory, inventory.Lists artifacts →
        ((finishReconciliationSession catalog inventory).2 = true ↔
          LeastFirst (bids calls) ∧ UnchangedSince calls inventory) := by
  obtain ⟨ordered, hsorted, hordered, hindexable, hrebuilt⟩ := rebuildIndex_describes hrebuilt
  have hall : ∀ call ∈ calls, Indexable repository call.artifact :=
    fun call hcall => hindexable _ ((hset _).mpr ⟨call, hcall, rfl⟩)
  have hreach : ∀ before after, calls = before ++ after →
      ∃ reached, indexAll repository Catalog.empty before = .ok reached ∧
        Describes repository before reached ∧ reached.runIndexState.status = .complete ∧
        reached.reconciliationState = Catalog.empty.reconciliationState := by
    rintro before after rfl
    have hbefore : ∀ call ∈ [] ++ before, Indexable repository call.artifact :=
      fun call hcall => hall call (List.mem_append_left _ hcall)
    exact indexAll_describes describes_empty rfl hbefore
  refine ⟨fun before after hsplit => ?_, ?_⟩
  · obtain ⟨reached, hrun, hdescribes, hcomplete, -⟩ := hreach before after hsplit
    exact ⟨reached, hrun, hcomplete,
      fun _ _ _ _ hid hid' hv _ hkey => hdescribes.verified_unique hid hid' hv hkey,
      fun _ _ _ _ _ hpage _ hentry => listRunEntries_verified hpage hentry⟩
  obtain ⟨catalog, hrun, hdescribes, hcomplete, hstate⟩ := hreach calls [] (by simp)
  have hall' : ∀ call ∈ callsAt ordered nowNs, Indexable repository call.artifact := by
    intro call hcall
    obtain ⟨v, hv, rfl⟩ := List.mem_map.mp hcall
    obtain ⟨artifact, hartifact, hverified⟩ := (hordered v).mp hv
    exact (hindexable artifact hartifact).congr (verifyFilesystem_eq_ok hverified).2.symm
  have hbids : ∀ bid, bid ∈ bids calls ↔ bid ∈ bids (callsAt ordered nowNs) := by
    rintro ⟨buildKey, artifactId⟩
    rw [mem_bids, bids_callsAt, List.mem_map]
    constructor
    · rintro ⟨call, hcall, rfl, rfl⟩
      have hartifact := (hset _).mpr ⟨call, hcall, rfl⟩
      obtain ⟨v, hverified⟩ := (hindexable _ hartifact).verifies
      have hsame := (verifyFilesystem_eq_ok hverified).2
      exact ⟨v, (hordered v).mpr ⟨_, hartifact, hverified⟩, Prod.ext hsame.2.2.2.1 hsame.1⟩
    · rintro ⟨v, hv, he⟩
      obtain ⟨hkey, hid⟩ := Prod.mk.inj he
      obtain ⟨artifact, hartifact, hverified⟩ := (hordered v).mp hv
      obtain ⟨call, hcall, rfl⟩ := (hset artifact).mp hartifact
      have hsame := (verifyFilesystem_eq_ok hverified).2
      exact ⟨call, hcall, hsame.2.2.2.1.symm.trans hkey, hsame.1.symm.trans hid⟩
  have htables := sameTables_of_describes hdescribes hrebuilt hall hall' hbids
  have hmapping : SameMapping catalog rebuilt ↔ LeastFirst (bids calls) := by
    have hgroups : ∀ buildKey, ((byBuildKey ordered buildKey).map
        fun a => a.artifactId).Pairwise (· < ·) :=
      fun _ => hsorted.sublist (List.filter_sublist.map _)
    rw [sameMapping_iff hdescribes hrebuilt hbids, leastFirst_iff hgroups]
    · refine forall_congr' fun buildKey => ?_
      rw [← head?_byBuildKey nowNs, List.head?_map]
    · intro buildKey artifactId
      rw [hbids, bids_callsAt]
      simp [byBuildKey, and_assoc]
  have hfinish : ∀ inventory : ArtifactInventory, inventory.Lists artifacts →
      ((finishReconciliationSession catalog inventory).2 = true ↔
        LeastFirst (bids calls) ∧ UnchangedSince calls inventory) := by
    intro inventory hlists
    have hlists' : inventory.Lists (calls.map fun call => call.artifact) := by
      refine ⟨fun entry hentry => ?_, fun artifact hartifact => ?_⟩
      · obtain ⟨artifact, hartifact, hsame⟩ := hlists.listed entry hentry
        exact ⟨artifact, List.mem_map.mpr ((hset artifact).mp hartifact), hsame⟩
      · exact hlists.lists artifact ((hset artifact).mpr (List.mem_map.mp hartifact))
    rw [← hdescribes.inventory_matches_iff hall hlists' hcomplete, finishReconciliationSession,
      hstate]
    by_cases hmatches : inventoryMatchesCatalog catalog inventory = true
    · rw [if_pos ⟨rfl, hmatches⟩, hmatches]
    · rw [if_neg fun hcond => hmatches hcond.2]
      simp [hmatches]
  refine ⟨catalog, hrun, htables, ⟨fun h => hmapping.mp h.mapping, fun h => ?_⟩, hfinish⟩
  exact ⟨htables, hmapping.mpr h, fun inventory hlists hunchanged =>
    (hfinish inventory hlists).mpr ⟨h, hunchanged⟩⟩

/-! ## Two artifacts of one build key -/

section Sample

/-- The artifact of the given number, all of one build key. -/
def twinArtifact (number : Fin (2 ^ 256)) : CommittedArtifact where
  artifactId := ⟨number⟩
  kind := .replayPack
  manifestDigest := ⟨number, false⟩
  buildKey := ⟨7, false⟩
  inputArtifactIds := []

/-- A repository of the first two. -/
def twinRepository : ArtifactRepository where
  openCommitted := fun artifactId =>
    if artifactId = ⟨1⟩ ∨ artifactId = ⟨2⟩ then .ok (twinArtifact artifactId.hex)
    else .error "committed artifact does not exist"
  successfulRunManifest := fun _ => none

theorem twinInventory_ordered :
    ([⟨twinArtifact 1, 0⟩, ⟨twinArtifact 2, 0⟩].map
      fun entry : ArtifactInventoryEntry => entry.descriptor.artifactId).Pairwise (· < ·) := by
  decide

/-- The inventory of both, whose files never changed. -/
def twinInventory : ArtifactInventory where
  fingerprint := ⟨0, false⟩
  entries := [⟨twinArtifact 1, 0⟩, ⟨twinArtifact 2, 0⟩]
  ordered := twinInventory_ordered

/-- The calls in the order of the identities. -/
theorem index_matches_rebuild_sample :
    ∃ rebuilt catalog, indexAll twinRepository Catalog.empty
        [⟨twinArtifact 1, 5⟩, ⟨twinArtifact 2, 6⟩] = .ok catalog ∧
      MatchesRebuild [twinArtifact 1, twinArtifact 2]
        [⟨twinArtifact 1, 5⟩, ⟨twinArtifact 2, 6⟩] catalog rebuilt := by
  obtain ⟨-, catalog, hrun, -, hmatches, -⟩ :=
    @index_matches_rebuild twinRepository [⟨twinArtifact 1, 5⟩, ⟨twinArtifact 2, 6⟩]
      [twinArtifact 1, twinArtifact 2] _ Catalog.empty 9 _ (by simp [eq_comm]) rfl
  exact ⟨_, catalog, hrun, hmatches.mpr (by decide)⟩

/-- The larger identity is indexed first: the tables resolve the build key to it, the rebuild to
the smaller, and the shutdown is never recorded as clean. -/
theorem larger_indexed_first :
    ∃ catalog rebuilt report,
      indexAll twinRepository Catalog.empty
        [⟨twinArtifact 2, 5⟩, ⟨twinArtifact 1, 6⟩] = .ok catalog ∧
      rebuildIndex twinRepository catalog [twinArtifact 1, twinArtifact 2] 9 =
        .ok (rebuilt, report) ∧
      ¬ SameMapping catalog rebuilt ∧
      (finishReconciliationSession catalog twinInventory).2 = false := by
  refine ⟨_, _, _, rfl, rfl, fun h => ?_, ?_⟩
  · exact absurd (h 7) (by decide)
  · decide

end Sample

end Artifacts

end OnchainBacktest
