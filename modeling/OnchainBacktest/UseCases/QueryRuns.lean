import OnchainBacktest.Lib.Paging
import OnchainBacktest.Artifacts.CatalogRebuild

/-!
# Pages of runs

The use case that lists the runs of the catalog, newest first.  `runPage` asks the index for one run
more than it shows, authenticates every run it gets against the manifest of the artifact, checks
that the index kept to the scope and the order, and goes on from the last run it shows when another
one follows.

The index compares the digest of a logical run, the check of a page its spelling.  In a scope that
both agree on, a page is cut from the queryable runs in order (`runPage_eq`).
-/

set_option autoImplicit false

namespace OnchainBacktest

namespace UseCases

open Artifacts
open Checked
open Paging (Page above cut)

/-! ## Authenticated runs -/

/-- What a query of runs raises. -/
inductive RunQueryFault
  /-- `ValueError`. -/
  | value (message : String)
  /-- `RunIndexQueryError`. -/
  | runIndexUnavailable
  /-- `ArtifactQueryError`. -/
  | artifactQuery (code : String)
  deriving DecidableEq

/-- `_indexed_verified_descriptor`. -/
def indexedVerifiedDescriptor (catalog : Catalog) (artifactId : ArtifactId) :
    Option CommittedArtifact :=
  (catalog.artifactIndex.get? artifactId).bind fun row =>
    if row.status = .verified ∧ ∃ mapping ∈ catalog.buildKeyMapping.get? row.buildKey,
        mapping.artifactId = artifactId ∧ mapping.status = .verified then
      some
        { artifactId := artifactId
          kind := row.kind
          manifestDigest := ⟨row.manifestDigest, false⟩
          buildKey := ⟨row.buildKey, false⟩
          inputArtifactIds := lineageRows catalog artifactId }
    else none

/-- `find_committed`. -/
def findCommitted (repository : ArtifactRepository) (catalog : Catalog) (artifactId : ArtifactId) :
    Except CatalogFault (Option CommittedArtifact) :=
  match indexedVerifiedDescriptor catalog artifactId with
  | none => .ok none
  | some expected => do
    let verified ← verifyFilesystem repository expected
    refuseIf (expected ≠ verified)
      (.verification "artifact index changed during filesystem verification")
    .ok (some verified)

/-- `QueryArtifacts.details`, the manifest aside. -/
def artifactDetails (repository : ArtifactRepository) (catalog : Catalog)
    (artifactId : ArtifactId) : Except RunQueryFault CommittedArtifact := do
  let found ← (findCommitted repository catalog artifactId).mapError fun _ =>
    .artifactQuery "ARTIFACT_VERIFICATION_FAILED"
  match found with
  | none => .error (.artifactQuery "ARTIFACT_NOT_FOUND")
  | some descriptor => do
    let opened ← (repository.openCommitted artifactId).mapError fun _ =>
      .artifactQuery "ARTIFACT_VERIFICATION_FAILED"
    refuseIf (opened ≠ descriptor) (.artifactQuery "ARTIFACT_DESCRIPTOR_CHANGED")
    .ok descriptor

/-- What a list shows of a run. -/
structure RunSummaryView where
  runArtifactId : ArtifactId
  logicalRunId : LogicalRunId
  executionAttemptId : ExecutionAttemptId
  startedAtNs : Int
  completedAtNs : Int
  deriving DecidableEq

/-- `_matches_index`. -/
def matchesIndex (expected : RunIndexEntry) (descriptor : CommittedArtifact)
    (manifest : SuccessfulRunManifest) : Prop :=
  expected.artifactId = descriptor.artifactId ∧
    (⟨expected.manifestDigest, false⟩ : ContentDigest) = descriptor.manifestDigest ∧
    expected.logicalRunId = manifest.logicalRunId ∧
    expected.executionAttemptId = manifest.executionAttemptId ∧
    expected.startedAtNs = manifest.startedAtNs ∧ expected.completedAtNs = manifest.completedAtNs

instance decidableMatchesIndex (expected : RunIndexEntry) (descriptor : CommittedArtifact)
    (manifest : SuccessfulRunManifest) : Decidable (matchesIndex expected descriptor manifest) := by
  unfold matchesIndex
  infer_instance

/-- `_view`: the manifest of a run, when it is what the index expects. -/
def runView (repository : ArtifactRepository) (catalog : Catalog) (artifactId : ArtifactId)
    (expected : Option RunIndexEntry) : Except RunQueryFault RunSummaryView := do
  let descriptor ← artifactDetails repository catalog artifactId
  refuseIf (descriptor.kind ≠ .run) (.artifactQuery "ARTIFACT_IS_NOT_A_RUN")
  match repository.successfulRunManifest artifactId with
  | none => .error (.artifactQuery "RUN_MANIFEST_INVALID")
  | some manifest => do
    refuseIf (descriptor.inputArtifactIds ≠ manifest.inputArtifactIds)
      (.artifactQuery "RUN_MANIFEST_INVALID")
    refuseIf (∃ entry ∈ expected, ¬ matchesIndex entry descriptor manifest) .runIndexUnavailable
    refuseIf (manifest.completedAtNs < manifest.startedAtNs) (.artifactQuery "RUN_MANIFEST_INVALID")
    .ok
      { runArtifactId := descriptor.artifactId
        logicalRunId := manifest.logicalRunId
        executionAttemptId := manifest.executionAttemptId
        startedAtNs := manifest.startedAtNs
        completedAtNs := manifest.completedAtNs }

/-! ## Pages -/

/-- `_run_entry_follows`. -/
def runEntryFollows (left right : RunIndexEntry) : Prop :=
  right.completedAtNs < left.completedAtNs ∨
    right.completedAtNs = left.completedAtNs ∧ left.artifactId < right.artifactId

instance decidableRunEntryFollows (left right : RunIndexEntry) :
    Decidable (runEntryFollows left right) := by
  unfold runEntryFollows
  infer_instance

/-- The identity of the logical run of an entry, in the spelling of its column. -/
def spelledRunId (entry : RunIndexEntry) : ContentDigest := ⟨entry.logicalRunId.hex, false⟩

/-- `_validate_run_page`. -/
def validateRunPage (entries : List RunIndexEntry) (logicalRunId : Option ContentDigest)
    (after : Option RunListCursor) : Except RunQueryFault Unit := do
  refuseIf (∃ logicalId ∈ logicalRunId, ∃ entry ∈ entries, spelledRunId entry ≠ logicalId)
    .runIndexUnavailable
  refuseIf (∃ pair ∈ entries.zip entries.tail, ¬ runEntryFollows pair.1 pair.2) .runIndexUnavailable
  refuseIf (∃ cursor ∈ after, ∃ entry ∈ entries.head?,
      ¬ (entry.completedAtNs < cursor.completedAtNs ∨
        entry.completedAtNs = cursor.completedAtNs ∧ cursor.artifactId < entry.artifactId))
    .runIndexUnavailable

/-- The constructor of a cursor, which keeps to what an integer column holds. -/
def checkedCursor (cursor : RunListCursor) : Except RunQueryFault RunListCursor := do
  refuseIf (¬ (0 ≤ cursor.completedAtNs ∧ cursor.completedAtNs ≤ 2 ^ 63 - 1))
    (.value "run cursor completion epoch is outside the SQLite range")
  .ok cursor

/-- The cursor that names the last run shown, when another one follows. -/
def nextRunCursor (entries : List RunIndexEntry) (logicalRunId : Option ContentDigest)
    (limit : Nat) : Except RunQueryFault (Option RunListCursor) :=
  if limit < entries.length then
    match entries[limit - 1]? with
    | none => .ok none
    | some last => (checkedCursor ⟨last.completedAtNs, last.artifactId, logicalRunId⟩).map some
  else .ok none

/-- `_page`. -/
def runPage (repository : ArtifactRepository) (catalog : Catalog)
    (logicalRunId : Option ContentDigest) (limit offset : Nat) (after : Option RunListCursor) :
    Except RunQueryFault (Page RunSummaryView RunListCursor) := do
  refuseIf (¬ (1 ≤ limit ∧ limit ≤ 1000))
    (.value "run query limit must be an integer between 1 and 1000")
  refuseIf (10000 < offset) (.value "run query offset must be an integer between 0 and 10000")
  refuseIf (∃ cursor ∈ after, offset ≠ 0 ∨ cursor.logicalRunId ≠ logicalRunId)
    (.value "run cursor must match the scope and cannot use offset")
  let entries ← (listRunEntries catalog logicalRunId (limit + 1) offset after).mapError fun _ =>
    .runIndexUnavailable
  refuseIf (limit + 1 < entries.length) .runIndexUnavailable
  let views ← entries.mapM fun entry => runView repository catalog entry.artifactId (some entry)
  validateRunPage entries logicalRunId after
  let next ← nextRunCursor entries logicalRunId limit
  .ok ⟨views.take limit, next⟩

/-! ## The runs of a scope in order -/

/-- The place of a run in the order of the lists: newest first, then by identity. -/
def rankOf (cursor : RunListCursor) : Intᵒᵈ ×ₗ ArtifactId :=
  toLex (OrderDual.toDual cursor.completedAtNs, cursor.artifactId)

/-- The cursor that names a run of a list. -/
def runMark (logicalRunId : Option ContentDigest) (view : RunSummaryView) : RunListCursor :=
  ⟨view.completedAtNs, view.runArtifactId, logicalRunId⟩

/-- The entry of a row of the projection. -/
def entryOfRun (run : ListedRun) : RunIndexEntry where
  artifactId := run.artifactId
  manifestDigest := run.manifestDigest
  logicalRunId := run.columns.logicalRunId
  executionAttemptId := run.columns.executionAttemptId
  startedAtNs := run.columns.startedAtNs
  completedAtNs := run.columns.completedAtNs

/-- What a list shows of a row that its manifest agrees with. -/
def viewOfRun (run : ListedRun) : RunSummaryView where
  runArtifactId := run.artifactId
  logicalRunId := run.columns.logicalRunId
  executionAttemptId := run.columns.executionAttemptId
  startedAtNs := run.columns.startedAtNs
  completedAtNs := run.columns.completedAtNs

/-- A run of the scope that can be queried. -/
def QueryableRun (catalog : Catalog) (logicalRunId : Option ContentDigest) (run : ListedRun) :
    Prop :=
  catalog.runIndex.get? run.artifactId = some ⟨run.manifestDigest, some run.columns⟩ ∧
    runListed catalog run.artifactId ⟨run.manifestDigest, some run.columns⟩ ∧
    ∀ logicalId ∈ logicalRunId, run.columns.logicalRunId.hex = logicalId.hex

/-- The runs that can be queried, as the table has them. -/
def listedRuns (catalog : Catalog) : List ListedRun :=
  (catalog.runIndex.entries.filter fun run => runListed catalog run.1 run.2).filterMap fun run =>
    run.2.queryable.map fun columns => ⟨run.1, run.2.manifestDigest, columns⟩

/-- The queryable runs of a scope, in order. -/
def queryableRuns (catalog : Catalog) (logicalRunId : Option ContentDigest) : List ListedRun :=
  ((listedRuns catalog).filter fun run =>
    ∀ logicalId ∈ logicalRunId, run.columns.logicalRunId.hex = logicalId.hex).insertionSort
      pageOrder

/-- What the lists of a scope show. -/
def runViews (catalog : Catalog) (logicalRunId : Option ContentDigest) : List RunSummaryView :=
  (queryableRuns catalog logicalRunId).map viewOfRun

section Rows

variable {catalog : Catalog} {logicalRunId : Option ContentDigest} {run : ListedRun}

/-- The rank of a row of the projection. -/
def runRank (run : ListedRun) : Intᵒᵈ ×ₗ ArtifactId :=
  toLex (OrderDual.toDual run.columns.completedAtNs, run.artifactId)

theorem pageOrder_iff (left right : ListedRun) :
    pageOrder left right ↔ runRank left ≤ runRank right := by
  rw [pageOrder, runRank, runRank, Prod.Lex.toLex_le_toLex, OrderDual.toDual_lt_toDual,
    OrderDual.toDual_inj, eq_comm]

theorem isAfter_iff (cursor : RunListCursor) (run : ListedRun) :
    isAfter cursor run ↔ rankOf cursor < runRank run := by
  rw [isAfter, rankOf, runRank, Prod.Lex.toLex_lt_toLex, OrderDual.toDual_lt_toDual,
    OrderDual.toDual_inj, eq_comm]

theorem mem_listedRuns : run ∈ listedRuns catalog ↔
    catalog.runIndex.get? run.artifactId = some ⟨run.manifestDigest, some run.columns⟩ ∧
      runListed catalog run.artifactId ⟨run.manifestDigest, some run.columns⟩ := by
  rw [listedRuns, List.mem_filterMap]
  constructor
  · rintro ⟨⟨artifactId, manifestDigest, queryable⟩, hmem, hrun⟩
    obtain ⟨columns, hcolumns, rfl⟩ := Option.map_eq_some_iff.mp hrun
    obtain ⟨hmem, hlisted⟩ := List.mem_filter.mp hmem
    dsimp only at hcolumns hlisted
    subst hcolumns
    exact ⟨Dict.get?_eq_some_iff.mpr hmem, of_decide_eq_true hlisted⟩
  · rintro ⟨hrow, hlisted⟩
    exact ⟨(run.artifactId, ⟨run.manifestDigest, some run.columns⟩),
      List.mem_filter.mpr ⟨Dict.get?_eq_some_iff.mp hrow, decide_eq_true hlisted⟩, rfl⟩

theorem nodup_listedRuns : ((listedRuns catalog).map runRank).Nodup := by
  have hentries : catalog.runIndex.entries.Pairwise fun a b => a.1 ≠ b.1 :=
    List.pairwise_map.mp catalog.runIndex.nodup
  refine List.pairwise_map.mpr (List.pairwise_filterMap.mpr ((hentries.filter _).imp ?_))
  intro a b hne run hrun run' hrun' hrank
  obtain ⟨columns, -, rfl⟩ := Option.map_eq_some_iff.mp hrun
  obtain ⟨columns', -, rfl⟩ := Option.map_eq_some_iff.mp hrun'
  exact hne (Prod.mk.inj (toLex_inj.mp hrank)).2

theorem mem_queryableRuns :
    run ∈ queryableRuns catalog logicalRunId ↔ QueryableRun catalog logicalRunId run := by
  rw [queryableRuns, List.mem_insertionSort, List.mem_filter, mem_listedRuns, decide_eq_true_iff,
    QueryableRun, and_assoc]

theorem queryableRuns_ordered :
    ((queryableRuns catalog logicalRunId).map runRank).Pairwise (· < ·) :=
  Paging.sorted_strict pageOrder_iff (nodup_listedRuns.sublist (List.filter_sublist.map runRank))

/-- The rows of a page are cut from the runs of the scope in order. -/
theorem selectRunIndexPage_eq (limit offset : Nat) (after : Option RunListCursor) :
    selectRunIndexPage catalog logicalRunId limit offset after =
      ((above runRank (after.map rankOf) (queryableRuns catalog logicalRunId)).drop
        (if after = none then offset else 0)).take limit := by
  have hcursor : ∀ run : ListedRun, (∀ cursor ∈ after, isAfter cursor run) ↔
      ∀ cursor ∈ after.map rankOf, cursor < runRank run := by
    intro run
    simp [isAfter_iff]
  have hselected : (listedRuns catalog).filter (fun run =>
      (∀ logicalId ∈ logicalRunId, run.columns.logicalRunId.hex = logicalId.hex) ∧
        ∀ cursor ∈ after, isAfter cursor run) =
      ((listedRuns catalog).filter fun run =>
        ∀ logicalId ∈ logicalRunId, run.columns.logicalRunId.hex = logicalId.hex).filter fun run =>
          decide (∀ cursor ∈ after.map rankOf, cursor < runRank run) := by
    rw [List.filter_filter]
    refine List.filter_congr fun run _ => ?_
    simp only [hcursor, Bool.decide_and, Bool.and_comm]
  show (((((listedRuns catalog).filter _).insertionSort pageOrder).drop _).take limit) = _
  rw [hselected, Paging.insertionSort_filter pageOrder_iff
    (nodup_listedRuns.sublist (List.filter_sublist.map runRank))]
  rfl

end Rows

/-! ## The index -/

/-- The times of every run that can be queried are ones its columns take. -/
def TimesStored (catalog : Catalog) : Prop :=
  ∀ row ∈ catalog.runIndex.entries, ∀ columns ∈ row.2.queryable,
    0 ≤ columns.startedAtNs ∧ columns.startedAtNs ≤ columns.completedAtNs ∧
      columns.completedAtNs ≤ 2 ^ 63 - 1

instance decidableTimesStored (catalog : Catalog) : Decidable (TimesStored catalog) := by
  unfold TimesStored
  infer_instance

/-- A catalog whose projection of the runs is complete and has proper times. -/
structure Indexed (catalog : Catalog) : Prop where
  complete : verifyRunIndexCompleteness catalog = .ok ()
  stored : TimesStored catalog

/-- The logical run of the list is spelled without the display prefix. -/
def SpelledBare (logicalRunId : Option ContentDigest) : Prop :=
  ∀ logicalId ∈ logicalRunId, logicalId.prefixed = false

section Index

variable {catalog : Catalog} {logicalRunId : Option ContentDigest} {run : ListedRun}
  {after : Option RunListCursor}

theorem TimesStored.of_queryable (h : TimesStored catalog)
    (hrun : QueryableRun catalog logicalRunId run) :
    0 ≤ run.columns.startedAtNs ∧ run.columns.startedAtNs ≤ run.columns.completedAtNs ∧
      run.columns.completedAtNs ≤ 2 ^ 63 - 1 :=
  h (run.artifactId, ⟨run.manifestDigest, some run.columns⟩) (Dict.get?_eq_some_iff.mp hrun.1)
    run.columns rfl

theorem mem_selectRunIndexPage {limit offset : Nat}
    (h : run ∈ selectRunIndexPage catalog logicalRunId limit offset after) :
    QueryableRun catalog logicalRunId run ∧ ∀ cursor ∈ after, rankOf cursor < runRank run := by
  rw [selectRunIndexPage_eq] at h
  obtain ⟨hrun, hafter⟩ := Paging.mem_above.mp (List.mem_of_mem_drop (List.mem_of_mem_take h))
  exact ⟨mem_queryableRuns.mp hrun, fun cursor hcursor =>
    hafter _ (Option.mem_map_of_mem rankOf hcursor)⟩

theorem selectRunIndexPage_ordered (limit offset : Nat) :
    (selectRunIndexPage catalog logicalRunId limit offset after).Pairwise fun a b =>
      runRank a < runRank b := by
  rw [selectRunIndexPage_eq]
  exact (Paging.pairwise_above queryableRuns_ordered).sublist
    ((List.take_sublist _ _).trans (List.drop_sublist _ _))

/-- The entries of a row of proper times can be read. -/
theorem readEntry_eq_ok (h : TimesStored catalog) (hrun : QueryableRun catalog logicalRunId run) :
    (runEntryFromRow run.artifactId ⟨run.manifestDigest, some run.columns⟩).mapError (fun _ =>
      CatalogFault.verification "run index contains invalid values") = .ok (entryOfRun run) := by
  obtain ⟨hstarted, hcompleted, -⟩ := h.of_queryable hrun
  rw [mapError_eq_ok, runEntryFromRow]
  exact check_bind_eq_ok.mpr ⟨refuseIf_eq_ok.mpr (by dsimp only; omega), rfl⟩

/-- What the index answers. -/
theorem listRunEntries_eq_ok {limit offset : Nat} {entries : List RunIndexEntry}
    (h : TimesStored catalog)
    (hlist : listRunEntries catalog logicalRunId limit offset after = .ok entries) :
    entries = (selectRunIndexPage catalog logicalRunId limit offset after).map entryOfRun := by
  obtain ⟨-, hlist⟩ := check_bind_eq_ok.mp hlist
  obtain ⟨-, hlist⟩ := check_bind_eq_ok.mp hlist
  obtain ⟨-, hlist⟩ := check_bind_eq_ok.mp hlist
  obtain ⟨-, hlist⟩ := check_bind_eq_ok.mp hlist
  rw [mapM_eq_ok_of_forall (g := entryOfRun)
    fun run hrun => readEntry_eq_ok h (mem_selectRunIndexPage hrun).1] at hlist
  exact (Except.ok.inj hlist).symm

/-- A complete index answers. -/
theorem listRunEntries_eq (h : Indexed catalog) {limit : Nat} (hlimit : 1 ≤ limit ∧ limit ≤ 1001)
    (hafter : ∀ cursor ∈ after, cursor.logicalRunId = logicalRunId) :
    listRunEntries catalog logicalRunId limit 0 after =
      .ok ((selectRunIndexPage catalog logicalRunId limit 0 after).map entryOfRun) := by
  have hscope : ¬ ∃ cursor ∈ after, 0 ≠ 0 ∨ cursor.logicalRunId ≠ logicalRunId := by
    rintro ⟨cursor, hcursor, hzero | hne⟩
    · exact hzero rfl
    · exact hne (hafter cursor hcursor)
  rw [listRunEntries, refuseIf_of_not (not_not.mpr hlimit), refuseIf_of_not (by omega),
    refuseIf_of_not hscope, h.complete, ok_bind, ok_bind, ok_bind, ok_bind]
  exact mapM_eq_ok_of_forall fun run hrun =>
    readEntry_eq_ok h.stored (mem_selectRunIndexPage hrun).1

/-! ## The check of a page -/

theorem runEntryFollows_iff {left right : ListedRun} :
    runEntryFollows (entryOfRun left) (entryOfRun right) ↔ runRank left < runRank right := by
  rw [runEntryFollows, runRank, runRank, Prod.Lex.toLex_lt_toLex, OrderDual.toDual_lt_toDual,
    OrderDual.toDual_inj, eq_comm]
  rfl

theorem follows_of_pairwise {runs : List ListedRun}
    (h : runs.Pairwise fun a b => runRank a < runRank b) :
    ∀ pair ∈ (runs.map entryOfRun).zip (runs.map entryOfRun).tail,
      runEntryFollows pair.1 pair.2 := by
  induction runs with
  | nil => simp
  | cons run runs ih =>
    rw [List.pairwise_cons] at h
    cases runs with
    | nil => simp
    | cons next runs =>
      intro pair hpair
      rw [List.map_cons, List.tail_cons, List.map_cons, List.zip_cons_cons, List.mem_cons] at hpair
      rcases hpair with rfl | hpair
      · exact runEntryFollows_iff.mpr (h.1 next List.mem_cons_self)
      · exact ih h.2 pair hpair

/-- **The check of a page.**  It accepts what the index answers, unless the logical run of the list
is spelled with the display prefix and the answer has a run. -/
theorem validateRunPage_eq_ok {runs : List ListedRun}
    (hordered : runs.Pairwise fun a b => runRank a < runRank b)
    (hruns : ∀ run ∈ runs, QueryableRun catalog logicalRunId run ∧
      ∀ cursor ∈ after, rankOf cursor < runRank run) :
    validateRunPage (runs.map entryOfRun) logicalRunId after = .ok () ↔
      SpelledBare logicalRunId ∨ runs = [] := by
  have hfollows : ¬ ∃ pair ∈ (runs.map entryOfRun).zip (runs.map entryOfRun).tail,
      ¬ runEntryFollows pair.1 pair.2 := by
    rintro ⟨pair, hpair, hnot⟩
    exact hnot (follows_of_pairwise hordered pair hpair)
  have hresumes : ¬ ∃ cursor ∈ after, ∃ entry ∈ (runs.map entryOfRun).head?,
      ¬ (entry.completedAtNs < cursor.completedAtNs ∨
        entry.completedAtNs = cursor.completedAtNs ∧ cursor.artifactId < entry.artifactId) := by
    rintro ⟨cursor, hcursor, entry, hentry, hnot⟩
    rw [List.head?_map, Option.mem_map] at hentry
    obtain ⟨run, hrun, rfl⟩ := hentry
    exact hnot ((isAfter_iff cursor run).mpr
      ((hruns run (List.mem_of_mem_head? hrun)).2 cursor hcursor))
  rw [validateRunPage, refuseIf_of_not hfollows, refuseIf_of_not hresumes, ok_bind]
  show (refuseIf _ _ >>= fun _ => .ok ()) = _ ↔ _
  rw [check_bind_eq_ok, refuseIf_eq_ok, and_iff_left rfl]
  constructor
  · intro hscope
    by_cases hnil : runs = []
    · exact .inr hnil
    · obtain ⟨run, hrun⟩ := List.exists_mem_of_ne_nil runs hnil
      refine .inl fun logicalId hlogical => ?_
      by_contra hprefixed
      refine hscope ⟨logicalId, hlogical, entryOfRun run, List.mem_map_of_mem hrun, fun heq => ?_⟩
      rw [← heq] at hprefixed
      exact hprefixed rfl
  · rintro (hbare | rfl) ⟨logicalId, hlogical, entry, hentry, hne⟩
    · obtain ⟨run, hrun, rfl⟩ := List.mem_map.mp hentry
      obtain ⟨hex, prefixed⟩ := logicalId
      have hsame : run.columns.logicalRunId.hex = hex := (hruns run hrun).1.2.2 _ hlogical
      have hbare : prefixed = false := hbare _ hlogical
      subst hbare hsame
      exact hne rfl
    · cases hentry

/-! ## A page -/

variable {repository : ArtifactRepository}

/-- A run that is authenticated is shown as the index has it. -/
theorem runView_eq_ok {view : RunSummaryView}
    (h : runView repository catalog run.artifactId (some (entryOfRun run)) = .ok view) :
    view = viewOfRun run := by
  obtain ⟨descriptor, -, h⟩ := bind_eq_ok.mp h
  obtain ⟨-, h⟩ := check_bind_eq_ok.mp h
  cases hmanifest : repository.successfulRunManifest run.artifactId with
  | none =>
    rw [hmanifest] at h
    cases h
  | some manifest =>
    rw [hmanifest] at h
    obtain ⟨-, h⟩ := check_bind_eq_ok.mp h
    obtain ⟨hmatches, h⟩ := check_bind_eq_ok.mp h
    obtain ⟨-, h⟩ := check_bind_eq_ok.mp h
    have hmatches : matchesIndex (entryOfRun run) descriptor manifest := by
      simpa using refuseIf_eq_ok.mp hmatches
    obtain ⟨hid, -, hlogical, hattempt, hstarted, hcompleted⟩ := hmatches
    rw [← Except.ok.inj h, ← hid, ← hlogical, ← hattempt, ← hstarted, ← hcompleted]
    rfl

/-- The runs of a page with one more, authenticated. -/
def authenticated (repository : ArtifactRepository) (catalog : Catalog) (runs : List ListedRun) :
    Except RunQueryFault (List RunSummaryView) :=
  runs.mapM fun run => runView repository catalog run.artifactId (some (entryOfRun run))

theorem authenticated_eq_ok {runs : List ListedRun} {views : List RunSummaryView}
    (h : authenticated repository catalog runs = .ok views) : views = runs.map viewOfRun := by
  have hrelated := mapM_eq_ok h
  clear h
  induction hrelated with
  | nil => rfl
  | cons hview _ ih => rw [List.map_cons, runView_eq_ok hview, ih]

theorem authenticated_eq_error {runs : List ListedRun} {fault : RunQueryFault}
    (h : authenticated repository catalog runs = .error fault) :
    ∃ run ∈ runs, runView repository catalog run.artifactId (some (entryOfRun run)) =
      .error fault := by
  induction runs with
  | nil =>
    rw [authenticated, List.mapM_nil] at h
    cases h
  | cons run runs ih =>
    rw [authenticated, List.mapM_cons] at h
    rcases bind_eq_error.mp h with hview | ⟨view, -, h⟩
    · exact ⟨run, List.mem_cons_self, hview⟩
    · rcases bind_eq_error.mp h with hrest | ⟨views, -, h⟩
      · obtain ⟨run', hrun', hview⟩ := ih hrest
        exact ⟨run', List.mem_cons_of_mem _ hrun', hview⟩
      · cases h

/-- The next cursor names the last run of a page that another run follows. -/
theorem nextRunCursor_eq {runs : List ListedRun} {limit : Nat} (hlimit : 1 ≤ limit)
    (h : TimesStored catalog) (hruns : ∀ run ∈ runs, QueryableRun catalog logicalRunId run) :
    nextRunCursor (runs.map entryOfRun) logicalRunId limit =
      .ok (cut (fun run => runMark logicalRunId (viewOfRun run)) limit runs).next := by
  rw [nextRunCursor, List.length_map, cut]
  dsimp only
  by_cases hmore : limit < runs.length
  · have hlast : limit - 1 < runs.length := by omega
    have htaken : (runs.take limit).getLast? = some runs[limit - 1] := by
      rw [List.getLast?_take, if_neg (by omega), List.getElem?_eq_getElem hlast, Option.some_or]
    obtain ⟨hstarted, hordered, hfits⟩ := h.of_queryable (hruns _ (List.getElem_mem hlast))
    rw [if_pos hmore, if_pos hmore, List.getElem?_map, List.getElem?_eq_getElem hlast, htaken,
      Option.map_some, Option.map_some]
    dsimp only
    rw [checkedCursor, refuseIf_of_not (by simp only [entryOfRun]; omega), ok_bind]
    rfl
  · rw [if_neg hmore, if_neg hmore]

/-- **A page.**  In a scope that the index and the check of the page agree on, it shows the first
runs after the cursor, once these and the next one are authenticated. -/
theorem runPage_eq (h : Indexed catalog) {limit : Nat} (hlimit : 1 ≤ limit ∧ limit ≤ 1000)
    (hafter : ∀ cursor ∈ after, cursor.logicalRunId = logicalRunId)
    (hscope : SpelledBare logicalRunId ∨
      above runRank (after.map rankOf) (queryableRuns catalog logicalRunId) = []) :
    runPage repository catalog logicalRunId limit 0 after =
      (authenticated repository catalog ((above runRank (after.map rankOf)
        (queryableRuns catalog logicalRunId)).take (limit + 1))).map fun views =>
          ⟨views.take limit, (cut (fun run => runMark logicalRunId (viewOfRun run)) limit
            (above runRank (after.map rankOf) (queryableRuns catalog logicalRunId))).next⟩ := by
  have hcursor : ¬ ∃ cursor ∈ after, 0 ≠ 0 ∨ cursor.logicalRunId ≠ logicalRunId := by
    rintro ⟨cursor, hcursor, hzero | hne⟩
    · exact hzero rfl
    · exact hne (hafter cursor hcursor)
  set kept := above runRank (after.map rankOf) (queryableRuns catalog logicalRunId) with hkept
  have hselected : selectRunIndexPage catalog logicalRunId (limit + 1) 0 after =
      kept.take (limit + 1) := by
    rw [selectRunIndexPage_eq, ite_self, List.drop_zero]
  have hruns : ∀ run ∈ kept.take (limit + 1), QueryableRun catalog logicalRunId run ∧
      ∀ cursor ∈ after, rankOf cursor < runRank run :=
    fun run hrun => mem_selectRunIndexPage (hselected ▸ hrun)
  have hordered := @selectRunIndexPage_ordered catalog logicalRunId after (limit + 1) 0
  rw [hselected] at hordered
  have hvalid : validateRunPage ((kept.take (limit + 1)).map entryOfRun) logicalRunId after =
      .ok () := by
    refine (validateRunPage_eq_ok hordered hruns).mpr (hscope.imp_right fun hnil => ?_)
    rw [hnil, List.take_nil]
  have hlength : ¬ limit + 1 < ((kept.take (limit + 1)).map entryOfRun).length := by
    rw [List.length_map, List.length_take]
    omega
  have hmap : (((kept.take (limit + 1)).map entryOfRun).mapM fun entry =>
      runView repository catalog entry.artifactId (some entry)) =
      authenticated repository catalog (kept.take (limit + 1)) := List.mapM_map ..
  rw [runPage, refuseIf_of_not (not_not.mpr hlimit), refuseIf_of_not (by omega),
    refuseIf_of_not hcursor, listRunEntries_eq h (by omega) hafter, hselected, ok_bind, ok_bind,
    ok_bind]
  show (refuseIf _ _ >>= fun _ => _) = _
  rw [refuseIf_of_not hlength, ok_bind, hmap, hvalid,
    nextRunCursor_eq hlimit.1 h.stored fun run hrun => (hruns run hrun).1, Paging.cut_take]
  rfl

theorem runViews_above : above (fun view => rankOf (runMark logicalRunId view)) (after.map rankOf)
    (runViews catalog logicalRunId) =
      (above runRank (after.map rankOf) (queryableRuns catalog logicalRunId)).map viewOfRun := by
  rw [above, runViews, List.filter_map]
  rfl

/-- A page that is read is cut from what the lists of the scope show. -/
theorem runPage_eq_ok (h : Indexed catalog) {limit : Nat} (hlimit : 1 ≤ limit ∧ limit ≤ 1000)
    (hafter : ∀ cursor ∈ after, cursor.logicalRunId = logicalRunId)
    (hscope : SpelledBare logicalRunId ∨
      above runRank (after.map rankOf) (queryableRuns catalog logicalRunId) = [])
    {page : Page RunSummaryView RunListCursor}
    (hpage : runPage repository catalog logicalRunId limit 0 after = .ok page) :
    page =
      Paging.page (runMark logicalRunId) rankOf (runViews catalog logicalRunId) after limit := by
  rw [runPage_eq h hlimit hafter hscope] at hpage
  obtain ⟨views, hviews, rfl⟩ := map_eq_ok.mp hpage
  rw [authenticated_eq_ok hviews, Paging.page, runViews_above, cut, cut,
    ← List.map_take, List.take_take, Nat.min_eq_left (Nat.le_succ limit), List.length_map,
    List.map_take, ← List.map_take, List.getLast?_map, Option.map_map]
  rfl

/-- A page is refused only when a run of the scope cannot be authenticated. -/
theorem runPage_eq_error (h : Indexed catalog) {limit : Nat} (hlimit : 1 ≤ limit ∧ limit ≤ 1000)
    (hafter : ∀ cursor ∈ after, cursor.logicalRunId = logicalRunId)
    (hscope : SpelledBare logicalRunId ∨
      above runRank (after.map rankOf) (queryableRuns catalog logicalRunId) = [])
    {fault : RunQueryFault}
    (hpage : runPage repository catalog logicalRunId limit 0 after = .error fault) :
    ∃ run, QueryableRun catalog logicalRunId run ∧
      runView repository catalog run.artifactId (some (entryOfRun run)) = .error fault := by
  rw [runPage_eq h hlimit hafter hscope] at hpage
  cases hviews : authenticated repository catalog ((above runRank (after.map rankOf)
      (queryableRuns catalog logicalRunId)).take (limit + 1)) with
  | ok views =>
    rw [hviews] at hpage
    cases hpage
  | error e =>
    rw [hviews] at hpage
    cases hpage
    obtain ⟨run, hrun, hview⟩ := authenticated_eq_error hviews
    exact ⟨run, mem_queryableRuns.mp (Paging.mem_above.mp (List.mem_of_mem_take hrun)).1, hview⟩

end Index

end UseCases

end OnchainBacktest
