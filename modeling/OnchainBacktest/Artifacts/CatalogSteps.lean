import OnchainBacktest.Artifacts.CatalogIndex

/-!
# One more call keeps the description

A call of `index_committed` for an artifact that can be indexed returns, and its tables say of the
calls with this one what the tables before said of the calls without it.  There are three ways
through it: a known artifact whose build key nobody contests changes nothing, the first artifact of
a build key gets its rows, and every other call records a collision.
-/

set_option autoImplicit false

namespace OnchainBacktest

namespace Artifacts

open Checked Contest

variable {repository : ArtifactRepository} {artifact verified : CommittedArtifact} {catalog : Catalog}
  {calls : List IndexCall} {call first : IndexCall} {entry : Option RunIndexEntry}

/-! ## The transaction reads a descriptor only as verification does -/

theorem upsertExactArtifact_congr (nowNs : Nat) (h : sameDescriptor verified artifact) :
    upsertExactArtifact catalog verified nowNs = upsertExactArtifact catalog artifact nowNs := by
  obtain ⟨hid, hkind, hmanifest, hkey, hinputs⟩ := h
  rw [upsertExactArtifact, upsertExactArtifact, insertArtifact, insertArtifact, hid, hkind,
    hmanifest, hkey, hinputs]

theorem resolveBuildKey_congr (nowNs : Nat) (h : sameDescriptor verified artifact) :
    resolveBuildKey catalog verified nowNs = resolveBuildKey catalog artifact nowNs := by
  obtain ⟨hid, -, -, hkey, -⟩ := h
  rw [resolveBuildKey, resolveBuildKey, hid, hkey]

theorem upsertRunEntry_congr (h : sameDescriptor verified artifact) :
    upsertRunEntry catalog verified entry = upsertRunEntry catalog artifact entry := by
  obtain ⟨hid, hkind, hmanifest, -, -⟩ := h
  have hinsert : insertRunProjection catalog verified entry =
      insertRunProjection catalog artifact entry := by
    have hrow : projectedRow verified entry = projectedRow artifact entry := by
      rw [projectedRow, projectedRow, hmanifest]
    rw [insertRunProjection, insertRunProjection, hrow, hid, hmanifest]
  have hcheck : checkRunRow verified entry = checkRunRow artifact entry := by
    funext run
    cases entry with
    | none => simp only [checkRunRow, hmanifest]
    | some entry => simp only [checkRunRow, hid]
  simp only [upsertRunEntry, hinsert, hcheck, hid, hkind]

theorem writeVerified_congr (nowNs : Nat) (h : sameDescriptor verified artifact) :
    writeVerified catalog verified entry nowNs = writeVerified catalog artifact entry nowNs := by
  simp only [writeVerified, projectVerified, upsertExactArtifact_congr nowNs h,
    resolveBuildKey_congr nowNs h, upsertRunEntry_congr h]

/-! ## The projection of the runs -/

theorem runOf_eq (h : entryOf repository artifact = .ok entry) :
    runOf repository artifact = some (projectedRow artifact entry) := by
  rw [runOf, h]

theorem runOf_manifest {run : RunRow} (h : runOf repository artifact = some run) :
    run.manifestDigest = artifact.manifestDigest.hex := by
  rw [runOf] at h
  split at h
  · cases h
    rfl
  · cases h

theorem runOf_congr (h : sameDescriptor verified artifact) :
    runOf repository verified = runOf repository artifact := by
  have hrow : ∀ entry, projectedRow verified entry = projectedRow artifact entry := by
    intro entry
    rw [projectedRow, projectedRow, h.2.2.1]
  simp only [runOf, entryOf_congr h, hrow]

/-- The entry of a run is about its descriptor, and its times are in order. -/
theorem entryOf_some {run : RunIndexEntry} (h : entryOf repository artifact = .ok (some run)) :
    run.artifactId = artifact.artifactId ∧ run.manifestDigest = artifact.manifestDigest.hex ∧
      ¬ (run.startedAtNs < 0 ∨ run.completedAtNs < run.startedAtNs) := by
  rw [entryOf] at h
  split at h
  · rw [runIndexEntry] at h
    obtain ⟨actual, -, h⟩ := bind_eq_ok.mp h
    obtain ⟨-, h⟩ := check_bind_eq_ok.mp h
    split at h
    · cases h
    · obtain ⟨-, h⟩ := check_bind_eq_ok.mp h
      obtain ⟨entry, hentry, h⟩ := bind_eq_ok.mp h
      cases h
      obtain ⟨htimes, h⟩ := check_bind_eq_ok.mp hentry
      cases h
      exact ⟨rfl, rfl, refuseIf_eq_ok.mp htimes⟩
  · cases h

/-- The row that an entry projects to passes the comparison with the entry. -/
theorem checkRunRow_projected (h : entryOf repository artifact = .ok entry) :
    checkRunRow artifact entry (projectedRow artifact entry) = .ok () := by
  cases entry with
  | none =>
    rw [checkRunRow]
    exact refuseIf_of_not (by simp [projectedRow])
  | some run =>
    obtain ⟨hid, hmanifest, htimes⟩ := entryOf_some h
    have hrow : runEntryFromRow artifact.artifactId (projectedRow artifact (some run)) = .ok run := by
      show RunIndexEntry.checked
        { artifactId := artifact.artifactId
          manifestDigest := artifact.manifestDigest.hex
          logicalRunId := run.logicalRunId
          executionAttemptId := run.executionAttemptId
          startedAtNs := run.startedAtNs
          completedAtNs := run.completedAtNs } = _
      rw [← hid, ← hmanifest, RunIndexEntry.checked, refuseIf_of_not htimes]
      rfl
    rw [checkRunRow, hrow]
    exact refuseIf_of_not (not_not.mpr rfl)

/-- The row an artifact has in the index. -/
theorem Describes.row (h : Describes repository calls catalog) {artifactId : ArtifactId}
    (hfirst : firstCall calls artifactId = some first) :
    catalog.artifactIndex.get? artifactId =
      some (rowOf (Contested (bids calls) first.buildKey) first) := by
  rw [h.artifacts, hfirst, Option.map_some]

/-- A build key that nobody contests resolves to the artifact that asks for it. -/
theorem Describes.mapping (h : Describes repository calls catalog) {buildKey : DigestText}
    {artifactId : ArtifactId} (hbid : (buildKey, artifactId) ∈ bids calls)
    (hfree : ¬ Contested (bids calls) buildKey) :
    ∃ row, catalog.buildKeyMapping.get? buildKey = some row ∧ row.artifactId = artifactId ∧
      row.status = .verified := by
  obtain ⟨i, hi⟩ := exists_owner hbid
  have hid : i = artifactId := eq_of_not_contested hfree (owner_mem hi) hbid
  have hmapping := h.mappings buildKey
  rw [hi, Option.map_some, if_neg hfree, Option.map_eq_some_iff] at hmapping
  obtain ⟨row, hrow, he⟩ := hmapping
  obtain ⟨hrowId, hstatus⟩ := Prod.mk.inj he
  exact ⟨row, hrow, hrowId.trans hid, hstatus⟩

/-- The projection agrees with the artifacts. -/
theorem Describes.verifies (h : Describes repository calls catalog)
    (hall : ∀ call ∈ calls, Indexable repository call.artifact) :
    verifyRunIndexRows catalog = .ok () := by
  refine refuseIf_of_not ?_
  rintro (⟨⟨id, row⟩, hmem, hkind, hstatus, hmissing⟩ | ⟨⟨id, run⟩, hmem, hdetached⟩)
  · have hrow := Dict.get?_eq_some_iff.mpr hmem
    obtain ⟨first, hfirst, rfl⟩ := Option.map_eq_some_iff.mp ((h.artifacts id).symm.trans hrow)
    obtain ⟨hcall, hid⟩ := firstCall_mem hfirst
    have hfree : ¬ Contested (bids calls) first.buildKey := by
      intro hc
      rw [rowOf] at hstatus
      simp [hc] at hstatus
    rcases hmissing with hmissing | hmissing
    · obtain ⟨mapping, hget, hmid, hmstatus⟩ := h.mapping (hid ▸ bid_mem hcall) hfree
      rcases hmissing mapping hget with hne | hne
      · exact hne hmid
      · exact hne hmstatus
    · obtain ⟨entry, hentry⟩ := (hall first hcall).projects
      have hrun := h.runs id
      rw [hfirst, Option.bind_some, if_pos ⟨hkind, hfree⟩, runOf_eq hentry] at hrun
      exact hmissing _ hrun rfl
  · have hrun := Dict.get?_eq_some_iff.mpr hmem
    obtain ⟨first, hfirst, hif⟩ := Option.bind_eq_some_iff.mp ((h.runs id).symm.trans hrun)
    split at hif
    · rename_i hcond
      rcases hdetached _ (h.row hfirst) with hne | hne | hne
      · exact hne hcond.1
      · exact hne (by simp [rowOf, hcond.2])
      · exact hne (runOf_manifest hif)
    · cases hif

/-- Marking the projection complete changes none of the tables. -/
theorem Describes.marked (h : Describes repository calls catalog)
    (hall : ∀ call ∈ calls, Indexable repository call.artifact) :
    ∃ catalog', markRunIndexComplete catalog = .ok catalog' ∧
      Describes repository calls catalog' ∧ catalog'.runIndexState.status = .complete ∧
      catalog'.reconciliationState = catalog.reconciliationState := by
  refine ⟨{ catalog with runIndexState := { catalog.runIndexState with status := .complete } },
    ?_, ⟨h.artifacts, h.mappings, h.conflicts, h.lineage, h.runs⟩, rfl, rfl⟩
  rw [markRunIndexComplete, h.verifies hall]
  rfl

/-! ## A known artifact -/

/-- A call for a known artifact tells nothing more. -/
theorem Describes.seen (h : Describes repository calls catalog)
    (hfirst : firstCall calls call.artifactId = some first)
    (hkey : first.buildKey = call.buildKey) :
    Describes repository (calls ++ [call]) catalog := by
  obtain ⟨hmem, hid⟩ := firstCall_mem hfirst
  have hbid : (call.buildKey, call.artifactId) ∈ bids calls := hid ▸ hkey ▸ bid_mem hmem
  have hcontested : ∀ buildKey,
      Contested (bids (calls ++ [call])) buildKey ↔ Contested (bids calls) buildKey := by
    intro buildKey
    rw [bids_concat]
    exact contested_concat_seen hbid
  have howner : ∀ buildKey, owner (bids (calls ++ [call])) buildKey =
      owner (bids calls) buildKey := by
    intro buildKey
    rw [bids_concat]
    exact owner_concat_seen hbid
  have hbids : ∀ bid, bid ∈ bids (calls ++ [call]) ↔ bid ∈ bids calls := by
    intro bid
    rw [bids_concat, List.mem_append, List.mem_singleton]
    exact or_iff_left_of_imp fun he => he ▸ hbid
  constructor
  · intro artifactId
    simp only [firstCall_concat_seen hfirst, hcontested, h.artifacts]
  · intro buildKey
    simp only [howner, hcontested, h.mappings]
  · intro buildKey artifactId
    simp only [hcontested, hbids, h.conflicts]
  · intro artifactId
    rw [firstCall_concat_seen hfirst, h.lineage]
  · intro artifactId
    simp only [firstCall_concat_seen hfirst, hcontested, h.runs]

theorem upsert_known (h : Describes repository calls catalog)
    (hfirst : firstCall calls call.artifactId = some first)
    (hsame : sameDescriptor first.artifact call.artifact) :
    upsertExactArtifact catalog call.artifact call.nowNs = .ok catalog := by
  obtain ⟨hid, hkind, hmanifest, hkey, hinputs⟩ := hsame
  have hrow := h.row hfirst
  have hlineage : lineageRows catalog call.artifact.artifactId = call.artifact.inputArtifactIds := by
    rw [← hid, ← hinputs]
    refine lineageRows_eq ?_
    rw [h.lineage, hid]
    exact congrArg (fun o => (o.map fun call => edgesOf call.artifact).getD []) hfirst
  rw [upsertExactArtifact, show catalog.artifactIndex.get? call.artifact.artifactId = _ from hrow]
  simp [rowOf, IndexCall.buildKey, hkind, hmanifest, hkey, hlineage, refuseIf_of_not]

/-- A known run that is verified has the row its manifest gives. -/
theorem upsertRun_known (h : Describes repository calls catalog)
    (hfirst : firstCall calls call.artifactId = some first)
    (hsame : sameDescriptor first.artifact call.artifact)
    (hentry : entryOf repository call.artifact = .ok entry)
    (hfree : ¬ Contested (bids calls) first.buildKey) :
    upsertRunEntry catalog call.artifact entry = .ok catalog := by
  have hrun := h.runs call.artifactId
  rw [hfirst, Option.bind_some, runOf_congr hsame, hsame.2.1, runOf_eq hentry] at hrun
  have hget : catalog.runIndex.get? call.artifact.artifactId = _ := hrun
  rw [upsertRunEntry, hget]
  by_cases hkind : call.artifact.kind = .run
  · rw [if_neg (not_not.mpr hkind), if_pos ⟨hkind, hfree⟩]
    show (do checkRunRow call.artifact entry (projectedRow call.artifact entry); .ok catalog) = _
    rw [checkRunRow_projected hentry]
    rfl
  · rw [if_pos hkind, if_neg fun hcond => hkind hcond.1]
    rfl

/-! ## A new artifact -/

/-- The tables once the artifact of a call is in the index, before its build key is resolved. -/
structure Upserted (repository : ArtifactRepository) (calls : List IndexCall) (call : IndexCall)
    (catalog : Catalog) : Prop where
  others : ∀ artifactId, artifactId ≠ call.artifactId →
    catalog.artifactIndex.get? artifactId = (firstCall calls artifactId).map fun first =>
      rowOf (Contested (bids calls) first.buildKey) first
  own : ∃ contested first, firstCall (calls ++ [call]) call.artifactId = some first ∧
    first.buildKey = call.buildKey ∧
    catalog.artifactIndex.get? call.artifactId = some (rowOf contested first)
  mappings : ∀ buildKey,
    (catalog.buildKeyMapping.get? buildKey).map (fun row => (row.artifactId, row.status)) =
      (owner (bids calls) buildKey).map fun artifactId =>
        (artifactId, if Contested (bids calls) buildKey then .conflict else .verified)
  conflicts : ∀ buildKey artifactId,
    (catalog.artifactBuildConflicts.get? (toLex (buildKey, artifactId))).isSome ↔
      Contested (bids calls) buildKey ∧ (buildKey, artifactId) ∈ bids calls
  lineage : ∀ artifactId,
    (catalog.lineageEdges.entries.filter fun edge => edge.1.1 = artifactId) =
      ((firstCall (calls ++ [call]) artifactId).map fun call => edgesOf call.artifact).getD []
  runs : ∀ artifactId, catalog.runIndex.get? artifactId =
    (firstCall calls artifactId).bind fun first =>
      if first.artifact.kind = .run ∧ ¬ Contested (bids calls) first.buildKey then
        runOf repository first.artifact
      else none

/-- The tables as they are have a known artifact in the index. -/
theorem Describes.upserted (h : Describes repository calls catalog)
    (hfirst : firstCall calls call.artifactId = some first)
    (hkey : first.buildKey = call.buildKey) : Upserted repository calls call catalog where
  others := fun artifactId _ => h.artifacts artifactId
  own := ⟨_, first, (firstCall_concat_seen hfirst).trans hfirst, hkey, h.row hfirst⟩
  mappings := h.mappings
  conflicts := h.conflicts
  lineage := (h.seen hfirst hkey).lineage
  runs := h.runs

/-- A new artifact that can be indexed goes in as a verified one. -/
theorem Describes.upsert_new (h : Describes repository calls catalog)
    (hnew : firstCall calls call.artifactId = none) (hcall : Indexable repository call.artifact) :
    ∃ catalog', upsertExactArtifact catalog call.artifact call.nowNs = .ok catalog' ∧
      Upserted repository calls call catalog' ∧
      catalog'.artifactIndex.get? call.artifactId = some (rowOf false call) ∧
      catalog'.runIndexState = catalog.runIndexState ∧
      catalog'.reconciliationState = catalog.reconciliationState := by
  have hnone : catalog.artifactIndex.get? call.artifact.artifactId = none := by
    have hrow := h.artifacts call.artifactId
    rwa [hnew, Option.map_none] at hrow
  have hfresh : (catalog.lineageEdges.entries.filter
      fun edge => edge.1.1 = call.artifact.artifactId) = [] := by
    have hedges := h.lineage call.artifactId
    rwa [hnew] at hedges
  obtain ⟨edges, hedges⟩ := exists_edges hcall.distinct hfresh
  have hset : ∀ artifactId, (catalog.artifactIndex.set call.artifactId (rowOf false call)).get?
      artifactId = if artifactId = call.artifactId then some (rowOf false call)
        else catalog.artifactIndex.get? artifactId := fun _ => Dict.get?_set _ _ _ _
  refine ⟨{ catalog with
    artifactIndex := catalog.artifactIndex.set call.artifactId (rowOf false call)
    lineageEdges := edges }, ?_, ?_, ?_, rfl, rfl⟩
  · rw [upsertExactArtifact, hnone]
    exact (insertArtifact_eq_ok hfresh).mpr
      ⟨hnone, hcall.acyclic, hcall.distinct, edges, hedges, rfl⟩
  · refine ⟨?_, ⟨false, call, firstCall_concat_new hnew, rfl, ?_⟩, h.mappings, h.conflicts, ?_,
      h.runs⟩
    · intro artifactId hne
      rw [← h.artifacts]
      exact (hset artifactId).trans (if_neg hne)
    · exact (hset _).trans (if_pos rfl)
    · intro artifactId
      rw [filter_append_edgesOf artifactId hedges, h.lineage]
      by_cases hid : call.artifact.artifactId = artifactId
      · subst hid
        rw [if_pos rfl]
        show ((firstCall calls call.artifactId).map _).getD [] ++ _ =
          ((firstCall (calls ++ [call]) call.artifactId).map _).getD []
        rw [hnew, firstCall_concat_new hnew]
        rfl
      · rw [if_neg hid, List.append_nil, firstCall_concat_of_ne hid]
  · exact (hset _).trans (if_pos rfl)

/-- The entry of a run goes in beside its verified artifact. -/
theorem insertRunProjection_ok {row : ArtifactRow} (hentry : entryOf repository artifact = .ok entry)
    (hrow : catalog.artifactIndex.get? artifact.artifactId = some row) (hkind : row.kind = .run)
    (hstatus : row.status = .verified) (hmanifest : row.manifestDigest = artifact.manifestDigest.hex)
    (hnone : catalog.runIndex.get? artifact.artifactId = none) :
    insertRunProjection catalog artifact entry = .ok { catalog with
      runIndex := catalog.runIndex.set artifact.artifactId (projectedRow artifact entry)
      runIndexState := catalog.runIndexState.touched } := by
  have hidentity : ¬ ∃ run ∈ entry, run.artifactId ≠ artifact.artifactId ∨
      run.manifestDigest ≠ artifact.manifestDigest.hex := by
    rintro ⟨run, rfl, hne⟩
    obtain ⟨hid, hdigest, -⟩ := entryOf_some hentry
    exact hne.elim (fun h => h hid) fun h => h hdigest
  have htimes : ¬ ∃ columns ∈ (projectedRow artifact entry).queryable,
      columns.startedAtNs < 0 ∨ columns.completedAtNs < columns.startedAtNs := by
    rintro ⟨columns, hcolumns, hbad⟩
    obtain ⟨run, rfl, rfl⟩ := Option.map_eq_some_iff.mp hcolumns
    exact (entryOf_some hentry).2.2 hbad
  have hattached : ¬ runDetached catalog artifact.artifactId (projectedRow artifact entry) := by
    intro hdetached
    rcases hdetached row hrow with hne | hne | hne
    · exact hne hkind
    · exact hne hstatus
    · exact hne hmanifest.symm
  rw [insertRunProjection]
  dsimp only
  rw [refuseIf_of_not hidentity, refuseIf_of_not htimes, refuseIf_of_not hattached, ok_bind,
    ok_bind, ok_bind, Table.insert, refuseIf_of_not (by simp [hnone])]
  rfl

section FirstOfKey

variable (h : Upserted repository calls call catalog)
  (hnew : firstCall calls call.artifactId = none)
  (howner : owner (bids calls) call.buildKey = none)

include howner

/-- The first to ask for a key contests nothing. -/
theorem first_not_contested : ¬ Contested (bids (calls ++ [call])) call.buildKey := by
  rw [bids_concat, contested_concat, contested_iff]
  rintro (⟨i, -, hi, -, -⟩ | ⟨-, i, hi, -⟩)
  · exact owner_eq_none.mp howner i hi
  · exact owner_eq_none.mp howner i hi

theorem first_contests_no_other (hmem : first ∈ calls) :
    Contested (bids (calls ++ [call])) first.buildKey ↔ Contested (bids calls) first.buildKey := by
  rw [bids_concat]
  exact contested_concat_of_ne fun hkey =>
    owner_eq_none.mp howner first.artifactId (hkey ▸ bid_mem hmem)

include h

/-- The projection has the rows of the artifacts before. -/
theorem Upserted.runs_of_others {artifactId : ArtifactId} (hne : artifactId ≠ call.artifactId) :
    catalog.runIndex.get? artifactId =
      (firstCall (calls ++ [call]) artifactId).bind fun first =>
        if first.artifact.kind = .run ∧ ¬ Contested (bids (calls ++ [call])) first.buildKey then
          runOf repository first.artifact
        else none := by
  rw [firstCall_concat_of_ne hne.symm, h.runs]
  cases hfirst : firstCall calls artifactId with
  | none => rfl
  | some first =>
    simp only [Option.bind_some, first_contests_no_other howner (firstCall_mem hfirst).1]

include hnew

/-- With the mapping of its key to the new artifact, and the row of a run, the tables are right. -/
theorem Upserted.describes_first
    (hrow : catalog.artifactIndex.get? call.artifactId = some (rowOf false call))
    (runs : Dict ArtifactId RunRow) (state : RunIndexState)
    (hruns : ∀ artifactId, runs.get? artifactId =
      (firstCall (calls ++ [call]) artifactId).bind fun first =>
        if first.artifact.kind = .run ∧ ¬ Contested (bids (calls ++ [call])) first.buildKey then
          runOf repository first.artifact
        else none) :
    Describes repository (calls ++ [call]) { catalog with
      buildKeyMapping := catalog.buildKeyMapping.set call.buildKey
        ⟨call.artifactId, .verified, call.nowNs, call.nowNs⟩
      runIndex := runs
      runIndexState := state } := by
  have hfree := first_not_contested howner
  refine ⟨?_, ?_, ?_, h.lineage, hruns⟩
  · intro artifactId
    by_cases hid : artifactId = call.artifactId
    · subst hid
      rw [hrow, firstCall_concat_new hnew, Option.map_some, decide_eq_false hfree]
    · rw [h.others artifactId hid, firstCall_concat_of_ne (Ne.symm hid)]
      cases hfirst : firstCall calls artifactId with
      | none => rfl
      | some first =>
        simp only [Option.map_some, first_contests_no_other howner (firstCall_mem hfirst).1]
  · intro buildKey
    rw [Dict.get?_set, bids_concat, owner_concat, ← bids_concat]
    by_cases hkey : buildKey = call.buildKey
    · subst hkey
      rw [if_pos rfl, howner, Option.none_or, if_pos rfl, Option.map_some, Option.map_some,
        if_neg hfree]
    · rw [if_neg hkey, if_neg (Ne.symm hkey), Option.or_none, h.mappings, bids_concat]
      simp only [contested_concat_of_ne (Ne.symm hkey)]
  · intro buildKey artifactId
    rw [h.conflicts]
    by_cases hkey : buildKey = call.buildKey
    · subst hkey
      rw [bids_concat] at hfree ⊢
      have hfree' : ¬ Contested (bids calls) call.buildKey :=
        fun hc => hfree (contested_concat.mpr (.inl hc))
      simp only [hfree, hfree', false_and]
    · rw [bids_concat, contested_concat_of_ne (Ne.symm hkey), List.mem_append, List.mem_singleton]
      simp [hkey]

/-- **The first artifact of a build key.**  The key resolves to it, and a run is projected. -/
theorem Upserted.first_of_key
    (hrow : catalog.artifactIndex.get? call.artifactId = some (rowOf false call))
    (hentry : entryOf repository call.artifact = .ok entry) :
    ∃ resolved catalog',
      resolveBuildKey catalog call.artifact call.nowNs = .ok resolved ∧
      projectVerified resolved call.artifact entry = .ok catalog' ∧
      Describes repository (calls ++ [call]) catalog' ∧
      catalog'.reconciliationState = catalog.reconciliationState := by
  have hmapping : catalog.buildKeyMapping.get? call.artifact.buildKey.hex = none := by
    have hnone := h.mappings call.buildKey
    rw [howner, Option.map_none, Option.map_eq_none_iff] at hnone
    exact hnone
  have hnorun : catalog.runIndex.get? call.artifact.artifactId = none := by
    have hrun := h.runs call.artifactId
    rwa [hnew, Option.bind_none] at hrun
  by_cases hkind : call.artifact.kind = .run
  · refine ⟨_, _, by rw [resolveBuildKey, hmapping], ?_,
      h.describes_first hnew howner hrow
        (catalog.runIndex.set call.artifactId (projectedRow call.artifact entry))
        catalog.runIndexState.touched ?_, rfl⟩
    · rw [projectVerified, if_pos rfl, upsertRunEntry, if_neg (not_not.mpr hkind)]
      dsimp only
      rw [hnorun]
      exact insertRunProjection_ok hentry hrow hkind rfl rfl hnorun
    · intro artifactId
      by_cases hid : artifactId = call.artifactId
      · subst hid
        rw [firstCall_concat_new hnew, Option.bind_some,
          if_pos ⟨hkind, first_not_contested howner⟩, runOf_eq hentry]
        exact Dict.get?_set_self _ _ _
      · rw [← h.runs_of_others howner hid]
        exact Dict.get?_set_of_ne _ _ hid
  · refine ⟨_, _, by rw [resolveBuildKey, hmapping], ?_,
      h.describes_first hnew howner hrow catalog.runIndex catalog.runIndexState ?_, rfl⟩
    · rw [projectVerified, if_pos rfl, upsertRunEntry, if_pos hkind,
        refuseIf_of_not (by simp [hnorun])]
      rfl
    · intro artifactId
      by_cases hid : artifactId = call.artifactId
      · subst hid
        rw [firstCall_concat_new hnew, Option.bind_some, if_neg fun hcond => hkind hcond.1]
        exact hnorun
      · exact h.runs_of_others howner hid

end FirstOfKey

/-! ## A collision -/

theorem get?_quarantined (ids : List ArtifactId) (index : Dict ArtifactId ArtifactRow)
    (artifactId : ArtifactId) :
    (ids.foldl (fun index id => Table.update index id ArtifactRow.quarantine) index).get?
        artifactId =
      if artifactId ∈ ids then (index.get? artifactId).map ArtifactRow.quarantine
      else index.get? artifactId := by
  induction ids generalizing index with
  | nil => rfl
  | cons id rest ih =>
    rw [List.foldl_cons, ih, Table.get?_update]
    by_cases hid : artifactId = id
    · subst hid
      -- A row that is quarantined twice is quarantined once.
      have htwice : ArtifactRow.quarantine ∘ ArtifactRow.quarantine = ArtifactRow.quarantine := rfl
      simp [Option.map_map, htwice]
    · simp [hid]

/-- A deletion leaves the other tables as they are. -/
theorem deleteRuns_eq (ids : List ArtifactId) (catalog : Catalog) :
    ∃ runs state, ids.foldl deleteRun catalog =
        { catalog with runIndex := runs, runIndexState := state } ∧
      ∀ artifactId, runs.get? artifactId =
        if artifactId ∈ ids then none else catalog.runIndex.get? artifactId := by
  induction ids generalizing catalog with
  | nil => exact ⟨catalog.runIndex, catalog.runIndexState, rfl, fun _ => rfl⟩
  | cons id rest ih =>
    obtain ⟨runs, state, heq, hruns⟩ := ih (deleteRun catalog id)
    have hdelete : ∃ runs' state', deleteRun catalog id =
        { catalog with runIndex := runs', runIndexState := state' } ∧
        ∀ artifactId, runs'.get? artifactId =
          if artifactId = id then none else catalog.runIndex.get? artifactId := by
      rw [deleteRun]
      split
      · exact ⟨_, _, rfl, fun artifactId => Dict.get?_erase _ _ _⟩
      · rename_i hnone
        refine ⟨_, _, rfl, fun artifactId => ?_⟩
        split
        · rename_i hid
          rw [hid]
          simpa using hnone
        · rfl
    obtain ⟨runs', state', heq', hruns'⟩ := hdelete
    refine ⟨runs, state, by rw [List.foldl_cons, heq, heq'], fun artifactId => ?_⟩
    rw [hruns, heq', hruns']
    by_cases hid : artifactId = id <;> by_cases hmem : artifactId ∈ rest <;> simp [hid, hmem]

theorem get?_conflicts (ids : List ArtifactId) (rows : Dict (DigestText ×ₗ ArtifactId) Nat)
    (buildKey : DigestText) (nowNs : Nat) (key : DigestText ×ₗ ArtifactId) :
    ((ids.foldl (fun rows id => Table.insertOrIgnore rows (toLex (buildKey, id)) nowNs) rows).get?
        key).isSome ↔
      (rows.get? key).isSome ∨ ∃ id ∈ ids, key = toLex (buildKey, id) := by
  induction ids generalizing rows with
  | nil => simp
  | cons id rest ih =>
    rw [List.foldl_cons, ih, Table.get?_insertOrIgnore]
    by_cases hkey : key = toLex (buildKey, id) <;> simp [hkey]

/-- What a collision of two artifacts does to the tables. -/
structure Collided (catalog recorded : Catalog) (buildKey : DigestText) (id id' : ArtifactId) :
    Prop where
  artifacts : ∀ i, recorded.artifactIndex.get? i =
    if i = id ∨ i = id' then (catalog.artifactIndex.get? i).map ArtifactRow.quarantine
    else catalog.artifactIndex.get? i
  mappings : ∀ key,
    (recorded.buildKeyMapping.get? key).map (fun row => (row.artifactId, row.status)) =
      if key = buildKey then
        (catalog.buildKeyMapping.get? key).map fun row => (row.artifactId, .conflict)
      else (catalog.buildKeyMapping.get? key).map fun row => (row.artifactId, row.status)
  conflicts : ∀ key i, (recorded.artifactBuildConflicts.get? (toLex (key, i))).isSome ↔
    (catalog.artifactBuildConflicts.get? (toLex (key, i))).isSome ∨
      key = buildKey ∧ (i = id ∨ i = id')
  runs : ∀ i, recorded.runIndex.get? i =
    if i = id ∨ i = id' then none else catalog.runIndex.get? i
  lineage : recorded.lineageEdges = catalog.lineageEdges
  reconciliation : recorded.reconciliationState = catalog.reconciliationState

/-- **A collision.**  The two artifacts are quarantined and leave the projection, the build key is
in conflict, and both are among its conflicts. -/
theorem recordCollision_collided (buildKey : DigestText) (id id' : ArtifactId) (nowNs : Nat) :
    Collided catalog (recordCollision catalog buildKey [id, id'] nowNs).1 buildKey id id' := by
  have hmem : ∀ i, i ∈ [id, id'].dedup.insertionSort (· ≤ ·) ↔ i = id ∨ i = id' := by
    intro i
    rw [List.mem_insertionSort, List.mem_dedup]
    simp
  obtain ⟨runs, state, hdelete, hruns⟩ :=
    deleteRuns_eq ([id, id'].dedup.insertionSort (· ≤ ·)) { catalog with
      artifactIndex := ([id, id'].dedup.insertionSort (· ≤ ·)).foldl (fun index artifactId =>
        Table.update index artifactId ArtifactRow.quarantine) catalog.artifactIndex }
  refine ⟨?_, ?_, ?_, ?_, ?_, ?_⟩
  all_goals rw [recordCollision]
  all_goals dsimp only
  all_goals rw [hdelete]
  · intro i
    simp only [get?_quarantined, hmem]
  · intro key
    rw [Table.get?_update]
    by_cases hkey : key = buildKey
    · subst hkey
      rw [if_pos rfl, if_pos rfl, Option.map_map]
      rfl
    · rw [if_neg hkey, if_neg hkey]
  · intro key i
    rw [get?_conflicts]
    simp only [hmem, toLex_inj, Prod.mk.injEq]
    constructor
    · rintro (h | ⟨j, hj, hkey, rfl⟩)
      · exact .inl h
      · exact .inr ⟨hkey, hj⟩
    · rintro (h | ⟨hkey, hi⟩)
      · exact .inl h
      · exact .inr ⟨i, hi, hkey, rfl⟩
  · intro i
    simp only [hruns, hmem]

section Collision

variable {owned : ArtifactId} (h : Upserted repository calls call catalog)
  (howner : owner (bids calls) call.buildKey = some owned)

include howner

/-- Nothing is contested by the call that was not, of an artifact that did not collide. -/
theorem contested_of_others {artifactId : ArtifactId}
    (hfirst : firstCall calls artifactId = some first) (hne : artifactId ≠ owned) :
    Contested (bids (calls ++ [call])) first.buildKey ↔ Contested (bids calls) first.buildKey := by
  obtain ⟨hmem, rfl⟩ := firstCall_mem hfirst
  rw [bids_concat, contested_concat]
  refine or_iff_left_of_imp ?_
  rintro ⟨hkey, -⟩
  exact contested_iff.mpr ⟨_, _, bid_mem hmem, hkey ▸ owner_mem howner, hne⟩

include h

/-- The artifacts that collide ask for the same key. -/
theorem Upserted.key_of_colliding
    (hkeys : ∀ c ∈ calls, ∀ c' ∈ calls, c.artifactId = c'.artifactId → c.buildKey = c'.buildKey)
    {artifactId : ArtifactId} (hid : artifactId = owned ∨ artifactId = call.artifactId) :
    ∃ contested first, firstCall (calls ++ [call]) artifactId = some first ∧
      first.buildKey = call.buildKey ∧
      catalog.artifactIndex.get? artifactId = some (rowOf contested first) := by
  by_cases hcall : artifactId = call.artifactId
  · exact hcall ▸ h.own
  · obtain rfl := hid.resolve_right hcall
    obtain ⟨asked, hasked, hkey, haskedId⟩ := mem_bids.mp (owner_mem howner)
    obtain ⟨first, hfirst⟩ := exists_firstCall hasked haskedId
    obtain ⟨hmem, hfirstId⟩ := firstCall_mem hfirst
    refine ⟨decide (Contested (bids calls) first.buildKey), first,
      (firstCall_concat_of_ne (Ne.symm hcall)).trans hfirst,
      (hkeys first hmem asked hasked (hfirstId.trans haskedId.symm)).trans hkey, ?_⟩
    rw [h.others _ hcall, hfirst, Option.map_some]

/-- **After a collision.**  The tables say of the calls what they say without one. -/
theorem Upserted.collides {recorded : Catalog}
    (hkeys : ∀ c ∈ calls, ∀ c' ∈ calls, c.artifactId = c'.artifactId → c.buildKey = c'.buildKey)
    (hcontested : Contested (bids (calls ++ [call])) call.buildKey)
    (hrec : Collided catalog recorded call.buildKey owned call.artifactId) :
    Describes repository (calls ++ [call]) recorded := by
  refine ⟨?_, ?_, ?_, fun artifactId => by rw [hrec.lineage, h.lineage], ?_⟩
  · intro artifactId
    rw [hrec.artifacts]
    by_cases hid : artifactId = owned ∨ artifactId = call.artifactId
    · obtain ⟨contested, first, hfirst, hkey, hrow⟩ := h.key_of_colliding howner hkeys hid
      rw [if_pos hid, hfirst, hrow, Option.map_some, Option.map_some, hkey,
        decide_eq_true hcontested]
      rfl
    · obtain ⟨hne, hnew⟩ := not_or.mp hid
      rw [if_neg hid, h.others _ hnew, firstCall_concat_of_ne (Ne.symm hnew)]
      cases hfirst : firstCall calls artifactId with
      | none => rfl
      | some first => simp only [Option.map_some, contested_of_others howner hfirst hne]
  · intro buildKey
    rw [hrec.mappings]
    by_cases hkey : buildKey = call.buildKey
    · subst hkey
      have hrow := h.mappings call.buildKey
      rw [howner, Option.map_some, Option.map_eq_some_iff] at hrow
      obtain ⟨row, hget, he⟩ := hrow
      rw [if_pos rfl, hget, if_pos hcontested, bids_concat, owner_concat, howner, Option.some_or,
        Option.map_some, Option.map_some, (Prod.mk.inj he).1]
    · rw [if_neg hkey, h.mappings, bids_concat, owner_concat, if_neg (Ne.symm hkey),
        Option.or_none]
      simp only [contested_concat_of_ne (Ne.symm hkey)]
  · intro buildKey artifactId
    rw [hrec.conflicts, h.conflicts]
    by_cases hkey : buildKey = call.buildKey
    · subst hkey
      rw [bids_concat] at hcontested ⊢
      rw [List.mem_append, List.mem_singleton, Prod.mk.injEq]
      constructor
      · rintro (⟨-, hmem⟩ | ⟨-, rfl | rfl⟩)
        · exact ⟨hcontested, .inl hmem⟩
        · exact ⟨hcontested, .inl (owner_mem howner)⟩
        · exact ⟨hcontested, .inr ⟨rfl, rfl⟩⟩
      · rintro ⟨-, hmem | ⟨-, rfl⟩⟩
        · by_cases hold : Contested (bids calls) call.buildKey
          · exact .inl ⟨hold, hmem⟩
          · exact .inr ⟨rfl, .inl (eq_of_not_contested hold hmem (owner_mem howner))⟩
        · exact .inr ⟨rfl, .inr rfl⟩
    · rw [bids_concat, contested_concat_of_ne (Ne.symm hkey), List.mem_append, List.mem_singleton,
        Prod.mk.injEq]
      simp [hkey]
  · intro artifactId
    rw [hrec.runs]
    by_cases hid : artifactId = owned ∨ artifactId = call.artifactId
    · obtain ⟨contested, first, hfirst, hkey, -⟩ := h.key_of_colliding howner hkeys hid
      rw [if_pos hid, hfirst, Option.bind_some, hkey, if_neg fun hcond => hcond.2 hcontested]
    · obtain ⟨hne, hnew⟩ := not_or.mp hid
      rw [if_neg hid, h.runs, firstCall_concat_of_ne (Ne.symm hnew)]
      cases hfirst : firstCall calls artifactId with
      | none => rfl
      | some first => simp only [Option.bind_some, contested_of_others howner hfirst hne]

end Collision

/-! ## One call -/

/-- A contested build key has two conflicts at least. -/
theorem Describes.collision_checked (h : Describes repository calls catalog) {buildKey : DigestText}
    (hcontested : Contested (bids calls) buildKey) :
    ∃ collision, BuildKeyCollision.checked buildKey (conflictIds catalog buildKey) =
      .ok collision := by
  obtain ⟨i, j, hi, hj, hne⟩ := contested_iff.mp hcontested
  have hmem : ∀ i, (buildKey, i) ∈ bids calls →
      i ∈ (conflictIds catalog buildKey).dedup.insertionSort (· ≤ ·) := by
    intro i hi
    rw [List.mem_insertionSort, List.mem_dedup, conflictIds, List.mem_map]
    refine ⟨toLex (buildKey, i), List.mem_filter.mpr ⟨Table.mem_keys.mpr ?_, by simp⟩, rfl⟩
    exact Option.isSome_iff_exists.mp ((h.conflicts buildKey i).mpr ⟨hcontested, hi⟩)
  have hlength : ¬ ((conflictIds catalog buildKey).dedup.insertionSort (· ≤ ·)).length < 2 := by
    intro hlt
    have hi' := hmem i hi
    have hj' := hmem j hj
    match hl : (conflictIds catalog buildKey).dedup.insertionSort (· ≤ ·), hlt with
    | [], _ => simp [hl] at hi'
    | [k], _ =>
      rw [hl, List.mem_singleton] at hi' hj'
      exact hne (hi'.trans hj'.symm)
  exact ⟨_, by rw [BuildKeyCollision.checked, refuseIf_of_not hlength]; rfl⟩

/-- A build key that resolves to something else than the artifact reports a collision. -/
theorem Upserted.resolve_collision (h : Upserted repository calls call catalog)
    {owned : ArtifactId} (howner : owner (bids calls) call.buildKey = some owned)
    (hkeys : ∀ c ∈ calls, ∀ c' ∈ calls, c.artifactId = c'.artifactId → c.buildKey = c'.buildKey)
    (hcontested : Contested (bids (calls ++ [call])) call.buildKey)
    (hother : Contested (bids calls) call.buildKey ∨ owned ≠ call.artifactId) :
    ∃ resolved, resolveBuildKey catalog call.artifact call.nowNs = .ok resolved ∧
      resolved.2 ≠ none ∧ Describes repository (calls ++ [call]) resolved.1 ∧
      resolved.1.reconciliationState = catalog.reconciliationState := by
  have hrow := h.mappings call.buildKey
  rw [howner, Option.map_some, Option.map_eq_some_iff] at hrow
  obtain ⟨row, hget, he⟩ := hrow
  obtain ⟨rfl, hstatus⟩ := Prod.mk.inj he
  have hne : ¬ (row.status = .verified ∧ row.artifactId = call.artifact.artifactId) := by
    rintro ⟨hverified, hown⟩
    rcases hother with hold | hother
    · rw [if_pos hold, hverified] at hstatus
      exact absurd hstatus (by decide)
    · exact hother hown
  have hrec : Collided catalog (recordCollision catalog call.buildKey
      [row.artifactId, call.artifactId] call.nowNs).1 call.buildKey row.artifactId
      call.artifactId := recordCollision_collided _ _ _ _
  have hdescribes := h.collides howner hkeys hcontested hrec
  obtain ⟨collision, hchecked⟩ := hdescribes.collision_checked hcontested
  refine ⟨(_, some collision), ?_, by simp, hdescribes, hrec.reconciliation⟩
  rw [resolveBuildKey, show catalog.buildKeyMapping.get? call.artifact.buildKey.hex = _ from hget]
  dsimp only
  rw [if_neg hne]
  exact bind_eq_ok.mpr ⟨collision, hchecked, rfl⟩

/-- **One call.**  The transaction of a call for an artifact that can be indexed commits, and what
the tables said of the calls before they say of the calls with this one. -/
theorem writeVerified_describes (h : Describes repository calls catalog)
    (hcomplete : catalog.runIndexState.status = .complete)
    (hall : ∀ call ∈ calls, Indexable repository call.artifact)
    (hcall : Indexable repository call.artifact)
    (hentry : entryOf repository call.artifact = .ok entry) :
    ∃ catalog' collision,
      writeVerified catalog call.artifact entry call.nowNs = .ok (catalog', collision) ∧
      Describes repository (calls ++ [call]) catalog' ∧
      catalog'.runIndexState.status = .complete ∧
      catalog'.reconciliationState = catalog.reconciliationState := by
  have hkeys : ∀ c ∈ calls, ∀ c' ∈ calls,
      c.artifactId = c'.artifactId → c.buildKey = c'.buildKey :=
    fun c hc c' hc' hid => ((hall c hc).same (hall c' hc') hid).2.2.2.1
  have hall' : ∀ c ∈ calls ++ [call], Indexable repository c.artifact := by
    intro c hc
    rcases List.mem_append.mp hc with hc | hc
    · exact hall c hc
    · exact List.mem_singleton.mp hc ▸ hcall
  suffices hresolved : ∃ upserted resolved projected,
      upsertExactArtifact catalog call.artifact call.nowNs = .ok upserted ∧
      resolveBuildKey upserted call.artifact call.nowNs = .ok resolved ∧
      projectVerified resolved call.artifact entry = .ok projected ∧
      Describes repository (calls ++ [call]) projected ∧
      projected.reconciliationState = catalog.reconciliationState by
    obtain ⟨upserted, resolved, projected, hupsert, hresolve, hproject, hdescribes, hstate⟩ :=
      hresolved
    obtain ⟨catalog', hmark, hdescribes', hcomplete', hstate'⟩ := hdescribes.marked hall'
    refine ⟨catalog', resolved.2, ?_, hdescribes', hcomplete', hstate'.trans hstate⟩
    rw [writeVerified, requireRunIndexComplete, refuseIf_of_not (not_not.mpr hcomplete), ok_bind,
      hupsert, ok_bind, hresolve, ok_bind, hproject, ok_bind, hmark]
    rfl
  cases hfirst : firstCall calls call.artifactId with
  | some first =>
    obtain ⟨hmem, hid⟩ := firstCall_mem hfirst
    have hsame := (hall first hmem).same hcall hid
    have hkey : first.buildKey = call.buildKey := hsame.2.2.2.1
    have hbid : (call.buildKey, call.artifactId) ∈ bids calls := hid ▸ hkey ▸ bid_mem hmem
    by_cases hcontested : Contested (bids calls) call.buildKey
    · obtain ⟨owned, howner⟩ := exists_owner hbid
      have hcontested' : Contested (bids (calls ++ [call])) call.buildKey := by
        rw [bids_concat]
        exact contested_concat.mpr (.inl hcontested)
      obtain ⟨resolved, hresolve, hcollision, hdescribes, hstate⟩ :=
        (h.upserted hfirst hkey).resolve_collision howner hkeys hcontested' (.inl hcontested)
      exact ⟨catalog, resolved, resolved.1, upsert_known h hfirst hsame, hresolve,
        if_neg hcollision, hdescribes, hstate⟩
    · obtain ⟨row, hget, hrowId, hstatus⟩ := h.mapping hbid hcontested
      refine ⟨catalog, (catalog, none), catalog, upsert_known h hfirst hsame, ?_, ?_,
        h.seen hfirst hkey, rfl⟩
      · rw [resolveBuildKey,
          show catalog.buildKeyMapping.get? call.artifact.buildKey.hex = _ from hget]
        exact if_pos ⟨hstatus, hrowId⟩
      · rw [projectVerified, if_pos rfl]
        exact upsertRun_known h hfirst hsame hentry (hkey ▸ hcontested)
  | none =>
    obtain ⟨upserted, hupsert, hup, hrow, -, hstate⟩ := h.upsert_new hfirst hcall
    cases howner : owner (bids calls) call.buildKey with
    | none =>
      obtain ⟨resolved, projected, hresolve, hproject, hdescribes, hstate'⟩ :=
        hup.first_of_key hfirst howner hrow hentry
      exact ⟨upserted, resolved, projected, hupsert, hresolve, hproject, hdescribes,
        hstate'.trans hstate⟩
    | some owned =>
      have hne : owned ≠ call.artifactId := by
        rintro rfl
        obtain ⟨c, hc, -, hcid⟩ := mem_bids.mp (owner_mem howner)
        exact firstCall_eq_none.mp hfirst c hc hcid
      have hcontested : Contested (bids (calls ++ [call])) call.buildKey := by
        rw [bids_concat]
        exact contested_concat.mpr (.inr ⟨rfl, owned, owner_mem howner, hne⟩)
      obtain ⟨resolved, hresolve, hcollision, hdescribes, hstate'⟩ :=
        hup.resolve_collision howner hkeys hcontested (.inr hne)
      exact ⟨upserted, resolved, resolved.1, hupsert, hresolve, if_neg hcollision, hdescribes,
        hstate'.trans hstate⟩

end Artifacts

end OnchainBacktest
