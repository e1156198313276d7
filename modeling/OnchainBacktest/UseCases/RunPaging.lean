import OnchainBacktest.Artifacts.CatalogSteps
import OnchainBacktest.UseCases.QueryRuns

/-!
# Runs indexed between pages

A list of runs is read page by page while further runs are indexed.  What a call of the index keeps
(`indexInto_later`) is what a whole reading keeps: a run stays where it is unless a collision that
is reported names it, and a run that was quarantined never comes back.

`runPagingLaw_iff` says of which lists the paging law holds.
-/

set_option autoImplicit false

namespace OnchainBacktest

namespace UseCases

open Artifacts
open Checked
open Paging (Page above walk)

/-! ## Readings -/

/-- A call of `index_committed`: the catalog after it, and the collision it reports.  After a fault,
or a time that a column does not hold, the catalog is as it was. -/
def indexInto (repository : ArtifactRepository) (catalog : Catalog) (call : IndexCall) :
    Catalog × Option BuildKeyCollision :=
  match indexCommitted repository catalog call.artifact call.nowNs with
  | .error _ => (catalog, none)
  | .ok indexed => if TimesStored indexed.1 then indexed else (catalog, none)

/-- The calls one after the other, with the collisions they report. -/
def indexEach (repository : ArtifactRepository) :
    Catalog → List IndexCall → Catalog × List BuildKeyCollision
  | catalog, [] => (catalog, [])
  | catalog, call :: calls =>
    let indexed := indexInto repository catalog call
    let rest := indexEach repository indexed.1 calls
    (rest.1, indexed.2.toList ++ rest.2)

/-- A page of a list, the files it is read beside, and what is indexed after it. -/
structure RunVisit where
  repository : ArtifactRepository
  limit : Nat
  calls : List IndexCall

/-- What a page is read from. -/
structure RunMoment where
  repository : ArtifactRepository
  catalog : Catalog
  limit : Nat

/-- What the pages of a reading are read from. -/
def runMoments : Catalog → List RunVisit → List RunMoment
  | _, [] => []
  | catalog, visit :: visits =>
    ⟨visit.repository, catalog, visit.limit⟩ ::
      runMoments (indexEach visit.repository catalog visit.calls).1 visits

/-- The collisions that are reported in a reading. -/
def reportedCollisions : Catalog → List RunVisit → List BuildKeyCollision
  | _, [] => []
  | catalog, visit :: visits =>
    let indexed := indexEach visit.repository catalog visit.calls
    indexed.2 ++ reportedCollisions indexed.1 visits

/-- The limits a page can be asked for. -/
def ProperLimits (visits : List RunVisit) : Prop :=
  ∀ visit ∈ visits, 1 ≤ visit.limit ∧ visit.limit ≤ 1000

/-- One page of a list. -/
def readRuns (logicalRunId : Option ContentDigest) (moment : RunMoment)
    (after : Option RunListCursor) : Except RunQueryFault (Page RunSummaryView RunListCursor) :=
  runPage moment.repository moment.catalog logicalRunId moment.limit 0 after

/-- The pages of a list from the start, each after the next cursor of the one before. -/
def listRuns (catalog : Catalog) (logicalRunId : Option ContentDigest) (visits : List RunVisit) :
    Except RunQueryFault (List RunSummaryView × Bool) :=
  walk (readRuns logicalRunId) (runMoments catalog visits) none

/-! ## What indexing keeps -/

/-- The row of an artifact that is not verified any more. -/
def Unverified (catalog : Catalog) (artifactId : ArtifactId) : Prop :=
  ∃ row, catalog.artifactIndex.get? artifactId = some row ∧ row.status ≠ .verified

/-- Every run of the projection has its row until it is among the collided, and no artifact is
verified again. -/
structure RunsLater (collided : ArtifactId → Prop) (catalog catalog' : Catalog) : Prop where
  runs : ∀ artifactId run, catalog.runIndex.get? artifactId = some run →
    catalog'.runIndex.get? artifactId = some run ∨
      collided artifactId ∧ Unverified catalog' artifactId
  unverified : ∀ artifactId, Unverified catalog artifactId → Unverified catalog' artifactId

section Later

variable {catalog catalog' catalog'' : Catalog} {collided collided' : ArtifactId → Prop}
  {artifact : CommittedArtifact} {nowNs : Nat}

theorem RunsLater.refl (collided : ArtifactId → Prop) (catalog : Catalog) :
    RunsLater collided catalog catalog :=
  ⟨fun _ _ hrun => .inl hrun, fun _ h => h⟩

theorem RunsLater.mono (h : RunsLater collided catalog catalog')
    (himp : ∀ artifactId, collided artifactId → collided' artifactId) :
    RunsLater collided' catalog catalog' :=
  ⟨fun artifactId run hrun => (h.runs artifactId run hrun).imp_right fun hc =>
    ⟨himp artifactId hc.1, hc.2⟩, h.unverified⟩

theorem RunsLater.trans (h : RunsLater collided catalog catalog')
    (h' : RunsLater collided catalog' catalog'') : RunsLater collided catalog catalog'' where
  runs artifactId run hrun := by
    rcases h.runs artifactId run hrun with hrun | ⟨hcollided, hstatus⟩
    · exact h'.runs artifactId run hrun
    · exact .inr ⟨hcollided, h'.unverified artifactId hstatus⟩
  unverified artifactId hstatus := h'.unverified artifactId (h.unverified artifactId hstatus)

/-- Tables with the same rows of artifacts and of runs. -/
theorem RunsLater.of_eq (hindex : catalog'.artifactIndex = catalog.artifactIndex)
    (hruns : catalog'.runIndex = catalog.runIndex) : RunsLater collided catalog catalog' := by
  refine ⟨fun artifactId run hrun => .inl (hruns ▸ hrun), fun artifactId h => ?_⟩
  rwa [Unverified, hindex]

theorem upsertExactArtifact_later (collided : ArtifactId → Prop)
    (h : upsertExactArtifact catalog artifact nowNs = .ok catalog') :
    RunsLater collided catalog catalog' ∧ catalog'.runIndex = catalog.runIndex ∧
      ∀ artifactId row, catalog.artifactIndex.get? artifactId = some row →
        catalog'.artifactIndex.get? artifactId = some row := by
  rw [upsertExactArtifact] at h
  cases hrow : catalog.artifactIndex.get? artifact.artifactId with
  | none =>
    rw [hrow] at h
    obtain ⟨index, hindex, h⟩ := bind_eq_ok.mp h
    obtain ⟨edges, -, h⟩ := bind_eq_ok.mp h
    obtain ⟨-, rfl⟩ := Table.insert_eq_ok.mp hindex
    cases h
    have hkept : ∀ new artifactId row, catalog.artifactIndex.get? artifactId = some row →
        (catalog.artifactIndex.set artifact.artifactId new).get? artifactId = some row := by
      intro new artifactId row hget
      rw [Dict.get?_set_of_ne _ _ fun he => ?_]
      · exact hget
      · rw [he, hrow] at hget
        cases hget
    refine ⟨⟨fun _ _ hrun => .inl hrun, ?_⟩, rfl, hkept _⟩
    rintro artifactId ⟨row, hget, hstatus⟩
    exact ⟨row, hkept _ artifactId row hget, hstatus⟩
  | some row =>
    rw [hrow] at h
    obtain ⟨-, h⟩ := check_bind_eq_ok.mp h
    obtain ⟨-, h⟩ := check_bind_eq_ok.mp h
    cases h
    exact ⟨RunsLater.refl collided catalog, rfl, fun _ _ hget => hget⟩

/-- The artifacts that a collision names. -/
def namedBy (collision : Option BuildKeyCollision) (artifactId : ArtifactId) : Prop :=
  ∃ reported ∈ collision, artifactId ∈ reported.artifactIds

theorem mem_conflictIds {buildKey : DigestText} {artifactId : ArtifactId} :
    artifactId ∈ conflictIds catalog buildKey ↔
      (catalog.artifactBuildConflicts.get? (toLex (buildKey, artifactId))).isSome := by
  rw [conflictIds, List.mem_map, Option.isSome_iff_exists, ← Table.mem_keys]
  constructor
  · rintro ⟨key, hkey, rfl⟩
    obtain ⟨hmem, hsame⟩ := List.mem_filter.mp hkey
    rw [← of_decide_eq_true hsame]
    exact hmem
  · intro hmem
    exact ⟨toLex (buildKey, artifactId), List.mem_filter.mpr ⟨hmem, by simp⟩, rfl⟩

/-- What a build key resolves to takes the runs away that the collision names, and no others. -/
theorem resolveBuildKey_later {resolved : Catalog × Option BuildKeyCollision}
    (hrows : ∀ artifactId run, catalog.runIndex.get? artifactId = some run →
      ∃ row, catalog.artifactIndex.get? artifactId = some row)
    (h : resolveBuildKey catalog artifact nowNs = .ok resolved) :
    RunsLater (namedBy resolved.2) catalog resolved.1 := by
  rw [resolveBuildKey] at h
  cases hmapping : catalog.buildKeyMapping.get? artifact.buildKey.hex with
  | none =>
    rw [hmapping] at h
    cases h
    exact RunsLater.of_eq rfl rfl
  | some mapping =>
    rw [hmapping] at h
    dsimp only at h
    split at h
    · cases h
      exact RunsLater.refl _ _
    · obtain ⟨collision, hcollision, h⟩ := bind_eq_ok.mp h
      cases h
      have hrec : Collided catalog (recordCollision catalog artifact.buildKey.hex
          [mapping.artifactId, artifact.artifactId] nowNs).1 artifact.buildKey.hex
          mapping.artifactId artifact.artifactId := recordCollision_collided _ _ _ _
      obtain ⟨-, hnamed⟩ := check_bind_eq_ok.mp hcollision
      have hids : ∀ artifactId, artifactId = mapping.artifactId ∨ artifactId = artifact.artifactId →
          namedBy (some collision) artifactId := by
        intro artifactId hid
        refine ⟨collision, rfl, ?_⟩
        rw [← Except.ok.inj hnamed, List.mem_insertionSort, List.mem_dedup]
        exact mem_conflictIds.mpr ((hrec.conflicts _ _).mpr (.inr ⟨rfl, hid⟩))
      constructor
      · intro artifactId run hrun
        by_cases hid : artifactId = mapping.artifactId ∨ artifactId = artifact.artifactId
        · obtain ⟨row, hrow⟩ := hrows artifactId run hrun
          refine .inr ⟨hids artifactId hid, row.quarantine, ?_, by simp [ArtifactRow.quarantine]⟩
          rw [hrec.artifacts, if_pos hid, hrow, Option.map_some]
        · exact .inl (by rw [hrec.runs, if_neg hid, hrun])
      · rintro artifactId ⟨row, hget, hstatus⟩
        by_cases hid : artifactId = mapping.artifactId ∨ artifactId = artifact.artifactId
        · refine ⟨row.quarantine, ?_, by simp [ArtifactRow.quarantine]⟩
          rw [hrec.artifacts, if_pos hid, hget, Option.map_some]
        · exact ⟨row, by rw [hrec.artifacts, if_neg hid, hget], hstatus⟩

theorem projectVerified_later {resolved : Catalog × Option BuildKeyCollision}
    {entry : Option RunIndexEntry} (h : projectVerified resolved artifact entry = .ok catalog') :
    RunsLater collided resolved.1 catalog' := by
  rw [projectVerified] at h
  split at h
  · rw [upsertRunEntry] at h
    split at h
    · obtain ⟨-, h⟩ := check_bind_eq_ok.mp h
      cases h
      exact RunsLater.refl _ _
    · cases hrun : resolved.1.runIndex.get? artifact.artifactId with
      | none =>
        rw [hrun] at h
        obtain ⟨-, h⟩ := check_bind_eq_ok.mp h
        obtain ⟨-, h⟩ := check_bind_eq_ok.mp h
        obtain ⟨-, h⟩ := check_bind_eq_ok.mp h
        obtain ⟨runs, hruns, h⟩ := bind_eq_ok.mp h
        obtain ⟨-, rfl⟩ := Table.insert_eq_ok.mp hruns
        cases h
        refine ⟨fun artifactId run hget => .inl ?_, fun _ hstatus => hstatus⟩
        rw [Dict.get?_set_of_ne _ _ fun he => ?_]
        · exact hget
        · rw [he, hrun] at hget
          cases hget
      | some run =>
        rw [hrun] at h
        obtain ⟨-, h⟩ := check_bind_eq_ok.mp h
        cases h
        exact RunsLater.refl _ _
  · cases h
    exact RunsLater.refl _ _

/-- A complete projection has verified artifacts behind it, which their build keys resolve to. -/
theorem runListed_of_complete (h : verifyRunIndexCompleteness catalog = .ok ())
    {artifactId : ArtifactId} {run : RunRow} (hrun : catalog.runIndex.get? artifactId = some run) :
    runListed catalog artifactId run := by
  obtain ⟨-, h⟩ := check_bind_eq_ok.mp h
  obtain ⟨hmissing, hdetached⟩ := not_or.mp (refuseIf_eq_ok.mp h)
  have hattached : ¬ runDetached catalog artifactId run := fun hd =>
    hdetached ⟨_, Dict.get?_eq_some_iff.mp hrun, hd⟩
  simp only [runDetached, Option.mem_def, not_forall, not_or, not_not] at hattached
  obtain ⟨row, hrow, hkind, hstatus, hdigest⟩ := hattached
  have hpresent : ¬ runMissing catalog artifactId row := fun hm =>
    hmissing ⟨_, Dict.get?_eq_some_iff.mp hrow, hm⟩
  rw [runMissing, not_and, not_and, not_or] at hpresent
  have hmapping := (hpresent hkind hstatus).1
  simp only [Option.mem_def, not_forall, not_or, not_not] at hmapping
  obtain ⟨mapping, hmapping, hid, hverified⟩ := hmapping
  exact ⟨row, hrow, hkind, hstatus, hdigest, mapping, hmapping, hid, hverified⟩

theorem markRunIndexComplete_later (collided : ArtifactId → Prop)
    (h : markRunIndexComplete catalog = .ok catalog') :
    verifyRunIndexCompleteness catalog' = .ok () ∧ RunsLater collided catalog catalog' := by
  obtain ⟨hrows, h⟩ := check_bind_eq_ok.mp h
  cases h
  refine ⟨check_bind_eq_ok.mpr ⟨refuseIf_eq_ok.mpr (by simp), ?_⟩, RunsLater.of_eq rfl rfl⟩
  exact hrows

/-- **One call.**  The projection is complete after it, and of the runs those are gone that the
collision names. -/
theorem indexInto_later (repository : ArtifactRepository) (call : IndexCall)
    (h : Indexed catalog) :
    Indexed (indexInto repository catalog call).1 ∧
      RunsLater (namedBy (indexInto repository catalog call).2) catalog
        (indexInto repository catalog call).1 := by
  rw [indexInto]
  cases hindexed : indexCommitted repository catalog call.artifact call.nowNs with
  | error fault => exact ⟨h, RunsLater.refl _ _⟩
  | ok indexed =>
    dsimp only
    split
    · rename_i hstored
      obtain ⟨verified, -, hindexed⟩ := bind_eq_ok.mp hindexed
      obtain ⟨entry, -, hindexed⟩ := bind_eq_ok.mp hindexed
      obtain ⟨-, hindexed⟩ := check_bind_eq_ok.mp hindexed
      obtain ⟨inserted, hinserted, hindexed⟩ := bind_eq_ok.mp hindexed
      obtain ⟨resolved, hresolved, hindexed⟩ := bind_eq_ok.mp hindexed
      obtain ⟨projected, hprojected, hindexed⟩ := bind_eq_ok.mp hindexed
      obtain ⟨marked, hmarked, hindexed⟩ := bind_eq_ok.mp hindexed
      cases hindexed
      obtain ⟨hlater, hruns, hrows⟩ := upsertExactArtifact_later (namedBy resolved.2) hinserted
      have hbacked : ∀ artifactId run, inserted.runIndex.get? artifactId = some run →
          ∃ row, inserted.artifactIndex.get? artifactId = some row := by
        intro artifactId run hrun
        obtain ⟨row, hrow, -⟩ := runListed_of_complete h.complete (hruns ▸ hrun)
        exact ⟨row, hrows artifactId row hrow⟩
      obtain ⟨hcomplete, hmark⟩ := markRunIndexComplete_later (namedBy resolved.2) hmarked
      exact ⟨⟨hcomplete, hstored⟩, ((hlater.trans (resolveBuildKey_later hbacked hresolved)).trans
        (projectVerified_later hprojected)).trans hmark⟩
    · exact ⟨h, RunsLater.refl _ _⟩

/-- The calls after a page. -/
theorem indexEach_later (repository : ArtifactRepository) {calls : List IndexCall}
    (h : Indexed catalog) :
    Indexed (indexEach repository catalog calls).1 ∧
      RunsLater (fun artifactId => ∃ reported ∈ (indexEach repository catalog calls).2,
        artifactId ∈ reported.artifactIds) catalog (indexEach repository catalog calls).1 := by
  induction calls generalizing catalog with
  | nil => exact ⟨h, RunsLater.refl _ _⟩
  | cons call calls ih =>
    obtain ⟨hindexed, hlater⟩ := indexInto_later repository call h
    obtain ⟨hend, hrest⟩ := ih hindexed
    refine ⟨hend, (hlater.mono ?_).trans (hrest.mono ?_)⟩
    · rintro artifactId ⟨reported, hreported, hmem⟩
      exact ⟨reported, List.mem_append_left _ (Option.mem_toList.mpr hreported), hmem⟩
    · rintro artifactId ⟨reported, hreported, hmem⟩
      exact ⟨reported, List.mem_append_right _ hreported, hmem⟩

/-! ## A reading -/

/-- Every page is read from a complete index, with all the runs of the start that no collision
named. -/
theorem runMoments_later {visits : List RunVisit} (h : Indexed catalog) :
    ∀ moment ∈ runMoments catalog visits, Indexed moment.catalog ∧
      RunsLater (fun artifactId => ∃ reported ∈ reportedCollisions catalog visits,
        artifactId ∈ reported.artifactIds) catalog moment.catalog := by
  induction visits generalizing catalog with
  | nil => simp [runMoments]
  | cons visit visits ih =>
    intro moment hmoment
    rcases List.mem_cons.mp hmoment with rfl | hmoment
    · exact ⟨h, RunsLater.refl _ _⟩
    · obtain ⟨hindexed, hlater⟩ := @indexEach_later catalog visit.repository visit.calls h
      obtain ⟨hthere, hrest⟩ := ih hindexed moment hmoment
      refine ⟨hthere, (hlater.mono ?_).trans (hrest.mono ?_)⟩
      · rintro artifactId ⟨reported, hreported, hmem⟩
        exact ⟨reported, List.mem_append_left _ hreported, hmem⟩
      · rintro artifactId ⟨reported, hreported, hmem⟩
        exact ⟨reported, List.mem_append_right _ hreported, hmem⟩

theorem runMoments_pairwise {visits : List RunVisit} (h : Indexed catalog) :
    (runMoments catalog visits).Pairwise fun moment moment' =>
      RunsLater (fun _ => True) moment.catalog moment'.catalog := by
  induction visits generalizing catalog with
  | nil => exact List.Pairwise.nil
  | cons visit visits ih =>
    obtain ⟨hindexed, hlater⟩ := @indexEach_later catalog visit.repository visit.calls h
    refine List.Pairwise.cons (fun moment hmoment => ?_) (ih hindexed)
    exact (hlater.mono fun _ _ => trivial).trans
      ((runMoments_later hindexed moment hmoment).2.mono fun _ _ => trivial)

theorem runMoments_limits {visits : List RunVisit} (h : ProperLimits visits) :
    ∀ moment ∈ runMoments catalog visits, 1 ≤ moment.limit ∧ moment.limit ≤ 1000 := by
  induction visits generalizing catalog with
  | nil => simp [runMoments]
  | cons visit visits ih =>
    intro moment hmoment
    rcases List.mem_cons.mp hmoment with rfl | hmoment
    · exact h visit List.mem_cons_self
    · exact ih (fun v hv => h v (List.mem_cons_of_mem _ hv)) moment hmoment

/-- A run that is queryable later on is the one it was. -/
theorem RunsLater.same_run {logicalRunId : Option ContentDigest} {run run' : ListedRun}
    (h : RunsLater collided catalog catalog') (hrun : QueryableRun catalog logicalRunId run)
    (hrun' : QueryableRun catalog' logicalRunId run') (hid : run.artifactId = run'.artifactId) :
    run = run' := by
  obtain ⟨row, hrow, -, hverified, -⟩ := hrun'.2.1
  rcases h.runs run.artifactId _ hrun.1 with hkept | ⟨-, other, hother, hstatus⟩
  · rw [hid, hrun'.1] at hkept
    obtain ⟨artifactId, manifestDigest, columns⟩ := run
    obtain ⟨artifactId', manifestDigest', columns'⟩ := run'
    cases hid
    cases hkept
    rfl
  · rw [hid, Option.mem_def.mp hrow] at hother
    cases hother
    exact absurd hverified hstatus

/-- A queryable run stays queryable until a collision names it. -/
theorem RunsLater.queryable {logicalRunId : Option ContentDigest} {run : ListedRun}
    (h : RunsLater collided catalog catalog') (hindexed : Indexed catalog')
    (hrun : QueryableRun catalog logicalRunId run) (hfree : ¬ collided run.artifactId) :
    QueryableRun catalog' logicalRunId run := by
  rcases h.runs run.artifactId _ hrun.1 with hkept | ⟨hcollided, -⟩
  · exact ⟨hkept, runListed_of_complete hindexed.complete hkept, hrun.2.2⟩
  · exact absurd hcollided hfree

end Later

/-! ## The paging law -/

/-- What reading a list of runs page by page does. -/
structure RunPagingLaw (catalog : Catalog) (logicalRunId : Option ContentDigest) : Prop where
  /-- No answer of the index is refused by the check of the page. -/
  accepted : ∀ limit offset after entries,
    listRunEntries catalog logicalRunId limit offset after = .ok entries →
      validateRunPage entries logicalRunId after = .ok ()
  /-- A page has no next cursor exactly when it shows all the runs after its own. -/
  last : ∀ repository limit after page, 1 ≤ limit ∧ limit ≤ 1000 →
    (∀ cursor ∈ after, cursor.logicalRunId = logicalRunId) →
    runPage repository catalog logicalRunId limit 0 after = .ok page →
      (page.next = none ↔ page.items = above (fun view => rankOf (runMark logicalRunId view))
        (after.map rankOf) (runViews catalog logicalRunId))
  /-- With nothing indexed in between, the queryable runs are shown in order, each of them once. -/
  visited : ∀ visits items ended, ProperLimits visits → (∀ visit ∈ visits, visit.calls = []) →
    listRuns catalog logicalRunId visits = .ok (items, ended) →
      items = (runViews catalog logicalRunId).take (visits.map RunVisit.limit).sum ∧
      (ended = true ↔ visits ≠ [] ∧
        (runViews catalog logicalRunId).length ≤ (visits.map RunVisit.limit).sum)
  /-- With runs indexed in between, none is shown twice, and a run of the start is shown unless a
  collision that is reported names it. -/
  interleaved : ∀ visits items ended, ProperLimits visits →
    listRuns catalog logicalRunId visits = .ok (items, ended) →
      (items.map fun view => rankOf (runMark logicalRunId view)).Pairwise (· < ·) ∧
      (items.map RunSummaryView.runArtifactId).Nodup ∧
      (ended = true → ∀ run, QueryableRun catalog logicalRunId run →
        (∀ reported ∈ reportedCollisions catalog visits,
          run.artifactId ∉ reported.artifactIds) → viewOfRun run ∈ items)
  /-- Only a run that cannot be authenticated ends a reading early. -/
  refused : ∀ visits fault, ProperLimits visits →
    listRuns catalog logicalRunId visits = .error fault →
      ∃ moment ∈ runMoments catalog visits, ∃ run,
        QueryableRun moment.catalog logicalRunId run ∧
        runView moment.repository moment.catalog run.artifactId (some (entryOfRun run)) =
          .error fault

section Law

variable {catalog : Catalog} {logicalRunId : Option ContentDigest} {moments : List RunMoment}

theorem runViews_ordered : ((runViews catalog logicalRunId).map fun view =>
    rankOf (runMark logicalRunId view)).Pairwise (· < ·) := by
  rw [runViews, List.map_map]
  exact queryableRuns_ordered

theorem mem_runViews {view : RunSummaryView} : view ∈ runViews catalog logicalRunId ↔
    ∃ run, QueryableRun catalog logicalRunId run ∧ viewOfRun run = view := by
  simp [runViews, mem_queryableRuns]

/-- The pages that are read, in a spelling that both the index and the check of a page accept. -/
theorem readRuns_reads (hindexed : ∀ moment ∈ moments, Indexed moment.catalog)
    (hlimits : ∀ moment ∈ moments, 1 ≤ moment.limit ∧ moment.limit ≤ 1000)
    (hbare : SpelledBare logicalRunId) :
    Paging.Reads (readRuns logicalRunId) (fun view => view)
      (fun moment after => Paging.page (runMark logicalRunId) rankOf
        (runViews moment.catalog logicalRunId) after moment.limit)
      (fun after => ∀ cursor ∈ after, cursor.logicalRunId = logicalRunId) moments where
  page moment hmoment after hafter page hpage := by
    rw [Paging.Page.map_self]
    exact runPage_eq_ok (hindexed moment hmoment) (hlimits moment hmoment) hafter (.inl hbare) hpage
  next moment _ after _ cursor hnext := by
    obtain ⟨-, last, -, rfl⟩ := Paging.cut_next_eq_some hnext
    intro c hc
    obtain rfl := Option.mem_some_iff.mp hc
    rfl

/-- With nothing indexed in between, every page is read from the catalog of the start. -/
theorem runMoments_still {visits : List RunVisit} (h : ∀ visit ∈ visits, visit.calls = []) :
    (runMoments catalog visits).map RunMoment.limit = visits.map RunVisit.limit ∧
      ∀ moment ∈ runMoments catalog visits, moment.catalog = catalog := by
  induction visits with
  | nil => simp [runMoments]
  | cons visit visits ih =>
    have hrest := ih fun v hv => h v (List.mem_cons_of_mem _ hv)
    rw [runMoments, h visit List.mem_cons_self, indexEach, List.map_cons, List.map_cons, hrest.1]
    refine ⟨rfl, fun moment hmoment => ?_⟩
    rcases List.mem_cons.mp hmoment with rfl | hmoment
    · rfl
    · exact hrest.2 moment hmoment

/-- Two items of a reading are the same run when they are of one artifact. -/
theorem view_unique {visits : List RunVisit} (h : Indexed catalog) {view view' : RunSummaryView}
    {moment moment' : RunMoment} (hmoment : moment ∈ runMoments catalog visits)
    (hmoment' : moment' ∈ runMoments catalog visits)
    (hview : view ∈ runViews moment.catalog logicalRunId)
    (hview' : view' ∈ runViews moment'.catalog logicalRunId)
    (hid : view.runArtifactId = view'.runArtifactId) : view = view' := by
  obtain ⟨run, hrun, rfl⟩ := mem_runViews.mp hview
  obtain ⟨run', hrun', rfl⟩ := mem_runViews.mp hview'
  have hpair := @runMoments_pairwise catalog visits h
  have hor : RunsLater (fun _ => True) moment.catalog moment'.catalog ∨
      RunsLater (fun _ => True) moment'.catalog moment.catalog :=
    List.Pairwise.forall_of_forall_of_flip
      (R := fun m m' => RunsLater (fun _ => True) m.catalog m'.catalog ∨
        RunsLater (fun _ => True) m'.catalog m.catalog)
      (fun _ _ => .inl (RunsLater.refl _ _)) (hpair.imp .inl) (hpair.imp .inr) hmoment hmoment'
  rcases hor with hlater | hlater
  · rw [hlater.same_run hrun hrun' hid]
  · rw [hlater.same_run hrun' hrun hid.symm]

/-- **A list in a spelling that both accept.** -/
theorem law_of_bare (h : Indexed catalog) (hbare : SpelledBare logicalRunId) :
    RunPagingLaw catalog logicalRunId where
  accepted limit offset after entries hlist := by
    rw [listRunEntries_eq_ok h.stored hlist]
    exact (validateRunPage_eq_ok (selectRunIndexPage_ordered limit offset)
      fun _ => mem_selectRunIndexPage).mpr (.inl hbare)
  last repository limit after page hlimit hafter hpage := by
    rw [runPage_eq_ok h hlimit hafter (.inl hbare) hpage, Paging.page,
      Paging.cut_next_eq_none hlimit.1, Paging.cut]
    constructor
    · exact fun hle => List.take_of_length_le hle
    · intro htake
      rw [← htake, List.length_take]
      omega
  visited visits items ended hlimits hstill hwalk := by
    obtain ⟨hsizes, hcatalog⟩ := @runMoments_still catalog visits hstill
    have hproper := @runMoments_limits catalog visits hlimits
    have hreads := (readRuns_reads (fun moment hmoment => (runMoments_later h moment hmoment).1)
      hproper hbare).walk_eq_ok (by simp) hwalk
    have hsame : ∀ moment ∈ runMoments catalog visits,
        runViews moment.catalog logicalRunId = runViews catalog logicalRunId :=
      fun moment hmoment => by rw [hcatalog moment hmoment]
    have hwhole := hreads.symm.trans (Paging.walk_still runViews_ordered hsame
      fun moment hmoment => (hproper moment hmoment).1)
    obtain ⟨hitems, hended⟩ := Prod.mk.inj (Except.ok.inj hwhole)
    rw [List.map_id', Option.map_none, Paging.above_none, hsizes] at hitems
    rw [Option.map_none, Paging.above_none, hsizes] at hended
    refine ⟨hitems, ?_⟩
    rw [hended, decide_eq_true_iff]
    cases visits with
    | nil => simp [runMoments]
    | cons visit visits => simp [runMoments]
  interleaved visits items ended hlimits hwalk := by
    have hindexed := fun moment hmoment => (@runMoments_later catalog visits h moment hmoment).1
    have hproper := @runMoments_limits catalog visits hlimits
    have hreads := (readRuns_reads hindexed hproper hbare).walk_eq_ok (by simp) hwalk
    rw [List.map_id'] at hreads
    obtain ⟨hordered, hfrom, hall⟩ := Paging.walk_changing (fun _ _ => runViews_ordered)
      (fun moment hmoment => (hproper moment hmoment).1) hreads
    have hunique : ∀ view ∈ items, ∀ view' ∈ items,
        view.runArtifactId = view'.runArtifactId → view = view' := by
      intro view hview view' hview' hid
      obtain ⟨-, moment, hmoment, hthere⟩ := hfrom view hview
      obtain ⟨-, moment', hmoment', hthere'⟩ := hfrom view' hview'
      exact view_unique h hmoment hmoment' hthere hthere' hid
    refine ⟨hordered, ?_, fun hend run hrun hfree => ?_⟩
    · have hne : items.Nodup := (List.pairwise_map.mp hordered).imp fun hlt he => by
        rw [he] at hlt
        exact lt_irrefl _ hlt
      exact (List.nodup_map_iff_inj_on hne).mpr hunique
    · -- the run is among the rows of every page, so its place has been reached
      have hpresent : ∀ moment ∈ runMoments catalog visits,
          viewOfRun run ∈ runViews moment.catalog logicalRunId := by
        intro moment hmoment
        obtain ⟨hthere, hlater⟩ := runMoments_later h moment hmoment
        refine mem_runViews.mpr ⟨run, hlater.queryable hthere hrun ?_, rfl⟩
        rintro ⟨reported, hreported, hmem⟩
        exact hfree reported hreported hmem
      obtain ⟨view, hview, hrank⟩ := hall hend (runRank run) (by simp)
        fun moment hmoment => ⟨_, hpresent moment hmoment, rfl⟩
      obtain ⟨-, moment, hmoment, hthere⟩ := hfrom view hview
      have hid : view.runArtifactId = (viewOfRun run).runArtifactId :=
        (Prod.mk.inj (toLex_inj.mp hrank)).2
      rwa [← view_unique h hmoment hmoment hthere (hpresent moment hmoment) hid]
  refused visits fault hlimits hwalk := by
    have hindexed := fun moment hmoment => (@runMoments_later catalog visits h moment hmoment).1
    have hproper := @runMoments_limits catalog visits hlimits
    obtain ⟨moment, hmoment, after, hafter, hpage⟩ :=
      (readRuns_reads hindexed hproper hbare).walk_eq_error (by simp) hwalk
    exact ⟨moment, hmoment, runPage_eq_error (hindexed moment hmoment) (hproper moment hmoment)
      hafter (.inl hbare) hpage⟩

/-- **A list without a run.**  Its first page is its last. -/
theorem law_of_empty (h : Indexed catalog) (hempty : queryableRuns catalog logicalRunId = []) :
    RunPagingLaw catalog logicalRunId := by
  have hviews : runViews catalog logicalRunId = [] := by rw [runViews, hempty, List.map_nil]
  have hkept : ∀ after : Option RunListCursor,
      above runRank (after.map rankOf) (queryableRuns catalog logicalRunId) = [] := by
    intro after
    rw [hempty, Paging.above_nil]
  have hpage : ∀ repository limit after, 1 ≤ limit ∧ limit ≤ 1000 →
      (∀ cursor ∈ after, cursor.logicalRunId = logicalRunId) →
      runPage repository catalog logicalRunId limit 0 after = .ok ⟨[], none⟩ := by
    intro repository limit after hlimit hafter
    rw [runPage_eq h hlimit hafter (.inr (hkept after)), hkept, List.take_nil, authenticated,
      List.mapM_nil]
    simp [pure, Except.pure, Except.map, Paging.cut]
  have hwalk : ∀ visits, ProperLimits visits →
      listRuns catalog logicalRunId visits = .ok ([], decide (visits ≠ [])) := by
    intro visits hlimits
    cases visits with
    | nil => rfl
    | cons visit visits =>
      rw [listRuns, runMoments, walk, readRuns,
        hpage _ _ _ (hlimits visit List.mem_cons_self) (by simp)]
      simp
  refine ⟨?_, ?_, ?_, ?_, ?_⟩
  · intro limit offset after entries hlist
    rw [listRunEntries_eq_ok h.stored hlist]
    refine (validateRunPage_eq_ok (selectRunIndexPage_ordered limit offset)
      fun _ => mem_selectRunIndexPage).mpr (.inr ?_)
    rw [selectRunIndexPage_eq, hkept, List.drop_nil, List.take_nil]
  · intro repository limit after page hlimit hafter hread
    rw [hpage repository limit after hlimit hafter] at hread
    rw [← Except.ok.inj hread, hviews]
    simp
  · intro visits items ended hlimits _ hread
    rw [hwalk visits hlimits] at hread
    obtain ⟨rfl, rfl⟩ := Prod.mk.inj (Except.ok.inj hread)
    simp [hviews]
  · intro visits items ended hlimits hread
    rw [hwalk visits hlimits] at hread
    obtain ⟨rfl, rfl⟩ := Prod.mk.inj (Except.ok.inj hread)
    refine ⟨by simp, by simp, fun _ run hrun => ?_⟩
    have hmem := mem_queryableRuns.mpr hrun
    rw [hempty] at hmem
    cases hmem
  · intro visits fault hlimits hread
    rw [hwalk visits hlimits] at hread
    cases hread

/-- **Of which lists the paging law holds.**  It holds unless the logical run of the list is spelled
with the display prefix and has a run that can be queried. -/
theorem runPagingLaw_iff (h : Indexed catalog) : RunPagingLaw catalog logicalRunId ↔
    SpelledBare logicalRunId ∨ ∀ run, ¬ QueryableRun catalog logicalRunId run := by
  constructor
  · intro hlaw
    by_cases hempty : queryableRuns catalog logicalRunId = []
    · refine .inr fun run hrun => ?_
      have hmem := mem_queryableRuns.mpr hrun
      rw [hempty] at hmem
      cases hmem
    · -- the first run alone is an answer that the check of the page is asked about
      have hlist := @listRunEntries_eq catalog logicalRunId none h 1 (by omega) (by simp)
      have hvalid := (validateRunPage_eq_ok (selectRunIndexPage_ordered 1 0)
        fun _ => mem_selectRunIndexPage).mp (hlaw.accepted 1 0 none _ hlist)
      refine .inl (hvalid.resolve_right fun hnil => hempty ?_)
      rw [selectRunIndexPage_eq, Option.map_none, Paging.above_none, if_pos rfl, List.drop_zero]
        at hnil
      cases hqueryable : queryableRuns catalog logicalRunId with
      | nil => rfl
      | cons run runs =>
        rw [hqueryable] at hnil
        cases hnil
  · rintro (hbare | hnone)
    · exact law_of_bare h hbare
    · refine law_of_empty h (List.eq_nil_iff_forall_not_mem.mpr fun run hrun => ?_)
      exact hnone run (mem_queryableRuns.mp hrun)

end Law

end UseCases

end OnchainBacktest
