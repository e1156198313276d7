import OnchainBacktest.UseCases.RunPaging
import OnchainBacktest.UseCases.JobPaging

/-!
# The lists of the runs and of the jobs

The two lists that are read page by page, next to each other: `list_paging_iff` says when both keep
to the paging law.  The list of the jobs always does.  The list of the runs does not when its scope
is a logical run with the display prefix of a digest (`prefixed_scope_refused`).
-/

set_option autoImplicit false

namespace OnchainBacktest

namespace UseCases

open Artifacts
open Jobs

/-- A run, alone in its catalog. -/
def onlyRun : CommittedArtifact where
  artifactId := ⟨1⟩
  kind := .run
  manifestDigest := ⟨2, false⟩
  buildKey := ⟨3, false⟩
  inputArtifactIds := []

/-- Its files. -/
def onlyRunRepository : ArtifactRepository where
  openCommitted := fun artifactId =>
    if artifactId = ⟨1⟩ then .ok onlyRun else .error "committed artifact does not exist"
  successfulRunManifest := fun artifactId =>
    if artifactId = ⟨1⟩ then
      some { logicalRunId := ⟨4⟩, executionAttemptId := ⟨5⟩, startedAtNs := 6, completedAtNs := 7,
             inputArtifactIds := [] }
    else none

/-- The catalog that it is indexed in. -/
def onlyRunCatalog : Catalog := (indexInto onlyRunRepository Catalog.empty ⟨onlyRun, 8⟩).1

theorem onlyRunCatalog_indexed : Indexed onlyRunCatalog := by
  refine ⟨?_, ?_⟩
  · rfl
  · decide

theorem emptyQueue_stored : SubmissionsStored JobDatabase.empty := by
  decide

theorem bareScope : SpelledBare (some ⟨4, false⟩) := by
  simp [SpelledBare]

/-- **Both lists.**  They keep to the paging law exactly when the logical run of the list of runs is
spelled without the display prefix, or has no run that can be queried. -/
theorem list_paging_iff {catalog : Catalog} {logicalRunId : Option ContentDigest} {db : JobDatabase}
    {state : Option AttemptState} (h : Indexed catalog) (hdb : SubmissionsStored db) :
    RunPagingLaw catalog logicalRunId ∧ JobPagingLaw db state ↔
      SpelledBare logicalRunId ∨ ∀ run, ¬ QueryableRun catalog logicalRunId run := by
  rw [runPagingLaw_iff h, and_iff_left (jobPagingLaw hdb)]

/-- The list of the only run, and the one of a queue without a job. -/
theorem list_paging_sample :
    RunPagingLaw onlyRunCatalog (some ⟨4, false⟩) ∧ JobPagingLaw JobDatabase.empty none :=
  (list_paging_iff onlyRunCatalog_indexed emptyQueue_stored).mpr (.inl bareScope)

/-- The logical run of the only run, asked for with the display prefix: the index answers with the
run, the check of the page refuses the answer, and the page is never shown. -/
theorem prefixed_scope_refused :
    (∃ entry, listRunEntries onlyRunCatalog (some ⟨4, true⟩) 2 0 none = .ok [entry] ∧
      validateRunPage [entry] (some ⟨4, true⟩) none = .error .runIndexUnavailable) ∧
    runPage onlyRunRepository onlyRunCatalog (some ⟨4, true⟩) 1 0 none =
      .error .runIndexUnavailable ∧
    ¬ RunPagingLaw onlyRunCatalog (some ⟨4, true⟩) := by
  have hlist : listRunEntries onlyRunCatalog (some ⟨4, true⟩) 2 0 none =
      .ok [⟨⟨1⟩, 2, ⟨4⟩, ⟨5⟩, 6, 7⟩] := rfl
  have hrefused : validateRunPage [⟨⟨1⟩, 2, ⟨4⟩, ⟨5⟩, 6, 7⟩] (some ⟨4, true⟩) none =
      .error .runIndexUnavailable := by decide
  refine ⟨⟨_, hlist, hrefused⟩, by decide, fun hlaw => ?_⟩
  have haccepted := hlaw.accepted 2 0 none _ hlist
  rw [hrefused] at haccepted
  cases haccepted

end UseCases

end OnchainBacktest
