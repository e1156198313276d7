import OnchainBacktest.Artifacts.VerifiedTree

/-!
# The steps of a publication

What opening an artifact depends on is the tree at the one place commit has chosen for it
(`uncommitted_of`, `published_of`).  What is in the staging directory when the locks are held is the
payload with all control files but the marker (`Staging.controls`), and an installation stops at
its first step, with no marker, or with everything in place (`install_stops`).
-/

set_option autoImplicit false

namespace OnchainBacktest

namespace Artifacts

open Checked Script

section

variable [ContentHash]

/-! ## Opening -/

/-- No committed artifact has the identity, and opening it is refused. -/
def Repository.Uncommitted (repository : Repository) (artifactId : ArtifactId) : Prop :=
  (∀ place files kind descriptor, repository.roots.get? place = some files →
    verifyCommitted place files (some artifactId) kind ≠ .ok descriptor) ∧
  ∀ committed, repository.openCommitted artifactId ≠ .ok committed

/-- The artifact of a commit verifies at its place, the descriptor is the result, and opening gives
no other. -/
def Repository.Published (repository : Repository) (prepared : PreparedCommit)
    (result : Except ArtifactFault CommittedArtifact) : Prop :=
  ∃ files descriptor committed,
    repository.roots.get? prepared.relativeRoot = some files ∧
    verifyCommitted prepared.relativeRoot files (some prepared.committed.artifactId)
      (some prepared.committed.kind) = .ok descriptor ∧
    committedFromDescriptor descriptor = .ok committed ∧ result = .ok committed ∧
    ∀ opened, repository.openCommitted prepared.committed.artifactId = .ok opened →
      opened = committed

omit [ContentHash] in
theorem mem_of_candidateRoots {repository : Repository} {kind : ArtifactKind}
    {candidate : List String × Files} (h : candidate ∈ repository.candidateRoots kind) :
    repository.roots.get? candidate.1 = some candidate.2 := by
  rw [Repository.candidateRoots, List.mem_insertionSort, List.mem_filter] at h
  exact Dict.get?_eq_some_iff.mpr h.1

omit [ContentHash] in
theorem findArtifactRoot_spec {repository : Repository} {artifactId : ArtifactId}
    {root : ArtifactKind × List String × Files}
    (h : repository.findArtifactRoot artifactId = .ok root) :
    repository.roots.get? root.2.1 = some root.2.2 := by
  rw [Repository.findArtifactRoot] at h
  obtain ⟨found, hfound, h⟩ := bind_eq_ok.mp h
  have hmem : root ∈ found.flatten := by
    split at h
    · cases h
    · rename_i only hflatten
      rw [hflatten, ← Except.ok.inj h]
      exact List.mem_singleton_self _
    · cases h
  obtain ⟨roots, hroots, hroot⟩ := List.mem_flatten.mp hmem
  obtain ⟨kind, -, hmatches⟩ := exists_of_mem_mapM hfound hroots
  rw [Repository.matchesOf] at hmatches
  obtain ⟨named, hnamed, hmatches⟩ := bind_eq_ok.mp hmatches
  rw [← Except.ok.inj hmatches] at hroot
  obtain ⟨one, hone, hroot⟩ := List.mem_flatten.mp hroot
  obtain ⟨candidate, hcandidate, hname⟩ := exists_of_mem_mapM hnamed hone
  obtain ⟨name, -, hname⟩ := bind_eq_ok.mp hname
  rw [← Except.ok.inj hname] at hroot
  split at hroot
  · rw [List.mem_singleton.mp hroot]
    exact mem_of_candidateRoots hcandidate
  · cases hroot

/-- What is opened has been verified where it stands. -/
theorem openCommitted_spec {repository : Repository} {artifactId : ArtifactId}
    {committed : CommittedArtifact} (h : repository.openCommitted artifactId = .ok committed) :
    ∃ place files kind descriptor, repository.roots.get? place = some files ∧
      verifyCommitted place files (some artifactId) (some kind) = .ok descriptor ∧
      committedFromDescriptor descriptor = .ok committed := by
  rw [Repository.openCommitted] at h
  obtain ⟨descriptor, hverify, h⟩ := bind_eq_ok.mp h
  rw [Repository.verifyArtifact] at hverify
  obtain ⟨root, hroot, hverify⟩ := bind_eq_ok.mp hverify
  exact ⟨root.2.1, root.2.2, root.1, descriptor, findArtifactRoot_spec hroot, hverify, h⟩

/-! ## The place of a commit -/

/-- What commit reads at its place: the committed artifact of its kind that verifies there. -/
def PreparedCommit.readPlace (prepared : PreparedCommit) (files : Files) :
    Except ArtifactFault CommittedArtifact :=
  verifyCommitted prepared.relativeRoot files none (some prepared.committed.kind) >>=
    committedFromDescriptor

variable {writer : Writer} {draft : ArtifactDraft} {staged : StagedTree}
  {prepared : PreparedCommit} {manifestFields identity : List (String × Document)}
  {inputs : List ArtifactId}

omit [ContentHash] in
theorem Prepared.kind [ContentHash]
    (hprepared : Prepared draft staged prepared manifestFields identity inputs) :
    prepared.committed.kind = draft.kind := by
  rw [hprepared.committed]

/-- A tree that verifies under the identity of a commit is the one commit reads at its place. -/
theorem readPlace_of_verified
    (hprepared : Prepared draft staged prepared manifestFields identity inputs)
    (hfree : Collisionless prepared (prepared.identityText draft staged)) {place : List String}
    {files : Files} {kind : Option ArtifactKind} {descriptor : List (String × Document)}
    (h : verifyCommitted place files (some prepared.committed.artifactId) kind = .ok descriptor) :
    place = prepared.relativeRoot ∧ ∃ existing, committedFromDescriptor descriptor = .ok existing ∧
      prepared.readPlace files = .ok existing ∧
      existing.artifactId = prepared.committed.artifactId := by
  obtain ⟨version, artifactId, fields, placement, hverified, hid, -⟩ := verifyCommitted_eq_ok.mp h
  obtain rfl := hid _ rfl
  obtain ⟨rfl, hkind⟩ := hprepared.place_unique hfree hverified
  obtain ⟨existing, hread, hexisting, -⟩ := committedFromDescriptor_of_verified hverified
  refine ⟨rfl, existing, hread, ?_, hexisting⟩
  have hagain : verifyCommitted prepared.relativeRoot files none (some prepared.committed.kind) =
      .ok descriptor := by
    refine verifyCommitted_eq_ok.mpr ⟨_, _, _, _, hverified, by simp, fun kind hmem => ?_⟩
    rw [hkind, ← hprepared.kind, ← Option.mem_some_iff.mp hmem]
  rw [PreparedCommit.readPlace, hagain, ok_bind, hread]

/-- What commit reads at its place verifies under the identity it has read. -/
theorem verified_of_readPlace {files : Files} {existing : CommittedArtifact}
    (h : prepared.readPlace files = .ok existing) :
    ∃ descriptor, verifyCommitted prepared.relativeRoot files (some existing.artifactId)
      (some prepared.committed.kind) = .ok descriptor ∧
      committedFromDescriptor descriptor = .ok existing := by
  rw [PreparedCommit.readPlace] at h
  obtain ⟨descriptor, hverify, hread⟩ := bind_eq_ok.mp h
  obtain ⟨version, artifactId, fields, placement, hverified, -, hkind⟩ :=
    verifyCommitted_eq_ok.mp hverify
  obtain ⟨existing', hread', hid, -⟩ := committedFromDescriptor_of_verified hverified
  rw [hread] at hread'
  obtain rfl := Except.ok.inj hread'
  refine ⟨descriptor, verifyCommitted_eq_ok.mpr ⟨_, _, _, _, hverified, ?_, hkind⟩, hread⟩
  intro expected hexpected
  rw [← Option.mem_some_iff.mp hexpected, hid]

/-- **Nothing is committed under the identity of a commit** when nothing is that commit would read
at its place. -/
theorem uncommitted_of
    (hprepared : Prepared draft staged prepared manifestFields identity inputs)
    (hfree : Collisionless prepared (prepared.identityText draft staged)) {repository : Repository}
    (h : ∀ files existing, repository.roots.get? prepared.relativeRoot = some files →
      prepared.readPlace files = .ok existing →
      existing.artifactId ≠ prepared.committed.artifactId) :
    repository.Uncommitted prepared.committed.artifactId := by
  have hnone : ∀ place files kind descriptor, repository.roots.get? place = some files →
      verifyCommitted place files (some prepared.committed.artifactId) kind ≠ .ok descriptor := by
    intro place files kind descriptor hfiles hverify
    obtain ⟨rfl, existing, -, hread, hid⟩ := readPlace_of_verified hprepared hfree hverify
    exact h files existing hfiles hread hid
  refine ⟨hnone, fun committed hopen => ?_⟩
  obtain ⟨place, files, kind, descriptor, hfiles, hverify, -⟩ := openCommitted_spec hopen
  exact hnone place files (some kind) descriptor hfiles hverify

/-- **The artifact of a commit is published** when commit would read it at its place. -/
theorem published_of
    (hprepared : Prepared draft staged prepared manifestFields identity inputs)
    (hfree : Collisionless prepared (prepared.identityText draft staged)) {repository : Repository}
    {files : Files} {existing : CommittedArtifact}
    (hfiles : repository.roots.get? prepared.relativeRoot = some files)
    (hread : prepared.readPlace files = .ok existing)
    (hid : existing.artifactId = prepared.committed.artifactId) :
    repository.Published prepared (.ok existing) := by
  obtain ⟨descriptor, hverify, hdescriptor⟩ := verified_of_readPlace hread
  rw [hid] at hverify
  refine ⟨files, descriptor, existing, hfiles, hverify, hdescriptor, rfl, fun opened hopen => ?_⟩
  obtain ⟨place, others, kind, other, hothers, hverifyOther, hopened⟩ := openCommitted_spec hopen
  obtain ⟨rfl, again, hagain, hreadAgain, -⟩ :=
    readPlace_of_verified hprepared hfree hverifyOther
  rw [hfiles] at hothers
  obtain rfl := Option.some.inj hothers
  rw [hread] at hreadAgain
  rw [hopened] at hagain
  rw [Except.ok.inj hagain, ← Except.ok.inj hreadAgain]

/-! ## The staging directory -/

/-- The files of a staging directory after some of the staging steps. -/
def stagedAfter (writer : Writer) (files : Files) (done : List CommitStep) : Files :=
  done.foldl (fun files step =>
    match step with
    | .createStaged name => files.set name (.bytes writer.torn)
    | .finishStaged name content => files.set name content
    | _ => files) files

omit [ContentHash] in
theorem stagedAfter_append (files : Files) (first second : List CommitStep) :
    stagedAfter writer files (first ++ second) =
      stagedAfter writer (stagedAfter writer files first) second :=
  List.foldl_append

/-- A staging step changes the files of the staging directory, and nothing else. -/
theorem stagingStep_run {step : CommitStep} (hstep : step ∈ stagingSteps prepared)
    {files : Files} {repository repository' : Repository}
    (hfiles : repository.staging.get? writer.stagingName = some files)
    (h : step.run writer repository = .ok repository') :
    repository'.roots = repository.roots ∧
      repository'.staging.get? writer.stagingName = some (stagedAfter writer files [step]) := by
  simp only [stagingSteps, writeStaged, List.mem_append, List.mem_cons, List.not_mem_nil,
    or_false] at hstep
  rcases hstep with ((rfl | rfl) | rfl | rfl) | rfl | rfl <;>
  · rw [CommitStep.run, Repository.updateStaging, hfiles] at h
    obtain rfl := Except.ok.inj h
    exact ⟨rfl, Dict.get?_set_self _ _ _⟩

theorem Staging.files {done : List CommitStep} {repository : Repository}
    (h : Staging writer staged prepared done repository) :
    repository.staging.get? writer.stagingName =
      some (stagedAfter writer staged.payload done) := by
  induction h with
  | start h => exact h
  | step h hnext hrun ih =>
    obtain ⟨-, hfiles⟩ := stagingStep_run (hnext.subset (by simp)) ih hrun
    rw [hfiles, stagedAfter_append]
  | others h hown ih => rw [hown, ih]

/-- **When the locks are held the staging directory has all control files but the marker.** -/
theorem Staging.controls {repository : Repository}
    (h : Staging writer staged prepared (stagingSteps prepared) repository) :
    repository.staging.get? writer.stagingName = some (staged.withControls prepared) := by
  rw [h.files, StagedTree.withControls, StagedTree.withManifests, stagedAfter, stagingSteps,
    writeStaged, writeStaged, writeStaged]
  simp only [List.cons_append, List.nil_append, List.foldl_cons, List.foldl_nil, Dict.set_set]

/-! ## Installing -/

/-- The repository with the staging directory gone and these files at a place. -/
def Repository.installed (repository : Repository) (writer : Writer) (place : List String)
    (files : Files) : Repository :=
  { repository with
    roots := repository.roots.set place files
    staging := repository.staging.erase writer.stagingName }

omit [ContentHash] in
theorem updateRoot_installed (repository : Repository) (place : List String) (files : Files)
    (update : Files → Files) :
    (repository.installed writer place files).updateRoot place update =
      .ok (repository.installed writer place (update files)) := by
  rw [Repository.updateRoot, Repository.installed, Dict.get?_set_self]
  dsimp only
  rw [Dict.set_set]
  rfl

omit [ContentHash] in
/-- The names in a staging directory are reserved or payload paths. -/
theorem temporaryMarker_not_mem (staged : StagedTree) (prepared : PreparedCommit) :
    (staged.withControls prepared).get? writer.temporaryMarker = none := by
  rw [StagedTree.withControls, StagedTree.withManifests,
    Dict.get?_set_of_ne _ _ (temporaryMarker_ne (by decide)),
    Dict.get?_set_of_ne _ _ (temporaryMarker_ne (by decide)),
    Dict.get?_set_of_ne _ _ (temporaryMarker_ne (by decide)), Dict.get?_eq_none_iff]
  exact fun h => not_isPayloadPath_temporary writer (staged.payload_paths _ h)

omit [ContentHash] in
theorem marker_not_mem (staged : StagedTree) (prepared : PreparedCommit) :
    (staged.withControls prepared).get? MARKER_NAME = none := by
  rw [StagedTree.withControls, StagedTree.withManifests, Dict.get?_set_of_ne _ _ (by decide),
    Dict.get?_set_of_ne _ _ (by decide), Dict.get?_set_of_ne _ _ (by decide),
    Dict.get?_eq_none_iff]
  exact fun h => not_isPayloadPath_reserved (by decide) (staged.payload_paths _ h)

/-- The steps of an installation one after the other. -/
structure InstallMoves (writer : Writer) (staged : StagedTree) (prepared : PreparedCommit)
    (repository : Repository) : Prop where
  rename : CommitStep.run writer (.renameStaging prepared.relativeRoot) repository =
    .ok (repository.installed writer prepared.relativeRoot (staged.withControls prepared))
  create : CommitStep.run writer (.createMarker prepared.relativeRoot)
      (repository.installed writer prepared.relativeRoot (staged.withControls prepared)) =
    .ok (repository.installed writer prepared.relativeRoot
      ((staged.withControls prepared).set writer.temporaryMarker (.bytes writer.torn)))
  finish : CommitStep.run writer (.finishMarker prepared.relativeRoot prepared.marker)
      (repository.installed writer prepared.relativeRoot
        ((staged.withControls prepared).set writer.temporaryMarker (.bytes writer.torn))) =
    .ok (repository.installed writer prepared.relativeRoot
      ((staged.withControls prepared).set writer.temporaryMarker prepared.marker))
  replace : CommitStep.run writer (.replaceMarker prepared.relativeRoot)
      (repository.installed writer prepared.relativeRoot
        ((staged.withControls prepared).set writer.temporaryMarker prepared.marker)) =
    .ok (repository.installed writer prepared.relativeRoot (staged.final prepared))
  verify : CommitStep.run writer (.verifyInstalled prepared.relativeRoot
        prepared.committed.artifactId prepared.committed.kind)
      (repository.installed writer prepared.relativeRoot (staged.final prepared)) =
    .ok (repository.installed writer prepared.relativeRoot (staged.final prepared))

theorem installMoves
    (hprepared : Prepared draft staged prepared manifestFields identity inputs)
    {repository : Repository}
    (hstaged : repository.staging.get? writer.stagingName = some (staged.withControls prepared))
    (hfree : repository.roots.get? prepared.relativeRoot = none) :
    InstallMoves writer staged prepared repository where
  rename := by
    rw [CommitStep.run, hstaged, hfree]
    rfl
  create := by
    rw [CommitStep.run, updateRoot_installed]
  finish := by
    rw [CommitStep.run, updateRoot_installed, Dict.set_set]
  replace := by
    rw [CommitStep.run, updateRoot_installed, Dict.get?_set_self]
    dsimp only
    rw [Dict.erase_set_of_new _ (temporaryMarker_not_mem staged prepared)]
    rfl
  verify := by
    have hverify := verifyCommitted_final hprepared (some prepared.committed.artifactId)
      fun expected hexpected => (Option.mem_some_iff.mp hexpected).symm
    rw [← hprepared.kind] at hverify
    rw [CommitStep.run, Repository.installed, Dict.get?_set_self]
    dsimp only
    rw [hverify, ok_bind]

/-- Where an installation can stop: at its first step, with no marker, or with all in place. -/
theorem install_stops (repository : Repository)
    (hmoves : InstallMoves writer staged prepared repository)
    {done : List CommitStep} {after : Repository}
    (h : CutOff (CommitStep.run writer) (installSteps prepared) done repository after) :
    after = repository ∨ ∃ files,
      after = repository.installed writer prepared.relativeRoot files ∧
        (files.get? MARKER_NAME = none ∨ files = staged.final prepared) := by
  have hunmarked : ∀ content,
      ((staged.withControls prepared).set writer.temporaryMarker content).get? MARKER_NAME =
        none := fun content => by
    rw [Dict.get?_set_of_ne _ _ (temporaryMarker_ne (by decide)).symm]
    exact marker_not_mem staged prepared
  rw [installSteps] at h
  rcases cutOff_cons h with rfl | ⟨t, done, hstep, h⟩
  · exact .inl rfl
  rw [hmoves.rename] at hstep
  obtain rfl := Except.ok.inj hstep
  rcases cutOff_cons h with rfl | ⟨t, done, hstep, h⟩
  · exact .inr ⟨_, rfl, .inl (marker_not_mem staged prepared)⟩
  rw [hmoves.create] at hstep
  obtain rfl := Except.ok.inj hstep
  rcases cutOff_cons h with rfl | ⟨t, done, hstep, h⟩
  · exact .inr ⟨_, rfl, .inl (hunmarked _)⟩
  rw [hmoves.finish] at hstep
  obtain rfl := Except.ok.inj hstep
  rcases cutOff_cons h with rfl | ⟨t, done, hstep, h⟩
  · exact .inr ⟨_, rfl, .inl (hunmarked _)⟩
  rw [hmoves.replace] at hstep
  obtain rfl := Except.ok.inj hstep
  rcases cutOff_cons h with rfl | ⟨t, done, hstep, h⟩
  · exact .inr ⟨_, rfl, .inr rfl⟩
  rw [hmoves.verify] at hstep
  obtain rfl := Except.ok.inj hstep
  rw [cutOff_nil h]
  exact .inr ⟨_, rfl, .inr rfl⟩

/-- An installation goes through. -/
theorem install_completes (repository : Repository)
    (hmoves : InstallMoves writer staged prepared repository) :
    exec (CommitStep.run writer) (installSteps prepared) repository =
      (repository.installed writer prepared.relativeRoot (staged.final prepared), none) := by
  rw [installSteps, exec_cons_of_ok hmoves.rename, exec_cons_of_ok hmoves.create,
    exec_cons_of_ok hmoves.finish, exec_cons_of_ok hmoves.replace, exec_cons_of_ok hmoves.verify,
    exec_nil]

end

end Artifacts

end OnchainBacktest
