import OnchainBacktest.Artifacts.PublicationSteps

/-!
# Publication is atomic

Wherever a commit stops, also in the middle of writing a file and whatever others did before it held
the locks, the repository has no committed artifact of its identity or has one that verifies, with
the descriptor the commit returns.  What was committed under the identity stays as it is, and no
other content takes the place of a committed artifact (`publication_safe`).
-/

set_option autoImplicit false

namespace OnchainBacktest

namespace Artifacts

open Checked Script

section

variable [ContentHash]

variable {writer : Writer} {draft : ArtifactDraft} {staged : StagedTree}
  {prepared : PreparedCommit} {manifestFields identity : List (String × Document)}
  {inputs : List ArtifactId}

/-! ## Plans -/

/-- What commit found at its place when it chose a plan. -/
inductive Chosen (repository : Repository) (prepared : PreparedCommit) : PublishPlan → Prop
  | install (h : repository.roots.get? prepared.relativeRoot = none) :
    Chosen repository prepared .install
  | replace {files fault} (h : repository.roots.get? prepared.relativeRoot = some files)
      (hread : prepared.readPlace files = .error fault) : Chosen repository prepared .replace
  | existing {files existing} (h : repository.roots.get? prepared.relativeRoot = some files)
      (hread : prepared.readPlace files = .ok existing)
      (hid : existing.artifactId = prepared.committed.artifactId) :
    Chosen repository prepared (.existing existing)
  | conflict {files existing} (h : repository.roots.get? prepared.relativeRoot = some files)
      (hread : prepared.readPlace files = .ok existing)
      (hid : existing.artifactId ≠ prepared.committed.artifactId) :
    Chosen repository prepared .conflict

theorem chosen_exclusivePlan (repository : Repository) (prepared : PreparedCommit) :
    Chosen repository prepared (repository.exclusivePlan prepared) := by
  rw [Repository.exclusivePlan]
  split
  · rename_i h
    exact .install h
  · rename_i files h
    split
    · rename_i fault hread
      exact .replace h hread
    · rename_i existing hread
      by_cases hid : existing.artifactId = prepared.committed.artifactId
      · rw [if_pos hid]
        exact .existing h hread hid
      · rw [if_neg hid]
        exact .conflict h hread hid

/-- **The plan does not depend on which of the two locks it was made under.** -/
theorem sharedPlan_eq {repository : Repository} {plan : PublishPlan}
    (h : repository.sharedPlan prepared = some plan) :
    repository.exclusivePlan prepared = plan := by
  rw [Repository.sharedPlan] at h
  rw [Repository.exclusivePlan]
  split at h
  · exact Option.some.inj h
  · split at h
    · cases h
    · by_cases hid : ‹CommittedArtifact›.artifactId = prepared.committed.artifactId
      · rw [if_pos hid] at h ⊢
        exact Option.some.inj h
      · rw [if_neg hid] at h
        cases h

theorem chosen_publishPlan (repository : Repository) (prepared : PreparedCommit) :
    Chosen repository prepared (repository.publishPlan prepared) := by
  have hexclusive := chosen_exclusivePlan repository prepared
  rw [Repository.publishPlan]
  cases hshared : repository.sharedPlan prepared with
  | none => exact hexclusive
  | some plan =>
    rw [sharedPlan_eq hshared] at hexclusive
    exact hexclusive

/-! ## Where a plan can stop -/

theorem verifyInputs_run {repository repository' : Repository} {inputs : List ArtifactId}
    (h : CommitStep.run writer (.verifyInputs inputs) repository = .ok repository') :
    repository' = repository := by
  rw [CommitStep.run] at h
  obtain ⟨-, h⟩ := check_bind_eq_ok.mp h
  exact (Except.ok.inj h).symm

/-- Discarding the staging directory leaves every artifact alone. -/
theorem discardStep_run {step : CommitStep} (hstep : step ∈ discardSteps staged)
    {repository repository' : Repository} (h : step.run writer repository = .ok repository') :
    repository'.roots = repository.roots := by
  rw [discardSteps, List.mem_append, List.mem_map] at hstep
  rcases hstep with ⟨name, -, rfl⟩ | hstep
  · rw [CommitStep.run, Repository.updateStaging] at h
    split at h
    · cases h
    · rw [← Except.ok.inj h]
  · obtain rfl := List.mem_singleton.mp hstep
    rw [← Except.ok.inj h]

/-- Discarding the staging directory goes through. -/
theorem discard_completes (names : List String) {repository : Repository} {files : Files}
    (h : repository.staging.get? writer.stagingName = some files) :
    ∃ after, exec (CommitStep.run writer)
        (names.map CommitStep.discardFile ++ [.discardStaging]) repository = (after, none) ∧
      after.roots = repository.roots ∧ after.staging.get? writer.stagingName = none := by
  induction names generalizing repository files with
  | nil => exact ⟨_, rfl, rfl, Dict.get?_erase_self _ _⟩
  | cons name names ih =>
    have hrun : CommitStep.run writer (.discardFile name) repository = .ok
        { repository with
          staging := repository.staging.set writer.stagingName (files.erase name) } := by
      rw [CommitStep.run, Repository.updateStaging, h]
    have hstaged : (repository.staging.set writer.stagingName (files.erase name)).get?
        writer.stagingName = some (files.erase name) := Dict.get?_set_self _ _ _
    obtain ⟨after, hexec, hroots, hstaging⟩ := @ih
      { repository with
        staging := repository.staging.set writer.stagingName (files.erase name) } _ hstaged
    refine ⟨after, ?_, hroots, hstaging⟩
    rw [List.map_cons, List.cons_append, exec_cons_of_ok hrun]
    exact hexec

theorem quarantineRoot_run {repository repository' : Repository} {place : List String}
    (h : CommitStep.run writer (.quarantineRoot place) repository = .ok repository') :
    repository'.roots = repository.roots.erase place ∧
      repository'.staging = repository.staging := by
  rw [CommitStep.run] at h
  split at h
  · cases h
  · obtain rfl := Except.ok.inj h
    exact ⟨rfl, rfl⟩

theorem quarantineStaging_run {repository repository' : Repository}
    (h : CommitStep.run writer .quarantineStaging repository = .ok repository') :
    repository'.roots = repository.roots := by
  rw [CommitStep.run] at h
  split at h
  · cases h
  · rw [← Except.ok.inj h]

/-- What a plan can leave at the places of artifacts. -/
structure Left (staged : StagedTree) (prepared : PreparedCommit) (held after : Repository) :
    Prop where
  others : ∀ place ≠ prepared.relativeRoot, after.roots.get? place = held.roots.get? place
  own : after.roots.get? prepared.relativeRoot = held.roots.get? prepared.relativeRoot ∨
    (∀ files, after.roots.get? prepared.relativeRoot = some files →
      files.get? MARKER_NAME = none) ∨
    after.roots.get? prepared.relativeRoot = some (staged.final prepared)

theorem left_of_roots {held after : Repository} (h : after.roots = held.roots) :
    Left staged prepared held after :=
  ⟨fun place _ => by rw [h], .inl (by rw [h])⟩

/-- What an installation leaves, over a repository with nothing at the place. -/
theorem left_of_install
    (hprepared : Prepared draft staged prepared manifestFields identity inputs)
    {held repository after : Repository}
    (hothers : ∀ place ≠ prepared.relativeRoot,
      repository.roots.get? place = held.roots.get? place)
    (hnone : repository.roots.get? prepared.relativeRoot = none)
    (hstaged : repository.staging.get? writer.stagingName = some (staged.withControls prepared))
    {done : List CommitStep}
    (h : CutOff (CommitStep.run writer) (installSteps prepared) done repository after) :
    Left staged prepared held after := by
  rcases install_stops repository (installMoves hprepared hstaged hnone) h with
    rfl | ⟨files, rfl, hfiles⟩
  · exact ⟨hothers, .inr (.inl fun files hfiles => by rw [hnone] at hfiles; cases hfiles)⟩
  · have hown : (repository.installed writer prepared.relativeRoot files).roots.get?
        prepared.relativeRoot = some files := Dict.get?_set_self _ _ _
    refine ⟨fun place hplace => ?_, .inr ?_⟩
    · rw [← hothers place hplace]
      exact Dict.get?_set_of_ne _ _ hplace
    · rcases hfiles with hmarker | rfl
      · refine .inl fun found hfound => ?_
        rw [hown] at hfound
        rwa [← Option.some.inj hfound]
      · exact .inr hown

/-- Where a plan can stop, by the plan. -/
def PlanStops (staged : StagedTree) (prepared : PreparedCommit) (held after : Repository) :
    PublishPlan → Prop
  | .install => Left staged prepared held after
  | .replace => Left staged prepared held after
  | .existing _ => after.roots = held.roots
  | .conflict => after.roots = held.roots ∨ after.roots = held.roots.erase prepared.relativeRoot

theorem planStops_of_roots {held after : Repository} (h : after.roots = held.roots)
    (plan : PublishPlan) : PlanStops staged prepared held after plan := by
  cases plan with
  | install => exact left_of_roots h
  | replace => exact left_of_roots h
  | existing descriptor => exact h
  | conflict => exact .inl h

theorem plan_stops (hprepared : Prepared draft staged prepared manifestFields identity inputs)
    {held : Repository}
    (hstaged : held.staging.get? writer.stagingName = some (staged.withControls prepared))
    {plan : PublishPlan} (hchosen : Chosen held prepared plan) {done : List CommitStep}
    {after : Repository}
    (h : CutOff (CommitStep.run writer) (plan.steps staged prepared) done held after) :
    PlanStops staged prepared held after plan := by
  cases hchosen with
  | install hnone => exact left_of_install hprepared (fun _ _ => rfl) hnone hstaged h
  | replace hfiles hread =>
    rcases cutOff_cons h with rfl | ⟨t, done, hstep, h⟩
    · exact left_of_roots rfl
    · obtain ⟨hroots, hstaging⟩ := quarantineRoot_run hstep
      refine left_of_install hprepared (fun place hplace => ?_) ?_ ?_ h
      · rw [hroots, Dict.get?_erase_of_ne _ hplace]
      · rw [hroots, Dict.get?_erase_self]
      · rw [hstaging, hstaged]
  | existing hfiles hread hid =>
    exact h.keeps (P := fun r => r.roots = held.roots)
      (fun step hstep s s' hs hrun => (discardStep_run hstep hrun).trans hs) rfl
  | conflict hfiles hread hid =>
    rcases cutOff_cons h with rfl | ⟨t, done, hstep, h⟩
    · exact .inl rfl
    · obtain ⟨hroots, -⟩ := quarantineRoot_run hstep
      rcases cutOff_cons h with rfl | ⟨t', done, hstep, h⟩
      · exact .inr hroots
      · rw [cutOff_nil h]
        exact .inr ((quarantineStaging_run hstep).trans hroots)

/-- **Wherever a commit stops, what it left is what its plan can leave.** -/
theorem commitStops_plan
    (hprepared : Prepared draft staged prepared manifestFields identity inputs)
    {held after : Repository} (h : CommitStops writer draft staged prepared held after) :
    PlanStops staged prepared held after (held.publishPlan prepared) := by
  cases h with
  | waiting h => exact planStops_of_roots rfl _
  | staging h hnext hrun =>
    exact planStops_of_roots (stagingStep_run (hnext.subset (by simp)) h.files hrun).1 _
  | locked h hcut =>
    rw [lockedSteps] at hcut
    rcases cutOff_cons hcut with rfl | ⟨t, done, hstep, hcut⟩
    · exact planStops_of_roots rfl _
    · obtain rfl := verifyInputs_run hstep
      exact plan_stops hprepared h.controls (chosen_publishPlan _ prepared) hcut

/-! ## What is read where a commit stopped -/

theorem readPlace_final
    (hprepared : Prepared draft staged prepared manifestFields identity inputs) :
    prepared.readPlace (staged.final prepared) = .ok prepared.committed := by
  have hverify := verifyCommitted_final hprepared none (by simp)
  rw [PreparedCommit.readPlace, hprepared.kind, hverify, ok_bind,
    committedFromDescriptor_written hprepared]

theorem readPlace_marked {files : Files} {existing : CommittedArtifact}
    (h : prepared.readPlace files = .ok existing) : files.get? MARKER_NAME ≠ none := by
  rw [PreparedCommit.readPlace] at h
  obtain ⟨descriptor, hverify, -⟩ := bind_eq_ok.mp h
  obtain ⟨version, artifactId, fields, placement, hverified, -⟩ := verifyCommitted_eq_ok.mp hverify
  rw [hverified.marker_text]
  exact Option.some_ne_none _

/-- **What was left by a commit that found nothing to return is its own artifact or none.** -/
theorem classified_left
    (hprepared : Prepared draft staged prepared manifestFields identity inputs)
    (hfree : Collisionless prepared (prepared.identityText draft staged))
    {held after : Repository} (hleft : Left staged prepared held after)
    (hheld : ∀ files existing, held.roots.get? prepared.relativeRoot = some files →
      prepared.readPlace files ≠ .ok existing) :
    after.Uncommitted prepared.committed.artifactId ∨
      after.Published prepared (.ok prepared.committed) := by
  rcases hleft.own with hsame | hunmarked | hfinal
  · refine .inl (uncommitted_of hprepared hfree fun files existing hfiles hread => ?_)
    rw [hsame] at hfiles
    exact absurd hread (hheld files existing hfiles)
  · refine .inl (uncommitted_of hprepared hfree fun files existing hfiles hread => ?_)
    exact absurd (hunmarked files hfiles) (readPlace_marked hread)
  · exact .inr (published_of hprepared hfree hfinal (readPlace_final hprepared) rfl)

/-- **A repository in which a commit has stopped has no artifact of its identity or the one it
returns.** -/
theorem classified
    (hprepared : Prepared draft staged prepared manifestFields identity inputs)
    (hfree : Collisionless prepared (prepared.identityText draft staged))
    {held after : Repository} (h : CommitStops writer draft staged prepared held after) :
    after.Uncommitted prepared.committed.artifactId ∨
      after.Published prepared ((held.publishPlan prepared).result prepared) := by
  have hstops := commitStops_plan hprepared h
  have hchosen := chosen_publishPlan held prepared
  generalize held.publishPlan prepared = plan at hstops hchosen
  cases hchosen with
  | install hnone =>
    refine classified_left hprepared hfree hstops fun files existing hfiles => ?_
    rw [hnone] at hfiles
    cases hfiles
  | replace hfound hfault =>
    refine classified_left hprepared hfree hstops fun files existing hfiles hread => ?_
    rw [hfound] at hfiles
    obtain rfl := Option.some.inj hfiles
    rw [hfault] at hread
    cases hread
  | existing hfound hread hid =>
    have hroots : after.roots = held.roots := hstops
    exact .inr (published_of hprepared hfree (by rw [hroots, hfound]) hread hid)
  | conflict hfound hread hid =>
    refine .inl (uncommitted_of hprepared hfree fun files existing hfiles hread' => ?_)
    rcases hstops with hroots | hroots
    · rw [hroots, hfound] at hfiles
      obtain rfl := Option.some.inj hfiles
      rw [hread] at hread'
      rw [← Except.ok.inj hread']
      exact hid
    · rw [hroots, Dict.get?_erase_self] at hfiles
      cases hfiles

/-! ## What was committed before -/

/-- A commit that finds its own artifact returns it. -/
theorem publishPlan_existing {held : Repository} {files : Files} {existing : CommittedArtifact}
    (hfiles : held.roots.get? prepared.relativeRoot = some files)
    (hread : prepared.readPlace files = .ok existing)
    (hid : existing.artifactId = prepared.committed.artifactId) :
    held.publishPlan prepared = .existing existing := by
  have hchosen := chosen_publishPlan held prepared
  generalize held.publishPlan prepared = plan at hchosen ⊢
  cases hchosen with
  | install hnone =>
    rw [hnone] at hfiles
    cases hfiles
  | replace hfound hfault =>
    rw [hfound] at hfiles
    rw [← Option.some.inj hfiles, hfault] at hread
    cases hread
  | existing hfound hread' hid' =>
    rw [hfound] at hfiles
    rw [← Option.some.inj hfiles, hread'] at hread
    rw [Except.ok.inj hread]
  | conflict hfound hread' hid' =>
    rw [hfound] at hfiles
    rw [← Option.some.inj hfiles, hread'] at hread
    rw [Except.ok.inj hread] at hid'
    exact absurd hid hid'

/-- **What is committed under the identity of a commit stays as it is.** -/
theorem committed_kept
    (hprepared : Prepared draft staged prepared manifestFields identity inputs)
    (hfree : Collisionless prepared (prepared.identityText draft staged))
    {held after : Repository} (h : CommitStops writer draft staged prepared held after)
    {place : List String} {files : Files} (hfiles : held.roots.get? place = some files)
    {kind : Option ArtifactKind} {descriptor : List (String × Document)}
    (hverify : verifyCommitted place files (some prepared.committed.artifactId) kind =
      .ok descriptor) : after.roots.get? place = some files := by
  obtain ⟨rfl, existing, -, hread, hid⟩ := readPlace_of_verified hprepared hfree hverify
  have hstops := commitStops_plan hprepared h
  rw [publishPlan_existing hfiles hread hid] at hstops
  have hroots : after.roots = held.roots := hstops
  rw [hroots, hfiles]

omit [ContentHash] in
/-- The subdirectory of a place tells the kind. -/
theorem artifactSubdirectory_injective : Function.Injective artifactSubdirectory := by
  have hread : ∀ kind, ArtifactKind.members.find? (fun other =>
      artifactSubdirectory other == artifactSubdirectory kind) = some kind := by
    intro kind
    cases kind <;> rfl
  intro kind kind' h
  have hkind := hread kind
  rw [h, hread kind'] at hkind
  exact (Option.some.inj hkind).symm

omit [ContentHash] in
theorem head_of_artifactRelativePath {kind : ArtifactKind} {artifactId : ArtifactId}
    {placement : List (String × Document)} {place : List String}
    (h : artifactRelativePath kind artifactId placement = some place) :
    place.head? = some (artifactSubdirectory kind) := by
  rw [artifactRelativePath.eq_def] at h
  dsimp only at h
  split at h
  · obtain ⟨digest, -, h⟩ := Option.bind_eq_some_iff.mp h
    rw [← Option.some.inj h]
    rfl
  · obtain ⟨digest, -, h⟩ := Option.bind_eq_some_iff.mp h
    rw [← Option.some.inj h]
    rfl
  · obtain ⟨digest, -, h⟩ := Option.bind_eq_some_iff.mp h
    obtain ⟨attempt, -, h⟩ := Option.bind_eq_some_iff.mp h
    rw [← Option.some.inj h]
    rfl
  · rw [← Option.some.inj h]
    rfl

/-- A tree that verifies at the place of a commit is of its kind. -/
theorem readPlace_of_place
    (hprepared : Prepared draft staged prepared manifestFields identity inputs) {files : Files}
    {descriptor : List (String × Document)}
    (h : verifyCommitted prepared.relativeRoot files none none = .ok descriptor) :
    ∃ existing, prepared.readPlace files = .ok existing := by
  obtain ⟨version, artifactId, fields, placement, hverified, -, -⟩ := verifyCommitted_eq_ok.mp h
  have hhead := head_of_artifactRelativePath hverified.placed
  rw [head_of_artifactRelativePath hprepared.place] at hhead
  have hkind : draft.kind = fields.kind :=
    artifactSubdirectory_injective (Option.some.inj hhead)
  obtain ⟨existing, hread, -, -⟩ := committedFromDescriptor_of_verified hverified
  have hverify : verifyCommitted prepared.relativeRoot files none
      (some prepared.committed.kind) = .ok descriptor := by
    refine verifyCommitted_eq_ok.mpr ⟨_, _, _, _, hverified, by simp, fun kind hmem => ?_⟩
    rw [← hkind, ← hprepared.kind, ← Option.mem_some_iff.mp hmem]
  exact ⟨existing, by rw [PreparedCommit.readPlace, hverify, ok_bind, hread]⟩

/-- **No other content takes the place of a committed artifact**, of any identity. -/
theorem never_replaced
    (hprepared : Prepared draft staged prepared manifestFields identity inputs)
    {held after : Repository} (h : CommitStops writer draft staged prepared held after)
    {place : List String} {files : Files} (hfiles : held.roots.get? place = some files)
    {descriptor : List (String × Document)}
    (hverify : verifyCommitted place files none none = .ok descriptor) {files' : Files}
    (hfiles' : after.roots.get? place = some files') : files' = files := by
  have hstops := commitStops_plan hprepared h
  have hchosen := chosen_publishPlan held prepared
  generalize held.publishPlan prepared = plan at hstops hchosen
  by_cases hplace : place = prepared.relativeRoot
  · obtain rfl := hplace
    obtain ⟨existing, hread⟩ := readPlace_of_place hprepared hverify
    cases hchosen with
    | install hnone =>
      rw [hnone] at hfiles
      cases hfiles
    | replace hfound hfault =>
      rw [hfound] at hfiles
      rw [← Option.some.inj hfiles, hfault] at hread
      cases hread
    | existing hfound hread' hid' =>
      have hroots : after.roots = held.roots := hstops
      rw [hroots, hfiles] at hfiles'
      exact (Option.some.inj hfiles').symm
    | conflict hfound hread' hid' =>
      rcases hstops with hroots | hroots
      · rw [hroots, hfiles] at hfiles'
        exact (Option.some.inj hfiles').symm
      · rw [hroots, Dict.get?_erase_self] at hfiles'
        cases hfiles'
  · have hsame : after.roots.get? place = held.roots.get? place := by
      cases plan with
      | install => exact hstops.others place hplace
      | replace => exact hstops.others place hplace
      | existing descriptor => exact congrArg (fun roots => Dict.get? roots place) hstops
      | conflict =>
        rcases hstops with hroots | hroots
        · rw [hroots]
        · rw [hroots, Dict.get?_erase_of_ne _ hplace]
    rw [hsame, hfiles] at hfiles'
    exact (Option.some.inj hfiles').symm

/-! ## Whole scripts -/

/-- The inputs of a commit are verified, or one of them is not and nothing was done. -/
theorem verifyInputs_cases (writer : Writer) (repository : Repository) (inputs : List ArtifactId) :
    CommitStep.run writer (.verifyInputs inputs) repository = .ok repository ∨
    ∃ fault, CommitStep.run writer (.verifyInputs inputs) repository = .error fault ∧
      ∃ input ∈ inputs, repository.verifyArtifact input = .error fault := by
  cases hrun : CommitStep.run writer (.verifyInputs inputs) repository with
  | ok repository' =>
    rw [verifyInputs_run hrun]
    exact .inl rfl
  | error fault =>
    refine .inr ⟨fault, rfl, ?_⟩
    rw [CommitStep.run] at hrun
    have hloop : (inputs.forM fun input => do
        let _ ← repository.verifyArtifact input
        .ok () : Except ArtifactFault Unit) = .error fault := by
      rcases bind_eq_error.mp hrun with h | ⟨_, -, h⟩
      · exact h
      · cases h
    clear hrun
    induction inputs with
    | nil => cases hloop
    | cons input rest ih =>
      rcases bind_eq_error.mp hloop with h | ⟨_, -, h⟩
      · rcases bind_eq_error.mp h with h | ⟨_, -, h⟩
        · exact ⟨input, List.mem_cons_self, h⟩
        · cases h
      · obtain ⟨other, hmem, hother⟩ := ih h
        exact ⟨other, List.mem_cons_of_mem _ hmem, hother⟩

/-- **A commit that goes through leaves the artifact it returns.** -/
theorem completes (hprepared : Prepared draft staged prepared manifestFields identity inputs)
    (hfree : Collisionless prepared (prepared.identityText draft staged))
    {held after : Repository} (hstaging : Staging writer staged prepared (stagingSteps prepared) held)
    (hexec : exec (CommitStep.run writer) (lockedSteps held draft staged prepared) held =
      (after, none)) {committed : CommittedArtifact}
    (hresult : (held.publishPlan prepared).result prepared = .ok committed) :
    after.Published prepared (.ok committed) := by
  have hchosen := chosen_publishPlan held prepared
  have hsteps : exec (CommitStep.run writer)
      ((held.publishPlan prepared).steps staged prepared) held = (after, none) := by
    rw [lockedSteps] at hexec
    rcases verifyInputs_cases writer held draft.inputArtifactIds with
      hrun | ⟨fault, hrun, -⟩
    · rwa [exec_cons_of_ok hrun] at hexec
    · rw [exec_cons_of_error hrun] at hexec
      cases hexec
  have hinstalled : ∀ repository : Repository,
      repository.staging.get? writer.stagingName = some (staged.withControls prepared) →
      repository.roots.get? prepared.relativeRoot = none →
      exec (CommitStep.run writer) (installSteps prepared) repository = (after, none) →
      after.Published prepared (.ok prepared.committed) := by
    intro repository hstaged hnone hinstall
    rw [install_completes repository (installMoves hprepared hstaged hnone)] at hinstall
    obtain rfl := congrArg Prod.fst hinstall
    exact published_of hprepared hfree (Dict.get?_set_self _ _ _) (readPlace_final hprepared) rfl
  generalize held.publishPlan prepared = plan at hresult hchosen hsteps
  cases hchosen with
  | install hnone =>
    rw [← Except.ok.inj hresult]
    exact hinstalled held hstaging.controls hnone hsteps
  | replace hfound hfault =>
    rw [← Except.ok.inj hresult]
    cases hstep : CommitStep.run writer (.quarantineRoot prepared.relativeRoot) held with
    | error fault =>
      rw [PublishPlan.steps, exec_cons_of_error hstep] at hsteps
      cases hsteps
    | ok repository =>
      rw [PublishPlan.steps, exec_cons_of_ok hstep] at hsteps
      obtain ⟨hroots, hkept⟩ := quarantineRoot_run hstep
      refine hinstalled repository ?_ ?_ hsteps
      · rw [hkept, hstaging.controls]
      · rw [hroots, Dict.get?_erase_self]
  | existing hfound hread hid =>
    rw [← Except.ok.inj hresult]
    have hroots : after.roots = held.roots :=
      exec_keeps (P := fun r => r.roots = held.roots) hsteps
        (fun step hstep s s' hs hrun => (discardStep_run hstep hrun).trans hs) rfl
    exact published_of hprepared hfree (by rw [hroots, hfound]) hread hid
  | conflict hfound hread hid => cases hresult

/-- **Publishing what is committed already** returns the descriptor that is there and discards the
staging, unless an input does not verify. -/
theorem republishes (hprepared : Prepared draft staged prepared manifestFields identity inputs)
    (hfree : Collisionless prepared (prepared.identityText draft staged)) {held : Repository}
    (hstaging : Staging writer staged prepared (stagingSteps prepared) held)
    {place : List String} {files : Files} (hfiles : held.roots.get? place = some files)
    {kind : Option ArtifactKind} {descriptor : List (String × Document)}
    (hverify : verifyCommitted place files (some prepared.committed.artifactId) kind =
      .ok descriptor) :
    (∃ fault, exec (CommitStep.run writer) (lockedSteps held draft staged prepared) held =
        (held, some fault) ∧
      ∃ input ∈ draft.inputArtifactIds, held.verifyArtifact input = .error fault) ∨
    ∃ after existing, exec (CommitStep.run writer) (lockedSteps held draft staged prepared) held =
        (after, none) ∧ committedFromDescriptor descriptor = .ok existing ∧
      (held.publishPlan prepared).result prepared = .ok existing ∧ after.roots = held.roots ∧
      after.staging.get? writer.stagingName = none := by
  obtain ⟨rfl, existing, hdescriptor, hread, hid⟩ := readPlace_of_verified hprepared hfree hverify
  have hplan := publishPlan_existing hfiles hread hid
  rcases verifyInputs_cases writer held draft.inputArtifactIds with
    hrun | ⟨fault, hrun, hinput⟩
  · obtain ⟨after, hexec, hroots, hgone⟩ := discard_completes
      (staged.payload.keys ++ [MANIFEST_NAME, IDENTITY_MANIFEST_NAME, DESCRIPTOR_NAME])
      hstaging.controls
    refine .inr ⟨after, existing, ?_, hdescriptor, ?_, hroots, hgone⟩
    · rw [lockedSteps, exec_cons_of_ok hrun, hplan]
      exact hexec
    · rw [hplan]
      rfl
  · refine .inl ⟨fault, ?_, hinput⟩
    rw [lockedSteps, exec_cons_of_error hrun]

/-! ## A commit, wherever it stops -/

/-- What a commit does to the repository, wherever it stops. -/
structure PublicationSafe (writer : Writer) (draft : ArtifactDraft) (staged : StagedTree)
    (prepared : PreparedCommit) : Prop where
  atomic : ∀ held after, CommitStops writer draft staged prepared held after →
    after.Uncommitted prepared.committed.artifactId ∨
      after.Published prepared ((held.publishPlan prepared).result prepared)
  completes : ∀ held after, Staging writer staged prepared (stagingSteps prepared) held →
    exec (CommitStep.run writer) (lockedSteps held draft staged prepared) held = (after, none) →
    ∀ committed, (held.publishPlan prepared).result prepared = .ok committed →
      after.Published prepared (.ok committed)
  republishes : ∀ held place files kind descriptor,
    Staging writer staged prepared (stagingSteps prepared) held →
    held.roots.get? place = some files →
    verifyCommitted place files (some prepared.committed.artifactId) kind = .ok descriptor →
    (∃ fault, exec (CommitStep.run writer) (lockedSteps held draft staged prepared) held =
        (held, some fault) ∧
      ∃ input ∈ draft.inputArtifactIds, held.verifyArtifact input = .error fault) ∨
    ∃ after existing, exec (CommitStep.run writer) (lockedSteps held draft staged prepared) held =
        (after, none) ∧ committedFromDescriptor descriptor = .ok existing ∧
      (held.publishPlan prepared).result prepared = .ok existing ∧ after.roots = held.roots ∧
      after.staging.get? writer.stagingName = none
  kept : ∀ held after, CommitStops writer draft staged prepared held after →
    ∀ place files kind descriptor, held.roots.get? place = some files →
      verifyCommitted place files (some prepared.committed.artifactId) kind = .ok descriptor →
      after.roots.get? place = some files
  not_replaced : ∀ held after, CommitStops writer draft staged prepared held after →
    ∀ place files descriptor, held.roots.get? place = some files →
      verifyCommitted place files none none = .ok descriptor →
      ∀ files', after.roots.get? place = some files' → files' = files

/-- **Publication is atomic and immutable**: wherever a commit stops the repository has no artifact
of its identity, or the one it returns and has verified; publishing again returns what is there; and
nothing that was committed is replaced. -/
theorem publication_safe {manifest : Content} {identityManifest : Option Content}
    (hprepare : prepareCommit draft staged manifest identityManifest = .ok prepared)
    (hfree : Collisionless prepared (prepared.identityText draft staged)) :
    PublicationSafe writer draft staged prepared := by
  obtain ⟨manifestFields, identity, inputs, hprepared⟩ := prepareCommit_spec hprepare
  refine ⟨?_, ?_, ?_, ?_, ?_⟩
  · intro held after hstops
    exact classified hprepared hfree hstops
  · intro held after hstaging hexec committed hresult
    exact completes hprepared hfree hstaging hexec hresult
  · intro held place files kind descriptor hstaging hfiles hverify
    exact republishes hprepared hfree hstaging hfiles hverify
  · intro held after hstops place files kind descriptor hfiles hverify
    exact committed_kept hprepared hfree hstops hfiles hverify
  · intro held after hstops place files descriptor hfiles hverify files' hfiles'
    exact never_replaced hprepared hstops hfiles hverify hfiles'

end

/-! ## A sample -/

section Sample

def sampleManifest : Content := .json (.object [("name", .text "sample")])

def sampleIdentityText : Content :=
  .json (.object
    [("files", .array [.object [("path", .text "data.bin"), ("sha256", .text (hexText 0)),
        ("size", .integer 0)]]),
      ("input_artifact_ids", .array []), ("kind", .text "SNAPSHOT"),
      ("manifest_identity_sha256", .text (hexText 5)), ("version", .integer 3)])

@[reducible] def sampleContentHash : ContentHash where
  sha256 domain content :=
    if domain = identityDomain 3 ∧ content = sampleIdentityText then 7
    else if content = sampleManifest then 5 else 0
  size _ := 0

attribute [local instance] sampleContentHash

def sampleDraft : ArtifactDraft :=
  { kind := .snapshot, buildKey := { hex := 9 }, inputArtifactIds := [] }

def samplePayload : Files := Dict.empty.set "data.bin" (.bytes 1)

theorem samplePayload_paths : ∀ path ∈ samplePayload.keys, IsPayloadPath path := by
  intro path hpath
  obtain rfl := (Dict.mem_keys_set.mp hpath).resolve_right (by simp [Dict.keys])
  decide

def sampleStaged : StagedTree := ⟨samplePayload, samplePayload_paths⟩

def samplePrepared : PreparedCommit where
  committed :=
    { artifactId := ⟨7⟩, kind := .snapshot, manifestDigest := { hex := 5 }, buildKey := { hex := 9 }
      inputArtifactIds := [] }
  manifest := sampleManifest
  manifestIdentity := sampleManifest
  descriptor := .json (.object (descriptorOf sampleDraft ⟨7⟩
    [.object [("path", .text "data.bin"), ("sha256", .text (hexText 0)), ("size", .integer 0)]] []
    sampleManifest sampleManifest))
  relativeRoot := ["snapshots", hexText 7]

theorem sample_manifestHash : sha256 "" sampleManifest = 5 := by
  show (if _ then _ else _) = _
  rw [if_neg (by decide), if_pos rfl]

theorem sample_identityHash : sha256 (identityDomain 3) sampleIdentityText = 7 :=
  if_pos ⟨rfl, rfl⟩

theorem sample_payload : payloadEntries (sampleStaged.withManifests sampleManifest sampleManifest) =
    [.object [("path", .text "data.bin"), ("sha256", .text (hexText 0)),
      ("size", .integer 0)]] := by
  have hhash : sha256 "" (.bytes 1) = 0 := by
    show (if _ then _ else _) = _
    rw [if_neg (by decide), if_neg (by decide)]
  have hentries : sampleStaged.payload.entries = [("data.bin", .bytes 1)] := rfl
  rw [StagedTree.withManifests, payloadEntries_set _ (by decide), payloadEntries_set _ (by decide),
    payloadEntries, hentries, List.filter_cons_of_pos (by decide), List.filter_nil,
    List.insertionSort_cons, List.insertionSort_nil, List.orderedInsert_nil, List.map_singleton,
    hhash]
  rfl

theorem sample_identityText : contentIdentity sampleDraft
    (payloadEntries (sampleStaged.withManifests sampleManifest sampleManifest)) []
    sampleManifest =
    [("files", .array [.object [("path", .text "data.bin"), ("sha256", .text (hexText 0)),
        ("size", .integer 0)]]),
      ("input_artifact_ids", .array []), ("kind", .text "SNAPSHOT"),
      ("manifest_identity_sha256", .text (hexText 5)), ("version", .integer 3)] := by
  rw [contentIdentity, sample_payload, sample_manifestHash]
  rfl

theorem samplePrepared_prepared :
    prepareCommit sampleDraft sampleStaged sampleManifest none = .ok samplePrepared := by
  have hparse : ∀ label, parseJsonObject sampleManifest label = .ok [("name", .text "sample")] :=
    fun _ => rfl
  rw [prepareCommit, Option.getD_none, hparse, ok_bind]
  dsimp only
  have htext : sampleManifest = .json (.object [("name", .text "sample")]) := rfl
  rw [hparse, ok_bind, refuseIf_of_not (not_not.mpr htext), ok_bind,
    refuseIf_of_not (by decide), ok_bind, refuseIf_of_not (by simp [sampleDraft]), ok_bind]
  have hinputs : sampleDraft.inputArtifactIds.insertionSort (· ≤ ·) = [] := rfl
  rw [hinputs, sample_identityText]
  have hhash := sample_identityHash
  rw [sampleIdentityText] at hhash
  rw [hhash, sample_payload, sample_manifestHash]
  rfl

theorem samplePrepared_collisionless :
    Collisionless samplePrepared (samplePrepared.identityText sampleDraft sampleStaged) := by
  have htext : samplePrepared.identityText sampleDraft sampleStaged = sampleIdentityText :=
    congrArg (fun fields => Content.json (.object fields)) sample_identityText
  refine ⟨fun domain content h => ?_, fun content h => ?_⟩
  · rw [htext]
    by_contra hne
    have hseven : (if content = sampleManifest then (5 : Fin (2 ^ 256)) else 0) = 7 := by
      rw [← show sha256 domain content = 7 from h]
      exact (if_neg hne).symm
    split at hseven
    · exact absurd hseven (by decide)
    · exact absurd hseven (by decide)
  · by_contra hne
    have hfive : (if "" = identityDomain 3 ∧ content = sampleIdentityText then
        (7 : Fin (2 ^ 256)) else 0) = 5 := by
      rw [← sample_manifestHash, ← show sha256 "" content = sha256 "" sampleManifest from h]
      show _ = if _ then _ else _
      rw [if_neg (show ¬ content = sampleManifest from hne)]
    split at hfive
    · exact absurd hfive (by decide)
    · exact absurd hfive (by decide)

/-- A commit of one file. -/
theorem publication_safe_sample :
    PublicationSafe { stagingName := "stage", nonce := "0", torn := 0 } sampleDraft sampleStaged
      samplePrepared :=
  publication_safe samplePrepared_prepared samplePrepared_collisionless

end Sample

end Artifacts

end OnchainBacktest
