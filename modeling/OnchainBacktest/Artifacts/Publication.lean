import OnchainBacktest.Lib.Script
import OnchainBacktest.Artifacts.CommittedTree

/-!
# Publishing an artifact

A writer stages files, and `commit` writes the control files beside them, renames the staging
directory to the place of the artifact and puts the commit marker there.  What it does is a script
of atomic steps, a file being written in two of them, so that it can be cut off with a file written
in part.  Which script it is depends on what stands at the place when the locks are held.
-/

set_option autoImplicit false

namespace OnchainBacktest

namespace Artifacts

open Checked

/-! ## The repository -/

/-- The directories at the places of artifacts, the staging directories and what was put aside. -/
structure Repository where
  roots : Dict (List String) Files
  staging : Dict String Files
  trash : List Files

section

variable [ContentHash]

/-- A segment that spells a digest without a prefix. -/
def isCanonicalDigestSegment (segment : String) : Bool :=
  match ContentDigest.make segment with
  | .ok digest => !digest.prefixed
  | .error _ => false

/-- The directories with the shape of the places of a kind. -/
def Repository.candidateRoots (repository : Repository) (kind : ArtifactKind) :
    List (List String × Files) :=
  (repository.roots.entries.filter fun e =>
    decide (e.1.head? = some (artifactSubdirectory kind)) &&
      decide (e.1.length = artifactPathDepth kind + 1) &&
      e.1.tail.all isCanonicalDigestSegment).insertionSort fun a b => a.1 ≤ b.1

/-- `_candidate_descriptor_id`. -/
def candidateDescriptorId (files : Files) : Except ArtifactFault (Option ArtifactId) :=
  match files.get? DESCRIPTOR_NAME with
  | none => .ok none
  | some content => do
    let descriptor ← parseJsonObject content "artifact descriptor"
    refuseIf (content ≠ .json (.object descriptor))
      (.integrity "artifact descriptor is not canonical JSON")
    let artifactId ← descriptorId descriptor none
    .ok (some artifactId)

/-- The identity a candidate goes by, when it has a marker. -/
def candidateId (kind : ArtifactKind) (candidate : List String × Files) :
    Except ArtifactFault (Option ArtifactId) :=
  if candidate.2.get? MARKER_NAME = none then .ok none
  else if artifactLeafNamesArtifactId kind then
    .ok ((candidate.1.getLast?.bind fun name => readDigest (.text name)).map fun digest =>
      ⟨digest.hex⟩)
  else candidateDescriptorId candidate.2

/-- The candidates of one kind that go by an identity. -/
def Repository.matchesOf (repository : Repository) (artifactId : ArtifactId) (kind : ArtifactKind) :
    Except ArtifactFault (List (ArtifactKind × List String × Files)) := do
  let named ← (repository.candidateRoots kind).mapM fun candidate => do
    let named ← candidateId kind candidate
    .ok (if named = some artifactId then [(kind, candidate)] else [])
  .ok named.flatten

/-- `_find_artifact_root`. -/
def Repository.findArtifactRoot (repository : Repository) (artifactId : ArtifactId) :
    Except ArtifactFault (ArtifactKind × List String × Files) := do
  let found ← ArtifactKind.members.mapM (repository.matchesOf artifactId)
  match found.flatten with
  | [] => .error (.notCommitted "artifact is not committed")
  | [root] => .ok root
  | _ => .error (.integrity "artifact id exists in more than one physical location")

/-- Find and verify an artifact. -/
def Repository.verifyArtifact (repository : Repository) (artifactId : ArtifactId) :
    Except ArtifactFault (List (String × Document)) := do
  let root ← repository.findArtifactRoot artifactId
  verifyCommitted root.2.1 root.2.2 (some artifactId) (some root.1)

/-- `open_committed`: the descriptor the handle has. -/
def Repository.openCommitted (repository : Repository) (artifactId : ArtifactId) :
    Except ArtifactFault CommittedArtifact := do
  let descriptor ← repository.verifyArtifact artifactId
  committedFromDescriptor descriptor

/-! ## What commit prepares -/

/-- `ArtifactDraft`. -/
structure ArtifactDraft where
  kind : ArtifactKind
  buildKey : ContentDigest
  inputArtifactIds : List ArtifactId

/-- A staged tree: payload files only, as `open_binary` creates them. -/
structure StagedTree where
  payload : Files
  payload_paths : ∀ path ∈ payload.keys, IsPayloadPath path

/-- What commit has computed when it starts to publish. -/
structure PreparedCommit where
  committed : CommittedArtifact
  manifest : Content
  manifestIdentity : Content
  descriptor : Content
  relativeRoot : List String

/-- The staging directory with the two manifests. -/
def StagedTree.withManifests (staged : StagedTree) (manifest manifestIdentity : Content) : Files :=
  (staged.payload.set MANIFEST_NAME manifest).set IDENTITY_MANIFEST_NAME manifestIdentity

/-- The identity of an artifact: the fields its hash is taken of. -/
def contentIdentity (draft : ArtifactDraft) (files : List Document) (inputs : List ArtifactId)
    (manifestIdentity : Content) : List (String × Document) :=
  [("files", .array files),
    ("input_artifact_ids", .array (inputs.map fun input => .text (hexText input.hex))),
    ("kind", .text draft.kind.value),
    ("manifest_identity_sha256", .text (hexText (sha256 "" manifestIdentity))),
    ("version", .integer 3)]

/-- The fields of a version 3 descriptor. -/
def descriptorOf (draft : ArtifactDraft) (artifactId : ArtifactId) (files : List Document)
    (inputs : List ArtifactId) (manifest manifestIdentity : Content) :
    List (String × Document) :=
  [("artifact_id", .text (hexText artifactId.hex)),
    ("build_key", .text (hexText draft.buildKey.hex)),
    ("files", .array files),
    ("input_artifact_ids", .array (inputs.map fun input => .text (hexText input.hex))),
    ("kind", .text draft.kind.value),
    ("manifest_identity_sha256", .text (hexText (sha256 "" manifestIdentity))),
    ("manifest_sha256", .text (hexText (sha256 "" manifest))),
    ("version", .integer 3)]

/-- `commit`, up to the publication. -/
def prepareCommit (draft : ArtifactDraft) (staged : StagedTree) (manifest : Content)
    (identityManifest : Option Content) : Except ArtifactFault PreparedCommit := do
  let manifestFields ← parseJsonObject manifest "root manifest"
  let selected := identityManifest.getD manifest
  let identity ← parseJsonObject selected "manifest identity"
  refuseIf (selected ≠ .json (.object identity))
    (.integrity "manifest identity must be canonical JSON")
  refuseIf (isJsonProjection (.object identity) (.object manifestFields) = false)
    (.integrity "manifest identity must project the root manifest")
  let files := payloadEntries (staged.withManifests manifest selected)
  let inputs := draft.inputArtifactIds.insertionSort (· ≤ ·)
  refuseIf (¬ inputs.Nodup) (.integrity "artifact inputs must not contain duplicates")
  let artifactId : ArtifactId :=
    ⟨sha256 (identityDomain 3) (.json (.object (contentIdentity draft files inputs selected)))⟩
  match artifactRelativePath draft.kind artifactId identity with
  | none => .error (.integrity "artifact identity cannot be placed in the local data root")
  | some relativeRoot =>
    .ok
      { committed :=
          { artifactId, kind := draft.kind, manifestDigest := { hex := sha256 "" manifest }
            buildKey := { hex := draft.buildKey.hex }, inputArtifactIds := inputs }
        manifest, manifestIdentity := selected
        descriptor :=
          .json (.object (descriptorOf draft artifactId files inputs manifest selected))
        relativeRoot }

/-! ## Steps -/

/-- The names a writer has chosen, and what a write that is cut off leaves in a file. -/
structure Writer where
  stagingName : String
  nonce : String
  torn : Nat

def Writer.temporaryMarker (writer : Writer) : String := TEMPORARY_MARKER_PREFIX ++ writer.nonce

inductive CommitStep
  | createStaged (name : String)
  | finishStaged (name : String) (content : Content)
  | verifyInputs (inputs : List ArtifactId)
  | renameStaging (relativeRoot : List String)
  | createMarker (relativeRoot : List String)
  | finishMarker (relativeRoot : List String) (content : Content)
  | replaceMarker (relativeRoot : List String)
  | verifyInstalled (relativeRoot : List String) (artifactId : ArtifactId) (kind : ArtifactKind)
  | discardFile (name : String)
  | discardStaging
  | quarantineRoot (relativeRoot : List String)
  | quarantineStaging

/-- Change the files of a staging directory. -/
def Repository.updateStaging (repository : Repository) (name : String) (update : Files → Files) :
    Except ArtifactFault Repository :=
  match repository.staging.get? name with
  | none => .error .osError
  | some files => .ok { repository with staging := repository.staging.set name (update files) }

/-- Change the files at the place of an artifact. -/
def Repository.updateRoot (repository : Repository) (relativeRoot : List String)
    (update : Files → Files) : Except ArtifactFault Repository :=
  match repository.roots.get? relativeRoot with
  | none => .error .osError
  | some files => .ok { repository with roots := repository.roots.set relativeRoot (update files) }

/-- What a step does to the repository, or why it fails. -/
def CommitStep.run (writer : Writer) (step : CommitStep) (repository : Repository) :
    Except ArtifactFault Repository :=
  match step with
  | .createStaged name =>
    repository.updateStaging writer.stagingName fun files => files.set name (.bytes writer.torn)
  | .finishStaged name content =>
    repository.updateStaging writer.stagingName fun files => files.set name content
  | .verifyInputs inputs => do
    inputs.forM fun input => do
      let _ ← repository.verifyArtifact input
      .ok ()
    .ok repository
  | .renameStaging relativeRoot =>
    match repository.staging.get? writer.stagingName, repository.roots.get? relativeRoot with
    | some files, none =>
      .ok { repository with
        roots := repository.roots.set relativeRoot files
        staging := repository.staging.erase writer.stagingName }
    | _, _ => .error .osError
  | .createMarker relativeRoot =>
    repository.updateRoot relativeRoot fun files =>
      files.set writer.temporaryMarker (.bytes writer.torn)
  | .finishMarker relativeRoot content =>
    repository.updateRoot relativeRoot fun files => files.set writer.temporaryMarker content
  | .replaceMarker relativeRoot =>
    repository.updateRoot relativeRoot fun files =>
      match files.get? writer.temporaryMarker with
      | none => files
      | some content => (files.erase writer.temporaryMarker).set MARKER_NAME content
  | .verifyInstalled relativeRoot artifactId kind =>
    match repository.roots.get? relativeRoot with
    | none => .error (.notCommitted "artifact directory is unavailable")
    | some files => do
      let _ ← verifyCommitted relativeRoot files (some artifactId) (some kind)
      .ok repository
  | .discardFile name => repository.updateStaging writer.stagingName fun files => files.erase name
  | .discardStaging =>
    .ok { repository with staging := repository.staging.erase writer.stagingName }
  | .quarantineRoot relativeRoot =>
    match repository.roots.get? relativeRoot with
    | none => .error .osError
    | some files =>
      .ok { repository with
        roots := repository.roots.erase relativeRoot
        trash := repository.trash ++ [files] }
  | .quarantineStaging =>
    match repository.staging.get? writer.stagingName with
    | none => .error .osError
    | some files =>
      .ok { repository with
        staging := repository.staging.erase writer.stagingName
        trash := repository.trash ++ [files] }

/-! ## Scripts -/

/-- What a publication does with what stands at its place. -/
inductive PublishPlan
  | install
  | replace
  | existing (descriptor : CommittedArtifact)
  | conflict

/-- `_resolve_existing_path_under_exclusive_retention`, once the inputs are verified. -/
def Repository.exclusivePlan (repository : Repository) (prepared : PreparedCommit) : PublishPlan :=
  match repository.roots.get? prepared.relativeRoot with
  | none => .install
  | some files =>
    match verifyCommitted prepared.relativeRoot files none (some prepared.committed.kind) >>=
        committedFromDescriptor with
    | .error _ => .replace
    | .ok existing =>
      if existing.artifactId = prepared.committed.artifactId then .existing existing
      else .conflict

/-- `_publish`, once the inputs are verified: none when it needs the exclusive retention lock. -/
def Repository.sharedPlan (repository : Repository) (prepared : PreparedCommit) :
    Option PublishPlan :=
  match repository.roots.get? prepared.relativeRoot with
  | none => some .install
  | some files =>
    match verifyCommitted prepared.relativeRoot files none (some prepared.committed.kind) >>=
        committedFromDescriptor with
    | .error _ => none
    | .ok existing =>
      if existing.artifactId = prepared.committed.artifactId then some (.existing existing)
      else none

/-- The plan of a publication over the repository as it stands when the locks are held. -/
def Repository.publishPlan (repository : Repository) (prepared : PreparedCommit) : PublishPlan :=
  (repository.sharedPlan prepared).getD (repository.exclusivePlan prepared)

/-- Write a file of the staging directory. -/
def writeStaged (name : String) (content : Content) : List CommitStep :=
  [.createStaged name, .finishStaged name content]

/-- The control files commit writes into the staging directory. -/
def stagingSteps (prepared : PreparedCommit) : List CommitStep :=
  writeStaged MANIFEST_NAME prepared.manifest ++
    writeStaged IDENTITY_MANIFEST_NAME prepared.manifestIdentity ++
    writeStaged DESCRIPTOR_NAME prepared.descriptor

/-- The marker of a prepared commit. -/
def PreparedCommit.marker (prepared : PreparedCommit) : Content :=
  .json (.object (markerFields prepared.committed.artifactId prepared.descriptor 3))

/-- `_install_staged_locked`. -/
def installSteps (prepared : PreparedCommit) : List CommitStep :=
  [.renameStaging prepared.relativeRoot, .createMarker prepared.relativeRoot,
    .finishMarker prepared.relativeRoot prepared.marker,
    .replaceMarker prepared.relativeRoot,
    .verifyInstalled prepared.relativeRoot prepared.committed.artifactId prepared.committed.kind]

/-- `_discard_staging`: the files one after the other, and the directory. -/
def discardSteps (staged : StagedTree) : List CommitStep :=
  (staged.payload.keys ++ [MANIFEST_NAME, IDENTITY_MANIFEST_NAME, DESCRIPTOR_NAME]).map
    CommitStep.discardFile ++ [.discardStaging]

/-- The steps of a plan. -/
def PublishPlan.steps (plan : PublishPlan) (staged : StagedTree) (prepared : PreparedCommit) :
    List CommitStep :=
  match plan with
  | .install => installSteps prepared
  | .replace => .quarantineRoot prepared.relativeRoot :: installSteps prepared
  | .existing _ => discardSteps staged
  | .conflict => [.quarantineRoot prepared.relativeRoot, .quarantineStaging]

/-- What commit returns when its steps go through. -/
def PublishPlan.result (plan : PublishPlan) (prepared : PreparedCommit) :
    Except ArtifactFault CommittedArtifact :=
  match plan with
  | .install => .ok prepared.committed
  | .replace => .ok prepared.committed
  | .existing descriptor => .ok descriptor
  | .conflict =>
    .error (.integrity "artifact final path resolves to different committed content")

/-- What commit does under the locks, over the repository as it stands then. -/
def lockedSteps (repository : Repository) (draft : ArtifactDraft) (staged : StagedTree)
    (prepared : PreparedCommit) : List CommitStep :=
  .verifyInputs draft.inputArtifactIds :: (repository.publishPlan prepared).steps staged prepared

/-! ## Among others

Before it holds the locks a writer takes one step at a time in its own staging directory, and others
may do anything in between but to that directory.  Under the locks nobody else changes what is at
the place of an artifact. -/

/-- The repositories in which a writer has taken these of its staging steps. -/
inductive Staging (writer : Writer) (staged : StagedTree) (prepared : PreparedCommit) :
    List CommitStep → Repository → Prop
  | start {repository} (h : repository.staging.get? writer.stagingName = some staged.payload) :
    Staging writer staged prepared [] repository
  | step {done step repository repository'} (h : Staging writer staged prepared done repository)
      (hnext : done ++ [step] <+: stagingSteps prepared)
      (hrun : step.run writer repository = .ok repository') :
    Staging writer staged prepared (done ++ [step]) repository'
  | others {done repository repository'} (h : Staging writer staged prepared done repository)
      (hown : repository'.staging.get? writer.stagingName =
        repository.staging.get? writer.stagingName) :
    Staging writer staged prepared done repository'

/-- A commit has stopped: the repository as others last left it, and as it is then. -/
inductive CommitStops (writer : Writer) (draft : ArtifactDraft) (staged : StagedTree)
    (prepared : PreparedCommit) : Repository → Repository → Prop
  | waiting {done held} (h : Staging writer staged prepared done held) :
    CommitStops writer draft staged prepared held held
  | staging {done step held after} (h : Staging writer staged prepared done held)
      (hnext : done ++ [step] <+: stagingSteps prepared)
      (hrun : step.run writer held = .ok after) :
    CommitStops writer draft staged prepared held after
  | locked {done held after} (h : Staging writer staged prepared (stagingSteps prepared) held)
      (hcut : Script.CutOff (CommitStep.run writer) (lockedSteps held draft staged prepared) done
        held after) :
    CommitStops writer draft staged prepared held after

end

end Artifacts

end OnchainBacktest
