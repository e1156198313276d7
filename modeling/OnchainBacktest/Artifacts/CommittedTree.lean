import Mathlib.Data.String.Basic
import OnchainBacktest.Lib.Dict
import OnchainBacktest.Lib.Document
import OnchainBacktest.Domain.IdentifierTexts
import OnchainBacktest.Artifacts.ArtifactModels

/-!
# Committed trees and their verification

A committed artifact is a tree of files in which four control files authenticate the rest: the
descriptor, the root manifest, the identity manifest and the commit marker.  `verifyCommitted` reads
them as the repository does and recomputes every digest.

What is in a file is given by the document it is the text of: `Content.json` is the canonical text
of a document, `Content.loose` another text of it, and `Content.bytes` is the text of none.  The
hash and the size of a file are parameters, `ContentHash`.
-/

set_option autoImplicit false

namespace OnchainBacktest

namespace Artifacts

open Checked

/-! ## Files -/

/-- What is in a file. -/
inductive Content
  | json (document : Document)
  | loose (document : Document) (tag : Nat)
  | bytes (tag : Nat)
  deriving DecidableEq

/-- `json.loads`. -/
def Content.document? : Content → Option Document
  | .json document => some document
  | .loose document _ => some document
  | .bytes _ => none

/-- The SHA-256 digest of a domain followed by the bytes of a file, and the number of these
bytes. -/
class ContentHash where
  sha256 : String → Content → Fin (2 ^ 256)
  size : Content → Nat

export ContentHash (sha256)

/-- The files of a tree under their relative paths. -/
abbrev Files := Dict String Content

/-- An exception of the artifact repository. -/
inductive ArtifactFault
  /-- `ArtifactNotCommittedError`. -/
  | notCommitted (message : String)
  /-- `ArtifactIntegrityError`. -/
  | integrity (message : String)
  /-- `OSError`. -/
  | osError
  deriving DecidableEq

def DESCRIPTOR_NAME : String := "artifact.json"
def MANIFEST_NAME : String := "manifest.json"
def IDENTITY_MANIFEST_NAME : String := "manifest.identity.json"
def MARKER_NAME : String := "COMMITTED"
def RESERVED_NAMES : List String :=
  [DESCRIPTOR_NAME, IDENTITY_MANIFEST_NAME, MANIFEST_NAME, MARKER_NAME]
def TEMPORARY_MARKER_PREFIX : String := ".COMMITTED.tmp-"

/-- The domain of an artifact identity, by the version of its descriptor. -/
def identityDomain (version : Int) : String :=
  if version = 1 then "local-backtest/artifact/v1\x00"
  else if version = 2 then "local-backtest/artifact/v2\x00"
  else "local-backtest/artifact/v3\x00"

/-- `hexdigest`. -/
def hexText (digest : Fin (2 ^ 256)) : String := ContentDigest.spelling { hex := digest }

/-- The digest a text spells, when it is one. -/
def readDigest (value : Document) : Option ContentDigest :=
  match value with
  | .text value => (ContentDigest.make value).toOption
  | _ => none

@[simp] theorem readDigest_hexText (digest : Fin (2 ^ 256)) :
    readDigest (.text (hexText digest)) = some { hex := digest } := by
  rw [readDigest, hexText, ContentDigest.make_spelling]
  rfl

/-! ## Kinds and places -/

/-- The spelling of a kind. -/
def ArtifactKind.value : ArtifactKind → String
  | .researchSnapshot => "RESEARCH_SNAPSHOT"
  | .researchResult => "RESEARCH_RESULT"
  | .sourceInspection => "SOURCE_INSPECTION"
  | .canonicalDistribution => "CANONICAL_DISTRIBUTION"
  | .snapshot => "SNAPSHOT"
  | .replayPack => "REPLAY_PACK"
  | .deliverySchedule => "DELIVERY_SCHEDULE"
  | .featureSet => "FEATURE_SET"
  | .labelSet => "LABEL_SET"
  | .universe => "UNIVERSE"
  | .modelBundle => "MODEL_BUNDLE"
  | .modelSchedule => "MODEL_SCHEDULE"
  | .predictionSet => "PREDICTION_SET"
  | .strategyBundle => "STRATEGY_BUNDLE"
  | .sweep => "SWEEP"
  | .benchmark => "BENCHMARK"
  | .run => "RUN"

def ArtifactKind.members : List ArtifactKind :=
  [.researchSnapshot, .researchResult, .sourceInspection, .canonicalDistribution, .snapshot,
    .replayPack, .deliverySchedule, .featureSet, .labelSet, .universe, .modelBundle,
    .modelSchedule, .predictionSet, .strategyBundle, .sweep, .benchmark, .run]

/-- The kind a text spells. -/
def readKind (value : Document) : Option ArtifactKind :=
  match value with
  | .text value => ArtifactKind.members.find? fun kind => kind.value == value
  | _ => none

@[simp] theorem readKind_value (kind : ArtifactKind) :
    readKind (.text kind.value) = some kind := by
  cases kind <;> rfl

/-- `artifact_subdirectory`. -/
def artifactSubdirectory : ArtifactKind → String
  | .researchSnapshot => "research-snapshots"
  | .researchResult => "research-results"
  | .sourceInspection => "source-inspections"
  | .canonicalDistribution => "canonical"
  | .snapshot => "snapshots"
  | .replayPack => "replay"
  | .deliverySchedule => "delivery_schedules"
  | .featureSet => "features"
  | .labelSet => "labels"
  | .universe => "universes"
  | .modelBundle => "models"
  | .modelSchedule => "model-schedules"
  | .predictionSet => "predictions"
  | .strategyBundle => "strategies"
  | .sweep => "sweeps"
  | .benchmark => "benchmarks"
  | .run => "runs"

def artifactPathDepth : ArtifactKind → Nat
  | .canonicalDistribution => 2
  | .replayPack => 2
  | .run => 2
  | _ => 1

/-- Whether the name of the directory of an artifact is its identity. -/
def artifactLeafNamesArtifactId : ArtifactKind → Bool
  | .run => false
  | _ => true

/-- A digest among the fields of an identity, in its canonical spelling. -/
def digestField (identity : List (String × Document)) (field : String) : Option String := do
  let value ← identity.lookup field
  let digest ← readDigest value
  if digest.prefixed then none else some digest.spelling

/-- `artifact_relative_path`: the parts of the path, or none for an `ArtifactPlacementError`. -/
def artifactRelativePath (kind : ArtifactKind) (artifactId : ArtifactId)
    (identity : List (String × Document)) : Option (List String) :=
  let top := artifactSubdirectory kind
  match kind with
  | .canonicalDistribution => do
    let logicalContentHash ← digestField identity "logical_content_hash"
    some [top, logicalContentHash, hexText artifactId.hex]
  | .replayPack => do
    let snapshotId ← digestField identity "snapshot_id"
    some [top, snapshotId, hexText artifactId.hex]
  | .run => do
    let logicalRunId ← digestField identity "logical_run_id"
    let executionAttemptId ← digestField identity "execution_attempt_id"
    some [top, logicalRunId, executionAttemptId]
  | _ => some [top, hexText artifactId.hex]

/-! ## Paths -/

/-- The pieces of a text between its slashes. -/
def splitSlash : List Char → List (List Char)
  | [] => [[]]
  | c :: rest =>
    if c = '/' then [] :: splitSlash rest
    else
      match splitSlash rest with
      | [] => [[c]]
      | piece :: pieces => (c :: piece) :: pieces

/-- `PurePosixPath(value).parts`, of a relative path. -/
def posixParts (value : String) : List String :=
  ((splitSlash value.toList).filter fun piece => !(piece == [] || piece == ['.'])).map
    String.ofList

/-- `_safe_relative_path`: the parts of a path below the root that is no repository metadata. -/
def safeRelativeParts (value : String) : Option (List String) :=
  if value.toList = [] ∨ '\\' ∈ value.toList ∨ (value.toList.any fun c => c.toNat < 32) = true then
    none
  else if posixParts value = [] ∨ value.toList.head? = some '/' ∨ ".." ∈ posixParts value then none
  else if ((posixParts value).head?.any fun name =>
      RESERVED_NAMES.contains name ||
        TEMPORARY_MARKER_PREFIX.toList.isPrefixOf name.toList) = true then none
  else some (posixParts value)

/-- A path in its canonical spelling, below the root and no repository metadata. -/
def IsPayloadPath (value : String) : Prop :=
  (safeRelativeParts value).map ("/".intercalate ·) = some value

instance (value : String) : Decidable (IsPayloadPath value) :=
  inferInstanceAs (Decidable (_ = _))

/-! ## Projection -/

/-- Equality of scalars, for which a truth value is the number it counts as. -/
def equalValues : Document → Document → Bool
  | .boolean a, .integer b => (if a then 1 else 0) == b
  | .integer a, .boolean b => a == (if b then 1 else 0)
  | a, b => a == b

mutual

/-- Whether one document is an exact recursive projection of another. -/
def isJsonProjection : Document → Document → Bool
  | .object fields, manifest =>
    match manifest with
    | .object others => projectsFields fields others
    | _ => false
  | .array items, manifest =>
    match manifest with
    | .array others => projectsItems items others
    | _ => false
  | identity, manifest => equalValues identity manifest

def projectsFields : List (String × Document) → List (String × Document) → Bool
  | [], _ => true
  | (key, value) :: rest, others =>
    (match others.lookup key with
      | none => false
      | some other => isJsonProjection value other) && projectsFields rest others

def projectsItems : List Document → List Document → Bool
  | [], [] => true
  | item :: items, other :: others => isJsonProjection item other && projectsItems items others
  | _, _ => false

end

/-! ## Reading -/

/-- Read a control file. -/
def readControl (files : Files) (name : String) : Except ArtifactFault Content :=
  match files.get? name with
  | none => .error (.notCommitted "artifact directory is incomplete")
  | some content => .ok content

/-- `_parse_json_object`. -/
def parseJsonObject (content : Content) (label : String) :
    Except ArtifactFault (List (String × Document)) :=
  match content.document? with
  | none => .error (.integrity ("invalid " ++ label ++ " JSON"))
  | some (.object fields) => .ok fields
  | some _ => .error (.integrity (label ++ " must be a JSON object"))

/-- The keys of a descriptor. -/
def descriptorKeys (version : Int) : List String :=
  if version = 3 then
    ["artifact_id", "build_key", "files", "input_artifact_ids", "kind",
      "manifest_identity_sha256", "manifest_sha256", "version"]
  else
    ["artifact_id", "build_key", "files", "input_artifact_ids", "kind", "manifest_sha256",
      "version"]

/-- The version of a descriptor with exactly its keys. -/
def descriptorVersion (descriptor : List (String × Document)) : Except ArtifactFault Int :=
  match descriptor.lookup "version" with
  | some (.integer version) => do
    refuseIf (descriptor.map Prod.fst ≠ descriptorKeys version ∨ version < 1 ∨ 3 < version)
      (.integrity "artifact descriptor schema is invalid")
    .ok version
  | _ => .error (.integrity "artifact descriptor schema is invalid")

/-- The identity a descriptor names, as the caller expects it. -/
def descriptorId (descriptor : List (String × Document)) (expectedId : Option ArtifactId) :
    Except ArtifactFault ArtifactId :=
  match descriptor.lookup "artifact_id" with
  | some (.text value) =>
    match ContentDigest.make value with
    | .error _ => .error (.integrity "descriptor artifact_id is invalid")
    | .ok digest => do
      refuseIf (digest.prefixed = true) (.integrity "descriptor artifact_id is not canonical")
      refuseIf (∃ expected ∈ expectedId, expected.hex ≠ digest.hex)
        (.integrity "artifact id does not match requested id")
      .ok ⟨digest.hex⟩
  | _ => .error (.integrity "descriptor has no artifact_id")

/-- The typed fields of a descriptor. -/
structure DescriptorFields where
  kind : ArtifactKind
  buildKey : ContentDigest
  manifestDigest : ContentDigest
  manifestIdentityDigest : Option ContentDigest
  inputIds : List ContentDigest

/-- The items of a list that are digests. -/
def readDigests (value : Document) : Option (List ContentDigest) :=
  match value with
  | .array items => items.mapM readDigest
  | _ => none

/-- The digest of the identity manifest, which only version 3 has. -/
def readManifestIdentityDigest (descriptor : List (String × Document)) (version : Int) :
    Option (Option ContentDigest) :=
  if version = 3 then some <$> (descriptor.lookup "manifest_identity_sha256" >>= readDigest)
  else some none

/-- The fields, or none when one of them cannot be read. -/
def readDescriptorFields (descriptor : List (String × Document)) (version : Int) :
    Option DescriptorFields := do
  let kind ← descriptor.lookup "kind" >>= readKind
  let buildKey ← descriptor.lookup "build_key" >>= readDigest
  let manifestDigest ← descriptor.lookup "manifest_sha256" >>= readDigest
  let manifestIdentityDigest ← readManifestIdentityDigest descriptor version
  let inputIds ← descriptor.lookup "input_artifact_ids" >>= readDigests
  some { kind, buildKey, manifestDigest, manifestIdentityDigest, inputIds }

def descriptorFields (descriptor : List (String × Document)) (version : Int) :
    Except ArtifactFault DescriptorFields :=
  match readDescriptorFields descriptor version with
  | none => .error (.integrity "artifact descriptor fields are invalid")
  | some fields => do
    refuseIf (fields.buildKey.prefixed = true ∨ fields.manifestDigest.prefixed = true)
      (.integrity "descriptor digests are not canonical")
    refuseIf (∃ digest ∈ fields.manifestIdentityDigest, digest.prefixed = true)
      (.integrity "manifest identity digest is not canonical")
    refuseIf (∃ input ∈ fields.inputIds, input.prefixed = true)
      (.integrity "descriptor input IDs are not canonical")
    refuseIf (¬ (fields.inputIds.map (·.hex)).Pairwise (· < ·))
      (.integrity "descriptor input IDs must be sorted and unique")
    .ok fields

/-- One entry of the files of a descriptor: its path. -/
def descriptorFile (entry : Document) : Except ArtifactFault String :=
  match entry with
  | .object [("path", path), ("sha256", digest), ("size", size)] =>
    match path with
    | .text path =>
      match safeRelativeParts path, readDigest digest with
      | some parts, some digest => do
        refuseIf ("/".intercalate parts ≠ path)
          (.integrity "descriptor file path is not canonical")
        refuseIf (digest.prefixed = true) (.integrity "descriptor file digest is not canonical")
        match size with
        | .integer size => do
          refuseIf (size < 0)
            (.integrity "descriptor file size must be a non-negative integer")
          .ok path
        | _ => .error (.integrity "descriptor file size must be a non-negative integer")
      | _, _ => .error (.integrity "descriptor file entry is invalid")
    | _ => .error (.integrity "descriptor file path must be a string")
  | _ => .error (.integrity "descriptor file entry schema is invalid")

/-- `_validate_descriptor_files`. -/
def validateDescriptorFiles (value : Option Document) : Except ArtifactFault Unit :=
  match value with
  | some (.array entries) => do
    let paths ← entries.mapM descriptorFile
    refuseIf (¬ paths.Pairwise (· < ·))
      (.integrity "descriptor file paths must be sorted and unique")
  | _ => .error (.integrity "descriptor files must be a list")

section

variable [ContentHash]

/-- `_payload_entries`: the files of a tree that are not reserved, in the order of their paths. -/
def payloadEntries (files : Files) : List Document :=
  ((files.entries.filter fun e => ¬ e.1 ∈ RESERVED_NAMES).insertionSort fun a b => a.1 ≤ b.1).map
    fun e => .object
      [("path", .text e.1), ("sha256", .text (hexText (sha256 "" e.2))),
        ("size", .integer (ContentHash.size e.2))]

/-- The fields of a descriptor its identity is the hash of. -/
def identityFields (descriptor : List (String × Document)) (version : Int) :
    List (String × Document) :=
  descriptor.filter fun e =>
    !(e.1 == "artifact_id" || (e.1 == "build_key" && version != 1) ||
      (e.1 == "manifest_sha256" && version == 3))

/-- The fields of a commit marker. -/
def markerFields (artifactId : ArtifactId) (descriptor : Content) (version : Int) :
    List (String × Document) :=
  [("artifact_id", .text (hexText artifactId.hex)),
    ("descriptor_sha256", .text (hexText (sha256 "" descriptor))),
    ("version", .integer version)]

/-- The identity manifest of a version 3 descriptor, checked against its digest and the root
manifest. -/
def verifyManifestIdentity (files : Files) (digest : Option ContentDigest)
    (manifest : List (String × Document)) : Except ArtifactFault (List (String × Document)) :=
  match files.get? IDENTITY_MANIFEST_NAME with
  | none => .error (.notCommitted "artifact has no manifest identity")
  | some content => do
    let identity ← parseJsonObject content "manifest identity"
    refuseIf (content ≠ .json (.object identity))
      (.integrity "manifest identity is not canonical JSON")
    refuseIf (digest.map (·.hex) ≠ some (sha256 "" content))
      (.integrity "manifest identity digest mismatch")
    refuseIf (isJsonProjection (.object identity) (.object manifest) = false)
      (.integrity "manifest identity is not a projection of manifest")
    .ok identity

/-- The manifest the place of a tree follows from. -/
def placementIdentity (version : Int) (files : Files) (digest : Option ContentDigest)
    (manifest : List (String × Document)) : Except ArtifactFault (List (String × Document)) :=
  if version = 3 then verifyManifestIdentity files digest manifest else .ok manifest

/-- `_verify_committed_uncached`: the descriptor of a tree at a place of the data root. -/
def verifyCommitted (relativeRoot : List String) (files : Files) (expectedId : Option ArtifactId)
    (expectedKind : Option ArtifactKind) : Except ArtifactFault (List (String × Document)) := do
  let descriptorContent ← readControl files DESCRIPTOR_NAME
  let markerContent ← readControl files MARKER_NAME
  let manifestContent ← readControl files MANIFEST_NAME
  let descriptor ← parseJsonObject descriptorContent "artifact descriptor"
  let marker ← parseJsonObject markerContent "commit marker"
  refuseIf (descriptorContent ≠ .json (.object descriptor))
    (.integrity "artifact descriptor is not canonical JSON")
  refuseIf (markerContent ≠ .json (.object marker))
    (.integrity "commit marker is not canonical JSON")
  let version ← descriptorVersion descriptor
  let artifactId ← descriptorId descriptor expectedId
  let fields ← descriptorFields descriptor version
  validateDescriptorFiles (descriptor.lookup "files")
  refuseIf (∃ kind ∈ expectedKind, fields.kind ≠ kind)
    (.integrity "artifact kind does not match its repository directory")
  refuseIf (sha256 (identityDomain version) (.json (.object (identityFields descriptor version)))
      ≠ artifactId.hex)
    (.integrity "artifact descriptor identity mismatch")
  refuseIf (marker ≠ markerFields artifactId descriptorContent version)
    (.integrity "commit marker does not authenticate descriptor")
  refuseIf (fields.manifestDigest.hex ≠ sha256 "" manifestContent)
    (.integrity "manifest digest mismatch")
  let manifest ← parseJsonObject manifestContent "root manifest"
  let placement ← placementIdentity version files fields.manifestIdentityDigest manifest
  match artifactRelativePath fields.kind artifactId placement with
  | none => .error (.integrity "artifact physical placement is invalid")
  | some expected => do
    refuseIf (relativeRoot ≠ expected)
      (.integrity "artifact physical placement does not match identity")
    refuseIf (descriptor.lookup "files" ≠ some (.array (payloadEntries files)))
      (.integrity "artifact payload differs from its descriptor")
    .ok descriptor

/-- `_committed_from_descriptor`. -/
def committedFromDescriptor (descriptor : List (String × Document)) :
    Except ArtifactFault CommittedArtifact :=
  match (do
    let artifactId ← descriptor.lookup "artifact_id" >>= readDigest
    let kind ← descriptor.lookup "kind" >>= readKind
    let manifestDigest ← descriptor.lookup "manifest_sha256" >>= readDigest
    let buildKey ← descriptor.lookup "build_key" >>= readDigest
    let inputs ← descriptor.lookup "input_artifact_ids" >>= readDigests
    some
      { artifactId := ⟨artifactId.hex⟩, kind, manifestDigest, buildKey
        inputArtifactIds := inputs.map fun input => ⟨input.hex⟩ } : Option CommittedArtifact) with
  | none => .error (.integrity "invalid committed-artifact descriptor")
  | some committed => .ok committed

end

end Artifacts

end OnchainBacktest
