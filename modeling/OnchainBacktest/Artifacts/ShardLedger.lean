import OnchainBacktest.Lib.Coverage
import OnchainBacktest.Domain.Intents
import OnchainBacktest.Artifacts.ArtifactCatalog

/-!
# The shard ledger

The ledger of the source shards that have been committed, and how far they reach.  A row is one
revision of one shard in one artifact, with the boundary of the source it was read at; nothing
takes the place of a row.  A frontier is computed from the rows whose validation passed and whose
artifact the catalog still verifies, and is kept in a table that any new row clears.

A call is one transaction: what it raises leaves the tables as they were.
-/

set_option autoImplicit false

namespace OnchainBacktest

namespace Artifacts

open Checked

/-! ## Boundaries -/

structure SourceId where
  value : String
  deriving DecidableEq, Repr

structure CapabilityId where
  value : String
  deriving DecidableEq, Repr

inductive ValidationStatus
  | pass
  | fail
  | quarantined
  deriving DecidableEq, Repr

inductive ChainFinality
  | unknown
  | confirmed
  | finalized
  deriving DecidableEq, Repr

inductive IngestionCompleteness
  | unknown
  | partialIngestion
  | completeToWatermark
  deriving DecidableEq, Repr

inductive SourceConsistency
  | unknown
  | bestEffort
  | snapshotConsistent
  deriving DecidableEq, Repr

/-- The cut of the source a shard was read at. -/
structure SourceBoundary where
  sourceId : SourceId
  capabilityId : CapabilityId
  capabilitySchemaVersion : String
  blockRange : BlockRange
  snapshotCutToBlock : Nat
  chainFinality : ChainFinality
  ingestionWatermarkToBlock : Option Nat
  upstreamRevision : Option String
  internalRevision : ContentDigest
  sourceConsistency : SourceConsistency
  completeness : IngestionCompleteness
  validationStatus : ValidationStatus
  queryFingerprints : List ContentDigest
  version_ne : capabilitySchemaVersion ≠ ""
  cut_eq : snapshotCutToBlock = blockRange.toBlockOrdinal
  watermark_of_complete : completeness = .completeToWatermark →
    ∃ watermark, ingestionWatermarkToBlock = some watermark ∧
      blockRange.toBlockOrdinal ≤ watermark
  fingerprints_sorted : queryFingerprints.Pairwise fun a b => a.hex ≤ b.hex
  fingerprints_nodup : queryFingerprints.Nodup

/-- A committed artifact with the boundary of the shard it holds. -/
structure CommittedShardRevision where
  artifact : CommittedArtifact
  boundary : SourceBoundary
  canonical : artifact.kind = .canonicalDistribution

/-! ## Tables -/

/-- The columns that name a revision of a shard. -/
structure ShardIdentity where
  sourceId : SourceId
  capabilityId : CapabilityId
  capabilitySchemaVersion : String
  networkId : NetworkId
  positionSchemaId : PositionSchemaId
  fromBlockOrdinal : Nat
  toBlockOrdinal : Nat
  internalRevision : DigestText
  deriving DecidableEq

/-- The other columns of a row of `shard_ledger`. -/
structure ShardRow where
  snapshotCutToBlock : Nat
  chainFinality : ChainFinality
  ingestionWatermarkToBlock : Option Nat
  upstreamRevision : Option String
  sourceConsistency : SourceConsistency
  completeness : IngestionCompleteness
  validationStatus : ValidationStatus
  committedAtNs : Nat
  deriving DecidableEq

structure FrontierKey where
  sourceId : SourceId
  capabilityId : CapabilityId
  capabilitySchemaVersion : String
  networkId : NetworkId
  positionSchemaId : PositionSchemaId
  coverageFromBlockOrdinal : Nat
  deriving DecidableEq

structure FrontierRow where
  frontierBlockOrdinal : Nat
  computedAtNs : Nat
  deriving DecidableEq

/-- The tables of the ledger.  The fingerprints of a row are a list, in the order of their
ordinals. -/
structure ShardLedgerTables where
  shardLedger : Dict (ShardIdentity × ArtifactId) ShardRow
  shardQueryFingerprints : Dict (ShardIdentity × ArtifactId) (List DigestText)
  sourceFrontiers : Dict FrontierKey FrontierRow

def ShardLedgerTables.empty : ShardLedgerTables where
  shardLedger := Dict.empty
  shardQueryFingerprints := Dict.empty
  sourceFrontiers := Dict.empty

/-- What the ledger raises. -/
inductive LedgerFault
  /-- What the artifact catalog raised. -/
  | catalog (message : String)
  /-- `ShardArtifactNotVerifiedError`. -/
  | artifactNotVerified (message : String)
  /-- `ShardLedgerConflictError`. -/
  | conflict (message : String)
  /-- `ValueError`. -/
  | value (message : String)
  deriving DecidableEq

/-- What the ledger asks the artifact catalog: the artifact under an identifier, verified against
its files. -/
structure VerifiedArtifacts where
  findCommitted : ArtifactId → Except String (Option CommittedArtifact)

def VerifiedArtifacts.find (catalog : VerifiedArtifacts) (artifactId : ArtifactId) :
    Except LedgerFault (Option CommittedArtifact) :=
  (catalog.findCommitted artifactId).mapError .catalog

/-! ## Recording -/

/-- `_same_artifact`. -/
def sameArtifact (left right : CommittedArtifact) : Prop := sameDescriptor left right

instance decidableSameArtifact (left right : CommittedArtifact) :
    Decidable (sameArtifact left right) := by
  unfold sameArtifact
  infer_instance

/-- `_identity`. -/
def SourceBoundary.identity (boundary : SourceBoundary) : ShardIdentity where
  sourceId := boundary.sourceId
  capabilityId := boundary.capabilityId
  capabilitySchemaVersion := boundary.capabilitySchemaVersion
  networkId := boundary.blockRange.networkId
  positionSchemaId := boundary.blockRange.positionSchemaId
  fromBlockOrdinal := boundary.blockRange.fromBlockOrdinal
  toBlockOrdinal := boundary.blockRange.toBlockOrdinal
  internalRevision := boundary.internalRevision.hex

/-- The key of the row of a revision. -/
def CommittedShardRevision.key (revision : CommittedShardRevision) : ShardIdentity × ArtifactId :=
  (revision.boundary.identity, revision.artifact.artifactId)

/-- The columns after the artifact of `_values`. -/
def CommittedShardRevision.values (revision : CommittedShardRevision) (committedAtNs : Nat) :
    ShardRow where
  snapshotCutToBlock := revision.boundary.snapshotCutToBlock
  chainFinality := revision.boundary.chainFinality
  ingestionWatermarkToBlock := revision.boundary.ingestionWatermarkToBlock
  upstreamRevision := revision.boundary.upstreamRevision
  sourceConsistency := revision.boundary.sourceConsistency
  completeness := revision.boundary.completeness
  validationStatus := revision.boundary.validationStatus
  committedAtNs := committedAtNs

def SourceBoundary.fingerprintTexts (boundary : SourceBoundary) : List DigestText :=
  boundary.queryFingerprints.map (·.hex)

namespace ShardLedgerTables

/-- `_row_matches_logical_boundary`: the row has the boundary, whenever it was committed. -/
def rowMatches (tables : ShardLedgerTables) (key : ShardIdentity × ArtifactId) (row : ShardRow)
    (boundary : SourceBoundary) : Prop :=
  key.1 = boundary.identity ∧
    row.snapshotCutToBlock = boundary.snapshotCutToBlock ∧
    row.chainFinality = boundary.chainFinality ∧
    row.ingestionWatermarkToBlock = boundary.ingestionWatermarkToBlock ∧
    row.upstreamRevision = boundary.upstreamRevision ∧
    row.sourceConsistency = boundary.sourceConsistency ∧
    row.completeness = boundary.completeness ∧
    row.validationStatus = boundary.validationStatus ∧
    tables.shardQueryFingerprints.getD key [] = boundary.fingerprintTexts

instance decidableRowMatches (tables : ShardLedgerTables) (key : ShardIdentity × ArtifactId)
    (row : ShardRow) (boundary : SourceBoundary) :
    Decidable (tables.rowMatches key row boundary) := by
  unfold rowMatches
  infer_instance

/-- The rows of one revision of one shard, whatever their artifacts. -/
def rowsOf (tables : ShardLedgerTables) (identity : ShardIdentity) :
    List ((ShardIdentity × ArtifactId) × ShardRow) :=
  tables.shardLedger.entries.filter fun e => e.1.1 = identity

/-- `DELETE FROM source_frontiers` of one capability. -/
def forgetFrontiers (tables : ShardLedgerTables) (sourceId : SourceId) (capabilityId : CapabilityId)
    (capabilitySchemaVersion : String) : ShardLedgerTables :=
  { tables with
    sourceFrontiers :=
      (tables.sourceFrontiers.keys.filter fun key => key.sourceId = sourceId ∧
        key.capabilityId = capabilityId ∧
        key.capabilitySchemaVersion = capabilitySchemaVersion).foldl
        (fun frontiers key => frontiers.erase key) tables.sourceFrontiers }

/-- The two insertions: an artifact is bound to one row, and no fingerprint of a row repeats. -/
def insertRevision (tables : ShardLedgerTables) (revision : CommittedShardRevision)
    (committedAtNs : Nat) : Except LedgerFault ShardLedgerTables := do
  refuseIf (∃ e ∈ tables.shardLedger.entries, e.1.2 = revision.artifact.artifactId)
    (.conflict "artifact or shard revision is already bound differently")
  refuseIf (¬ revision.boundary.fingerprintTexts.Nodup)
    (.conflict "artifact or shard revision is already bound differently")
  .ok { tables with
    shardLedger := tables.shardLedger.set revision.key (revision.values committedAtNs)
    shardQueryFingerprints := tables.shardQueryFingerprints.set revision.key
      revision.boundary.fingerprintTexts }

/-- Insert a revision whose artifact is in none of its rows. -/
def insertMissing (tables : ShardLedgerTables) (revision : CommittedShardRevision)
    (committedAtNs : Nat) : Except LedgerFault ShardLedgerTables :=
  if ∃ e ∈ tables.rowsOf revision.boundary.identity, e.1.2 = revision.artifact.artifactId then
    .ok tables
  else tables.insertRevision revision committedAtNs

/-- The statements between `BEGIN` and `COMMIT` of `record_revision`. -/
def recordStatements (tables : ShardLedgerTables) (revision : CommittedShardRevision)
    (committedAtNs : Nat) : Except LedgerFault ShardLedgerTables := do
  refuseIf (∃ e ∈ tables.rowsOf revision.boundary.identity,
      ¬ tables.rowMatches e.1 e.2 revision.boundary)
    (.conflict "logical shard revision is already recorded with conflicting metadata")
  let tables ← tables.insertMissing revision committedAtNs
  .ok (tables.forgetFrontiers revision.boundary.sourceId revision.boundary.capabilityId
    revision.boundary.capabilitySchemaVersion)

end ShardLedgerTables

/-- The check before the transaction. -/
def requireVerified (catalog : VerifiedArtifacts) (artifact : CommittedArtifact) :
    Except LedgerFault Unit := do
  let verified ← catalog.find artifact.artifactId
  refuseIf (¬ verified.any fun found => sameArtifact found artifact)
    (.artifactNotVerified
      "shard artifact is absent, quarantined, or differs from filesystem authority")

/-- One transaction: a fault leaves the tables as they were. -/
def transaction {α : Type} (tables : ShardLedgerTables)
    (statements : Except LedgerFault (α × ShardLedgerTables)) :
    Except LedgerFault α × ShardLedgerTables :=
  match statements with
  | .ok (result, after) => (.ok result, after)
  | .error fault => (.error fault, tables)

def recordRevision (catalog : VerifiedArtifacts) (tables : ShardLedgerTables)
    (revision : CommittedShardRevision) (nowNs : Nat) :
    Except LedgerFault Unit × ShardLedgerTables :=
  transaction tables do
    requireVerified catalog revision.artifact
    let after ← tables.recordStatements revision nowNs
    .ok ((), after)

/-! ## Frontiers -/

/-- What a frontier is asked for. -/
structure FrontierQuery where
  sourceId : SourceId
  capabilityId : CapabilityId
  capabilitySchemaVersion : String
  networkId : NetworkId
  positionSchemaId : PositionSchemaId
  coverageFromBlockOrdinal : Int

structure SourceFrontier where
  sourceId : SourceId
  capabilityId : CapabilityId
  capabilitySchemaVersion : String
  networkId : NetworkId
  positionSchemaId : PositionSchemaId
  coverageFromBlockOrdinal : Nat
  frontierBlockOrdinal : Nat

/-- The range of blocks of a shard. -/
def ShardIdentity.range (identity : ShardIdentity) : Nat × Nat :=
  (identity.fromBlockOrdinal, identity.toBlockOrdinal)

/-- A row is of the capability a frontier is asked for, and has passed. -/
def FrontierQuery.selects (query : FrontierQuery) (e : (ShardIdentity × ArtifactId) × ShardRow) :
    Prop :=
  e.1.1.sourceId = query.sourceId ∧ e.1.1.capabilityId = query.capabilityId ∧
    e.1.1.capabilitySchemaVersion = query.capabilitySchemaVersion ∧
    e.1.1.networkId = query.networkId ∧ e.1.1.positionSchemaId = query.positionSchemaId ∧
    e.2.validationStatus = .pass

instance decidableSelects (query : FrontierQuery) (e : (ShardIdentity × ArtifactId) × ShardRow) :
    Decidable (query.selects e) := by
  unfold FrontierQuery.selects
  infer_instance

/-- `ORDER BY from_block_ordinal, to_block_ordinal, committed_at_ns, artifact_id`. -/
def rowBefore (a b : (ShardIdentity × ArtifactId) × ShardRow) : Bool :=
  if a.1.1.fromBlockOrdinal ≠ b.1.1.fromBlockOrdinal then
    a.1.1.fromBlockOrdinal < b.1.1.fromBlockOrdinal
  else if a.1.1.toBlockOrdinal ≠ b.1.1.toBlockOrdinal then
    a.1.1.toBlockOrdinal < b.1.1.toBlockOrdinal
  else if a.2.committedAtNs ≠ b.2.committedAtNs then a.2.committedAtNs < b.2.committedAtNs
  else a.1.2.hex ≤ b.1.2.hex

/-- The rows a frontier is computed from. -/
def ShardLedgerTables.frontierRows (tables : ShardLedgerTables) (query : FrontierQuery)
    (start : Nat) : List ((ShardIdentity × ArtifactId) × ShardRow) :=
  (tables.shardLedger.entries.filter fun e =>
    query.selects e ∧ start < e.1.1.toBlockOrdinal).mergeSort rowBefore

/-- The ranges of the rows whose artifact is a verified canonical distribution. -/
def verifiedRanges (catalog : VerifiedArtifacts) :
    List ((ShardIdentity × ArtifactId) × ShardRow) → Except LedgerFault (List (Nat × Nat))
  | [] => .ok []
  | e :: rows => do
    let artifact ← catalog.find e.1.2
    let ranges ← verifiedRanges catalog rows
    if artifact.any fun found => found.kind = .canonicalDistribution then
      .ok (e.1.1.range :: ranges)
    else .ok ranges

/-- `_cache_frontier`. -/
def ShardLedgerTables.cacheFrontier (tables : ShardLedgerTables) (frontier : SourceFrontier)
    (nowNs : Nat) : ShardLedgerTables :=
  { tables with
    sourceFrontiers := tables.sourceFrontiers.set
      { sourceId := frontier.sourceId
        capabilityId := frontier.capabilityId
        capabilitySchemaVersion := frontier.capabilitySchemaVersion
        networkId := frontier.networkId
        positionSchemaId := frontier.positionSchemaId
        coverageFromBlockOrdinal := frontier.coverageFromBlockOrdinal }
      { frontierBlockOrdinal := frontier.frontierBlockOrdinal, computedAtNs := nowNs } }

/-- The first uncovered block from the start of a coverage on, which is kept for the next time. -/
def contiguousFrontier (catalog : VerifiedArtifacts) (tables : ShardLedgerTables)
    (query : FrontierQuery) (nowNs : Nat) :
    Except LedgerFault SourceFrontier × ShardLedgerTables :=
  transaction tables do
    refuseIf (query.capabilitySchemaVersion = "")
      (.value "capability schema version must be non-empty")
    refuseIf (query.coverageFromBlockOrdinal < 0)
      (.value "coverage_from_block_ordinal must be non-negative")
    let start := query.coverageFromBlockOrdinal.toNat
    let ranges ← verifiedRanges catalog (tables.frontierRows query start)
    let frontier : SourceFrontier :=
      { sourceId := query.sourceId
        capabilityId := query.capabilityId
        capabilitySchemaVersion := query.capabilitySchemaVersion
        networkId := query.networkId
        positionSchemaId := query.positionSchemaId
        coverageFromBlockOrdinal := start
        frontierBlockOrdinal := Coverage.sweep ranges start }
    .ok (frontier, tables.cacheFrontier frontier nowNs)

end Artifacts

end OnchainBacktest
