import OnchainBacktest.Artifacts.ShardLedger

/-!
# Frontiers of the shard ledger

A frontier is the first block that the verified shards whose validation passed do not cover
(`sweep_rows_isLeast`).  Rows are only ever added, so what is recorded can only move a
frontier on (`frontier_le_of_record`); a revision that is in the ledger is recorded again without
changing a row, and one that conflicts with the ledger is refused (`recordRevision_again`,
`recordRevision_conflict`).

A later revision of a shard does not take the place of an earlier one: a shard that has passed once
counts, whatever a later revision of it says (`superseded_still_counts`).  The results are put
together in `shard_ledger_frontier`.
-/

set_option autoImplicit false

namespace OnchainBacktest

namespace Artifacts

open Checked

/-! ## Transactions -/

theorem transaction_fst {α : Type} {tables : ShardLedgerTables}
    {statements : Except LedgerFault (α × ShardLedgerTables)} :
    (transaction tables statements).1 = statements.map Prod.fst := by
  cases statements with
  | ok result => rfl
  | error fault => rfl

theorem transaction_of_ok {α : Type} {tables after : ShardLedgerTables} {result : α}
    {statements : Except LedgerFault (α × ShardLedgerTables)} (h : statements = .ok (result, after)) :
    transaction tables statements = (.ok result, after) := by
  rw [h, transaction]

theorem transaction_of_error {α : Type} {tables : ShardLedgerTables} {fault : LedgerFault}
    {statements : Except LedgerFault (α × ShardLedgerTables)} (h : statements = .error fault) :
    transaction tables statements = (.error fault, tables) := by
  rw [h, transaction]

theorem transaction_eq_of_error {α : Type} {tables : ShardLedgerTables} {fault : LedgerFault}
    {statements : Except LedgerFault (α × ShardLedgerTables)}
    (h : (transaction tables statements).1 = .error fault) :
    transaction tables statements = (.error fault, tables) := by
  cases statements with
  | ok result => exact absurd h (by simp [transaction])
  | error found => exact Prod.ext h rfl

/-- A call that returns has run its statements; one that raises has left the tables alone. -/
theorem transaction_cases {α : Type} (tables : ShardLedgerTables)
    (statements : Except LedgerFault (α × ShardLedgerTables)) :
    (∃ result after, statements = .ok (result, after) ∧
        transaction tables statements = (.ok result, after)) ∨
      ∃ fault, statements = .error fault ∧ transaction tables statements = (.error fault, tables) := by
  cases statements with
  | ok result => exact Or.inl ⟨result.1, result.2, rfl, rfl⟩
  | error fault => exact Or.inr ⟨fault, rfl, rfl⟩

/-! ## Rows and ranges -/

/-- The catalog verifies an artifact as a canonical distribution. -/
def VerifiedDistribution (catalog : VerifiedArtifacts) (artifactId : ArtifactId) : Prop :=
  ∃ artifact, catalog.findCommitted artifactId = .ok (some artifact) ∧
    artifact.kind = .canonicalDistribution

/-- A row of the capability whose validation passed, with an artifact the catalog verifies. -/
def VerifiedPass (catalog : VerifiedArtifacts) (tables : ShardLedgerTables) (query : FrontierQuery)
    (e : (ShardIdentity × ArtifactId) × ShardRow) : Prop :=
  e ∈ tables.shardLedger.entries ∧ query.selects e ∧ VerifiedDistribution catalog e.1.2

/-- A block is in the range of a shard. -/
def ShardIdentity.Contains (identity : ShardIdentity) (block : Nat) : Prop :=
  identity.fromBlockOrdinal ≤ block ∧ block < identity.toBlockOrdinal

theorem mem_frontierRows {tables : ShardLedgerTables} {query : FrontierQuery} {start : Nat}
    {e : (ShardIdentity × ArtifactId) × ShardRow} :
    e ∈ tables.frontierRows query start ↔
      e ∈ tables.shardLedger.entries ∧ query.selects e ∧ start < e.1.1.toBlockOrdinal := by
  rw [ShardLedgerTables.frontierRows, (List.mergeSort_perm _ _).mem_iff, List.mem_filter,
    decide_eq_true_eq]

theorem find_eq_ok {catalog : VerifiedArtifacts} {artifactId : ArtifactId}
    {found : Option CommittedArtifact} :
    catalog.find artifactId = .ok found ↔ catalog.findCommitted artifactId = .ok found := by
  rw [VerifiedArtifacts.find, mapError_eq_ok]

/-- The ranges of the rows that are verified, when the catalog answers for every row. -/
theorem verifiedRanges_eq_ok {catalog : VerifiedArtifacts}
    {rows : List ((ShardIdentity × ArtifactId) × ShardRow)}
    (hanswers : ∀ e ∈ rows, ∃ found, catalog.findCommitted e.1.2 = .ok found) :
    ∃ ranges, verifiedRanges catalog rows = .ok ranges ∧
      ∀ r, r ∈ ranges ↔ ∃ e ∈ rows, VerifiedDistribution catalog e.1.2 ∧ e.1.1.range = r := by
  induction rows with
  | nil => exact ⟨[], rfl, by simp⟩
  | cons e rows ih =>
    obtain ⟨ranges, hranges, hmem⟩ := ih fun e' he' => hanswers e' (by simp [he'])
    obtain ⟨found, hfound⟩ := hanswers e (by simp)
    have hverified : (found.any fun found => found.kind = .canonicalDistribution) = true ↔
        VerifiedDistribution catalog e.1.2 := by
      cases found with
      | none => simp [VerifiedDistribution, hfound]
      | some artifact => simp [VerifiedDistribution, hfound]
    rw [verifiedRanges, find_eq_ok.mpr hfound, ok_bind, hranges, ok_bind]
    by_cases h : VerifiedDistribution catalog e.1.2
    · rw [if_pos (hverified.mpr h)]
      refine ⟨_, rfl, fun r => ?_⟩
      rw [List.mem_cons, hmem, List.exists_mem_cons_iff, eq_comm (a := r), and_iff_right h]
    · rw [if_neg fun hany => h (hverified.mp hany)]
      refine ⟨_, rfl, fun r => ?_⟩
      rw [hmem, List.exists_mem_cons_iff]
      exact ⟨Or.inr, fun hany => hany.resolve_left fun hthis => h hthis.1⟩

/-- What a fault of the ranges is. -/
theorem verifiedRanges_ok_answers {catalog : VerifiedArtifacts}
    {rows : List ((ShardIdentity × ArtifactId) × ShardRow)} {ranges : List (Nat × Nat)}
    (h : verifiedRanges catalog rows = .ok ranges) :
    ∀ e ∈ rows, ∃ found, catalog.findCommitted e.1.2 = .ok found := by
  induction rows generalizing ranges with
  | nil => simp
  | cons e rows ih =>
    rw [verifiedRanges] at h
    obtain ⟨found, hfound, h⟩ := bind_eq_ok.mp h
    obtain ⟨rest, hrest, -⟩ := bind_eq_ok.mp h
    intro e' he'
    rcases List.mem_cons.mp he' with rfl | he'
    · exact ⟨found, find_eq_ok.mp hfound⟩
    · exact ih hrest e' he'

/-- The frontier of some ranges. -/
def FrontierQuery.frontierOf (query : FrontierQuery) (ranges : List (Nat × Nat)) :
    SourceFrontier where
  sourceId := query.sourceId
  capabilityId := query.capabilityId
  capabilitySchemaVersion := query.capabilitySchemaVersion
  networkId := query.networkId
  positionSchemaId := query.positionSchemaId
  coverageFromBlockOrdinal := query.coverageFromBlockOrdinal.toNat
  frontierBlockOrdinal := Coverage.sweep ranges query.coverageFromBlockOrdinal.toNat

/-- What a frontier is asked for is in order: a version, and a start that is a block. -/
def FrontierQuery.Valid (query : FrontierQuery) : Prop :=
  query.capabilitySchemaVersion ≠ "" ∧ 0 ≤ query.coverageFromBlockOrdinal

theorem contiguousFrontier_of_ranges {catalog : VerifiedArtifacts} {tables : ShardLedgerTables}
    {query : FrontierQuery} (hvalid : query.Valid) {ranges : List (Nat × Nat)}
    (hranges : verifiedRanges catalog
      (tables.frontierRows query query.coverageFromBlockOrdinal.toNat) = .ok ranges) (nowNs : Nat) :
    contiguousFrontier catalog tables query nowNs
      = (.ok (query.frontierOf ranges),
        tables.cacheFrontier (query.frontierOf ranges) nowNs) := by
  refine transaction_of_ok ?_
  rw [refuseIf_of_not hvalid.1, ok_bind, refuseIf_of_not (not_lt.mpr hvalid.2), ok_bind]
  dsimp only
  rw [hranges, ok_bind]
  rfl

/-- A frontier that is returned is the one of the verified ranges. -/
theorem ranges_of_contiguousFrontier {catalog : VerifiedArtifacts} {tables : ShardLedgerTables}
    {query : FrontierQuery} {nowNs : Nat} {frontier : SourceFrontier}
    (h : (contiguousFrontier catalog tables query nowNs).1 = .ok frontier) :
    query.Valid ∧ ∃ ranges, verifiedRanges catalog
        (tables.frontierRows query query.coverageFromBlockOrdinal.toNat) = .ok ranges ∧
      frontier = query.frontierOf ranges := by
  rw [contiguousFrontier, transaction_fst] at h
  obtain ⟨⟨found, after⟩, hstatements, rfl⟩ := map_eq_ok.mp h
  obtain ⟨_, hversion, hstatements⟩ := bind_eq_ok.mp hstatements
  obtain ⟨_, hstart, hstatements⟩ := bind_eq_ok.mp hstatements
  obtain ⟨ranges, hranges, hstatements⟩ := bind_eq_ok.mp hstatements
  refine ⟨⟨refuseIf_eq_ok.mp hversion, not_lt.mp (refuseIf_eq_ok.mp hstart)⟩, ranges, hranges, ?_⟩
  exact (congrArg Prod.fst (Except.ok.inj hstatements)).symm

/-- A frontier that is asked for changes nothing but the frontiers that are kept. -/
theorem contiguousFrontier_cases (catalog : VerifiedArtifacts) (tables : ShardLedgerTables)
    (query : FrontierQuery) (nowNs : Nat) :
    (∃ frontier, contiguousFrontier catalog tables query nowNs
        = (.ok frontier, tables.cacheFrontier frontier nowNs)) ∨
      ∃ fault, contiguousFrontier catalog tables query nowNs = (.error fault, tables) := by
  cases hresult : (contiguousFrontier catalog tables query nowNs).1 with
  | ok frontier =>
    obtain ⟨hvalid, ranges, hranges, rfl⟩ := ranges_of_contiguousFrontier hresult
    exact Or.inl ⟨_, contiguousFrontier_of_ranges hvalid hranges nowNs⟩
  | error fault =>
    exact Or.inr ⟨fault, transaction_eq_of_error hresult⟩

/-- The blocks a query's verified shards leave uncovered, from its start on. -/
def uncovered (catalog : VerifiedArtifacts) (tables : ShardLedgerTables) (query : FrontierQuery) :
    Set Nat :=
  {block | query.coverageFromBlockOrdinal.toNat ≤ block ∧
    ¬ ∃ e, VerifiedPass catalog tables query e ∧ e.1.1.Contains block}

/-- **The sweep over the rows ends at the first uncovered block.** -/
theorem sweep_rows_isLeast {catalog : VerifiedArtifacts} {tables : ShardLedgerTables}
    {query : FrontierQuery} {ranges : List (Nat × Nat)}
    (hranges : verifiedRanges catalog
      (tables.frontierRows query query.coverageFromBlockOrdinal.toNat) = .ok ranges) :
    IsLeast (uncovered catalog tables query)
      (Coverage.sweep ranges query.coverageFromBlockOrdinal.toNat) := by
  obtain ⟨ranges', hranges', hmem⟩ := verifiedRanges_eq_ok (verifiedRanges_ok_answers hranges)
  obtain rfl : ranges = ranges' := Except.ok.inj (hranges.symm.trans hranges')
  have hcovered : ∀ block, query.coverageFromBlockOrdinal.toNat ≤ block →
      (Coverage.Covered ranges block ↔
        ∃ e, VerifiedPass catalog tables query e ∧ e.1.1.Contains block) := by
    intro block hstart
    constructor
    · rintro ⟨r, hr, hblock⟩
      obtain ⟨e, he, hverified, rfl⟩ := (hmem r).mp hr
      obtain ⟨hentry, hselects, -⟩ := mem_frontierRows.mp he
      exact ⟨e, ⟨hentry, hselects, hverified⟩, hblock⟩
    · rintro ⟨e, ⟨hentry, hselects, hverified⟩, hblock⟩
      have hrow := mem_frontierRows.mpr ⟨hentry, hselects, hstart.trans_lt hblock.2⟩
      exact ⟨e.1.1.range, (hmem _).mpr ⟨e, hrow, hverified, rfl⟩, hblock⟩
  have hleast := Coverage.sweep_isLeast ranges query.coverageFromBlockOrdinal.toNat
  refine ⟨⟨hleast.1.1, fun hany => hleast.1.2 ((hcovered _ hleast.1.1).mpr hany)⟩, ?_⟩
  rintro block ⟨hstart, hnone⟩
  exact hleast.2 ⟨hstart, fun hany => hnone ((hcovered block hstart).mp hany)⟩

/-! ## Recording -/

theorem requireVerified_eq_ok {catalog : VerifiedArtifacts} {artifact : CommittedArtifact} :
    requireVerified catalog artifact = .ok () ↔
      ∃ found, catalog.findCommitted artifact.artifactId = .ok (some found) ∧
        sameArtifact found artifact := by
  rw [requireVerified, bind_eq_ok]
  constructor
  · rintro ⟨found, hfound, h⟩
    rw [refuseIf_eq_ok, not_not] at h
    cases found with
    | none => exact absurd h (by simp)
    | some found => exact ⟨found, find_eq_ok.mp hfound, by simpa using h⟩
  · rintro ⟨found, hfound, hsame⟩
    exact ⟨some found, find_eq_ok.mpr hfound, refuseIf_of_not (by simpa using hsame)⟩

/-- An artifact that is recorded is a verified canonical distribution. -/
theorem verified_of_requireVerified {catalog : VerifiedArtifacts}
    {revision : CommittedShardRevision} (h : requireVerified catalog revision.artifact = .ok ()) :
    VerifiedDistribution catalog revision.artifact.artifactId := by
  obtain ⟨found, hfound, hsame⟩ := requireVerified_eq_ok.mp h
  exact ⟨found, hfound, hsame.2.1.trans revision.canonical⟩

namespace ShardLedgerTables

/-- A revision is in the ledger under its own key. -/
def Holds (tables : ShardLedgerTables) (revision : CommittedShardRevision) : Prop :=
  ∃ row, tables.shardLedger.get? revision.key = some row

/-- No row of the revision's shard and revision has another boundary. -/
def Agrees (tables : ShardLedgerTables) (boundary : SourceBoundary) : Prop :=
  ∀ key row, tables.shardLedger.get? key = some row → key.1 = boundary.identity →
    tables.rowMatches key row boundary

theorem mem_rowsOf {tables : ShardLedgerTables} {identity : ShardIdentity}
    {e : (ShardIdentity × ArtifactId) × ShardRow} :
    e ∈ tables.rowsOf identity ↔ tables.shardLedger.get? e.1 = some e.2 ∧ e.1.1 = identity := by
  rw [rowsOf, List.mem_filter, decide_eq_true_eq, Dict.get?_eq_some_iff]

theorem forall_rowsOf_iff {tables : ShardLedgerTables} {boundary : SourceBoundary} :
    (¬ ∃ e ∈ tables.rowsOf boundary.identity, ¬ tables.rowMatches e.1 e.2 boundary) ↔
      tables.Agrees boundary := by
  constructor
  · intro h key row hrow hkey
    by_contra hnot
    exact h ⟨(key, row), mem_rowsOf.mpr ⟨hrow, hkey⟩, hnot⟩
  · rintro h ⟨e, he, hnot⟩
    obtain ⟨hrow, hkey⟩ := mem_rowsOf.mp he
    exact hnot (h e.1 e.2 hrow hkey)

theorem exists_rowsOf_iff {tables : ShardLedgerTables} {revision : CommittedShardRevision} :
    (∃ e ∈ tables.rowsOf revision.boundary.identity, e.1.2 = revision.artifact.artifactId) ↔
      tables.Holds revision := by
  constructor
  · rintro ⟨⟨⟨identity, artifactId⟩, row⟩, he, rfl⟩
    obtain ⟨hrow, rfl⟩ := mem_rowsOf.mp he
    exact ⟨row, hrow⟩
  · rintro ⟨row, hrow⟩
    exact ⟨(revision.key, row), mem_rowsOf.mpr ⟨hrow, rfl⟩, rfl⟩

/-- The tables with the row of a revision. -/
def withRevision (tables : ShardLedgerTables) (revision : CommittedShardRevision)
    (committedAtNs : Nat) : ShardLedgerTables :=
  { tables with
    shardLedger := tables.shardLedger.set revision.key (revision.values committedAtNs)
    shardQueryFingerprints := tables.shardQueryFingerprints.set revision.key
      revision.boundary.fingerprintTexts }

/-- An artifact is bound to a row of the ledger. -/
def Bound (tables : ShardLedgerTables) (artifactId : ArtifactId) : Prop :=
  ∃ e ∈ tables.shardLedger.entries, e.1.2 = artifactId

/-- Forgetting the frontiers a revision bears on. -/
def forgetFor (tables : ShardLedgerTables) (boundary : SourceBoundary) : ShardLedgerTables :=
  tables.forgetFrontiers boundary.sourceId boundary.capabilityId boundary.capabilitySchemaVersion

/-- **What the statements of a recording do**: every row of the same shard and revision must have
the boundary; the row is there already, or it is added under an artifact that is not bound. -/
theorem recordStatements_eq_ok {tables after : ShardLedgerTables}
    {revision : CommittedShardRevision} {committedAtNs : Nat} :
    tables.recordStatements revision committedAtNs = .ok after ↔
      tables.Agrees revision.boundary ∧
        ((tables.Holds revision ∧ after = tables.forgetFor revision.boundary) ∨
          (¬ tables.Holds revision ∧ ¬ tables.Bound revision.artifact.artifactId ∧
            revision.boundary.fingerprintTexts.Nodup ∧
            after = (tables.withRevision revision committedAtNs).forgetFor revision.boundary)) := by
  rw [recordStatements, check_bind_eq_ok, refuseIf_eq_ok, forall_rowsOf_iff, bind_eq_ok,
    insertMissing]
  refine and_congr_right fun _ => ?_
  by_cases hholds : tables.Holds revision
  · rw [if_pos (exists_rowsOf_iff.mpr hholds)]
    constructor
    · rintro ⟨held, hheld, hafter⟩
      obtain rfl := Except.ok.inj hheld
      exact Or.inl ⟨hholds, (Except.ok.inj hafter).symm⟩
    · rintro (⟨-, rfl⟩ | ⟨hnot, -⟩)
      · exact ⟨tables, rfl, rfl⟩
      · exact absurd hholds hnot
  · rw [if_neg fun h => hholds (exists_rowsOf_iff.mp h)]
    constructor
    · rintro ⟨inserted, hinsert, hafter⟩
      rw [insertRevision, check_bind_eq_ok, refuseIf_eq_ok, check_bind_eq_ok, refuseIf_eq_ok,
        not_not] at hinsert
      obtain ⟨hfree, hnodup, hinsert⟩ := hinsert
      obtain rfl := Except.ok.inj hinsert
      exact Or.inr ⟨hholds, hfree, hnodup, (Except.ok.inj hafter).symm⟩
    · rintro (⟨hhold, -⟩ | ⟨-, hfree, hnodup, rfl⟩)
      · exact absurd hhold hholds
      · refine ⟨tables.withRevision revision committedAtNs, ?_, rfl⟩
        exact check_bind_eq_ok.mpr ⟨refuseIf_eq_ok.mpr hfree,
          check_bind_eq_ok.mpr ⟨refuseIf_eq_ok.mpr (not_not.mpr hnodup), rfl⟩⟩

end ShardLedgerTables

/-- A recording that returns has verified the artifact and run its statements. -/
theorem recordRevision_eq_ok {catalog : VerifiedArtifacts} {tables after : ShardLedgerTables}
    {revision : CommittedShardRevision} {nowNs : Nat} :
    recordRevision catalog tables revision nowNs = (.ok (), after) ↔
      requireVerified catalog revision.artifact = .ok () ∧
        tables.recordStatements revision nowNs = .ok after := by
  constructor
  · intro h
    rcases transaction_cases tables (do
      requireVerified catalog revision.artifact
      let after ← tables.recordStatements revision nowNs
      .ok ((), after)) with ⟨_, after', hstatements, hall⟩ | ⟨fault, -, hall⟩
    · obtain rfl : after' = after := congrArg Prod.snd (hall.symm.trans h)
      obtain ⟨_, hverified, hstatements⟩ := bind_eq_ok.mp hstatements
      obtain ⟨after, hrecord, hstatements⟩ := bind_eq_ok.mp hstatements
      obtain rfl := congrArg Prod.snd (Except.ok.inj hstatements)
      exact ⟨hverified, hrecord⟩
    · exact absurd (congrArg Prod.fst (hall.symm.trans h)) (by simp)
  · rintro ⟨hverified, hrecord⟩
    refine transaction_of_ok ?_
    rw [hverified, ok_bind, hrecord, ok_bind]

/-- What a recording raises leaves the tables alone. -/
theorem recordRevision_cases (catalog : VerifiedArtifacts) (tables : ShardLedgerTables)
    (revision : CommittedShardRevision) (nowNs : Nat) :
    (∃ after, recordRevision catalog tables revision nowNs = (.ok (), after)) ∨
      ∃ fault, recordRevision catalog tables revision nowNs = (.error fault, tables) := by
  rcases transaction_cases tables (do
    requireVerified catalog revision.artifact
    let after ← tables.recordStatements revision nowNs
    .ok ((), after)) with ⟨_, after, -, hall⟩ | ⟨fault, -, hall⟩
  · exact Or.inl ⟨after, hall⟩
  · exact Or.inr ⟨fault, hall⟩

/-! ## Frontiers move on -/

/-- The entries of the ledger after a recording: those before it, and at most the one recorded. -/
theorem mem_entries_record {catalog : VerifiedArtifacts} {tables after : ShardLedgerTables}
    {revision : CommittedShardRevision} {nowNs : Nat}
    (h : recordRevision catalog tables revision nowNs = (.ok (), after))
    (e : (ShardIdentity × ArtifactId) × ShardRow) :
    (e ∈ tables.shardLedger.entries → e ∈ after.shardLedger.entries) ∧
      (e ∈ after.shardLedger.entries → e ∈ tables.shardLedger.entries ∨ e.1 = revision.key) := by
  obtain ⟨-, hrecord⟩ := recordRevision_eq_ok.mp h
  obtain ⟨-, ⟨-, rfl⟩ | ⟨hnot, -, -, rfl⟩⟩ := ShardLedgerTables.recordStatements_eq_ok.mp hrecord
  · exact ⟨id, Or.inl⟩
  · have hnew : tables.shardLedger.get? revision.key = none := by
      by_contra hsome
      exact hnot (Option.ne_none_iff_exists'.mp hsome)
    have hentries : ((tables.withRevision revision nowNs).forgetFor
        revision.boundary).shardLedger.entries
        = tables.shardLedger.entries ++ [(revision.key, revision.values nowNs)] :=
      Dict.entries_set_of_new _ hnew
    rw [hentries]
    constructor
    · exact fun he => List.mem_append.mpr (Or.inl he)
    · intro he
      rcases List.mem_append.mp he with he | he
      · exact Or.inl he
      · obtain rfl : e = (revision.key, revision.values nowNs) := by simpa using he
        exact Or.inr rfl

/-- **Recording never lowers a frontier**: when a frontier is returned before a recording, one is
returned after it, and it is not lower. -/
theorem frontier_le_of_record {catalog : VerifiedArtifacts} {tables : ShardLedgerTables}
    {query : FrontierQuery} {frontier : SourceFrontier} {askedNs : Nat}
    (h : (contiguousFrontier catalog tables query askedNs).1 = .ok frontier)
    (revision : CommittedShardRevision) (nowNs laterNs : Nat) :
    ∃ later, (contiguousFrontier catalog (recordRevision catalog tables revision nowNs).2 query
        laterNs).1 = .ok later ∧ frontier.frontierBlockOrdinal ≤ later.frontierBlockOrdinal := by
  obtain ⟨hvalid, ranges, hranges, rfl⟩ := ranges_of_contiguousFrontier h
  rcases recordRevision_cases catalog tables revision nowNs with ⟨after, hrecord⟩ | ⟨fault, hfault⟩
  · rw [hrecord]
    have hverified := verified_of_requireVerified (recordRevision_eq_ok.mp hrecord).1
    have hanswers : ∀ e ∈ after.frontierRows query query.coverageFromBlockOrdinal.toNat,
        ∃ found, catalog.findCommitted e.1.2 = .ok found := by
      intro e he
      obtain ⟨hentry, hselects, hstart⟩ := mem_frontierRows.mp he
      rcases (mem_entries_record hrecord e).2 hentry with hold | hkey
      · exact verifiedRanges_ok_answers hranges e (mem_frontierRows.mpr ⟨hold, hselects, hstart⟩)
      · obtain ⟨artifact, hfound, -⟩ := hverified
        refine ⟨some artifact, ?_⟩
        rw [hkey]
        exact hfound
    obtain ⟨more, hmore, -⟩ := verifiedRanges_eq_ok hanswers
    rw [contiguousFrontier_of_ranges hvalid hmore]
    refine ⟨_, rfl, ?_⟩
    have hafter := sweep_rows_isLeast hmore
    refine (sweep_rows_isLeast hranges).2 ⟨hafter.1.1, ?_⟩
    rintro ⟨e, ⟨hentry, hselects, hpass⟩, hblock⟩
    exact hafter.1.2 ⟨e, ⟨(mem_entries_record hrecord e).1 hentry, hselects, hpass⟩, hblock⟩
  · rw [hfault, contiguousFrontier_of_ranges hvalid hranges]
    exact ⟨_, rfl, le_rfl⟩

/-! ## Recording again -/

/-- One call of the ledger. -/
inductive LedgerStep : ShardLedgerTables → ShardLedgerTables → Prop
  | record (catalog : VerifiedArtifacts) (tables : ShardLedgerTables)
      (revision : CommittedShardRevision) (nowNs : Nat) :
      LedgerStep tables (recordRevision catalog tables revision nowNs).2
  | frontier (catalog : VerifiedArtifacts) (tables : ShardLedgerTables) (query : FrontierQuery)
      (nowNs : Nat) : LedgerStep tables (contiguousFrontier catalog tables query nowNs).2

/-- Some calls, one after the other. -/
inductive LedgerRun : ShardLedgerTables → ShardLedgerTables → Prop
  | refl (tables : ShardLedgerTables) : LedgerRun tables tables
  | step {tables between after : ShardLedgerTables} (hrun : LedgerRun tables between)
      (hstep : LedgerStep between after) : LedgerRun tables after

/-- The tables a ledger can have. -/
def LedgerReachable (tables : ShardLedgerTables) : Prop := LedgerRun .empty tables

/-- A row without the time it was committed. -/
def ShardRow.logical (row : ShardRow) : ShardRow := { row with committedAtNs := 0 }

/-- The row a boundary asks for. -/
def SourceBoundary.logical (boundary : SourceBoundary) : ShardRow where
  snapshotCutToBlock := boundary.snapshotCutToBlock
  chainFinality := boundary.chainFinality
  ingestionWatermarkToBlock := boundary.ingestionWatermarkToBlock
  upstreamRevision := boundary.upstreamRevision
  sourceConsistency := boundary.sourceConsistency
  completeness := boundary.completeness
  validationStatus := boundary.validationStatus
  committedAtNs := 0

namespace ShardLedgerTables

/-- The fingerprints under a key. -/
def fingerprints (tables : ShardLedgerTables) (key : ShardIdentity × ArtifactId) :
    List DigestText := tables.shardQueryFingerprints.getD key []

theorem rowMatches_iff {tables : ShardLedgerTables} {key : ShardIdentity × ArtifactId}
    {row : ShardRow} {boundary : SourceBoundary} :
    tables.rowMatches key row boundary ↔
      key.1 = boundary.identity ∧ row.logical = boundary.logical ∧
        tables.fingerprints key = boundary.fingerprintTexts := by
  simp only [rowMatches, ShardRow.logical, SourceBoundary.logical, ShardRow.mk.injEq, and_true,
    fingerprints, and_assoc]

/-- The rows of one revision of one shard differ in their artifacts and times alone. -/
def Consistent (tables : ShardLedgerTables) : Prop :=
  ∀ key key' row row', tables.shardLedger.get? key = some row →
    tables.shardLedger.get? key' = some row' → key.1 = key'.1 →
    row.logical = row'.logical ∧ tables.fingerprints key = tables.fingerprints key'

/-- What is in the ledger stays in it. -/
def Grows (tables after : ShardLedgerTables) : Prop :=
  ∀ key row, tables.shardLedger.get? key = some row →
    after.shardLedger.get? key = some row ∧ after.fingerprints key = tables.fingerprints key

theorem fingerprints_withRevision (tables : ShardLedgerTables) (revision : CommittedShardRevision)
    (nowNs : Nat) (key : ShardIdentity × ArtifactId) :
    (tables.withRevision revision nowNs).fingerprints key
      = if key = revision.key then revision.boundary.fingerprintTexts
        else tables.fingerprints key := by
  rw [fingerprints, withRevision, Dict.getD, Dict.get?_set]
  split_ifs
  · rfl
  · rfl

theorem get?_withRevision (tables : ShardLedgerTables) (revision : CommittedShardRevision)
    (nowNs : Nat) (key : ShardIdentity × ArtifactId) :
    (tables.withRevision revision nowNs).shardLedger.get? key
      = if key = revision.key then some (revision.values nowNs)
        else tables.shardLedger.get? key :=
  Dict.get?_set _ _ _ _

/-- The row of a revision has its boundary. -/
theorem rowMatches_withRevision (tables : ShardLedgerTables) (revision : CommittedShardRevision)
    (nowNs : Nat) : (tables.withRevision revision nowNs).rowMatches revision.key
      (revision.values nowNs) revision.boundary := by
  rw [rowMatches_iff, fingerprints_withRevision, if_pos rfl]
  exact ⟨rfl, rfl, rfl⟩

theorem Consistent.withRevision {tables : ShardLedgerTables} (h : tables.Consistent)
    {revision : CommittedShardRevision} (hagrees : tables.Agrees revision.boundary) (nowNs : Nat) :
    (tables.withRevision revision nowNs).Consistent := by
  have hnew : (revision.values nowNs).logical = revision.boundary.logical := rfl
  have hold : ∀ key row, tables.shardLedger.get? key = some row → key.1 = revision.key.1 →
      row.logical = revision.boundary.logical ∧
        tables.fingerprints key = revision.boundary.fingerprintTexts := fun key row hrow hkey =>
    (rowMatches_iff.mp (hagrees key row hrow hkey)).2
  intro key key' row row' hrow hrow' hkeys
  rw [get?_withRevision] at hrow hrow'
  rw [fingerprints_withRevision, fingerprints_withRevision]
  by_cases hk : key = revision.key
  · rw [if_pos hk, Option.some.injEq] at hrow
    rw [if_pos hk]
    by_cases hk' : key' = revision.key
    · rw [if_pos hk', Option.some.injEq] at hrow'
      rw [if_pos hk', ← hrow, ← hrow']
      exact ⟨rfl, rfl⟩
    · rw [if_neg hk'] at hrow'
      obtain ⟨hlogical, hprints⟩ := hold key' row' hrow' (hkeys ▸ congrArg Prod.fst hk)
      rw [if_neg hk', ← hrow, hnew, hlogical, hprints]
      exact ⟨rfl, rfl⟩
  · rw [if_neg hk] at hrow
    rw [if_neg hk]
    by_cases hk' : key' = revision.key
    · rw [if_pos hk', Option.some.injEq] at hrow'
      obtain ⟨hlogical, hprints⟩ := hold key row hrow (hkeys.trans (congrArg Prod.fst hk'))
      rw [if_pos hk', ← hrow', hnew, hlogical, hprints]
      exact ⟨rfl, rfl⟩
    · rw [if_neg hk'] at hrow'
      rw [if_neg hk']
      exact h key key' row row' hrow hrow' hkeys

end ShardLedgerTables

/-- One call keeps the ledger consistent and every row of it. -/
theorem LedgerStep.kept {tables after : ShardLedgerTables} (hstep : LedgerStep tables after)
    (h : tables.Consistent) : after.Consistent ∧ tables.Grows after := by
  have hsame : tables.Consistent ∧ tables.Grows tables := ⟨h, fun _ _ hrow => ⟨hrow, rfl⟩⟩
  cases hstep with
  | record catalog _ revision nowNs =>
    rcases recordRevision_cases catalog tables revision nowNs with ⟨after, hrecord⟩ | ⟨_, hfault⟩
    · rw [hrecord]
      obtain ⟨-, hstatements⟩ := recordRevision_eq_ok.mp hrecord
      obtain ⟨hagrees, ⟨-, rfl⟩ | ⟨hnot, -, -, rfl⟩⟩ :=
        ShardLedgerTables.recordStatements_eq_ok.mp hstatements
      · exact hsame
      · refine ⟨h.withRevision hagrees nowNs, fun key row hrow => ?_⟩
        have hne : key ≠ revision.key := by
          rintro rfl
          exact hnot ⟨row, hrow⟩
        refine ⟨?_, ?_⟩
        · exact (tables.get?_withRevision revision nowNs key).trans ((if_neg hne).trans hrow)
        · exact (tables.fingerprints_withRevision revision nowNs key).trans (if_neg hne)
    · rw [hfault]
      exact hsame
  | frontier catalog _ query nowNs =>
    rcases contiguousFrontier_cases catalog tables query nowNs with ⟨_, hall⟩ | ⟨_, hall⟩
    · rw [hall]
      exact hsame
    · rw [hall]
      exact hsame

theorem LedgerRun.kept {tables after : ShardLedgerTables} (hrun : LedgerRun tables after)
    (h : tables.Consistent) : after.Consistent ∧ tables.Grows after := by
  induction hrun with
  | refl => exact ⟨h, fun _ _ hrow => ⟨hrow, rfl⟩⟩
  | step _ hstep ih =>
    obtain ⟨hconsistent, hgrows⟩ := ih
    obtain ⟨hafter, hmore⟩ := hstep.kept hconsistent
    refine ⟨hafter, fun key row hrow => ?_⟩
    obtain ⟨hrow', hprints⟩ := hgrows key row hrow
    obtain ⟨hrow'', hprints'⟩ := hmore key row hrow'
    exact ⟨hrow'', hprints'.trans hprints⟩

theorem LedgerReachable.consistent {tables : ShardLedgerTables} (h : LedgerReachable tables) :
    tables.Consistent :=
  (LedgerRun.kept h fun _ _ _ _ hrow => absurd hrow (by simp [ShardLedgerTables.empty])).1

/-- A recorded revision has its row, with its boundary. -/
theorem holds_of_record {catalog : VerifiedArtifacts} {tables after : ShardLedgerTables}
    {revision : CommittedShardRevision} {nowNs : Nat}
    (h : recordRevision catalog tables revision nowNs = (.ok (), after)) :
    ∃ row, after.shardLedger.get? revision.key = some row ∧
      after.rowMatches revision.key row revision.boundary := by
  obtain ⟨-, hrecord⟩ := recordRevision_eq_ok.mp h
  obtain ⟨hagrees, ⟨⟨row, hrow⟩, rfl⟩ | ⟨-, -, -, rfl⟩⟩ :=
    ShardLedgerTables.recordStatements_eq_ok.mp hrecord
  · exact ⟨row, hrow, hagrees _ row hrow rfl⟩
  · refine ⟨revision.values nowNs, ?_, tables.rowMatches_withRevision revision nowNs⟩
    exact (tables.get?_withRevision revision nowNs revision.key).trans (if_pos rfl)

theorem entries_foldl_erase (frontiers : Dict FrontierKey FrontierRow) (keys : List FrontierKey) :
    (keys.foldl (fun frontiers key => frontiers.erase key) frontiers).entries
      = frontiers.entries.filter fun e => e.1 ∉ keys := by
  induction keys generalizing frontiers with
  | nil => simp
  | cons key keys ih =>
    rw [List.foldl_cons, ih, Dict.erase, List.filter_filter]
    refine List.filter_congr fun e _ => ?_
    simp only [List.mem_cons, not_or, ne_eq, Bool.decide_and, Bool.and_comm]

/-- Forgetting twice is forgetting once. -/
theorem forgetFor_forgetFor (tables : ShardLedgerTables) (boundary : SourceBoundary) :
    (tables.forgetFor boundary).forgetFor boundary = tables.forgetFor boundary := by
  have hnone : (tables.forgetFor boundary).sourceFrontiers.keys.filter (fun key =>
      key.sourceId = boundary.sourceId ∧ key.capabilityId = boundary.capabilityId ∧
        key.capabilitySchemaVersion = boundary.capabilitySchemaVersion) = [] := by
    rw [List.filter_eq_nil_iff]
    intro key hkey hforgotten
    obtain ⟨e, he, rfl⟩ := List.mem_map.mp hkey
    rw [show (tables.forgetFor boundary).sourceFrontiers.entries = _ from
      entries_foldl_erase tables.sourceFrontiers _, List.mem_filter] at he
    refine (decide_eq_true_eq.mp he.2) (List.mem_filter.mpr ⟨?_, hforgotten⟩)
    exact List.mem_map_of_mem he.1
  conv_lhs => rw [ShardLedgerTables.forgetFor, ShardLedgerTables.forgetFrontiers, hnone]
  rfl

/-- **Recording again**: at any later time, a revision that has been recorded and that the catalog
verifies is recorded again, and no row is changed. -/
theorem recordRevision_again {catalog catalog' : VerifiedArtifacts}
    {tables after later : ShardLedgerTables} {revision : CommittedShardRevision} {nowNs : Nat}
    (hrecorded : LedgerReachable tables)
    (h : recordRevision catalog tables revision nowNs = (.ok (), after))
    (hrun : LedgerRun after later)
    (hverified : requireVerified catalog' revision.artifact = .ok ()) (laterNs : Nat) :
    recordRevision catalog' later revision laterNs
      = (.ok (), later.forgetFor revision.boundary) := by
  have hafter : LedgerReachable after := by
    have hstep := LedgerStep.record catalog tables revision nowNs
    rw [h] at hstep
    exact hrecorded.step hstep
  obtain ⟨hconsistent, hgrows⟩ := hrun.kept hafter.consistent
  obtain ⟨row, hrow, hmatches⟩ := holds_of_record h
  obtain ⟨hrow', hprints⟩ := hgrows _ _ hrow
  obtain ⟨hkey, hlogical, hprints'⟩ := ShardLedgerTables.rowMatches_iff.mp hmatches
  refine recordRevision_eq_ok.mpr ⟨hverified, ShardLedgerTables.recordStatements_eq_ok.mpr
    ⟨fun key other hother hsame => ?_, Or.inl ⟨⟨row, hrow'⟩, rfl⟩⟩⟩
  obtain ⟨hlogical', hsameprints⟩ := hconsistent key revision.key other row hother hrow' hsame
  exact ShardLedgerTables.rowMatches_iff.mpr
    ⟨hsame, hlogical'.trans hlogical, hsameprints.trans (hprints.trans hprints')⟩

/-! ## Conflicts -/

/-- A revision conflicts with the ledger: a row of its shard and revision has another boundary, or
its artifact is bound to a row of another. -/
def Conflicts (tables : ShardLedgerTables) (revision : CommittedShardRevision) : Prop :=
  ¬ tables.Agrees revision.boundary ∨
    (¬ tables.Holds revision ∧ tables.Bound revision.artifact.artifactId)

/-- **A conflicting revision is refused** and changes nothing. -/
theorem recordRevision_conflict {catalog : VerifiedArtifacts} {tables : ShardLedgerTables}
    {revision : CommittedShardRevision}
    (hverified : requireVerified catalog revision.artifact = .ok ())
    (h : Conflicts tables revision) (nowNs : Nat) :
    ∃ message, recordRevision catalog tables revision nowNs
      = (.error (.conflict message), tables) := by
  have hstatements : ∃ message,
      tables.recordStatements revision nowNs = .error (.conflict message) := by
    rw [ShardLedgerTables.recordStatements]
    by_cases hagrees : tables.Agrees revision.boundary
    · obtain ⟨hnot, hbound⟩ := h.resolve_left (not_not.mpr hagrees)
      have hexists : ∃ e ∈ tables.shardLedger.entries,
          e.1.2 = revision.artifact.artifactId := hbound
      rw [refuseIf_of_not (ShardLedgerTables.forall_rowsOf_iff.mpr hagrees), ok_bind,
        ShardLedgerTables.insertMissing,
        if_neg fun hrow => hnot (ShardLedgerTables.exists_rowsOf_iff.mp hrow),
        ShardLedgerTables.insertRevision, refuseIf_of hexists]
      exact ⟨_, rfl⟩
    · rw [refuseIf_of (not_not.mp fun hnone =>
        hagrees (ShardLedgerTables.forall_rowsOf_iff.mp hnone))]
      exact ⟨_, rfl⟩
  obtain ⟨message, hmessage⟩ := hstatements
  refine ⟨message, transaction_of_error ?_⟩
  rw [hverified, ok_bind, hmessage]
  rfl

/-- A recorded revision is recorded again at once, and changes nothing. -/
theorem recordRevision_twice {catalog : VerifiedArtifacts} {tables after : ShardLedgerTables}
    {revision : CommittedShardRevision} {nowNs : Nat} (hrecorded : LedgerReachable tables)
    (h : recordRevision catalog tables revision nowNs = (.ok (), after)) (laterNs : Nat) :
    recordRevision catalog after revision laterNs = (.ok (), after) := by
  obtain ⟨hverified, hrecord⟩ := recordRevision_eq_ok.mp h
  have hsame : after.forgetFor revision.boundary = after := by
    obtain ⟨-, ⟨-, rfl⟩ | ⟨-, -, -, rfl⟩⟩ := ShardLedgerTables.recordStatements_eq_ok.mp hrecord
    · exact forgetFor_forgetFor tables revision.boundary
    · exact forgetFor_forgetFor _ revision.boundary
  rw [recordRevision_again hrecorded h (LedgerRun.refl after) hverified, hsame]

/-- **The frontier of the shard ledger**: it is the first block from its start on that no verified
shard that has passed covers, a recording never lowers it, a revision that is recorded again
changes no row, and one that conflicts is refused and changes nothing. -/
theorem shard_ledger_frontier (catalog : VerifiedArtifacts) {tables : ShardLedgerTables}
    (hrecorded : LedgerReachable tables) (revision : CommittedShardRevision) (nowNs : Nat) :
    (∀ query : FrontierQuery, query.Valid →
      (∀ e ∈ tables.shardLedger.entries, query.selects e →
        ∃ found, catalog.findCommitted e.1.2 = .ok found) →
      ∀ askedNs, ∃ frontier, (contiguousFrontier catalog tables query askedNs).1 = .ok frontier) ∧
    (∀ query askedNs frontier, (contiguousFrontier catalog tables query askedNs).1 = .ok frontier →
      IsLeast (uncovered catalog tables query) frontier.frontierBlockOrdinal ∧
      ∀ laterNs, ∃ later,
        (contiguousFrontier catalog (recordRevision catalog tables revision nowNs).2 query
          laterNs).1 = .ok later ∧
        frontier.frontierBlockOrdinal ≤ later.frontierBlockOrdinal) ∧
    (∀ after, recordRevision catalog tables revision nowNs = (.ok (), after) →
      (∀ laterNs, recordRevision catalog after revision laterNs = (.ok (), after)) ∧
      ∀ catalog' later laterNs, LedgerRun after later →
        requireVerified catalog' revision.artifact = .ok () →
        recordRevision catalog' later revision laterNs
          = (.ok (), later.forgetFor revision.boundary)) ∧
    (requireVerified catalog revision.artifact = .ok () → Conflicts tables revision →
      ∃ message, recordRevision catalog tables revision nowNs
        = (.error (.conflict message), tables)) ∧
    (∀ fault, (recordRevision catalog tables revision nowNs).1 = .error fault →
      recordRevision catalog tables revision nowNs = (.error fault, tables)) := by
  refine ⟨?_, ?_, ?_, ?_, ?_⟩
  · intro query hvalid hanswers askedNs
    have hrows : ∀ e ∈ tables.frontierRows query query.coverageFromBlockOrdinal.toNat,
        ∃ found, catalog.findCommitted e.1.2 = .ok found := by
      intro e he
      obtain ⟨hentry, hselects, -⟩ := mem_frontierRows.mp he
      exact hanswers e hentry hselects
    obtain ⟨ranges, hranges, -⟩ := verifiedRanges_eq_ok hrows
    exact ⟨_, congrArg Prod.fst (contiguousFrontier_of_ranges hvalid hranges askedNs)⟩
  · intro query askedNs frontier hfrontier
    refine ⟨?_, frontier_le_of_record hfrontier revision nowNs⟩
    obtain ⟨-, ranges, hranges, rfl⟩ := ranges_of_contiguousFrontier hfrontier
    exact sweep_rows_isLeast hranges
  · intro after h
    exact ⟨recordRevision_twice hrecorded h, fun _ _ laterNs hrun hverified =>
      recordRevision_again hrecorded h hrun hverified laterNs⟩
  · exact fun hverified hconflicts => recordRevision_conflict hverified hconflicts nowNs
  · exact fun _ hfault => transaction_eq_of_error hfault

/-! ## Later revisions of a shard -/

/-- A later row of the ledger is a revision of the same shard. -/
def Superseded (tables : ShardLedgerTables) (e : (ShardIdentity × ArtifactId) × ShardRow) : Prop :=
  ∃ e' ∈ tables.shardLedger.entries,
    { e'.1.1 with internalRevision := e.1.1.internalRevision } = e.1.1 ∧
      e.2.committedAtNs < e'.2.committedAtNs

theorem sampleRange_nonempty : 0 < 10 := by decide

def sampleRange : BlockRange where
  networkId := ⟨"solana-mainnet"⟩
  positionSchemaId := BLOCK32_TRANSACTION32_POSITION_SCHEMA_ID
  fromBlockOrdinal := 0
  toBlockOrdinal := 10
  schema_supported := rfl
  nonempty := sampleRange_nonempty
  to_le := by decide

/-- A revision of the shard of the blocks below ten. -/
def sampleRevision (number : Fin (2 ^ 256)) (status : ValidationStatus) :
    CommittedShardRevision where
  artifact :=
    { artifactId := ⟨number⟩
      kind := .canonicalDistribution
      manifestDigest := { hex := number }
      buildKey := { hex := number }
      inputArtifactIds := [] }
  boundary :=
    { sourceId := ⟨"source"⟩
      capabilityId := ⟨"swaps"⟩
      capabilitySchemaVersion := "1"
      blockRange := sampleRange
      snapshotCutToBlock := 10
      chainFinality := .finalized
      ingestionWatermarkToBlock := none
      upstreamRevision := none
      internalRevision := { hex := number }
      sourceConsistency := .snapshotConsistent
      completeness := .unknown
      validationStatus := status
      queryFingerprints := []
      version_ne := by decide
      cut_eq := rfl
      watermark_of_complete := fun h => absurd h (by decide)
      fingerprints_sorted := List.Pairwise.nil
      fingerprints_nodup := List.nodup_nil }
  canonical := rfl

/-- A catalog that verifies the artifacts of the sample revisions. -/
def sampleCatalog : VerifiedArtifacts where
  findCommitted artifactId := .ok (some (sampleRevision artifactId.hex .pass).artifact)

/-- The shard has passed at time one; at time two another revision of it has failed. -/
def sampleTables : ShardLedgerTables :=
  (recordRevision sampleCatalog
    (recordRevision sampleCatalog .empty (sampleRevision 1 .pass) 1).2 (sampleRevision 2 .fail) 2).2

def sampleQuery : FrontierQuery where
  sourceId := ⟨"source"⟩
  capabilityId := ⟨"swaps"⟩
  capabilitySchemaVersion := "1"
  networkId := ⟨"solana-mainnet"⟩
  positionSchemaId := BLOCK32_TRANSACTION32_POSITION_SCHEMA_ID
  coverageFromBlockOrdinal := 0

theorem sampleTables_entries : sampleTables.shardLedger.entries
    = [((sampleRevision 1 .pass).key, (sampleRevision 1 .pass).values 1),
      ((sampleRevision 2 .fail).key, (sampleRevision 2 .fail).values 2)] := by
  decide

theorem sampleTables_recorded : LedgerReachable sampleTables :=
  ((LedgerRun.refl _).step (.record sampleCatalog _ (sampleRevision 1 .pass) 1)).step
    (.record sampleCatalog _ (sampleRevision 2 .fail) 2)

theorem sampleQuery_valid : sampleQuery.Valid := ⟨by decide, by decide⟩

theorem shard_ledger_frontier_sample : LedgerReachable sampleTables ∧
    ∃ frontier, (contiguousFrontier sampleCatalog sampleTables sampleQuery 3).1 = .ok frontier ∧
      IsLeast (uncovered sampleCatalog sampleTables sampleQuery) frontier.frontierBlockOrdinal := by
  have hclaim := shard_ledger_frontier sampleCatalog sampleTables_recorded (sampleRevision 2 .fail) 4
  obtain ⟨frontier, hfrontier⟩ :=
    hclaim.1 sampleQuery sampleQuery_valid (fun _ _ _ => ⟨_, rfl⟩) 3
  exact ⟨sampleTables_recorded, frontier, hfrontier, (hclaim.2.1 _ _ _ hfrontier).1⟩

/-- **A shard that has passed counts, whatever a later revision of it says.** -/
theorem superseded_still_counts :
    ¬ ∀ (catalog : VerifiedArtifacts) (tables : ShardLedgerTables), LedgerReachable tables →
      ∀ query askedNs frontier, (contiguousFrontier catalog tables query askedNs).1 = .ok frontier →
        IsLeast {block | query.coverageFromBlockOrdinal.toNat ≤ block ∧
          ¬ ∃ e, VerifiedPass catalog tables query e ∧ ¬ Superseded tables e ∧
            e.1.1.Contains block} frontier.frontierBlockOrdinal := by
  intro hall
  have hrows : ∀ e ∈ sampleTables.frontierRows sampleQuery 0,
      ∃ found, sampleCatalog.findCommitted e.1.2 = .ok found := fun _ _ => ⟨_, rfl⟩
  obtain ⟨ranges, hranges, -⟩ := verifiedRanges_eq_ok hrows
  have hcovered : Coverage.sweep ranges 0 ∈ uncovered sampleCatalog sampleTables sampleQuery :=
    (sweep_rows_isLeast hranges).1
  have hleast := hall sampleCatalog sampleTables sampleTables_recorded sampleQuery 0 _
    (congrArg Prod.fst (contiguousFrontier_of_ranges sampleQuery_valid hranges 0))
  have hzero : Coverage.sweep ranges 0 = 0 := by
    refine Nat.le_zero.mp (hleast.2 ⟨le_rfl, ?_⟩)
    rintro ⟨e, ⟨hentry, hselects, -⟩, hlive, -⟩
    rw [sampleTables_entries] at hentry
    rcases List.mem_cons.mp hentry with rfl | hentry
    · refine hlive ⟨((sampleRevision 2 .fail).key, (sampleRevision 2 .fail).values 2), ?_, rfl, ?_⟩
      · rw [sampleTables_entries]
        simp
      · show 1 < 2
        decide
    · obtain rfl := List.mem_singleton.mp hentry
      exact absurd hselects.2.2.2.2.2 (by decide)
  refine hcovered.2 ⟨((sampleRevision 1 .pass).key, (sampleRevision 1 .pass).values 1),
    ⟨?_, by decide, ⟨_, rfl, rfl⟩⟩, ?_⟩
  · rw [sampleTables_entries]
    simp
  · show 0 ≤ Coverage.sweep ranges 0 ∧ Coverage.sweep ranges 0 < 10
    rw [hzero]
    decide

end Artifacts

end OnchainBacktest
