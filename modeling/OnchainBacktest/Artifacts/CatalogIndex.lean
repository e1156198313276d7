import OnchainBacktest.Lib.Contest
import OnchainBacktest.Artifacts.ArtifactCatalog

/-!
# What the tables say of the artifacts that were indexed

The build keys are contested by the artifacts.  `Describes calls catalog` says every table of the
catalog in terms of the calls alone: an artifact is quarantined when its build key is contested, a
build key resolves to the artifact that was indexed first, a verified run has its row in the
projection.  One more call keeps it, whether it brings a new artifact, a known one or a collision.
-/

set_option autoImplicit false

namespace OnchainBacktest

namespace Artifacts

open Checked Contest

/-! ## Descriptors -/

theorem sameDescriptor.symm {left right : CommittedArtifact} (h : sameDescriptor left right) :
    sameDescriptor right left :=
  ⟨h.1.symm, h.2.1.symm, h.2.2.1.symm, h.2.2.2.1.symm, h.2.2.2.2.symm⟩

theorem sameDescriptor.trans {left middle right : CommittedArtifact}
    (h : sameDescriptor left middle) (h' : sameDescriptor middle right) :
    sameDescriptor left right :=
  ⟨h.1.trans h'.1, h.2.1.trans h'.2.1, h.2.2.1.trans h'.2.2.1, h.2.2.2.1.trans h'.2.2.2.1,
    h.2.2.2.2.trans h'.2.2.2.2⟩

variable {repository : ArtifactRepository} {artifact verified : CommittedArtifact}

/-- What is verified is the descriptor in the repository, and the same as the one expected. -/
theorem verifyFilesystem_eq_ok (h : verifyFilesystem repository artifact = .ok verified) :
    openHandle repository artifact.artifactId = .ok verified ∧ sameDescriptor verified artifact := by
  rw [verifyFilesystem] at h
  obtain ⟨actual, hopen, h⟩ := bind_eq_ok.mp h
  obtain ⟨hsame, h⟩ := check_bind_eq_ok.mp h
  obtain ⟨-, h⟩ := check_bind_eq_ok.mp h
  cases h
  exact ⟨hopen, by simpa using hsame⟩

/-- The entry of a run reads no more of the descriptor than verification compares. -/
theorem entryOf_congr {artifact' : CommittedArtifact} (h : sameDescriptor artifact artifact') :
    entryOf repository artifact = entryOf repository artifact' := by
  obtain ⟨hid, hkind, hmanifest, hkey, hinputs⟩ := h
  have hsame : ∀ actual, sameDescriptor actual artifact ↔ sameDescriptor actual artifact' := by
    intro actual
    simp only [sameDescriptor, hid, hkind, hmanifest, hkey, hinputs]
  simp only [entryOf, runIndexEntry, hid, hkind, hmanifest, hinputs, hsame]

/-- Verification reads no more of the descriptor than it compares. -/
theorem verifyFilesystem_congr {artifact' : CommittedArtifact}
    (h : sameDescriptor artifact artifact') :
    verifyFilesystem repository artifact = verifyFilesystem repository artifact' := by
  obtain ⟨hid, hkind, hmanifest, hkey, hinputs⟩ := h
  have hsame : ∀ actual, sameDescriptor actual artifact ↔ sameDescriptor actual artifact' := by
    intro actual
    simp only [sameDescriptor, hid, hkind, hmanifest, hkey, hinputs]
  simp only [verifyFilesystem, hid, hsame]

/-- The artifact can be indexed: its files verify, its manifest can be projected, and its lineage
fits the constraints of the table. -/
structure Indexable (repository : ArtifactRepository) (artifact : CommittedArtifact) : Prop where
  verifies : ∃ verified, verifyFilesystem repository artifact = .ok verified
  projects : ∃ entry, entryOf repository artifact = .ok entry
  acyclic : artifact.artifactId ∉ artifact.inputArtifactIds
  distinct : artifact.inputArtifactIds.Nodup

theorem Indexable.congr {artifact' : CommittedArtifact} (h : Indexable repository artifact)
    (hsame : sameDescriptor artifact artifact') : Indexable repository artifact' where
  verifies := by simpa only [verifyFilesystem_congr hsame] using h.verifies
  projects := by simpa only [entryOf_congr hsame] using h.projects
  acyclic := by simpa only [hsame.1, hsame.2.2.2.2] using h.acyclic
  distinct := by simpa only [hsame.2.2.2.2] using h.distinct

/-- Artifacts of one identity that can be indexed have one descriptor. -/
theorem Indexable.same {artifact' : CommittedArtifact} (h : Indexable repository artifact)
    (h' : Indexable repository artifact') (hid : artifact.artifactId = artifact'.artifactId) :
    sameDescriptor artifact artifact' := by
  obtain ⟨v, hv⟩ := h.verifies
  obtain ⟨v', hv'⟩ := h'.verifies
  obtain ⟨hopen, hsame⟩ := verifyFilesystem_eq_ok hv
  obtain ⟨hopen', hsame'⟩ := verifyFilesystem_eq_ok hv'
  rw [hid, hopen', Except.ok.injEq] at hopen
  exact hsame.symm.trans (hopen ▸ hsame')

/-! ## The description -/

def IndexCall.artifactId (call : IndexCall) : ArtifactId := call.artifact.artifactId

def IndexCall.buildKey (call : IndexCall) : DigestText := call.artifact.buildKey.hex

/-- The call asks for its build key. -/
def IndexCall.bid (call : IndexCall) : DigestText × ArtifactId := (call.buildKey, call.artifactId)

def bids (calls : List IndexCall) : List (DigestText × ArtifactId) := calls.map IndexCall.bid

/-- The first call for an artifact. -/
def firstCall (calls : List IndexCall) (artifactId : ArtifactId) : Option IndexCall :=
  calls.find? fun call => call.artifactId = artifactId

/-- The row of the artifact of a call. -/
def rowOf (contested : Bool) (call : IndexCall) : ArtifactRow where
  kind := call.artifact.kind
  manifestDigest := call.artifact.manifestDigest.hex
  buildKey := call.buildKey
  status := if contested then .quarantined else .verified
  statusReason := if contested then some COLLISION_REASON else none
  indexedAtNs := call.nowNs
  verifiedAtNs := call.nowNs

/-- The edges from an artifact to its inputs. -/
def edgesOf (artifact : CommittedArtifact) : List ((ArtifactId × ArtifactId) × Nat) :=
  artifact.inputArtifactIds.zipIdx.map fun input => ((artifact.artifactId, input.1), input.2)

/-- The row of a run in the projection, where its entry can be read. -/
def runOf (repository : ArtifactRepository) (artifact : CommittedArtifact) : Option RunRow :=
  match entryOf repository artifact with
  | .ok entry => some (projectedRow artifact entry)
  | .error _ => none

/-- **What the tables say.**  Every table in terms of the calls, but for the times of a mapping and
of a conflict. -/
structure Describes (repository : ArtifactRepository) (calls : List IndexCall) (catalog : Catalog) :
    Prop where
  artifacts : ∀ artifactId, catalog.artifactIndex.get? artifactId =
    (firstCall calls artifactId).map fun call => rowOf (Contested (bids calls) call.buildKey) call
  mappings : ∀ buildKey,
    (catalog.buildKeyMapping.get? buildKey).map (fun row => (row.artifactId, row.status)) =
      (owner (bids calls) buildKey).map fun artifactId =>
        (artifactId, if Contested (bids calls) buildKey then .conflict else .verified)
  conflicts : ∀ buildKey artifactId,
    (catalog.artifactBuildConflicts.get? (toLex (buildKey, artifactId))).isSome ↔
      Contested (bids calls) buildKey ∧ (buildKey, artifactId) ∈ bids calls
  lineage : ∀ artifactId,
    (catalog.lineageEdges.entries.filter fun edge => edge.1.1 = artifactId) =
      ((firstCall calls artifactId).map fun call => edgesOf call.artifact).getD []
  runs : ∀ artifactId, catalog.runIndex.get? artifactId =
    (firstCall calls artifactId).bind fun call =>
      if call.artifact.kind = .run ∧ ¬ Contested (bids calls) call.buildKey then
        runOf repository call.artifact
      else none

section Calls

variable {calls : List IndexCall} {call first : IndexCall} {artifactId : ArtifactId}

theorem bids_concat : bids (calls ++ [call]) = bids calls ++ [(call.buildKey, call.artifactId)] := by
  simp [bids, IndexCall.bid]

theorem mem_bids {buildKey : DigestText} :
    (buildKey, artifactId) ∈ bids calls ↔
      ∃ call ∈ calls, call.buildKey = buildKey ∧ call.artifactId = artifactId := by
  simp [bids, IndexCall.bid, Prod.mk.injEq]

theorem bid_mem (h : call ∈ calls) : (call.buildKey, call.artifactId) ∈ bids calls :=
  mem_bids.mpr ⟨call, h, rfl, rfl⟩

theorem firstCall_mem (h : firstCall calls artifactId = some first) :
    first ∈ calls ∧ first.artifactId = artifactId :=
  ⟨List.mem_of_find?_eq_some h, by simpa using List.find?_some h⟩

theorem firstCall_eq_none :
    firstCall calls artifactId = none ↔ ∀ call ∈ calls, call.artifactId ≠ artifactId := by
  simp [firstCall, List.find?_eq_none]

theorem exists_firstCall (h : call ∈ calls) (hid : call.artifactId = artifactId) :
    ∃ first, firstCall calls artifactId = some first := by
  rw [← Option.isSome_iff_exists, ← Option.ne_none_iff_isSome]
  exact fun hnone => firstCall_eq_none.mp hnone call h hid

theorem firstCall_concat :
    firstCall (calls ++ [call]) artifactId =
      (firstCall calls artifactId).or (if call.artifactId = artifactId then some call else none) := by
  rw [firstCall, firstCall, List.find?_append]
  congr 1
  by_cases h : call.artifactId = artifactId <;> simp [h]

/-- A call for a known artifact is not the first for any. -/
theorem firstCall_concat_seen (h : firstCall calls call.artifactId = some first) :
    firstCall (calls ++ [call]) artifactId = firstCall calls artifactId := by
  rw [firstCall_concat]
  by_cases hid : call.artifactId = artifactId
  · rw [← hid, h, Option.some_or]
  · rw [if_neg hid, Option.or_none]

theorem firstCall_concat_of_ne (h : call.artifactId ≠ artifactId) :
    firstCall (calls ++ [call]) artifactId = firstCall calls artifactId := by
  rw [firstCall_concat, if_neg h, Option.or_none]

theorem firstCall_concat_new (h : firstCall calls call.artifactId = none) :
    firstCall (calls ++ [call]) call.artifactId = some call := by
  rw [firstCall_concat, h, Option.none_or, if_pos rfl]

end Calls

/-! ## Lineage -/

section Lineage

variable {catalog catalog' : Catalog} {edges edges' : Dict (ArtifactId × ArtifactId) Nat}
  {output input : ArtifactId} {n : Nat}

theorem insertEdge_eq_ok (hord : ∀ edge ∈ edges.entries, edge.1.1 = output → edge.2 < n) :
    insertEdge output edges (input, n) = .ok edges' ↔
      output ≠ input ∧ edges.get? (output, input) = none ∧ edges.set (output, input) n = edges' := by
  have hfree : ¬ ∃ edge ∈ edges.entries, edge.1.1 = output ∧ edge.2 = n := by
    rintro ⟨edge, hmem, hout, hn⟩
    exact absurd (hord edge hmem hout) (by omega)
  rw [insertEdge, check_bind_eq_ok, check_bind_eq_ok, refuseIf_eq_ok, refuseIf_eq_ok,
    Table.insert_eq_ok]
  constructor
  · rintro ⟨hne, -, hrest⟩
    exact ⟨hne, hrest⟩
  · rintro ⟨hne, hrest⟩
    exact ⟨hne, hfree, hrest⟩

/-- The edges to a list of inputs go in exactly when they are distinct, new and none of them goes
back to the output. -/
theorem insertEdges_eq_ok (inputs : List ArtifactId)
    (hord : ∀ edge ∈ edges.entries, edge.1.1 = output → edge.2 < n) :
    (inputs.zipIdx n).foldlM (insertEdge output) edges = .ok edges' ↔
      output ∉ inputs ∧ inputs.Nodup ∧ (∀ input ∈ inputs, edges.get? (output, input) = none) ∧
        edges'.entries = edges.entries ++
          (inputs.zipIdx n).map fun input => ((output, input.1), input.2) := by
  induction inputs generalizing n edges with
  | nil =>
    simp only [List.zipIdx_nil, List.foldlM_nil, List.map_nil, List.append_nil]
    constructor
    · intro h
      cases h
      simp
    · rintro ⟨-, -, -, h⟩
      rw [Dict.ext_entries h]
      rfl
  | cons input rest ih =>
    rw [List.zipIdx_cons, List.foldlM_cons, bind_eq_ok, List.map_cons]
    simp only [insertEdge_eq_ok hord]
    have hset : edges.get? (output, input) = none →
        (edges.set (output, input) n).entries = edges.entries ++ [((output, input), n)] :=
      Dict.entries_set_of_new n
    have hord' : edges.get? (output, input) = none →
        ∀ edge ∈ (edges.set (output, input) n).entries, edge.1.1 = output → edge.2 < n + 1 := by
      intro hnone edge hmem hout
      rw [hset hnone, List.mem_append, List.mem_singleton] at hmem
      rcases hmem with hmem | rfl
      · exact (hord edge hmem hout).trans (Nat.lt_succ_self n)
      · exact Nat.lt_succ_self n
    have hget : ∀ i, i ≠ input →
        (edges.set (output, input) n).get? (output, i) = edges.get? (output, i) :=
      fun i hi => Dict.get?_set_of_ne _ _ fun he => hi (Prod.mk.inj he).2
    constructor
    · rintro ⟨e, ⟨hne, hnone, rfl⟩, h⟩
      obtain ⟨hmem, hnodup, hfree, hentries⟩ := (ih (hord' hnone)).mp h
      have hfresh : input ∉ rest := by
        intro hin
        have := hfree input hin
        rw [Dict.get?_set_self] at this
        exact absurd this (by simp)
      refine ⟨by simpa using ⟨hne, hmem⟩, List.nodup_cons.mpr ⟨hfresh, hnodup⟩, ?_, ?_⟩
      · intro i hi
        rcases List.mem_cons.mp hi with rfl | hi
        · exact hnone
        · rw [← hget i (fun he => hfresh (he ▸ hi))]
          exact hfree i hi
      · rw [hentries, hset hnone, List.append_assoc, List.singleton_append]
    · rintro ⟨hmem, hnodup, hfree, hentries⟩
      obtain ⟨hne, hmem⟩ : output ≠ input ∧ output ∉ rest := by simpa using hmem
      obtain ⟨hfresh, hnodup⟩ := List.nodup_cons.mp hnodup
      have hnone := hfree input List.mem_cons_self
      refine ⟨_, ⟨hne, hnone, rfl⟩, (ih (hord' hnone)).mpr ⟨hmem, hnodup, ?_, ?_⟩⟩
      · intro i hi
        rw [hget i (fun he => hfresh (he ▸ hi))]
        exact hfree i (List.mem_cons_of_mem _ hi)
      · rw [hentries, hset hnone, List.append_assoc, List.singleton_append]

/-- An artifact without edges goes in exactly when it is new and its inputs fit the constraints of
the lineage. -/
theorem insertArtifact_eq_ok {status : ArtifactCatalogStatus} {reason : Option String}
    {nowNs : Nat}
    (hfresh : (catalog.lineageEdges.entries.filter
      fun edge => edge.1.1 = artifact.artifactId) = []) :
    insertArtifact catalog artifact status reason nowNs = .ok catalog' ↔
      catalog.artifactIndex.get? artifact.artifactId = none ∧
      artifact.artifactId ∉ artifact.inputArtifactIds ∧ artifact.inputArtifactIds.Nodup ∧
      ∃ edges : Dict (ArtifactId × ArtifactId) Nat,
        edges.entries = catalog.lineageEdges.entries ++ edgesOf artifact ∧
        { catalog with
          artifactIndex := catalog.artifactIndex.set artifact.artifactId
            { kind := artifact.kind
              manifestDigest := artifact.manifestDigest.hex
              buildKey := artifact.buildKey.hex
              status := status
              statusReason := reason
              indexedAtNs := nowNs
              verifiedAtNs := nowNs }
          lineageEdges := edges } = catalog' := by
  have hnone : ∀ edge ∈ catalog.lineageEdges.entries, edge.1.1 ≠ artifact.artifactId := by
    simpa [List.filter_eq_nil_iff] using hfresh
  have hord : ∀ edge ∈ catalog.lineageEdges.entries, edge.1.1 = artifact.artifactId → edge.2 < 0 :=
    fun edge hmem hout => absurd hout (hnone edge hmem)
  have hget : ∀ input, catalog.lineageEdges.get? (artifact.artifactId, input) = none := by
    intro input
    rw [Dict.get?_eq_none_iff, Dict.keys, List.mem_map]
    rintro ⟨edge, hmem, he⟩
    exact hnone edge hmem (congrArg Prod.fst he)
  rw [insertArtifact, bind_eq_ok]
  simp only [Table.insert_eq_ok, bind_eq_ok, insertEdges_eq_ok artifact.inputArtifactIds hord,
    Except.ok.injEq]
  constructor
  · rintro ⟨index, ⟨hnew, rfl⟩, edges, ⟨hself, hnodup, -, hentries⟩, rfl⟩
    exact ⟨hnew, hself, hnodup, edges, hentries, rfl⟩
  · rintro ⟨hnew, hself, hnodup, edges, hentries, rfl⟩
    exact ⟨_, ⟨hnew, rfl⟩, edges, ⟨hself, hnodup, fun input _ => hget input, hentries⟩, rfl⟩

/-- There is room for the edges of an artifact that has none. -/
theorem exists_edges (hnodup : artifact.inputArtifactIds.Nodup)
    (hfresh : (edges.entries.filter fun edge => edge.1.1 = artifact.artifactId) = []) :
    ∃ edges' : Dict (ArtifactId × ArtifactId) Nat,
      edges'.entries = edges.entries ++ edgesOf artifact := by
  have hkeys : (edgesOf artifact).map Prod.fst =
      artifact.inputArtifactIds.map fun input => (artifact.artifactId, input) := by
    rw [edgesOf, List.map_map, ← List.zipIdx_map_fst 0 artifact.inputArtifactIds, List.map_map,
      List.zipIdx_map_fst]
    rfl
  refine ⟨⟨edges.entries ++ edgesOf artifact, ?_⟩, rfl⟩
  rw [List.map_append, hkeys]
  refine edges.nodup.append (hnodup.map fun _ _ he => (Prod.mk.inj he).2) ?_
  intro key hold hnew
  obtain ⟨edge, hmem, rfl⟩ := List.mem_map.mp hold
  obtain ⟨input, -, he⟩ := List.mem_map.mp hnew
  have hne := List.filter_eq_nil_iff.mp hfresh edge hmem
  exact hne (by simp [← he])

theorem edgesOf_sorted : (edgesOf artifact).Pairwise fun edge edge' => edge.2 ≤ edge'.2 := by
  rw [edgesOf, List.pairwise_map, List.pairwise_iff_getElem]
  intro i j hi hj hij
  simpa using hij.le

/-- The lineage of an artifact whose edges are those to its inputs. -/
theorem lineageRows_eq
    (h : (catalog.lineageEdges.entries.filter fun edge => edge.1.1 = artifact.artifactId) =
      edgesOf artifact) :
    lineageRows catalog artifact.artifactId = artifact.inputArtifactIds := by
  rw [lineageRows, h, edgesOf_sorted.insertionSort_eq, edgesOf, List.map_map]
  exact List.zipIdx_map_fst 0 _

/-- The edges of one artifact more are its own, and the others' stay. -/
theorem filter_append_edgesOf (artifactId : ArtifactId)
    (hentries : edges'.entries = edges.entries ++ edgesOf artifact) :
    (edges'.entries.filter fun edge => edge.1.1 = artifactId) =
      (edges.entries.filter fun edge => edge.1.1 = artifactId) ++
        if artifact.artifactId = artifactId then edgesOf artifact else [] := by
  rw [hentries, List.filter_append]
  congr 1
  split
  · rename_i h
    exact List.filter_eq_self.mpr fun edge hmem => by
      obtain ⟨input, -, rfl⟩ := List.mem_map.mp hmem
      simp [h]
  · rename_i h
    exact List.filter_eq_nil_iff.mpr fun edge hmem => by
      obtain ⟨input, -, rfl⟩ := List.mem_map.mp hmem
      simp [h]

end Lineage

end Artifacts

end OnchainBacktest
