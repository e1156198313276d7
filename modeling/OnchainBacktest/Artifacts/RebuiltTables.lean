import OnchainBacktest.Artifacts.CatalogRebuild
import OnchainBacktest.Artifacts.CatalogSteps

/-!
# What a rebuild writes

A rebuild that returns has written the tables that say of its artifacts, in the order of their
identities, what the tables of as many calls say of theirs: the same `Describes`, with a build key
resolved to the first artifact in that order.
-/

set_option autoImplicit false

namespace OnchainBacktest

namespace Artifacts

open Checked Contest

variable {repository : ArtifactRepository} {artifacts ordered done : List CommittedArtifact}
  {artifact verified : CommittedArtifact} {byId : Dict ArtifactId CommittedArtifact}
  {catalog catalog' : Catalog} {nowNs : Nat}

/-! ## The verified descriptors -/

/-- What has been verified: the descriptor of each artifact, under its identity. -/
structure Collected (repository : ArtifactRepository) (done : List CommittedArtifact)
    (byId : Dict ArtifactId CommittedArtifact) : Prop where
  verified : ∀ id v, byId.get? id = some v →
    v.artifactId = id ∧ ∃ a ∈ done, verifyFilesystem repository a = .ok v
  collected : ∀ a ∈ done, ∃ v, verifyFilesystem repository a = .ok v ∧
    byId.get? v.artifactId = some v

theorem verifyAll_collected (h : verifyAll repository artifacts = .ok byId) :
    Collected repository artifacts byId := by
  have hrun := foldlM_ok (P := fun rest byId => ∃ done, done ++ rest = artifacts ∧
    Collected repository done byId) ?_ artifacts Dict.empty byId ⟨[], rfl, ?_, ?_⟩ h
  · obtain ⟨done, hdone, hcollected⟩ := hrun
    rw [List.append_nil] at hdone
    exact hdone ▸ hcollected
  · rintro a rest s s' ⟨done, hdone, hs⟩ hstep
    obtain ⟨v, hv, hstep⟩ := bind_eq_ok.mp hstep
    refine ⟨done ++ [a], by rw [List.append_assoc, List.singleton_append, hdone], ?_⟩
    have hkeep : ∀ id w, s.get? id = some w →
        w.artifactId = id ∧ ∃ b ∈ done ++ [a], verifyFilesystem repository b = .ok w := by
      intro id w hw
      obtain ⟨hid, b, hb, hbw⟩ := hs.verified id w hw
      exact ⟨hid, b, List.mem_append_left _ hb, hbw⟩
    split at hstep
    · rename_i hnone
      cases hstep
      constructor
      · intro id w hw
        rw [Dict.get?_set] at hw
        split at hw
        · rename_i hid
          cases hw
          exact ⟨hid.symm, a, by simp, hv⟩
        · exact hkeep id w hw
      · intro b hb
        rcases List.mem_append.mp hb with hb | hb
        · obtain ⟨w, hw, hget⟩ := hs.collected b hb
          refine ⟨w, hw, ?_⟩
          rw [Dict.get?_set_of_ne _ _ fun he => ?_]
          · exact hget
          · rw [he, hnone] at hget
            cases hget
        · rw [List.mem_singleton.mp hb]
          exact ⟨v, hv, Dict.get?_set_self _ _ _⟩
    · rename_i previous hprevious
      obtain ⟨hsame, hstep⟩ := check_bind_eq_ok.mp hstep
      cases hstep
      rw [refuseIf_eq_ok, not_not] at hsame
      refine ⟨hkeep, fun b hb => ?_⟩
      rcases List.mem_append.mp hb with hb | hb
      · exact hs.collected b hb
      · rw [List.mem_singleton.mp hb]
        exact ⟨v, hv, hsame ▸ hprevious⟩
  · intro id v hv
    cases hv
  · intro a ha
    cases ha

/-- The descriptors come in the order of their identities. -/
theorem Collected.sorted (h : Collected repository artifacts byId) :
    (((Table.rows byId).map Prod.snd).map fun a => a.artifactId).Pairwise (· < ·) := by
  rw [List.map_map, Table.rows_map_eq (g := id) fun key v hv => (h.verified key v hv).1,
    List.map_id]
  exact Table.keys_sorted

theorem Collected.mem (h : Collected repository artifacts byId) :
    artifact ∈ (Table.rows byId).map Prod.snd ↔
      ∃ a ∈ artifacts, verifyFilesystem repository a = .ok artifact := by
  constructor
  · intro hmem
    obtain ⟨⟨id, v⟩, hrow, rfl⟩ := List.mem_map.mp hmem
    exact (h.verified id v (Table.mem_rows.mp hrow)).2
  · rintro ⟨a, ha, hv⟩
    obtain ⟨w, hw, hget⟩ := h.collected a ha
    rw [hv, Except.ok.injEq] at hw
    exact List.mem_map.mpr ⟨(w.artifactId, w), Table.mem_rows.mpr hget, hw.symm⟩

/-! ## The artifacts of a rebuild as calls -/

/-- The artifacts, all at one time. -/
def callsAt (artifacts : List CommittedArtifact) (nowNs : Nat) : List IndexCall :=
  artifacts.map fun artifact => ⟨artifact, nowNs⟩

theorem bids_callsAt : bids (callsAt artifacts nowNs) =
    artifacts.map fun artifact => (artifact.buildKey.hex, artifact.artifactId) := by
  rw [bids, callsAt, List.map_map]
  rfl

theorem callsAt_concat : callsAt (done ++ [artifact]) nowNs =
    callsAt done nowNs ++ [⟨artifact, nowNs⟩] := List.map_append

variable (nowNs) in
/-- Two artifacts of one build key contest it. -/
theorem conflicts_iff (hsorted : (ordered.map fun a => a.artifactId).Pairwise (· < ·))
    {buildKey : DigestText} :
    conflicts ordered buildKey ↔ Contested (bids (callsAt ordered nowNs)) buildKey := by
  have hnodup : ((byBuildKey ordered buildKey).map fun a => a.artifactId).Nodup :=
    ((hsorted.imp ne_of_lt).sublist (List.filter_sublist.map _))
  rw [conflicts, contested_iff_length hnodup, List.length_map]
  intro i
  rw [bids_callsAt]
  simp [byBuildKey, and_comm, and_left_comm]

/-! ## The rows of the artifacts -/

/-- The tables with the rows of some of the artifacts, before any build key is resolved. -/
structure Built (repository : ArtifactRepository) (ordered : List CommittedArtifact) (nowNs : Nat)
    (start : Catalog) (done : List CommittedArtifact) (catalog : Catalog) : Prop where
  artifacts : ∀ artifactId, catalog.artifactIndex.get? artifactId =
    (firstCall (callsAt done nowNs) artifactId).map fun call =>
      rowOf (conflicts ordered call.buildKey) call
  lineage : ∀ artifactId,
    (catalog.lineageEdges.entries.filter fun edge => edge.1.1 = artifactId) =
      ((firstCall (callsAt done nowNs) artifactId).map fun call => edgesOf call.artifact).getD []
  runs : ∀ artifactId, catalog.runIndex.get? artifactId =
    (firstCall (callsAt done nowNs) artifactId).bind fun call =>
      if call.artifact.kind = .run ∧ ¬ conflicts ordered call.buildKey then
        runOf repository call.artifact
      else none
  fits : ∀ a ∈ done, a.artifactId ∉ a.inputArtifactIds ∧ a.inputArtifactIds.Nodup
  mappings : catalog.buildKeyMapping = Dict.empty
  noConflicts : catalog.artifactBuildConflicts = Dict.empty
  reconciliation : catalog.reconciliationState = start.reconciliationState

/-- The tables that are cleared have the rows of no artifact. -/
theorem built_cleared (start : Catalog) : Built repository ordered nowNs start [] (cleared start) :=
  ⟨fun _ => rfl, fun _ => rfl, fun _ => rfl, fun _ h => absurd h (by simp), rfl, rfl, rfl⟩

theorem insertRunProjection_inv {entry : Option RunIndexEntry}
    (h : insertRunProjection catalog artifact entry = .ok catalog') :
    catalog' = { catalog with
      runIndex := catalog.runIndex.set artifact.artifactId (projectedRow artifact entry)
      runIndexState := catalog.runIndexState.touched } := by
  obtain ⟨-, h⟩ := check_bind_eq_ok.mp h
  obtain ⟨-, h⟩ := check_bind_eq_ok.mp h
  obtain ⟨-, h⟩ := check_bind_eq_ok.mp h
  obtain ⟨runs, hruns, h⟩ := bind_eq_ok.mp h
  obtain ⟨-, rfl⟩ := Table.insert_eq_ok.mp hruns
  cases h
  rfl

theorem firstCall_callsAt_none (hnew : artifact.artifactId ∉ done.map fun a => a.artifactId) :
    firstCall (callsAt done nowNs) artifact.artifactId = none := by
  rw [firstCall_eq_none]
  intro call hcall hid
  obtain ⟨a, ha, rfl⟩ := List.mem_map.mp hcall
  exact hnew (List.mem_map.mpr ⟨a, ha, hid⟩)

theorem insertArtifact_runs {status : ArtifactCatalogStatus} {reason : Option String}
    (h : insertArtifact catalog artifact status reason nowNs = .ok catalog') :
    catalog'.runIndex = catalog.runIndex := by
  obtain ⟨index, -, h⟩ := bind_eq_ok.mp h
  obtain ⟨edges, -, h⟩ := bind_eq_ok.mp h
  cases h
  rfl

/-- The rows of an artifact in the index and in the lineage, beside those of the others. -/
theorem Built.inserted {start : Catalog} {contested : Bool}
    (h : Built repository ordered nowNs start done catalog)
    (hnew : artifact.artifactId ∉ done.map fun a => a.artifactId)
    (hcontested : decide (conflicts ordered artifact.buildKey.hex) = contested)
    (hins : insertArtifact catalog artifact (rowOf contested ⟨artifact, nowNs⟩).status
      (rowOf contested ⟨artifact, nowNs⟩).statusReason nowNs = .ok catalog')
    (runs : Dict ArtifactId RunRow) (state : RunIndexState)
    (hruns : ∀ artifactId, runs.get? artifactId =
      if artifactId = artifact.artifactId then
        if artifact.kind = .run ∧ ¬ conflicts ordered artifact.buildKey.hex then
          runOf repository artifact
        else none
      else catalog.runIndex.get? artifactId) :
    Built repository ordered nowNs start (done ++ [artifact])
      { catalog' with runIndex := runs, runIndexState := state } := by
  have hnone : firstCall (callsAt done nowNs) artifact.artifactId = none :=
    firstCall_callsAt_none hnew
  have hfresh : (catalog.lineageEdges.entries.filter
      fun edge => edge.1.1 = artifact.artifactId) = [] := by
    rw [h.lineage, hnone]
    rfl
  obtain ⟨-, hself, hnodup, edges, hedges, rfl⟩ := (insertArtifact_eq_ok hfresh).mp hins
  have hown : firstCall (callsAt (done ++ [artifact]) nowNs) artifact.artifactId =
      some ⟨artifact, nowNs⟩ := by
    rw [callsAt_concat]
    exact firstCall_concat_new hnone
  have hothers : ∀ artifactId, artifactId ≠ artifact.artifactId →
      firstCall (callsAt (done ++ [artifact]) nowNs) artifactId =
        firstCall (callsAt done nowNs) artifactId := by
    intro artifactId hne
    rw [callsAt_concat]
    exact firstCall_concat_of_ne (Ne.symm hne)
  refine ⟨?_, ?_, ?_, ?_, h.mappings, h.noConflicts, h.reconciliation⟩
  · intro artifactId
    by_cases hid : artifactId = artifact.artifactId
    · subst hid
      rw [hown, Option.map_some]
      refine (Dict.get?_set_self _ _ _).trans (congrArg some ?_)
      rw [← hcontested]
      rfl
    · rw [hothers artifactId hid, ← h.artifacts]
      exact Dict.get?_set_of_ne _ _ hid
  · intro artifactId
    rw [filter_append_edgesOf artifactId hedges, h.lineage]
    by_cases hid : artifact.artifactId = artifactId
    · subst hid
      rw [if_pos rfl, hown, hnone]
      rfl
    · rw [if_neg hid, List.append_nil, hothers artifactId (Ne.symm hid)]
  · intro artifactId
    rw [hruns]
    by_cases hid : artifactId = artifact.artifactId
    · subst hid
      rw [if_pos rfl, hown]
      rfl
    · rw [if_neg hid, h.runs, hothers artifactId hid]
  · intro a ha
    rcases List.mem_append.mp ha with ha | ha
    · exact h.fits a ha
    · rw [List.mem_singleton.mp ha]
      exact ⟨hself, hnodup⟩

/-- One artifact more has its own rows, and leaves those of the others. -/
theorem Built.step {start : Catalog} {entry : Option RunIndexEntry}
    (h : Built repository ordered nowNs start done catalog)
    (hnew : artifact.artifactId ∉ done.map fun a => a.artifactId)
    (hentry : entryOf repository artifact = .ok entry)
    (hstep : rebuildArtifact ordered nowNs catalog (artifact, entry) = .ok catalog') :
    Built repository ordered nowNs start (done ++ [artifact]) catalog' := by
  have hnorun : catalog.runIndex.get? artifact.artifactId = none := by
    rw [h.runs, firstCall_callsAt_none hnew]
    rfl
  rw [rebuildArtifact] at hstep
  split at hstep
  · rename_i hconflicts
    refine h.inserted hnew (decide_eq_true hconflicts) hstep _ _ fun artifactId => ?_
    rw [insertArtifact_runs hstep]
    by_cases hid : artifactId = artifact.artifactId
    · rw [if_pos hid, if_neg fun hcond => hcond.2 hconflicts, hid, hnorun]
    · rw [if_neg hid]
  · rename_i hconflicts
    obtain ⟨inserted, hins, hstep⟩ := bind_eq_ok.mp hstep
    have hruns := insertArtifact_runs hins
    split at hstep
    · rename_i hkind
      rw [insertRunProjection_inv hstep]
      refine h.inserted hnew (decide_eq_false hconflicts) hins _ _ fun artifactId => ?_
      rw [Dict.get?_set, hruns]
      by_cases hid : artifactId = artifact.artifactId
      · rw [if_pos hid, if_pos hid, if_pos ⟨hkind, hconflicts⟩, runOf_eq hentry]
      · rw [if_neg hid, if_neg hid]
    · rename_i hkind
      cases hstep
      refine h.inserted hnew (decide_eq_false hconflicts) hins _ _ fun artifactId => ?_
      rw [hruns]
      by_cases hid : artifactId = artifact.artifactId
      · rw [if_pos hid, if_neg fun hcond => hkind hcond.1, hid, hnorun]
      · rw [if_neg hid]

/-- **The rows of the artifacts.**  The loop over the artifacts writes the rows of all of them. -/
theorem built_all {start : Catalog} {items : List (CommittedArtifact × Option RunIndexEntry)}
    (hitems : ∀ item ∈ items, entryOf repository item.1 = .ok item.2)
    (hnodup : ((items.map Prod.fst).map fun a => a.artifactId).Nodup)
    (hrun : items.foldlM (rebuildArtifact ordered nowNs) (cleared start) = .ok catalog) :
    Built repository ordered nowNs start (items.map Prod.fst) catalog := by
  have hall := foldlM_ok (P := fun rest catalog => ∃ done, done ++ rest = items ∧
    Built repository ordered nowNs start (done.map Prod.fst) catalog) ?_ items _ catalog
    ⟨[], rfl, built_cleared start⟩ hrun
  · obtain ⟨done, hdone, hbuilt⟩ := hall
    rw [List.append_nil] at hdone
    exact hdone ▸ hbuilt
  · rintro item rest s s' ⟨done, hdone, hs⟩ hstep
    refine ⟨done ++ [item], by rw [List.append_assoc, List.singleton_append, hdone], ?_⟩
    rw [List.map_append, List.map_singleton]
    refine hs.step ?_ (hitems item (hdone ▸ by simp)) hstep
    rw [← hdone, List.map_append, List.map_append, List.map_cons, List.map_cons] at hnodup
    exact fun hmem => List.disjoint_of_nodup_append hnodup hmem List.mem_cons_self

/-! ## What the build keys resolve to -/

/-- The tables with some of the build keys resolved. -/
structure Resolved (ordered : List CommittedArtifact) (nowNs : Nat) (base : Catalog)
    (keys : List DigestText) (catalog : Catalog) : Prop where
  artifacts : catalog.artifactIndex = base.artifactIndex
  lineage : catalog.lineageEdges = base.lineageEdges
  runs : catalog.runIndex = base.runIndex
  reconciliation : catalog.reconciliationState = base.reconciliationState
  mappings : ∀ buildKey,
    (catalog.buildKeyMapping.get? buildKey).map (fun row => (row.artifactId, row.status)) =
      if buildKey ∈ keys then
        (owner (bids (callsAt ordered nowNs)) buildKey).map fun artifactId =>
          (artifactId, if conflicts ordered buildKey then .conflict else .verified)
      else none
  conflicting : ∀ buildKey artifactId,
    (catalog.artifactBuildConflicts.get? (toLex (buildKey, artifactId))).isSome ↔
      buildKey ∈ keys ∧ conflicts ordered buildKey ∧
        (buildKey, artifactId) ∈ bids (callsAt ordered nowNs)

/-- The rows of a list of new keys go in beside those that are there. -/
theorem insertAll_isSome {α κ ν ε : Type} [DecidableEq κ] {key : α → κ} {row : ν} {taken : ε}
    (items : List α) {rows rows' : Dict κ ν}
    (h : items.foldlM (fun rows item => Table.insert rows (key item) row taken) rows = .ok rows')
    (k : κ) : (rows'.get? k).isSome ↔ (rows.get? k).isSome ∨ ∃ item ∈ items, key item = k := by
  induction items generalizing rows with
  | nil =>
    cases h
    simp
  | cons item rest ih =>
    rw [List.foldlM_cons] at h
    obtain ⟨inserted, hins, h⟩ := bind_eq_ok.mp h
    obtain ⟨-, rfl⟩ := Table.insert_eq_ok.mp hins
    rw [ih h, Dict.get?_set]
    by_cases hk : k = key item
    · subst hk
      simp
    · rw [if_neg hk]
      simp [Ne.symm hk]

/-- The artifacts of a build key come in order. -/
theorem group_eq (hsorted : (ordered.map fun a => a.artifactId).Pairwise (· < ·))
    (buildKey : DigestText) :
    ((byBuildKey ordered buildKey).insertionSort fun a a' => a.artifactId ≤ a'.artifactId) =
      byBuildKey ordered buildKey := by
  refine List.Pairwise.insertionSort_eq ?_
  exact ((List.pairwise_map.mp hsorted).imp le_of_lt).sublist List.filter_sublist

variable (nowNs) in
theorem head?_byBuildKey (buildKey : DigestText) :
    (byBuildKey ordered buildKey).head?.map (fun a => a.artifactId) =
      owner (bids (callsAt ordered nowNs)) buildKey := by
  rw [byBuildKey, List.head?_filter, bids_callsAt, owner, List.find?_map, Option.map_map]
  rfl

/-- One build key more resolves to the first of its artifacts, and has its conflicts. -/
theorem Resolved.step {base : Catalog} {keys : List DigestText} {buildKey : DigestText}
    (hsorted : (ordered.map fun a => a.artifactId).Pairwise (· < ·))
    (h : Resolved ordered nowNs base keys catalog)
    (hstep : rebuildBuildKey ordered nowNs catalog buildKey = .ok catalog') :
    Resolved ordered nowNs base (keys ++ [buildKey]) catalog' := by
  have hmem : ∀ key, key ∈ keys ++ [buildKey] ↔ key ∈ keys ∨ key = buildKey := by simp
  have hasked : ∀ artifactId, (buildKey, artifactId) ∈ bids (callsAt ordered nowNs) ↔
      ∃ a ∈ byBuildKey ordered buildKey, a.artifactId = artifactId := by
    intro artifactId
    rw [bids_callsAt]
    simp [byBuildKey, and_assoc]
  rw [rebuildBuildKey, group_eq hsorted] at hstep
  dsimp only at hstep
  split at hstep
  · rename_i hgroup
    cases hstep
    have hnone : owner (bids (callsAt ordered nowNs)) buildKey = none := by
      rw [← head?_byBuildKey, hgroup]
      rfl
    have hquiet : ¬ conflicts ordered buildKey := by
      rw [conflicts, hgroup]
      simp
    refine ⟨h.artifacts, h.lineage, h.runs, h.reconciliation, ?_, ?_⟩
    · intro key
      rw [h.mappings]
      by_cases hkey : key = buildKey
      · rw [hkey, hnone]
        simp
      · simp only [hmem, hkey, or_false]
    · intro key artifactId
      rw [h.conflicting]
      by_cases hkey : key = buildKey
      · simp only [hkey, hquiet, false_and, and_false]
      · simp only [hmem, hkey, or_false]
  · rename_i first rest hgroup
    obtain ⟨mapping, hmapping, hstep⟩ := bind_eq_ok.mp hstep
    obtain ⟨hnew, rfl⟩ := Table.insert_eq_ok.mp hmapping
    have howner : owner (bids (callsAt ordered nowNs)) buildKey = some first.artifactId := by
      rw [← head?_byBuildKey, hgroup]
      rfl
    obtain ⟨rows, hrows, hstep⟩ := bind_eq_ok.mp hstep
    cases hstep
    have hconflicting : ∀ key artifactId, (rows.get? (toLex (key, artifactId))).isSome ↔
        (catalog.artifactBuildConflicts.get? (toLex (key, artifactId))).isSome ∨
          key = buildKey ∧ conflicts ordered buildKey ∧
            (buildKey, artifactId) ∈ bids (callsAt ordered nowNs) := by
      intro key artifactId
      rw [rebuildConflicts] at hrows
      by_cases hc : conflicts ordered buildKey
      · rw [if_pos hc, if_pos rfl] at hrows
        have hall : (rows.get? (toLex (key, artifactId))).isSome ↔ _ := insertAll_isSome _ hrows _
        rw [hall, hasked]
        simp only [toLex_inj, Prod.mk.injEq]
        refine or_congr_right ⟨?_, ?_⟩
        · rintro ⟨a, ha, hkey, hid⟩
          exact ⟨hkey.symm, hc, a, ha, hid⟩
        · rintro ⟨hkey, -, a, ha, hid⟩
          exact ⟨a, ha, hkey.symm, hid⟩
      · rw [if_neg hc, if_neg (by decide)] at hrows
        cases hrows
        simp [hc]
    refine ⟨h.artifacts, h.lineage, h.runs, h.reconciliation, ?_, ?_⟩
    · intro key
      by_cases hkey : key = buildKey
      · rw [if_pos ((hmem key).mpr (.inr hkey)), hkey, howner, Dict.get?_set_self]
        rfl
      · rw [Dict.get?_set_of_ne _ _ hkey, h.mappings]
        simp only [hmem, hkey, or_false]
    · intro key artifactId
      rw [hconflicting, h.conflicting]
      by_cases hkey : key = buildKey
      · subst hkey
        simp only [hmem, true_and, or_true]
        exact or_iff_right_of_imp fun hold => hold.2
      · simp only [hmem, hkey, false_and, or_false]

theorem mem_buildKeys {buildKey : DigestText} :
    buildKey ∈ buildKeys ordered ↔ ∃ a ∈ ordered, a.buildKey.hex = buildKey := by
  rw [buildKeys, List.mem_insertionSort, List.mem_dedup, List.mem_map]

/-- **The build keys.**  The loop over the build keys resolves all of them. -/
theorem resolved_all {start base : Catalog}
    (hsorted : (ordered.map fun a => a.artifactId).Pairwise (· < ·))
    (hbuilt : Built repository ordered nowNs start ordered base)
    (hrun : (buildKeys ordered).foldlM (rebuildBuildKey ordered nowNs) base = .ok catalog) :
    Resolved ordered nowNs base (buildKeys ordered) catalog := by
  have hstart : Resolved ordered nowNs base [] base := by
    refine ⟨rfl, rfl, rfl, rfl, fun buildKey => ?_, fun buildKey artifactId => ?_⟩
    · rw [hbuilt.mappings]
      rfl
    · rw [hbuilt.noConflicts]
      simp
  have hall := foldlM_ok (P := fun rest catalog => ∃ done, done ++ rest = buildKeys ordered ∧
    Resolved ordered nowNs base done catalog) ?_ _ base catalog ⟨[], rfl, hstart⟩ hrun
  · obtain ⟨done, hdone, hresolved⟩ := hall
    rw [List.append_nil] at hdone
    exact hdone ▸ hresolved
  · rintro buildKey rest s s' ⟨done, hdone, hs⟩ hstep
    exact ⟨done ++ [buildKey], by rw [List.append_assoc, List.singleton_append, hdone],
      hs.step hsorted hstep⟩

/-! ## The whole rebuild -/

/-- With all the artifacts and all the build keys in, the tables say what they should. -/
theorem Resolved.describes {start base : Catalog}
    (hsorted : (ordered.map fun a => a.artifactId).Pairwise (· < ·))
    (hbuilt : Built repository ordered nowNs start ordered base)
    (h : Resolved ordered nowNs base (buildKeys ordered) catalog) :
    Describes repository (callsAt ordered nowNs) catalog := by
  have hall : ∀ buildKey artifactId, (buildKey, artifactId) ∈ bids (callsAt ordered nowNs) →
      buildKey ∈ buildKeys ordered := by
    intro buildKey artifactId hmem
    rw [bids_callsAt] at hmem
    obtain ⟨a, ha, he⟩ := List.mem_map.mp hmem
    exact mem_buildKeys.mpr ⟨a, ha, (Prod.mk.inj he).1⟩
  refine ⟨?_, ?_, ?_, ?_, ?_⟩
  · intro artifactId
    rw [h.artifacts, hbuilt.artifacts]
    simp only [conflicts_iff nowNs hsorted]
  · intro buildKey
    rw [h.mappings]
    by_cases hkey : buildKey ∈ buildKeys ordered
    · rw [if_pos hkey]
      simp only [conflicts_iff nowNs hsorted]
    · rw [if_neg hkey, owner_eq_none.mpr fun i hi => hkey (hall _ _ hi)]
      rfl
  · intro buildKey artifactId
    rw [h.conflicting, conflicts_iff nowNs hsorted]
    exact ⟨fun hc => hc.2, fun hc => ⟨hall _ _ hc.2, hc⟩⟩
  · intro artifactId
    rw [h.lineage, hbuilt.lineage]
  · intro artifactId
    rw [h.runs, hbuilt.runs]
    simp only [conflicts_iff nowNs hsorted]

/-- **A rebuild.**  A rebuild that returns was given artifacts that can all be indexed, and its
tables say of them, in the order of their identities, what the tables of calls do. -/
theorem rebuildIndex_describes {start rebuilt : Catalog} {report : CatalogRebuildReport}
    (h : rebuildIndex repository start artifacts nowNs = .ok (rebuilt, report)) :
    ∃ ordered : List CommittedArtifact,
      (ordered.map fun a => a.artifactId).Pairwise (· < ·) ∧
      (∀ v, v ∈ ordered ↔ ∃ a ∈ artifacts, verifyFilesystem repository a = .ok v) ∧
      (∀ a ∈ artifacts, Indexable repository a) ∧
      Describes repository (callsAt ordered nowNs) rebuilt := by
  obtain ⟨byId, hverify, h⟩ := bind_eq_ok.mp h
  dsimp only at h
  obtain ⟨items, hitems, h⟩ := bind_eq_ok.mp h
  obtain ⟨base, hbase, h⟩ := bind_eq_ok.mp h
  obtain ⟨resolved, hresolved, h⟩ := bind_eq_ok.mp h
  obtain ⟨marked, hmarked, h⟩ := bind_eq_ok.mp h
  cases h
  have hcollected := verifyAll_collected hverify
  have hsorted := hcollected.sorted
  have hfst : items.map Prod.fst = (Table.rows byId).map Prod.snd := by
    have hpaired := (mapM_eq_ok hitems).imp (S := fun a item => item.1 = a) ?_
    · rw [← List.forall₂_eq_eq_eq, List.forall₂_map_left_iff]
      exact hpaired.flip
    · intro a item ha
      obtain ⟨entry, -, rfl⟩ := map_eq_ok.mp ha
      rfl
  have hentries : ∀ item ∈ items, entryOf repository item.1 = .ok item.2 := by
    intro item hitem
    obtain ⟨a, -, ha⟩ := exists_of_mem_mapM hitems hitem
    obtain ⟨entry, hentry, rfl⟩ := map_eq_ok.mp ha
    exact hentry
  have hbuilt := built_all hentries (by rw [hfst]; exact hsorted.imp ne_of_lt) hbase
  rw [hfst] at hbuilt
  have hdescribes := (resolved_all hsorted hbuilt hresolved).describes hsorted hbuilt
  obtain ⟨-, hmarked⟩ := check_bind_eq_ok.mp hmarked
  cases hmarked
  refine ⟨_, hsorted, fun v => hcollected.mem, fun a ha => ?_,
    ⟨hdescribes.artifacts, hdescribes.mappings, hdescribes.conflicts, hdescribes.lineage,
      hdescribes.runs⟩⟩
  obtain ⟨v, hv, hget⟩ := hcollected.collected a ha
  have hmem : v ∈ (Table.rows byId).map Prod.snd := hcollected.mem.mpr ⟨a, ha, hv⟩
  have hsame := (verifyFilesystem_eq_ok hv).2
  obtain ⟨item, hitem, rfl⟩ := List.mem_map.mp (hfst ▸ hmem)
  obtain ⟨hself, hnodup⟩ := hbuilt.fits _ hmem
  exact ⟨⟨_, hv⟩, ⟨item.2, (entryOf_congr hsame) ▸ hentries item hitem⟩,
    by rw [← hsame.1, ← hsame.2.2.2.2]; exact hself, by rw [← hsame.2.2.2.2]; exact hnodup⟩

end Artifacts

end OnchainBacktest
