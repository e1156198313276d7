import OnchainBacktest.Artifacts.Publication

/-!
# What commit writes is what the verification accepts

The tree of a prepared commit, once its marker is in place, passes every check of
`verifyCommitted`, and the descriptor that is read back is the one commit returns
(`verifyCommitted_final`).
-/

set_option autoImplicit false

namespace OnchainBacktest

namespace Artifacts

open Checked

/-! ## Payload paths -/

theorem splitSlash_ne_nil (cs : List Char) : splitSlash cs ≠ [] := by
  cases cs with
  | nil => simp [splitSlash]
  | cons c rest =>
    rw [splitSlash]
    split
    · exact List.cons_ne_nil _ _
    · split
      · exact List.cons_ne_nil _ _
      · exact List.cons_ne_nil _ _

/-- Text without a slash stands at the front of the first piece. -/
theorem splitSlash_append (front : List Char) (h : '/' ∉ front) (rest : List Char) :
    ∃ piece pieces, splitSlash (front ++ rest) = (front ++ piece) :: pieces := by
  induction front with
  | nil =>
    cases hsplit : splitSlash rest with
    | nil => exact absurd hsplit (splitSlash_ne_nil rest)
    | cons piece pieces => exact ⟨piece, pieces, hsplit⟩
  | cons c front ih =>
    rw [List.mem_cons, not_or] at h
    obtain ⟨piece, pieces, hsplit⟩ := ih h.2
    refine ⟨piece, pieces, ?_⟩
    rw [List.cons_append, splitSlash, if_neg (Ne.symm h.1), hsplit]
    rfl

/-- A name with the prefix of a temporary marker is no payload path. -/
theorem not_isPayloadPath_temporary (writer : Writer) :
    ¬ IsPayloadPath writer.temporaryMarker := by
  obtain ⟨piece, pieces, hsplit⟩ :=
    splitSlash_append TEMPORARY_MARKER_PREFIX.toList (by decide) writer.nonce.toList
  have hparts : ∃ parts, posixParts writer.temporaryMarker =
      String.ofList (TEMPORARY_MARKER_PREFIX.toList ++ piece) :: parts := by
    rw [posixParts, Writer.temporaryMarker, String.toList_append, hsplit,
      List.filter_cons_of_pos (by simp [TEMPORARY_MARKER_PREFIX]), List.map_cons]
    exact ⟨_, rfl⟩
  obtain ⟨parts, hparts⟩ := hparts
  have hnone : safeRelativeParts writer.temporaryMarker = none := by
    rw [safeRelativeParts]
    split
    · rfl
    · split
      · rfl
      · rw [if_pos]
        rw [hparts, List.head?_cons, Option.any_some, String.toList_ofList, Bool.or_eq_true]
        exact .inr (List.isPrefixOf_iff_prefix.mpr (List.prefix_append _ _))
  rw [IsPayloadPath, hnone]
  exact fun h => by cases h

theorem not_isPayloadPath_reserved {name : String} (h : name ∈ RESERVED_NAMES) :
    ¬ IsPayloadPath name := by
  have hall : RESERVED_NAMES.all (fun name => !decide (IsPayloadPath name)) = true := by
    decide
  simpa using List.all_eq_true.mp hall name h

theorem temporaryMarker_ne {writer : Writer} {name : String} (h : name ∈ RESERVED_NAMES) :
    writer.temporaryMarker ≠ name := by
  intro heq
  have hhead : writer.temporaryMarker.toList.head? = some '.' := by
    rw [Writer.temporaryMarker, String.toList_append]
    rfl
  have hall : RESERVED_NAMES.all (fun name => name.toList.head? != some '.') = true := by
    decide
  have hname := List.all_eq_true.mp hall name h
  rw [← heq, hhead] at hname
  cases hname

section

variable [ContentHash]

/-! ## The entries of the payload -/

theorem payloadEntries_set {files : Files} {name : String} (content : Content)
    (h : name ∈ RESERVED_NAMES) : payloadEntries (files.set name content) = payloadEntries files := by
  rw [payloadEntries, payloadEntries]
  have hfilter := Dict.filter_entries_set (d := files) content
    (p := fun name => decide (name ∉ RESERVED_NAMES)) (k := name) (by simpa using h)
  rw [hfilter]

/-- The payload entries of a tree are those of its unreserved files, in the order of their
paths. -/
theorem payloadEntries_eq (files : Files) : ∃ entries : List (String × Content),
    payloadEntries files = entries.map (fun e => .object
      [("path", .text e.1), ("sha256", .text (hexText (sha256 "" e.2))),
        ("size", .integer (ContentHash.size e.2))]) ∧
    (entries.map Prod.fst).Pairwise (· < ·) ∧
    ∀ e ∈ entries, e.1 ∈ files.keys ∧ e.1 ∉ RESERVED_NAMES := by
  refine ⟨_, rfl, ?_, ?_⟩
  · have hnodup : (((files.entries.filter fun e => ¬ e.1 ∈ RESERVED_NAMES).insertionSort
        fun a b => a.1 ≤ b.1).map Prod.fst).Nodup :=
      ((List.perm_insertionSort _ _).map Prod.fst).nodup_iff.mpr
        (files.nodup.sublist (List.filter_sublist.map Prod.fst))
    have hsorted : ((files.entries.filter fun e => ¬ e.1 ∈ RESERVED_NAMES).insertionSort
        fun a b => a.1 ≤ b.1).Pairwise fun a b => a.1 ≤ b.1 := List.pairwise_insertionSort _ _
    exact ((List.pairwise_map.mpr hsorted).and hnodup).imp fun h => lt_of_le_of_ne h.1 h.2
  · intro e he
    rw [List.mem_insertionSort, List.mem_filter] at he
    exact ⟨List.mem_map_of_mem he.1, by simpa using he.2⟩

omit [ContentHash] in
theorem descriptorFile_entry {path : String} (h : IsPayloadPath path) (digest : Fin (2 ^ 256))
    (size : Nat) : descriptorFile (.object
      [("path", .text path), ("sha256", .text (hexText digest)), ("size", .integer size)])
        = .ok path := by
  obtain ⟨parts, hparts, hjoin⟩ := Option.map_eq_some_iff.mp h
  rw [descriptorFile]
  rw [hparts, readDigest_hexText]
  dsimp only
  rw [refuseIf_of_not (not_not.mpr hjoin), ok_bind, refuseIf_of_not (by simp), ok_bind,
    refuseIf_of_not (not_lt.mpr (Int.natCast_nonneg size)), ok_bind]

/-- The files of a tree of payload paths pass the checks of a descriptor. -/
theorem validateDescriptorFiles_payloadEntries {files : Files}
    (h : ∀ path ∈ files.keys, path ∈ RESERVED_NAMES ∨ IsPayloadPath path) :
    validateDescriptorFiles (some (.array (payloadEntries files))) = .ok () := by
  obtain ⟨entries, hentries, hsorted, hpaths⟩ := payloadEntries_eq files
  have hread : (payloadEntries files).mapM descriptorFile = .ok (entries.map Prod.fst) := by
    rw [hentries, List.mapM_map]
    refine mapM_eq_ok_of_forall fun e he => ?_
    obtain ⟨hkey, hunreserved⟩ := hpaths e he
    exact descriptorFile_entry ((h e.1 hkey).resolve_left hunreserved) _ _
  rw [validateDescriptorFiles]
  rw [hread, ok_bind, refuseIf_of_not (not_not.mpr hsorted)]

/-! ## The final tree -/

/-- The staging directory with all its control files. -/
def StagedTree.withControls (staged : StagedTree) (prepared : PreparedCommit) : Files :=
  (staged.withManifests prepared.manifest prepared.manifestIdentity).set DESCRIPTOR_NAME
    prepared.descriptor

/-- The tree of a commit once its marker is in place. -/
def StagedTree.final (staged : StagedTree) (prepared : PreparedCommit) : Files :=
  (staged.withControls prepared).set MARKER_NAME prepared.marker

/-- The descriptor of a prepared commit. -/
def PreparedCommit.written (prepared : PreparedCommit) (draft : ArtifactDraft) (staged : StagedTree)
    (inputs : List ArtifactId) : List (String × Document) :=
  descriptorOf draft prepared.committed.artifactId
    (payloadEntries (staged.withManifests prepared.manifest prepared.manifestIdentity)) inputs
    prepared.manifest prepared.manifestIdentity

/-- What a commit has prepared, with every check it made. -/
structure Prepared (draft : ArtifactDraft) (staged : StagedTree) (prepared : PreparedCommit)
    (manifestFields identity : List (String × Document)) (inputs : List ArtifactId) : Prop where
  manifest : parseJsonObject prepared.manifest "root manifest" = .ok manifestFields
  identity_eq : prepared.manifestIdentity = .json (.object identity)
  projects : isJsonProjection (.object identity) (.object manifestFields) = true
  sorted : inputs.Pairwise (· < ·)
  artifactId : prepared.committed.artifactId = ⟨sha256 (identityDomain 3) (.json (.object
    (contentIdentity draft
      (payloadEntries (staged.withManifests prepared.manifest prepared.manifestIdentity)) inputs
      prepared.manifestIdentity)))⟩
  descriptor : prepared.descriptor = .json (.object (prepared.written draft staged inputs))
  place : artifactRelativePath draft.kind prepared.committed.artifactId identity =
    some prepared.relativeRoot
  committed : prepared.committed =
    { artifactId := prepared.committed.artifactId, kind := draft.kind
      manifestDigest := { hex := sha256 "" prepared.manifest }
      buildKey := { hex := draft.buildKey.hex }, inputArtifactIds := inputs }

theorem prepareCommit_spec {draft : ArtifactDraft} {staged : StagedTree} {manifest : Content}
    {identityManifest : Option Content} {prepared : PreparedCommit}
    (h : prepareCommit draft staged manifest identityManifest = .ok prepared) :
    ∃ manifestFields identity inputs,
      Prepared draft staged prepared manifestFields identity inputs := by
  rw [prepareCommit] at h
  obtain ⟨manifestFields, hmanifest, h⟩ := bind_eq_ok.mp h
  dsimp only at h
  obtain ⟨identity, hidentity, h⟩ := bind_eq_ok.mp h
  obtain ⟨hcanonical, h⟩ := check_bind_eq_ok.mp h
  obtain ⟨hprojects, h⟩ := check_bind_eq_ok.mp h
  obtain ⟨hnodup, h⟩ := check_bind_eq_ok.mp h
  rw [refuseIf_eq_ok, not_not] at hcanonical
  rw [refuseIf_eq_ok, Bool.not_eq_false] at hprojects
  rw [refuseIf_eq_ok, not_not] at hnodup
  split at h
  · cases h
  · rename_i relativeRoot hplace
    obtain rfl := Except.ok.inj h
    have hsorted : (draft.inputArtifactIds.insertionSort (· ≤ ·)).Pairwise (· ≤ ·) :=
      List.pairwise_insertionSort _ _
    exact ⟨manifestFields, identity, _, hmanifest, hcanonical, hprojects,
      (hsorted.and hnodup).imp fun h => lt_of_le_of_ne h.1 h.2, rfl, rfl, hplace, rfl⟩

/-! ## The verification -/

theorem payloadEntries_final (staged : StagedTree) (prepared : PreparedCommit) :
    payloadEntries (staged.final prepared) =
      payloadEntries (staged.withManifests prepared.manifest prepared.manifestIdentity) := by
  rw [StagedTree.final, StagedTree.withControls, payloadEntries_set _ (by decide),
    payloadEntries_set _ (by decide)]

/-- Each file of a finished tree has a reserved name or a payload path. -/
theorem keys_final {staged : StagedTree} {prepared : PreparedCommit} {path : String}
    (h : path ∈ (staged.final prepared).keys) : path ∈ RESERVED_NAMES ∨ IsPayloadPath path := by
  rw [StagedTree.final, StagedTree.withControls, StagedTree.withManifests, Dict.mem_keys_set,
    Dict.mem_keys_set, Dict.mem_keys_set, Dict.mem_keys_set] at h
  rcases h with rfl | rfl | rfl | rfl | h
  · exact .inl (by decide)
  · exact .inl (by decide)
  · exact .inl (by decide)
  · exact .inl (by decide)
  · exact .inr (staged.payload_paths path h)

omit [ContentHash] in
/-- The digests of a list of inputs, as they are read back. -/
theorem readDigests_inputs (inputs : List ArtifactId) :
    readDigests (.array (inputs.map fun input => .text (hexText input.hex))) =
      some (inputs.map fun input => { hex := input.hex }) := by
  rw [readDigests]
  induction inputs with
  | nil => rfl
  | cons input rest ih =>
    rw [List.map_cons, List.mapM_cons, readDigest_hexText, ih]
    rfl

section

variable {draft : ArtifactDraft} {staged : StagedTree} {prepared : PreparedCommit}
  {manifestFields identity : List (String × Document)} {inputs : List ArtifactId}

/-- The fields of a descriptor that commit wrote, as they are read back. -/
theorem descriptorFields_descriptorOf (hsorted : inputs.Pairwise (· < ·)) (artifactId : ArtifactId)
    (files : List Document) (manifest manifestIdentity : Content) :
    descriptorFields (descriptorOf draft artifactId files inputs manifest manifestIdentity) 3 =
      .ok
        { kind := draft.kind, buildKey := { hex := draft.buildKey.hex }
          manifestDigest := { hex := sha256 "" manifest }
          manifestIdentityDigest := some { hex := sha256 "" manifestIdentity }
          inputIds := inputs.map fun input => { hex := input.hex } } := by
  have hread : readDescriptorFields
      (descriptorOf draft artifactId files inputs manifest manifestIdentity) 3 = some
        { kind := draft.kind, buildKey := { hex := draft.buildKey.hex }
          manifestDigest := { hex := sha256 "" manifest }
          manifestIdentityDigest := some { hex := sha256 "" manifestIdentity }
          inputIds := inputs.map fun input => { hex := input.hex } } := by
    have hkind : List.lookup "kind"
        (descriptorOf draft artifactId files inputs manifest manifestIdentity) =
        some (.text draft.kind.value) := rfl
    have hbuild : List.lookup "build_key"
        (descriptorOf draft artifactId files inputs manifest manifestIdentity) =
        some (.text (hexText draft.buildKey.hex)) := rfl
    have hmanifest : List.lookup "manifest_sha256"
        (descriptorOf draft artifactId files inputs manifest manifestIdentity) =
        some (.text (hexText (sha256 "" manifest))) := rfl
    have hidentity : List.lookup "manifest_identity_sha256"
        (descriptorOf draft artifactId files inputs manifest manifestIdentity) =
        some (.text (hexText (sha256 "" manifestIdentity))) := rfl
    have hinputs : List.lookup "input_artifact_ids"
        (descriptorOf draft artifactId files inputs manifest manifestIdentity) =
        some (.array (inputs.map fun input => .text (hexText input.hex))) := rfl
    rw [readDescriptorFields, readManifestIdentityDigest, hkind, hbuild, hmanifest, hidentity,
      hinputs]
    simp only [Option.bind_eq_bind, Option.bind_some, readKind_value, readDigest_hexText,
      readDigests_inputs, if_true, Option.map_eq_map, Option.map_some]
  rw [descriptorFields, hread]
  dsimp only
  rw [refuseIf_of_not (by simp), ok_bind, refuseIf_of_not (by simp), ok_bind,
    refuseIf_of_not (by simp), ok_bind, refuseIf_of_not, ok_bind]
  rw [not_not, List.map_map, List.pairwise_map]
  exact hsorted

theorem descriptorId_written (expectedId : Option ArtifactId)
    (h : ∀ expected ∈ expectedId, expected = prepared.committed.artifactId) :
    descriptorId (prepared.written draft staged inputs) expectedId =
      .ok prepared.committed.artifactId := by
  have hlookup : List.lookup "artifact_id" (prepared.written draft staged inputs) =
      some (.text (hexText prepared.committed.artifactId.hex)) := rfl
  rw [descriptorId, hlookup]
  dsimp only
  rw [hexText, ContentDigest.make_spelling]
  dsimp only
  rw [refuseIf_of_not (by simp [ContentDigest.bare]), ok_bind, refuseIf_of_not, ok_bind]
  · rfl
  · rintro ⟨expected, hexpected, hne⟩
    exact hne (congrArg ArtifactId.hex (h expected hexpected))

/-- **The tree of a commit, once its marker is in place, verifies**, and the descriptor read from it
is the one commit wrote. -/
theorem verifyCommitted_final
    (h : Prepared draft staged prepared manifestFields identity inputs)
    (expectedId : Option ArtifactId)
    (hexpected : ∀ expected ∈ expectedId, expected = prepared.committed.artifactId) :
    verifyCommitted prepared.relativeRoot (staged.final prepared) expectedId (some draft.kind) =
      .ok (prepared.written draft staged inputs) := by
  have hmarker : (staged.final prepared).get? MARKER_NAME = some prepared.marker :=
    Dict.get?_set_self _ _ _
  have hdescriptor : (staged.final prepared).get? DESCRIPTOR_NAME = some prepared.descriptor := by
    rw [StagedTree.final, Dict.get?_set_of_ne _ _ (by decide), StagedTree.withControls,
      Dict.get?_set_self]
  have hidentity : (staged.final prepared).get? IDENTITY_MANIFEST_NAME =
      some prepared.manifestIdentity := by
    rw [StagedTree.final, Dict.get?_set_of_ne _ _ (by decide), StagedTree.withControls,
      Dict.get?_set_of_ne _ _ (by decide), StagedTree.withManifests, Dict.get?_set_self]
  have hmanifest : (staged.final prepared).get? MANIFEST_NAME = some prepared.manifest := by
    rw [StagedTree.final, Dict.get?_set_of_ne _ _ (by decide), StagedTree.withControls,
      Dict.get?_set_of_ne _ _ (by decide), StagedTree.withManifests,
      Dict.get?_set_of_ne _ _ (by decide), Dict.get?_set_self]
  have hfiles : validateDescriptorFiles (some (.array (payloadEntries (staged.final prepared)))) =
      .ok () := validateDescriptorFiles_payloadEntries fun _ => keys_final
  have hhash : sha256 (identityDomain 3) (.json (.object
      (identityFields (prepared.written draft staged inputs) 3))) =
      prepared.committed.artifactId.hex := (congrArg ArtifactId.hex h.artifactId).symm
  have hplace : verifyManifestIdentity (staged.final prepared)
      (some { hex := sha256 "" prepared.manifestIdentity }) manifestFields = .ok identity := by
    have hparse : parseJsonObject prepared.manifestIdentity "manifest identity" = .ok identity := by
      rw [h.identity_eq]
      rfl
    rw [verifyManifestIdentity, hidentity]
    dsimp only
    rw [hparse, ok_bind, refuseIf_of_not (not_not.mpr h.identity_eq), ok_bind,
      refuseIf_of_not (by simp), ok_bind, refuseIf_of_not (by simp [h.projects]), ok_bind]
  have hreadDescriptor : parseJsonObject prepared.descriptor "artifact descriptor" =
      .ok (prepared.written draft staged inputs) := by
    rw [h.descriptor]
    rfl
  have hreadMarker : parseJsonObject prepared.marker "commit marker" =
      .ok (markerFields prepared.committed.artifactId prepared.descriptor 3) := rfl
  have hmarkerText : prepared.marker =
      .json (.object (markerFields prepared.committed.artifactId prepared.descriptor 3)) := rfl
  have hversion : descriptorVersion (prepared.written draft staged inputs) = .ok 3 := rfl
  have hlookupFiles : List.lookup "files" (prepared.written draft staged inputs) =
      some (.array (payloadEntries (staged.final prepared))) := by
    rw [payloadEntries_final]
    rfl
  have hfields : descriptorFields (prepared.written draft staged inputs) 3 = _ :=
    descriptorFields_descriptorOf h.sorted _ _ _ _
  rw [verifyCommitted, readControl, hdescriptor, readControl, hmarker, readControl, hmanifest]
  simp only [ok_bind]
  rw [hreadDescriptor, hreadMarker]
  simp only [ok_bind]
  rw [refuseIf_of_not (not_not.mpr h.descriptor), ok_bind,
    refuseIf_of_not (not_not.mpr hmarkerText), ok_bind, hversion, ok_bind,
    descriptorId_written expectedId hexpected, ok_bind, hfields, ok_bind, hlookupFiles, hfiles,
    ok_bind, refuseIf_of_not (by simp), ok_bind, refuseIf_of_not (not_not.mpr hhash), ok_bind,
    refuseIf_of_not (not_not.mpr rfl), ok_bind, refuseIf_of_not (not_not.mpr rfl), ok_bind,
    h.manifest, ok_bind, placementIdentity, if_pos rfl, hplace, ok_bind, h.place]
  dsimp only
  rw [refuseIf_of_not (not_not.mpr rfl), ok_bind, refuseIf_of_not (not_not.mpr rfl), ok_bind]

/-- The handle on what commit wrote is the one commit returns. -/
theorem committedFromDescriptor_written
    (h : Prepared draft staged prepared manifestFields identity inputs) :
    committedFromDescriptor (prepared.written draft staged inputs) = .ok prepared.committed := by
  have hid : List.lookup "artifact_id" (prepared.written draft staged inputs) =
      some (.text (hexText prepared.committed.artifactId.hex)) := rfl
  have hkind : List.lookup "kind" (prepared.written draft staged inputs) =
      some (.text draft.kind.value) := rfl
  have hbuild : List.lookup "build_key" (prepared.written draft staged inputs) =
      some (.text (hexText draft.buildKey.hex)) := rfl
  have hmanifest : List.lookup "manifest_sha256" (prepared.written draft staged inputs) =
      some (.text (hexText (sha256 "" prepared.manifest))) := rfl
  have hinputs : List.lookup "input_artifact_ids" (prepared.written draft staged inputs) =
      some (.array (inputs.map fun input => .text (hexText input.hex))) := rfl
  rw [committedFromDescriptor, hid, hkind, hbuild, hmanifest, hinputs, h.committed]
  simp [readDigests_inputs, Function.comp_def]

end

end

end Artifacts

end OnchainBacktest
