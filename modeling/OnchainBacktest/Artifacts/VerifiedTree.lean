import OnchainBacktest.Artifacts.CommitVerifies

/-!
# What a verified tree says about its place

`verifyCommitted` inverted: `Verified` has every check it makes, and they do not depend on what the
caller expects (`verifyCommitted_eq_ok`).  A tree that verifies has a readable descriptor
(`committedFromDescriptor_of_verified`).

Where no other text has the hash an identity is, and no other file the one of its identity manifest,
a tree that verifies under the identity stands at the one place commit has chosen for it
(`Prepared.place_unique`).
-/

set_option autoImplicit false

namespace OnchainBacktest

namespace Artifacts

open Checked

section

variable [ContentHash]

/-! ## Inversion -/

/-- Every check of the verification of a tree. -/
structure Verified (place : List String) (files : Files) (descriptor : List (String × Document))
    (version : Int) (artifactId : ArtifactId) (fields : DescriptorFields)
    (placement : List (String × Document)) : Prop where
  descriptor_text : files.get? DESCRIPTOR_NAME = some (.json (.object descriptor))
  marker_text : files.get? MARKER_NAME =
    some (.json (.object (markerFields artifactId (.json (.object descriptor)) version)))
  reads_version : descriptorVersion descriptor = .ok version
  reads_id : descriptorId descriptor none = .ok artifactId
  reads_fields : descriptorFields descriptor version = .ok fields
  reads_files : validateDescriptorFiles (descriptor.lookup "files") = .ok ()
  identity : sha256 (identityDomain version)
    (.json (.object (identityFields descriptor version))) = artifactId.hex
  manifest : ∃ content manifest, files.get? MANIFEST_NAME = some content ∧
    fields.manifestDigest.hex = sha256 "" content ∧
    parseJsonObject content "root manifest" = .ok manifest ∧
    placementIdentity version files fields.manifestIdentityDigest manifest = .ok placement
  placed : artifactRelativePath fields.kind artifactId placement = some place
  payload : descriptor.lookup "files" = some (.array (payloadEntries files))

omit [ContentHash] in
theorem readControl_eq_ok {files : Files} {name : String} {content : Content} :
    readControl files name = .ok content ↔ files.get? name = some content := by
  rw [readControl]
  split
  · rename_i h
    simp [h]
  · rename_i h
    simp [h]

omit [ContentHash] in
/-- The identity of a descriptor does not depend on the expected one. -/
theorem descriptorId_eq_ok {descriptor : List (String × Document)} {expectedId : Option ArtifactId}
    {artifactId : ArtifactId} : descriptorId descriptor expectedId = .ok artifactId ↔
      descriptorId descriptor none = .ok artifactId ∧
        ∀ expected ∈ expectedId, expected = artifactId := by
  rw [descriptorId, descriptorId]
  split
  · split
    · simp
    · rename_i digest hdigest
      rw [check_bind_eq_ok, check_bind_eq_ok, check_bind_eq_ok, check_bind_eq_ok]
      constructor
      · rintro ⟨hbare, hexpected, heq⟩
        obtain rfl := Except.ok.inj heq
        refine ⟨⟨hbare, by simp, rfl⟩, fun expected hmem => ?_⟩
        rw [refuseIf_eq_ok] at hexpected
        by_contra hne
        exact hexpected ⟨expected, hmem, fun h => hne (ArtifactId.hex_injective h)⟩
      · rintro ⟨⟨hbare, -, heq⟩, hexpected⟩
        obtain rfl := Except.ok.inj heq
        refine ⟨hbare, ?_, rfl⟩
        rw [refuseIf_eq_ok]
        rintro ⟨expected, hmem, hne⟩
        exact hne (congrArg ArtifactId.hex (hexpected expected hmem))
  · simp

theorem verifyCommitted_eq_ok {place : List String} {files : Files}
    {expectedId : Option ArtifactId} {expectedKind : Option ArtifactKind}
    {descriptor : List (String × Document)} :
    verifyCommitted place files expectedId expectedKind = .ok descriptor ↔
      ∃ version artifactId fields placement,
        Verified place files descriptor version artifactId fields placement ∧
        (∀ expected ∈ expectedId, expected = artifactId) ∧
        ∀ kind ∈ expectedKind, fields.kind = kind := by
  constructor
  · intro h
    rw [verifyCommitted] at h
    obtain ⟨descriptorContent, hdescriptorContent, h⟩ := bind_eq_ok.mp h
    obtain ⟨markerContent, hmarkerContent, h⟩ := bind_eq_ok.mp h
    obtain ⟨manifestContent, hmanifestContent, h⟩ := bind_eq_ok.mp h
    obtain ⟨descriptor', hdescriptor, h⟩ := bind_eq_ok.mp h
    obtain ⟨marker, hmarker, h⟩ := bind_eq_ok.mp h
    obtain ⟨hdescriptorText, h⟩ := check_bind_eq_ok.mp h
    obtain ⟨hmarkerText, h⟩ := check_bind_eq_ok.mp h
    obtain ⟨version, hversion, h⟩ := bind_eq_ok.mp h
    obtain ⟨artifactId, hid, h⟩ := bind_eq_ok.mp h
    obtain ⟨fields, hfields, h⟩ := bind_eq_ok.mp h
    obtain ⟨hfiles, h⟩ := check_bind_eq_ok.mp h
    obtain ⟨hkind, h⟩ := check_bind_eq_ok.mp h
    obtain ⟨hidentity, h⟩ := check_bind_eq_ok.mp h
    obtain ⟨hauthentic, h⟩ := check_bind_eq_ok.mp h
    obtain ⟨hdigest, h⟩ := check_bind_eq_ok.mp h
    obtain ⟨manifest, hmanifest, h⟩ := bind_eq_ok.mp h
    obtain ⟨placement, hplacement, h⟩ := bind_eq_ok.mp h
    rw [readControl_eq_ok] at hdescriptorContent hmarkerContent hmanifestContent
    rw [refuseIf_eq_ok, not_not] at hdescriptorText hmarkerText hidentity hauthentic hdigest
    rw [refuseIf_eq_ok] at hkind
    rw [descriptorId_eq_ok] at hid
    split at h
    · cases h
    · rename_i expected hplaced
      obtain ⟨hplace, h⟩ := check_bind_eq_ok.mp h
      obtain ⟨hpayload, h⟩ := check_bind_eq_ok.mp h
      rw [refuseIf_eq_ok, not_not] at hplace hpayload
      obtain rfl := Except.ok.inj h
      obtain rfl := hplace
      refine ⟨version, artifactId, fields, placement, ⟨?_, ?_, hversion, hid.1, hfields, hfiles,
        hidentity, ⟨manifestContent, manifest, hmanifestContent, hdigest, hmanifest, hplacement⟩,
        hplaced, hpayload⟩, hid.2, fun kind hmem => ?_⟩
      · rw [hdescriptorContent, ← hdescriptorText]
      · rw [hmarkerContent, hmarkerText, hauthentic, ← hdescriptorText]
      · by_contra hne
        exact hkind ⟨kind, hmem, hne⟩
  · rintro ⟨version, artifactId, fields, placement, h, hid, hkind⟩
    obtain ⟨content, manifest, hcontent, hdigest, hmanifest, hplacement⟩ := h.manifest
    have hdescriptor : parseJsonObject (.json (.object descriptor)) "artifact descriptor" =
        .ok descriptor := rfl
    have hmarker : parseJsonObject (.json (.object (markerFields artifactId
        (.json (.object descriptor)) version))) "commit marker" =
        .ok (markerFields artifactId (.json (.object descriptor)) version) := rfl
    rw [verifyCommitted, readControl_eq_ok.mpr h.descriptor_text, ok_bind,
      readControl_eq_ok.mpr h.marker_text, ok_bind, readControl_eq_ok.mpr hcontent, ok_bind,
      hdescriptor, ok_bind, hmarker, ok_bind, refuseIf_of_not (not_not.mpr rfl), ok_bind,
      refuseIf_of_not (not_not.mpr rfl), ok_bind, h.reads_version, ok_bind,
      descriptorId_eq_ok.mpr ⟨h.reads_id, hid⟩, ok_bind, h.reads_fields, ok_bind, h.reads_files,
      ok_bind, refuseIf_of_not, ok_bind, refuseIf_of_not (not_not.mpr h.identity), ok_bind,
      refuseIf_of_not (not_not.mpr rfl), ok_bind, refuseIf_of_not (not_not.mpr hdigest), ok_bind,
      hmanifest, ok_bind, hplacement, ok_bind, h.placed]
    · dsimp only
      rw [refuseIf_of_not (not_not.mpr rfl), ok_bind, refuseIf_of_not (not_not.mpr h.payload),
        ok_bind]
    · rintro ⟨kind, hmem, hne⟩
      exact hne (hkind kind hmem)

/-! ## What can be read from the descriptor -/

omit [ContentHash] in
theorem lookup_filter_key {fields : List (String × Document)} {key : String} {p : String → Bool}
    (h : p key = true) : (fields.filter fun e => p e.1).lookup key = fields.lookup key := by
  induction fields with
  | nil => rfl
  | cons e rest ih =>
    obtain ⟨name, value⟩ := e
    by_cases hname : key = name
    · obtain rfl := hname
      rw [List.filter_cons_of_pos (p := fun e : String × Document => p e.1) h,
        List.lookup_cons_self, List.lookup_cons_self]
    · have hbeq : (key == name) = false := beq_eq_false_iff_ne.mpr hname
      rw [List.lookup_cons, hbeq]
      cases hp : p name with
      | false =>
        rw [List.filter_cons_of_neg (by simp [hp])]
        exact ih
      | true =>
        rw [List.filter_cons_of_pos (p := fun e : String × Document => p e.1) hp,
          List.lookup_cons, hbeq]
        exact ih

omit [ContentHash] in
theorem descriptorFields_eq_ok {descriptor : List (String × Document)} {version : Int}
    {fields : DescriptorFields} (h : descriptorFields descriptor version = .ok fields) :
    readDescriptorFields descriptor version = some fields := by
  rw [descriptorFields] at h
  split at h
  · cases h
  · rename_i read hread
    obtain ⟨-, h⟩ := check_bind_eq_ok.mp h
    obtain ⟨-, h⟩ := check_bind_eq_ok.mp h
    obtain ⟨-, h⟩ := check_bind_eq_ok.mp h
    obtain ⟨-, h⟩ := check_bind_eq_ok.mp h
    rw [hread, Except.ok.inj h]

omit [ContentHash] in
/-- The fields that could be read are those the descriptor has. -/
theorem readDescriptorFields_spec {descriptor : List (String × Document)} {version : Int}
    {fields : DescriptorFields} (h : readDescriptorFields descriptor version = some fields) :
    (descriptor.lookup "kind" >>= readKind) = some fields.kind ∧
    (descriptor.lookup "build_key" >>= readDigest) = some fields.buildKey ∧
    (descriptor.lookup "manifest_sha256" >>= readDigest) = some fields.manifestDigest ∧
    (version = 3 → (descriptor.lookup "manifest_identity_sha256" >>= readDigest) =
      fields.manifestIdentityDigest) ∧
    (descriptor.lookup "input_artifact_ids" >>= readDigests) = some fields.inputIds := by
  rw [readDescriptorFields] at h
  obtain ⟨kind, hkind, h⟩ := Option.bind_eq_some_iff.mp h
  obtain ⟨buildKey, hbuildKey, h⟩ := Option.bind_eq_some_iff.mp h
  obtain ⟨manifestDigest, hmanifestDigest, h⟩ := Option.bind_eq_some_iff.mp h
  obtain ⟨manifestIdentityDigest, hidentity, h⟩ := Option.bind_eq_some_iff.mp h
  obtain ⟨inputIds, hinputIds, h⟩ := Option.bind_eq_some_iff.mp h
  obtain rfl := Option.some.inj h
  refine ⟨hkind, hbuildKey, hmanifestDigest, fun hversion => ?_, hinputIds⟩
  rw [readManifestIdentityDigest, if_pos hversion] at hidentity
  obtain ⟨digest, hdigest, hsome⟩ := Option.map_eq_some_iff.mp hidentity
  rw [hdigest, hsome]

variable {place : List String} {files : Files} {descriptor : List (String × Document)}
  {version : Int} {artifactId : ArtifactId} {fields : DescriptorFields}
  {placement : List (String × Document)}

/-- **The descriptor of a tree that verifies can be read**, as an artifact of its identity and
kind. -/
theorem committedFromDescriptor_of_verified
    (h : Verified place files descriptor version artifactId fields placement) :
    ∃ committed, committedFromDescriptor descriptor = .ok committed ∧
      committed.artifactId = artifactId ∧ committed.kind = fields.kind := by
  obtain ⟨hkind, hbuildKey, hmanifestDigest, -, hinputIds⟩ :=
    readDescriptorFields_spec (descriptorFields_eq_ok h.reads_fields)
  have hid : (descriptor.lookup "artifact_id" >>= readDigest).map (·.hex) =
      some artifactId.hex := by
    have hreads := h.reads_id
    rw [descriptorId] at hreads
    split at hreads
    · rename_i value hvalue
      split at hreads
      · cases hreads
      · rename_i digest hdigest
        obtain ⟨-, hreads⟩ := check_bind_eq_ok.mp hreads
        obtain ⟨-, hreads⟩ := check_bind_eq_ok.mp hreads
        rw [hvalue, Option.bind_eq_bind, Option.bind_some, readDigest, hdigest,
          ← congrArg ArtifactId.hex (Except.ok.inj hreads)]
        rfl
    · cases hreads
  obtain ⟨digest, hdigest, hhex⟩ := Option.map_eq_some_iff.mp hid
  refine ⟨{ artifactId := ⟨digest.hex⟩, kind := fields.kind
            manifestDigest := fields.manifestDigest, buildKey := fields.buildKey
            inputArtifactIds := fields.inputIds.map fun input => ⟨input.hex⟩ }, ?_,
    ArtifactId.hex_injective hhex, rfl⟩
  rw [committedFromDescriptor, hdigest, hkind, hbuildKey, hmanifestDigest, hinputIds]
  rfl

omit [ContentHash] in
theorem descriptorVersion_range (h : descriptorVersion descriptor = .ok version) :
    1 ≤ version ∧ version ≤ 3 := by
  rw [descriptorVersion] at h
  split at h
  · obtain ⟨hrange, h⟩ := check_bind_eq_ok.mp h
    obtain rfl := Except.ok.inj h
    rw [refuseIf_eq_ok] at hrange
    omega
  · cases h

omit [ContentHash] in
/-- The domain of an identity tells the version. -/
theorem identityDomain_injective {version version' : Int} (h : 1 ≤ version ∧ version ≤ 3)
    (h' : 1 ≤ version' ∧ version' ≤ 3) (heq : identityDomain version = identityDomain version') :
    version = version' := by
  have hcases : version = 1 ∨ version = 2 ∨ version = 3 := by omega
  have hcases' : version' = 1 ∨ version' = 2 ∨ version' = 3 := by omega
  rcases hcases with rfl | rfl | rfl <;> rcases hcases' with rfl | rfl | rfl <;>
    first
    | rfl
    | exact absurd heq (by decide)

/-! ## One place -/

/-- No other text has the hash that is the identity of a commit, and no other file the hash of its
identity manifest. -/
structure Collisionless (prepared : PreparedCommit) (identityText : Content) : Prop where
  identity : ∀ domain content, sha256 domain content = prepared.committed.artifactId.hex →
    domain = identityDomain 3 ∧ content = identityText
  manifestIdentity : ∀ content, sha256 "" content = sha256 "" prepared.manifestIdentity →
    content = prepared.manifestIdentity

/-- The text the identity of a commit is the hash of. -/
def PreparedCommit.identityText (prepared : PreparedCommit) (draft : ArtifactDraft)
    (staged : StagedTree) : Content :=
  .json (.object (contentIdentity draft
    (payloadEntries (staged.withManifests prepared.manifest prepared.manifestIdentity))
    prepared.committed.inputArtifactIds prepared.manifestIdentity))

/-- **A tree that verifies under the identity of a commit stands at its place**, and is of its
kind. -/
theorem Prepared.place_unique {draft : ArtifactDraft} {staged : StagedTree}
    {prepared : PreparedCommit} {manifestFields identity : List (String × Document)}
    {inputs : List ArtifactId}
    (hprepared : Prepared draft staged prepared manifestFields identity inputs)
    (hfree : Collisionless prepared (prepared.identityText draft staged))
    (h : Verified place files descriptor version prepared.committed.artifactId fields placement) :
    place = prepared.relativeRoot ∧ fields.kind = draft.kind := by
  obtain ⟨hdomain, htext⟩ := hfree.identity _ _ h.identity
  obtain rfl := identityDomain_injective (descriptorVersion_range h.reads_version) (by omega)
    hdomain
  obtain ⟨hkind, -, -, hdigest, -⟩ :=
    readDescriptorFields_spec (descriptorFields_eq_ok h.reads_fields)
  have hfields : identityFields descriptor 3 = contentIdentity draft
      (payloadEntries (staged.withManifests prepared.manifest prepared.manifestIdentity))
      prepared.committed.inputArtifactIds prepared.manifestIdentity :=
    Document.object.inj (Content.json.inj htext)
  have hlookup : ∀ key, (!(key == "artifact_id" || (key == "build_key" && (3 : Int) != 1) ||
      (key == "manifest_sha256" && (3 : Int) == 3))) = true →
      descriptor.lookup key = (identityFields descriptor 3).lookup key := fun key hkey =>
    (lookup_filter_key (p := fun key => !(key == "artifact_id" ||
      (key == "build_key" && (3 : Int) != 1) || (key == "manifest_sha256" && (3 : Int) == 3)))
      hkey).symm
  have hkindEq : fields.kind = draft.kind := by
    rw [hlookup "kind" (by decide), hfields] at hkind
    have hread : readKind (.text draft.kind.value) = some fields.kind := hkind
    rw [readKind_value] at hread
    exact (Option.some.inj hread).symm
  have hdigestEq : fields.manifestIdentityDigest =
      some { hex := sha256 "" prepared.manifestIdentity } := by
    have hread := hdigest rfl
    rw [hlookup "manifest_identity_sha256" (by decide), hfields] at hread
    have hread : readDigest (.text (hexText (sha256 "" prepared.manifestIdentity))) =
      fields.manifestIdentityDigest := hread
    rw [← hread, readDigest_hexText]
  obtain ⟨content, manifest, -, -, -, hplacement⟩ := h.manifest
  have hplacementEq : placement = identity := by
    rw [placementIdentity, if_pos rfl, verifyManifestIdentity] at hplacement
    split at hplacement
    · cases hplacement
    · rename_i stored hstored
      obtain ⟨found, hfound, hplacement⟩ := bind_eq_ok.mp hplacement
      obtain ⟨hcanonical, hplacement⟩ := check_bind_eq_ok.mp hplacement
      obtain ⟨hhash, hplacement⟩ := check_bind_eq_ok.mp hplacement
      obtain ⟨-, hplacement⟩ := check_bind_eq_ok.mp hplacement
      rw [refuseIf_eq_ok, not_not] at hcanonical hhash
      rw [hdigestEq, Option.map_some, Option.some_inj] at hhash
      have hsame := hfree.manifestIdentity stored hhash.symm
      rw [hcanonical, hprepared.identity_eq] at hsame
      rw [← Except.ok.inj hplacement]
      exact Document.object.inj (Content.json.inj hsame)
  have hplaced := h.placed
  rw [hkindEq, hplacementEq, hprepared.place] at hplaced
  exact ⟨(Option.some.inj hplaced).symm, hkindEq⟩

end

end Artifacts

end OnchainBacktest
