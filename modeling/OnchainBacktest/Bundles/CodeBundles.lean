import Mathlib.Data.String.Basic
import OnchainBacktest.Domain.Identifiers
import OnchainBacktest.Lib.CycleSearch

/-!
# Closures of code bundles

A code bundle is source code with an identity: the manifest of a bundle has the digest of its files
and names the bundles it depends on directly, each with its role, identity and API version.  A
closure of bundles holds every bundle its bundles depend on, and nothing in it depends on itself.

`ExactCodeBundleClosure.postInit` checks this: the order of the manifests, the dependencies of each
one, and then depth first for a cycle.  It comes to one outcome on any list of manifests, given
room for as many nested calls as there are manifests and one more, and passes exactly the
closures (`postInit_outcome`).
-/

set_option autoImplicit false

namespace OnchainBacktest

namespace Bundles

open Checked Relation

/-! ## Manifests -/

/-- A package-relative file and its exact bytes. -/
structure CodeSourceFile where
  path : String
  sha256 : ContentDigest
  sizeBytes : Nat
  deriving DecidableEq

/-- A direct dependency of a bundle. -/
structure CodeBundleDependency where
  role : String
  bundleId : ContentDigest
  apiVersion : Int
  deriving DecidableEq

structure ExactCodeBundleManifest where
  bundleId : ContentDigest
  role : String
  apiVersion : Int
  packageName : String
  contractDigest : ContentDigest
  codeDigest : ContentDigest
  sourceFiles : List CodeSourceFile
  directDependencies : List CodeBundleDependency
  deriving DecidableEq

/-- What checking a closure raises. -/
inductive CodeBundleFault
  /-- `CodeBundleIntegrityError`. -/
  | codeBundleIntegrity (message : String)
  /-- `KeyError`. -/
  | key (role : String)
  /-- `RecursionError`. -/
  | recursion
  deriving DecidableEq

/-! ## The check of a closure -/

/-- The roles of the direct dependencies of a bundle. -/
def dependencyRoles (manifest : ExactCodeBundleManifest) : List String :=
  manifest.directDependencies.map CodeBundleDependency.role

/-- The fault of a call of `visit`. -/
def visitFault : CycleSearch.Stop String → CodeBundleFault
  | .cycle => .codeBundleIntegrity "bundle closure contains a dependency cycle"
  | .missing role => .key role
  | .depth => .recursion

/-- `_require_acyclic`, with room for `depth` nested calls of `visit`. -/
def requireAcyclic (depth : Nat) (byRole : Dict String ExactCodeBundleManifest) :
    Except CodeBundleFault Unit :=
  ((CycleSearch.search byRole dependencyRoles depth (byRole.keys.insertionSort (· ≤ ·))).map
    fun _ => ()).mapError visitFault

/-- The check of one dependency of a bundle. -/
def requireDependency (byRole : Dict String ExactCodeBundleManifest)
    (manifest : ExactCodeBundleManifest) (dependency : CodeBundleDependency) :
    Except CodeBundleFault Unit :=
  match byRole.get? dependency.role with
  | none => .error (.codeBundleIntegrity ("bundle " ++ manifest.role ++
      " has an unresolved dependency " ++ dependency.role))
  | some target =>
    refuseIf (target.bundleId ≠ dependency.bundleId ∨ target.apiVersion ≠ dependency.apiVersion)
      (.codeBundleIntegrity ("bundle " ++ manifest.role ++ " dependency " ++ dependency.role ++
        " is inexact"))

/-- `ExactCodeBundleClosure.__post_init__`. -/
def ExactCodeBundleClosure.postInit (depth : Nat) (manifests : List ExactCodeBundleManifest) :
    Except CodeBundleFault Unit := do
  let ordered := manifests.insertionSort fun a b => a.role ≤ b.role
  refuseIf (ordered = [] ∨ ordered ≠ manifests)
    (.codeBundleIntegrity "bundle closure must be non-empty and sorted by role")
  let byRole := Dict.ofItems ExactCodeBundleManifest.role ordered
  refuseIf (byRole.keys.length ≠ ordered.length)
    (.codeBundleIntegrity "bundle closure contains duplicate roles")
  ordered.forM fun manifest =>
    manifest.directDependencies.forM (requireDependency byRole manifest)
  requireAcyclic depth byRole

/-! ## What a closure is -/

/-- One of the bundles has the first role, and depends directly on a bundle of the second. -/
def DependsOn (manifests : List ExactCodeBundleManifest) (role role' : String) : Prop :=
  ∃ manifest ∈ manifests, manifest.role = role ∧
    ∃ dependency ∈ manifest.directDependencies, dependency.role = role'

/-- The bundles are in order, hold every bundle they depend on, and none depends on itself. -/
structure IsClosure (manifests : List ExactCodeBundleManifest) : Prop where
  nonempty : manifests ≠ []
  sorted : manifests.Pairwise fun a b => a.role < b.role
  exact : ∀ manifest ∈ manifests, ∀ dependency ∈ manifest.directDependencies,
    ∃ target ∈ manifests, target.role = dependency.role ∧
      target.bundleId = dependency.bundleId ∧ target.apiVersion = dependency.apiVersion
  acyclic : ∀ role, ¬ TransGen (DependsOn manifests) role role

section Check

variable {manifests : List ExactCodeBundleManifest}

/-- Sorting by role leaves the manifests as they are exactly when they are in order. -/
theorem insertionSort_role_eq_iff :
    manifests.insertionSort (fun a b => a.role ≤ b.role) = manifests ↔
      manifests.Pairwise fun a b => a.role ≤ b.role := by
  have : Std.Total fun a b : ExactCodeBundleManifest => a.role ≤ b.role :=
    ⟨fun a b => le_total a.role b.role⟩
  have : IsTrans ExactCodeBundleManifest fun a b => a.role ≤ b.role :=
    ⟨fun _ _ _ => le_trans⟩
  constructor
  · intro h
    rw [← h]
    exact List.pairwise_insertionSort _ _
  · exact List.Pairwise.insertionSort_eq

theorem pairwise_role_lt_iff :
    (manifests.Pairwise fun a b => a.role < b.role) ↔
      (manifests.Pairwise fun a b => a.role ≤ b.role) ∧
        (manifests.map ExactCodeBundleManifest.role).Nodup := by
  rw [List.nodup_iff_pairwise_ne, List.pairwise_map, ← List.pairwise_and_iff]
  exact List.Pairwise.iff fun a b => lt_iff_le_and_ne

/-! ## The table by role -/

/-- A bundle leads to another in the table exactly when it depends on it directly. -/
theorem names_iff (hnodup : (manifests.map ExactCodeBundleManifest.role).Nodup)
    {role role' : String} :
    Closure.Names (Dict.ofItems ExactCodeBundleManifest.role manifests) dependencyRoles role role' ↔
      DependsOn manifests role role' := by
  constructor
  · rintro ⟨manifest, hget, hrole⟩
    obtain ⟨hmem, hkey⟩ := (Dict.get?_ofItems hnodup).mp hget
    obtain ⟨dependency, hdependency, he⟩ := List.mem_map.mp hrole
    exact ⟨manifest, hmem, hkey, dependency, hdependency, he⟩
  · rintro ⟨manifest, hmem, hkey, dependency, hdependency, he⟩
    exact ⟨manifest, (Dict.get?_ofItems hnodup).mpr ⟨hmem, hkey⟩,
      List.mem_map.mpr ⟨dependency, hdependency, he⟩⟩

theorem requireDependency_eq_ok (hnodup : (manifests.map ExactCodeBundleManifest.role).Nodup)
    {manifest : ExactCodeBundleManifest} {dependency : CodeBundleDependency} :
    requireDependency (Dict.ofItems ExactCodeBundleManifest.role manifests) manifest dependency
        = .ok () ↔
      ∃ target ∈ manifests, target.role = dependency.role ∧
        target.bundleId = dependency.bundleId ∧ target.apiVersion = dependency.apiVersion := by
  rw [requireDependency]
  cases htarget : (Dict.ofItems ExactCodeBundleManifest.role manifests).get? dependency.role with
  | none =>
    refine iff_of_false (by simp) ?_
    rintro ⟨target, hmem, hrole, -⟩
    rw [(Dict.get?_ofItems hnodup).mpr ⟨hmem, hrole⟩] at htarget
    simp at htarget
  | some target =>
    dsimp only
    rw [refuseIf_eq_ok, not_or, not_not, not_not]
    constructor
    · intro hsame
      obtain ⟨hmem, hrole⟩ := (Dict.get?_ofItems hnodup).mp htarget
      exact ⟨target, hmem, hrole, hsame⟩
    · rintro ⟨other, hmem, hrole, hsame⟩
      rw [(Dict.get?_ofItems hnodup).mpr ⟨hmem, hrole⟩] at htarget
      obtain rfl := Option.some.inj htarget
      exact hsame

/-- The table has as many keys as there are manifests, and they are the roles. -/
theorem keys_byRole (hnodup : (manifests.map ExactCodeBundleManifest.role).Nodup) :
    (Dict.ofItems ExactCodeBundleManifest.role manifests).keys =
      manifests.map ExactCodeBundleManifest.role := by
  rw [Dict.keys, Dict.entries_ofItems hnodup, List.map_map]
  rfl

/-! ## The search -/

theorem requireAcyclic_eq_ok {depth : Nat} {byRole : Dict String ExactCodeBundleManifest} :
    requireAcyclic depth byRole = .ok () ↔ ∃ marks, CycleSearch.search byRole dependencyRoles depth
      (byRole.keys.insertionSort (· ≤ ·)) = .ok marks := by
  rw [requireAcyclic, mapError_eq_ok, map_eq_ok]
  simp

theorem requireAcyclic_eq_error {depth : Nat} {byRole : Dict String ExactCodeBundleManifest}
    {fault : CodeBundleFault} :
    requireAcyclic depth byRole = .error fault ↔
      ∃ stop, CycleSearch.search byRole dependencyRoles depth
        (byRole.keys.insertionSort (· ≤ ·)) = .error stop ∧ visitFault stop = fault := by
  rw [requireAcyclic]
  cases CycleSearch.search byRole dependencyRoles depth (byRole.keys.insertionSort (· ≤ ·)) <;>
    simp [Except.map, Except.mapError]

/-- Room for one call more than there are manifests is room enough. -/
theorem search_room (hnodup : (manifests.map ExactCodeBundleManifest.role).Nodup) {depth : Nat}
    (hroom : manifests.length < depth) :
    (Dict.ofItems ExactCodeBundleManifest.role manifests).keys.length < depth := by
  rwa [keys_byRole hnodup, List.length_map]

theorem requireAcyclic_deeper (hnodup : (manifests.map ExactCodeBundleManifest.role).Nodup)
    {depth depth' : Nat} (hroom : manifests.length < depth) (hle : depth ≤ depth') :
    requireAcyclic depth' (Dict.ofItems ExactCodeBundleManifest.role manifests) =
      requireAcyclic depth (Dict.ofItems ExactCodeBundleManifest.role manifests) := by
  rw [requireAcyclic, requireAcyclic, CycleSearch.search_deeper hle]
  exact CycleSearch.search_depth (search_room hnodup hroom) _

/-- Every dependency of a bundle has the role of a bundle. -/
def Complete (manifests : List ExactCodeBundleManifest) : Prop :=
  ∀ manifest ∈ manifests, ∀ dependency ∈ manifest.directDependencies,
    ∃ target ∈ manifests, target.role = dependency.role

/-- From a role of a complete table only its roles are reached. -/
theorem row_of_reaches (hnodup : (manifests.map ExactCodeBundleManifest.role).Nodup)
    (hcomplete : Complete manifests) {root role : String}
    (hroot : root ∈ manifests.map ExactCodeBundleManifest.role)
    (hreach : Closure.Reaches (Dict.ofItems ExactCodeBundleManifest.role manifests)
      dependencyRoles root role) :
    ∃ manifest, (Dict.ofItems ExactCodeBundleManifest.role manifests).get? role = some manifest := by
  have hrole : role ∈ manifests.map ExactCodeBundleManifest.role := by
    induction hreach with
    | refl => exact hroot
    | tail _ hstep _ =>
      obtain ⟨manifest, hmem, -, dependency, hdependency, rfl⟩ := (names_iff hnodup).mp hstep
      obtain ⟨target, htarget, hsame⟩ := hcomplete manifest hmem dependency hdependency
      exact hsame ▸ List.mem_map_of_mem htarget
  obtain ⟨manifest, hmem, hsame⟩ := List.mem_map.mp hrole
  exact ⟨manifest, (Dict.get?_ofItems hnodup).mpr ⟨hmem, hsame⟩⟩

/-- **The search of a complete table passes exactly when nothing depends on itself.** -/
theorem requireAcyclic_iff (hnodup : (manifests.map ExactCodeBundleManifest.role).Nodup)
    (hcomplete : Complete manifests) {depth : Nat} (hroom : manifests.length < depth) :
    requireAcyclic depth (Dict.ofItems ExactCodeBundleManifest.role manifests) = .ok () ↔
      ∀ role, ¬ TransGen (DependsOn manifests) role role := by
  have hkeys := keys_byRole hnodup
  have hrel : Closure.Names (Dict.ofItems ExactCodeBundleManifest.role manifests) dependencyRoles =
      DependsOn manifests := by
    funext role role'
    exact propext (names_iff hnodup)
  rw [requireAcyclic_eq_ok, CycleSearch.search_eq_ok_iff (search_room hnodup hroom)]
  simp only [List.mem_insertionSort, hkeys]
  constructor
  · intro h role hcycle
    obtain ⟨role', ⟨manifest, hmem, rfl, -⟩, -⟩ := TransGen.head'_iff.mp hcycle
    exact (h _ (List.mem_map_of_mem hmem) _ ReflTransGen.refl).2 (hrel ▸ hcycle)
  · intro h root hroot role hreach
    exact ⟨row_of_reaches hnodup hcomplete hroot hreach, hrel ▸ h role⟩

/-- **A complete table is refused for a cycle only.** -/
theorem requireAcyclic_stops (hnodup : (manifests.map ExactCodeBundleManifest.role).Nodup)
    (hcomplete : Complete manifests) {depth : Nat} (hroom : manifests.length < depth) :
    Stops (fun fault => ∃ message, fault = .codeBundleIntegrity message)
      (requireAcyclic depth (Dict.ofItems ExactCodeBundleManifest.role manifests)) := by
  intro fault h
  obtain ⟨stop, hstop, rfl⟩ := requireAcyclic_eq_error.mp h
  cases stop with
  | cycle => exact ⟨_, rfl⟩
  | missing role =>
    obtain ⟨root, hroot, hreach, hrow⟩ := CycleSearch.search_explained hstop
    rw [List.mem_insertionSort, keys_byRole hnodup] at hroot
    obtain ⟨manifest, hget⟩ := row_of_reaches hnodup hcomplete hroot hreach
    simp [hrow] at hget
  | depth => exact absurd hstop (CycleSearch.search_depth (search_room hnodup hroom) _)

/-! ## The whole check -/

/-- Manifests that are not in order are refused before anything else is looked at. -/
theorem postInit_unordered
    (h : ¬ (manifests ≠ [] ∧ manifests.Pairwise fun a b => a.role < b.role)) :
    ∃ message, ∀ depth, ExactCodeBundleClosure.postInit depth manifests =
      .error (.codeBundleIntegrity message) := by
  by_cases hsorted : manifests.Pairwise fun a b => a.role ≤ b.role
  · have hordered := insertionSort_role_eq_iff.mpr hsorted
    by_cases hempty : manifests = []
    · refine ⟨"bundle closure must be non-empty and sorted by role", fun depth => ?_⟩
      rw [ExactCodeBundleClosure.postInit, hordered]
      dsimp only
      rw [refuseIf_of (.inl hempty)]
      rfl
    · have hnodup : ¬ (manifests.map ExactCodeBundleManifest.role).Nodup :=
        fun hnodup => h ⟨hempty, pairwise_role_lt_iff.mpr ⟨hsorted, hnodup⟩⟩
      refine ⟨"bundle closure contains duplicate roles", fun depth => ?_⟩
      rw [ExactCodeBundleClosure.postInit, hordered]
      dsimp only
      rw [refuseIf_of_not (by simp [hempty]), ok_bind,
        refuseIf_of (Dict.length_keys_ofItems.not.mpr hnodup)]
      rfl
  · refine ⟨"bundle closure must be non-empty and sorted by role", fun depth => ?_⟩
    rw [ExactCodeBundleClosure.postInit]
    dsimp only
    rw [refuseIf_of (.inr (insertionSort_role_eq_iff.not.mpr hsorted))]
    rfl

/-- The check of manifests that are in order. -/
theorem postInit_ordered {depth : Nat} (hne : manifests ≠ [])
    (hsorted : manifests.Pairwise fun a b => a.role < b.role) :
    ExactCodeBundleClosure.postInit depth manifests =
      ((manifests.forM fun manifest => manifest.directDependencies.forM
        (requireDependency (Dict.ofItems ExactCodeBundleManifest.role manifests) manifest)) >>=
      fun _ => requireAcyclic depth (Dict.ofItems ExactCodeBundleManifest.role manifests)) := by
  obtain ⟨hle, hnodup⟩ := pairwise_role_lt_iff.mp hsorted
  rw [ExactCodeBundleClosure.postInit]
  dsimp only
  rw [insertionSort_role_eq_iff.mpr hle, refuseIf_of_not (by simp [hne]), ok_bind,
    refuseIf_of_not (not_not.mpr (Dict.length_keys_ofItems.mpr hnodup)), ok_bind]

/-- Every dependency passes its check exactly when it is that of a bundle. -/
theorem requireDependencies_eq_ok (hnodup : (manifests.map ExactCodeBundleManifest.role).Nodup) :
    (manifests.forM fun manifest => manifest.directDependencies.forM
        (requireDependency (Dict.ofItems ExactCodeBundleManifest.role manifests) manifest))
        = .ok () ↔
      ∀ manifest ∈ manifests, ∀ dependency ∈ manifest.directDependencies,
        ∃ target ∈ manifests, target.role = dependency.role ∧
          target.bundleId = dependency.bundleId ∧ target.apiVersion = dependency.apiVersion := by
  constructor
  · intro h manifest hmem dependency hdependency
    exact (requireDependency_eq_ok hnodup).mp
      (forM_eq_ok (forM_eq_ok h manifest hmem) dependency hdependency)
  · intro h
    exact forM_of_forall fun manifest hmem => forM_of_forall fun dependency hdependency =>
      (requireDependency_eq_ok hnodup).mpr (h manifest hmem dependency hdependency)

/-- Manifests in order are refused with the one error, if they are. -/
theorem postInit_stops {depth : Nat} (hroom : manifests.length < depth) :
    Stops (fun fault => ∃ message, fault = .codeBundleIntegrity message)
      (ExactCodeBundleClosure.postInit depth manifests) := by
  by_cases hordered : manifests ≠ [] ∧ manifests.Pairwise fun a b => a.role < b.role
  · have hnodup := (pairwise_role_lt_iff.mp hordered.2).2
    rw [postInit_ordered hordered.1 hordered.2]
    refine Stops.bind ?_ fun _ hchecked => requireAcyclic_stops hnodup ?_ hroom
    · refine Stops.forM _ fun manifest _ => Stops.forM _ fun dependency _ => ?_
      rw [requireDependency]
      split
      · exact stops_error ⟨_, rfl⟩
      · exact stops_refuseIf fun _ => ⟨_, rfl⟩
    · intro manifest hmem dependency hdependency
      obtain ⟨target, htarget, hrole, -⟩ :=
        (requireDependencies_eq_ok hnodup).mp hchecked manifest hmem dependency hdependency
      exact ⟨target, htarget, hrole⟩
  · obtain ⟨message, herror⟩ := postInit_unordered hordered
    rw [herror depth]
    exact stops_error ⟨message, rfl⟩

/-- **The check passes exactly the closures.** -/
theorem postInit_eq_ok_iff {depth : Nat} (hroom : manifests.length < depth) :
    ExactCodeBundleClosure.postInit depth manifests = .ok () ↔ IsClosure manifests := by
  by_cases hordered : manifests ≠ [] ∧ manifests.Pairwise fun a b => a.role < b.role
  · have hnodup := (pairwise_role_lt_iff.mp hordered.2).2
    rw [postInit_ordered hordered.1 hordered.2, check_bind_eq_ok, requireDependencies_eq_ok hnodup]
    constructor
    · rintro ⟨hexact, hacyclic⟩
      have hcomplete : Complete manifests := by
        intro manifest hmem dependency hdependency
        obtain ⟨target, htarget, hrole, -⟩ := hexact manifest hmem dependency hdependency
        exact ⟨target, htarget, hrole⟩
      exact ⟨hordered.1, hordered.2, hexact, (requireAcyclic_iff hnodup hcomplete hroom).mp hacyclic⟩
    · intro hclosure
      refine ⟨hclosure.exact, (requireAcyclic_iff hnodup ?_ hroom).mpr hclosure.acyclic⟩
      intro manifest hmem dependency hdependency
      obtain ⟨target, htarget, hrole, -⟩ := hclosure.exact manifest hmem dependency hdependency
      exact ⟨target, htarget, hrole⟩
  · obtain ⟨message, herror⟩ := postInit_unordered hordered
    rw [herror depth]
    exact iff_of_false (by simp) fun hclosure => hordered ⟨hclosure.nonempty, hclosure.sorted⟩

/-- The check comes to the same with more room. -/
theorem postInit_deeper {depth depth' : Nat} (hroom : manifests.length < depth)
    (hle : depth ≤ depth') :
    ExactCodeBundleClosure.postInit depth' manifests =
      ExactCodeBundleClosure.postInit depth manifests := by
  by_cases hordered : manifests ≠ [] ∧ manifests.Pairwise fun a b => a.role < b.role
  · have hnodup := (pairwise_role_lt_iff.mp hordered.2).2
    rw [postInit_ordered hordered.1 hordered.2, postInit_ordered hordered.1 hordered.2,
      requireAcyclic_deeper hnodup hroom hle]
  · obtain ⟨message, herror⟩ := postInit_unordered hordered
    rw [herror depth, herror depth']

/-- What passes with any room is a closure. -/
theorem isClosure_of_postInit {depth : Nat}
    (h : ExactCodeBundleClosure.postInit depth manifests = .ok ()) : IsClosure manifests := by
  have hroom : manifests.length < max depth (manifests.length + 1) := by omega
  rw [← postInit_eq_ok_iff hroom]
  by_cases hordered : manifests ≠ [] ∧ manifests.Pairwise fun a b => a.role < b.role
  · rw [postInit_ordered hordered.1 hordered.2, check_bind_eq_ok, requireAcyclic_eq_ok] at h ⊢
    obtain ⟨hchecked, marks, hsearch⟩ := h
    refine ⟨hchecked, marks, ?_⟩
    rw [CycleSearch.search_deeper (le_max_left depth _) (by simp [hsearch]), hsearch]
  · obtain ⟨message, herror⟩ := postInit_unordered hordered
    simp [herror depth] at h

end Check

/-! ## Closures -/

/-- A complete, acyclic and exact set of bundles. -/
structure ExactCodeBundleClosure where
  manifests : List ExactCodeBundleManifest
  isClosure : IsClosure manifests


/-- `ExactCodeBundleClosure(manifests)`, with room for `depth` nested calls of `visit`. -/
def ExactCodeBundleClosure.make (depth : Nat) (manifests : List ExactCodeBundleManifest) :
    Except CodeBundleFault ExactCodeBundleClosure :=
  construct (ExactCodeBundleClosure.postInit depth manifests) fun h =>
    ⟨manifests, isClosure_of_postInit h⟩

theorem make_eq_ok {depth : Nat} {manifests : List ExactCodeBundleManifest}
    {closure : ExactCodeBundleClosure} :
    ExactCodeBundleClosure.make depth manifests = .ok closure ↔
      ExactCodeBundleClosure.postInit depth manifests = .ok () ∧ closure.manifests = manifests := by
  rw [ExactCodeBundleClosure.make, construct_eq_ok]
  constructor
  · rintro ⟨h, rfl⟩
    exact ⟨h, rfl⟩
  · rintro ⟨h, rfl⟩
    exact ⟨h, rfl⟩

theorem make_eq_error {depth : Nat} {manifests : List ExactCodeBundleManifest}
    {fault : CodeBundleFault} :
    ExactCodeBundleClosure.make depth manifests = .error fault ↔
      ExactCodeBundleClosure.postInit depth manifests = .error fault := construct_eq_error

/-- The construction comes to the same with more room. -/
theorem make_deeper {manifests : List ExactCodeBundleManifest} {depth depth' : Nat}
    (hroom : manifests.length < depth) (hle : depth ≤ depth') :
    ExactCodeBundleClosure.make depth' manifests = ExactCodeBundleClosure.make depth manifests := by
  cases h : ExactCodeBundleClosure.make depth manifests with
  | ok closure =>
    rw [make_eq_ok] at h ⊢
    exact ⟨(postInit_deeper hroom hle).trans h.1, h.2⟩
  | error fault =>
    rw [make_eq_error] at h ⊢
    exact (postInit_deeper hroom hle).trans h

/-- **The construction of a closure, of any manifests.**  It comes to one outcome however much room
there is, above one nested call more than there are manifests: the closure of the manifests exactly
when they are one, and the one error otherwise. -/
theorem make_outcome (manifests : List ExactCodeBundleManifest) :
    ∃ outcome, (∀ depth, manifests.length < depth →
        ExactCodeBundleClosure.make depth manifests = outcome) ∧
      (∀ closure, outcome = .ok closure → closure.manifests = manifests) ∧
      ((∃ closure, outcome = .ok closure) ↔ IsClosure manifests) ∧
      ∀ fault, outcome = .error fault → ∃ message, fault = .codeBundleIntegrity message := by
  have hroom : manifests.length < manifests.length + 1 := Nat.lt_succ_self _
  refine ⟨ExactCodeBundleClosure.make (manifests.length + 1) manifests,
    fun depth hdepth => make_deeper hroom hdepth, fun closure h => (make_eq_ok.mp h).2, ?_,
    fun fault h => postInit_stops hroom fault (make_eq_error.mp h)⟩
  rw [← postInit_eq_ok_iff hroom]
  constructor
  · rintro ⟨closure, h⟩
    exact (make_eq_ok.mp h).1
  · intro h
    exact ⟨⟨manifests, isClosure_of_postInit h⟩, make_eq_ok.mpr ⟨h, rfl⟩⟩

/-- A diamond is a closure, and two bundles that depend on each other are none. -/
example :
    let bundle (role : String) (roles : List String) : ExactCodeBundleManifest :=
      ⟨⟨0, false⟩, role, 1, role, ⟨0, false⟩, ⟨0, false⟩, [], roles.map fun r => ⟨r, ⟨0, false⟩, 1⟩⟩
    ExactCodeBundleClosure.postInit 5
        [bundle "a" ["b", "c"], bundle "b" ["d"], bundle "c" ["d"], bundle "d" []] = .ok () ∧
      ExactCodeBundleClosure.postInit 3 [bundle "a" ["b"], bundle "b" ["a"]] =
        .error (.codeBundleIntegrity "bundle closure contains a dependency cycle") := by
  decide

/-- `manifest_for`. -/
def ExactCodeBundleClosure.manifestFor (closure : ExactCodeBundleClosure) (role : String) :
    Except CodeBundleFault ExactCodeBundleManifest :=
  match closure.manifests.find? fun item => item.role = role with
  | some item => .ok item
  | none => .error (.codeBundleIntegrity ("bundle closure has no role " ++ role))

/-- **A closure has one bundle of each of its roles.** -/
theorem manifestFor_eq_ok {closure : ExactCodeBundleClosure} {role : String}
    {manifest : ExactCodeBundleManifest} :
    closure.manifestFor role = .ok manifest ↔
      manifest ∈ closure.manifests ∧ manifest.role = role := by
  have hnodup := (pairwise_role_lt_iff.mp closure.isClosure.sorted).2
  rw [ExactCodeBundleClosure.manifestFor]
  cases hfind : closure.manifests.find? fun item => item.role = role with
  | none =>
    refine iff_of_false (by simp) ?_
    rintro ⟨hmem, hrole⟩
    simpa [hrole] using List.find?_eq_none.mp hfind manifest hmem
  | some found =>
    have hfound : found.role = role := by simpa using List.find?_some hfind
    constructor
    · intro h
      obtain rfl := Except.ok.inj h
      exact ⟨List.mem_of_find?_eq_some hfind, hfound⟩
    · rintro ⟨hmem, hrole⟩
      exact congrArg Except.ok
        (List.inj_on_of_nodup_map hnodup (List.mem_of_find?_eq_some hfind) hmem
          (hfound.trans hrole.symm))

/-- **Dependencies can be followed.**  A lookup by role gives the one bundle of that role.  The lookup
of a dependency gives the bundle that is pinned, and lookups that follow dependencies never come
back to a bundle, so they end within as many as the closure has. -/
theorem dependencies_followed (closure : ExactCodeBundleClosure) :
    (∀ role manifest, closure.manifestFor role = .ok manifest ↔
      manifest ∈ closure.manifests ∧ manifest.role = role) ∧
    (∀ manifest ∈ closure.manifests, ∀ dependency ∈ manifest.directDependencies,
      ∃ target, closure.manifestFor dependency.role = .ok target ∧
        target.bundleId = dependency.bundleId ∧ target.apiVersion = dependency.apiVersion) ∧
    ∀ path : List ExactCodeBundleManifest, (∀ manifest ∈ path, manifest ∈ closure.manifests) →
      path.IsChain (fun a b => ∃ dependency ∈ a.directDependencies,
        closure.manifestFor dependency.role = .ok b) →
      path.Nodup ∧ path.length ≤ closure.manifests.length := by
  refine ⟨fun role manifest => manifestFor_eq_ok, fun manifest hmem dependency hdependency => ?_,
    fun path hpath hchain => ?_⟩
  · obtain ⟨target, htarget, hrole, hsame⟩ :=
      closure.isClosure.exact manifest hmem dependency hdependency
    exact ⟨target, manifestFor_eq_ok.mpr ⟨htarget, hrole⟩, hsame⟩
  · have : IsTrans ExactCodeBundleManifest fun a b =>
        a ∈ closure.manifests ∧ TransGen (DependsOn closure.manifests) a.role b.role :=
      ⟨fun _ _ _ hab hbc => ⟨hab.1, hab.2.trans hbc.2⟩⟩
    have hleads : path.Pairwise fun a b =>
        a ∈ closure.manifests ∧ TransGen (DependsOn closure.manifests) a.role b.role := by
      refine List.isChain_iff_pairwise.mp ?_
      refine hchain.imp_of_mem_imp fun a b ha _ hab => ?_
      obtain ⟨dependency, hdependency, hb⟩ := hab
      exact ⟨hpath a ha, .single ⟨a, hpath a ha, rfl, dependency, hdependency,
        (manifestFor_eq_ok.mp hb).2.symm⟩⟩
    have hnodup : path.Nodup := hleads.imp fun h hab => by
      subst hab
      exact closure.isClosure.acyclic _ h.2
    exact ⟨hnodup, (List.subperm_of_subset hnodup hpath).length_le⟩

end Bundles

end OnchainBacktest
