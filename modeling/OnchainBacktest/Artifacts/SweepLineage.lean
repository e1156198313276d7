import OnchainBacktest.Artifacts.SweepPlan

/-!
# A sweep and the lineage of what it leaves

An execution takes exactly the planned candidates out of the store (`ExecutionSpec.committed`).
The plan protects whatever a marked artifact was made from, but among the artifacts it may sweep the
limit on the bytes passes over those that do not fit: one of them can stay while an artifact it was
made from is moved (`collection_breaks_lineage`).

`lineage_kept_iff` says when that does not happen.
-/

set_option autoImplicit false

namespace OnchainBacktest

namespace Artifacts

open Checked

section

variable [RetentionDigest]

/-! ## Moving -/

omit [RetentionDigest] in
theorem moveCandidate_eq_ok {inventory : Inventory}
    {state state' : Dict String CandidateRoot × List BatchItem × Dict ArtifactId ArtifactTree}
    {candidate : GarbageCollectionCandidate} :
    moveCandidate inventory state candidate = .ok state' ↔ ∃ verified moved,
      inventory.get? candidate.artifactId = some verified ∧ candidate = verified.candidate ∧
      state.1.get? verified.root = some moved ∧
      state' = (state.1.erase verified.root,
        state.2.1 ++ [⟨candidate.artifactId, candidate.kind, candidate.sizeBytes,
          candidate.treeDigest, verified.files⟩],
        state.2.2.set candidate.artifactId moved.tree) := by
  rw [moveCandidate]
  cases hget : inventory.get? candidate.artifactId with
  | none => simp
  | some verified =>
    dsimp only
    rw [check_bind_eq_ok, refuseIf_eq_ok, ne_eq, not_not]
    cases hroot : state.1.get? verified.root with
    | none =>
      refine iff_of_false (fun h => ?_) ?_
      · cases h.2
      · rintro ⟨v, moved, hv, -, hmoved, -⟩
        obtain rfl := Option.some.inj hv
        rw [hroot] at hmoved
        cases hmoved
    | some moved =>
      constructor
      · rintro ⟨hsame, h⟩
        exact ⟨verified, moved, rfl, hsame, hroot, (Except.ok.inj h).symm⟩
      · rintro ⟨v, moved', hv, hsame, hmoved, rfl⟩
        obtain rfl := Option.some.inj hv
        obtain rfl := Option.some.inj (hroot.symm.trans hmoved)
        exact ⟨hsame, rfl⟩

/-- Where an artifact of the inventory stands. -/
def rootOf (inventory : Inventory) (a : ArtifactId) : Option String :=
  (inventory.get? a).map (·.root)

omit [RetentionDigest] in
/-- What the loop over the candidates leaves where they stood. -/
theorem foldlM_moveCandidate {inventory : Inventory} {candidates : List GarbageCollectionCandidate}
    {state state' : Dict String CandidateRoot × List BatchItem × Dict ArtifactId ArtifactTree}
    (h : candidates.foldlM (moveCandidate inventory) state = .ok state') (root : String) :
    state'.1.get? root =
      if ∃ c ∈ candidates, rootOf inventory c.artifactId = some root then none
      else state.1.get? root := by
  induction candidates generalizing state with
  | nil =>
    rw [List.foldlM_nil] at h
    obtain rfl := Except.ok.inj h
    simp
  | cons c rest ih =>
    rw [List.foldlM_cons] at h
    obtain ⟨mid, hmid, h⟩ := bind_eq_ok.mp h
    obtain ⟨verified, moved, hget, -, -, rfl⟩ := moveCandidate_eq_ok.mp hmid
    have hroot : rootOf inventory c.artifactId = some verified.root := by
      rw [rootOf, hget]
      rfl
    rw [ih h]
    by_cases hrest : ∃ c ∈ rest, rootOf inventory c.artifactId = some root
    · obtain ⟨c', hc', hr'⟩ := hrest
      rw [if_pos ⟨c', hc', hr'⟩, if_pos ⟨c', List.mem_cons_of_mem _ hc', hr'⟩]
    · rw [if_neg hrest, Dict.get?_erase]
      by_cases heq : root = verified.root
      · rw [if_pos heq, if_pos ⟨c, List.mem_cons_self, heq ▸ hroot⟩]
      · rw [if_neg heq, if_neg]
        rintro ⟨c', hc', hr'⟩
        rcases List.mem_cons.mp hc' with rfl | hc'
        · exact heq (Option.some.inj (hr'.symm.trans hroot))
        · exact hrest ⟨c', hc', hr'⟩

/-! ## Execution -/

/-- What an execution has checked and done. -/
structure ExecutionSpec (store : ArtifactStore) (plan : GarbageCollectionPlan) (nowNs : Nat)
    (store' : ArtifactStore) (inventory : Inventory) (isProtected : List ArtifactId) : Prop where
  inventory_eq : store.verifiedInventory = .ok inventory
  not_early : plan.plannedAtNs ≤ nowNs
  planned : PlanSpec inventory store.activePinsLocked plan.retainedRoots plan.policy
    plan.plannedAtNs plan isProtected
  left : ∀ root, store'.roots.get? root =
    if ∃ c ∈ plan.candidates, rootOf inventory c.artifactId = some root then none
    else store.roots.get? root
  pins : store'.activePins = store.activePins ∧ store'.retiredPins = store.retiredPins

theorem executeGarbageCollection_spec {store store' : ArtifactStore}
    {plan : GarbageCollectionPlan} {nowNs : Nat} {manifest : BatchManifest}
    (h : store.executeGarbageCollection plan nowNs = .ok (store', manifest)) :
    ∃ inventory isProtected, ExecutionSpec store plan nowNs store' inventory isProtected := by
  rw [ArtifactStore.executeGarbageCollection] at h
  obtain ⟨hearly, h⟩ := check_bind_eq_ok.mp h
  obtain ⟨refreshed, hrefreshed, h⟩ := bind_eq_ok.mp h
  obtain ⟨hstale, h⟩ := check_bind_eq_ok.mp h
  obtain ⟨inventory, hinventory, h⟩ := bind_eq_ok.mp h
  obtain ⟨-, h⟩ := check_bind_eq_ok.mp h
  obtain ⟨⟨roots, artifacts, trees⟩, hmoved, h⟩ := bind_eq_ok.mp h
  obtain ⟨rfl, -⟩ := Prod.mk.inj (Except.ok.inj h)
  rw [refuseIf_eq_ok, not_lt] at hearly
  rw [refuseIf_eq_ok, not_or, not_or, ne_eq, not_not, ne_eq, not_not] at hstale
  rw [ArtifactStore.planLocked, hinventory, ok_bind] at hrefreshed
  have hkeyed := (verifiedInventory_spec hinventory).keyed
  obtain ⟨isProtected, hspec⟩ := planFrom_spec hkeyed hrefreshed
  refine ⟨inventory, isProtected, hinventory, hearly, ?_, foldlM_moveCandidate hmoved, rfl, rfl⟩
  exact
    { pinned := hspec.pinned
      protected_iff := hspec.protected_iff
      present := hspec.present
      candidates := hstale.2.1.symm.trans hspec.candidates
      retained := rfl
      policy_eq := rfl
      planned := rfl }

/-! ## Committed artifacts -/

/-- A directory of the store verifies to an artifact. -/
def ArtifactStore.Committed (store : ArtifactStore) (a : ArtifactId) (verified : VerifiedArtifact) :
    Prop :=
  ∃ candidate, store.roots.get? verified.root = some candidate ∧
    candidate.verified = some verified.descriptor ∧ verified.descriptor.artifactId = a ∧
    verified = candidate.artifact verified.root verified.descriptor

theorem committed_iff {store : ArtifactStore} {inventory : Inventory}
    (h : store.verifiedInventory = .ok inventory) {a : ArtifactId} {verified : VerifiedArtifact} :
    store.Committed a verified ↔ inventory.get? a = some verified := by
  have hspec := verifiedInventory_spec h
  constructor
  · rintro ⟨candidate, hroot, hverified, hid, hartifact⟩
    obtain ⟨descriptor, hd, hget⟩ := hspec.listed (verified.root, candidate)
      (Dict.get?_eq_some_iff.mp hroot)
    obtain rfl := Option.some.inj (hverified.symm.trans hd)
    rw [hid] at hget
    rw [hget, ← hartifact]
  · intro hget
    obtain ⟨hid, candidate, hroot, hverified, hartifact⟩ := hspec.at_root hget
    exact ⟨candidate, hroot, hverified, hid, hartifact⟩

/-- **An execution takes exactly its candidates out of the store.** -/
theorem ExecutionSpec.committed {store store' : ArtifactStore} {plan : GarbageCollectionPlan}
    {nowNs : Nat} {inventory : Inventory} {isProtected : List ArtifactId}
    (h : ExecutionSpec store plan nowNs store' inventory isProtected) {a : ArtifactId}
    {verified : VerifiedArtifact} : store'.Committed a verified ↔
      store.Committed a verified ∧ a ∉ plan.candidates.map (·.artifactId) := by
  have hspec := verifiedInventory_spec h.inventory_eq
  constructor
  · rintro ⟨candidate, hroot, hverified, hid, hartifact⟩
    rw [h.left] at hroot
    split at hroot
    · cases hroot
    · rename_i hnot
      have hcommitted : store.Committed a verified :=
        ⟨candidate, hroot, hverified, hid, hartifact⟩
      refine ⟨hcommitted, fun hmem => hnot ?_⟩
      obtain ⟨c, hc, rfl⟩ := List.mem_map.mp hmem
      refine ⟨c, hc, ?_⟩
      rw [rootOf, (committed_iff h.inventory_eq).mp hcommitted]
      rfl
  · rintro ⟨⟨candidate, hroot, hverified, hid, hartifact⟩, hnot⟩
    refine ⟨candidate, ?_, hverified, hid, hartifact⟩
    rw [h.left, if_neg]
    · exact hroot
    · rintro ⟨c, hc, hsame⟩
      obtain ⟨v, hv, hvroot⟩ := Option.map_eq_some_iff.mp hsame
      obtain ⟨hvid, candidate', hroot', hverified', -⟩ := hspec.at_root hv
      rw [hvroot] at hroot'
      obtain rfl := Option.some.inj (hroot.symm.trans hroot')
      have hd := Option.some.inj (hverified.symm.trans hverified')
      refine hnot (List.mem_map.mpr ⟨c, hc, ?_⟩)
      rw [← hid, hd, hvid]

/-! ## Lineage -/

/-- Every committed artifact has everything it was made from committed too. -/
def ArtifactStore.LineageComplete (store : ArtifactStore) : Prop :=
  ∀ a, (∃ verified, store.Committed a verified) →
    ∀ b, Relation.ReflTransGen
        (fun x y => ∃ verified, store.Committed x verified ∧ y ∈ verified.inputs) a b →
      ∃ verified, store.Committed b verified

/-- The direct inputs are enough. -/
theorem ArtifactStore.lineageComplete_iff {store : ArtifactStore} :
    store.LineageComplete ↔ ∀ a verified, store.Committed a verified →
      ∀ b ∈ verified.inputs, ∃ input, store.Committed b input := by
  constructor
  · intro h a verified ha b hb
    exact h a ⟨verified, ha⟩ b (Relation.ReflTransGen.single ⟨verified, ha, hb⟩)
  · intro h a ha b hr
    induction hr with
    | refl => exact ha
    | tail _ hedge ih =>
      obtain ⟨verified, hv, hb⟩ := hedge
      exact h _ verified hv _ hb

/-- Of the artifacts no marking reaches, taken by first fit in the order of their identifiers under
the sweep limit, none that is passed over was made from one that is taken. -/
def NoInputTakenFromPassedOver (inventory : Inventory) (pins : List PinRecord)
    (plan : GarbageCollectionPlan) : Prop :=
  ∀ taken, FirstFit.IsFirstFit (inventoriedBytes inventory) plan.policy.maximumSweepBytes
      (unmarked inventory pins plan.retainedRoots plan.policy plan.plannedAtNs) taken →
    ∀ a ∈ unmarked inventory pins plan.retainedRoots plan.policy plan.plannedAtNs, a ∉ taken →
      ∀ verified, inventory.get? a = some verified → ∀ b ∈ verified.inputs, b ∉ taken

omit [RetentionDigest] in
/-- What a marked artifact was made from is marked. -/
theorem Marked.input {inventory : Inventory} {pins : List PinRecord}
    {retainedRoots : List ArtifactId} {policy : GarbageCollectionPolicy} {nowNs : Nat}
    {a b : ArtifactId} {verified : VerifiedArtifact}
    (h : Marked inventory pins retainedRoots policy nowNs a)
    (ha : inventory.get? a = some verified) (hb : b ∈ verified.inputs) :
    Marked inventory pins retainedRoots policy nowNs b := by
  obtain ⟨root, hroot, hr⟩ := h
  exact ⟨root, hroot, hr.tail ⟨verified, ha, hb⟩⟩

/-- **An execution keeps the lineage of what it leaves just when no artifact it passes over was
made from one it takes.** -/
theorem lineage_kept_iff (store : ArtifactStore) (plan : GarbageCollectionPlan) (nowNs : Nat)
    (store' : ArtifactStore) (manifest : BatchManifest) (inventory : Inventory)
    (hexecuted : store.executeGarbageCollection plan nowNs = .ok (store', manifest))
    (hinventory : store.verifiedInventory = .ok inventory) (hcomplete : store.LineageComplete) :
    store'.LineageComplete ↔
      NoInputTakenFromPassedOver inventory store.activePinsLocked plan := by
  obtain ⟨inventory', isProtected, hspec⟩ := executeGarbageCollection_spec hexecuted
  obtain rfl := Except.ok.inj (hinventory.symm.trans hspec.inventory_eq)
  have hkeyed := (verifiedInventory_spec hinventory).keyed
  have hfit := hspec.planned.isFirstFit hkeyed
  rw [ArtifactStore.lineageComplete_iff] at hcomplete ⊢
  constructor
  · intro hkept taken htaken a ha hnot verified hverified b hb hbtaken
    obtain rfl := htaken.unique hfit
    have hleft : store'.Committed a verified := hspec.committed.mpr
      ⟨(committed_iff hinventory).mpr hverified, fun hmem => hnot (List.mem_toFinset.mpr hmem)⟩
    obtain ⟨input, hinput⟩ := hkept a verified hleft b hb
    exact (hspec.committed.mp hinput).2 (List.mem_toFinset.mp hbtaken)
  · intro hcond a verified ha b hb
    obtain ⟨hbefore, hstays⟩ := hspec.committed.mp ha
    have hget := (committed_iff hinventory).mp hbefore
    obtain ⟨input, hinput⟩ := hcomplete a verified hbefore b hb
    refine ⟨input, hspec.committed.mpr ⟨hinput, fun hmoved => ?_⟩⟩
    have hbtaken := List.mem_toFinset.mpr hmoved
    have hbunmarked := (mem_unmarked.mp (hfit.subset hbtaken)).2
    have haunmarked : a ∈ unmarked inventory store.activePinsLocked plan.retainedRoots plan.policy
        plan.plannedAtNs :=
      mem_unmarked.mpr ⟨⟨verified, hget⟩, fun hmarked => hbunmarked (hmarked.input hget hb)⟩
    exact hcond _ hfit a haunmarked (fun hm => hstays (List.mem_toFinset.mp hm)) verified hget b hb
      hbtaken

end

/-! ## A sweep that breaks a lineage -/

/-- Digests that tell the records of the sample apart. -/
@[reducible] def sampleRetentionDigest : RetentionDigest where
  recordDigest
    | .tree files => { hex := Fin.ofNat _ (files.map (·.size)).sum }
    | .pin .. => { hex := 101 }
    | .plan .. => { hex := 102 }
    | .batch .. => { hex := 103 }
    | .receipt .. => { hex := 104 }

def sampleTree (size : Nat) : ArtifactTree where
  files := [⟨["data"], { hex := 0 }, size⟩]
  directories := [[]]
  root_mem := List.mem_singleton.mpr rfl
  parent_mem := by simp
  file_mem := by simp
  distinct := by simp

def sampleArtifact (hex : Fin (2 ^ 256)) (inputs : List ArtifactId) : CommittedArtifact :=
  ⟨⟨hex⟩, .snapshot, { hex := 0 }, { hex := 0 }, inputs⟩

/-- Two old artifacts, the larger made from the smaller. -/
def sampleStore : ArtifactStore :=
  { ArtifactStore.empty with
    roots := (Dict.empty.set "snapshots/1" ⟨sampleTree 1, 0, some (sampleArtifact 1 [])⟩).set
      "snapshots/2" ⟨sampleTree 10, 0, some (sampleArtifact 2 [⟨1⟩])⟩ }

/-- A plan under a sweep limit that the smaller artifact keeps and the larger does not. -/
def samplePlan : GarbageCollectionPlan where
  planId := { hex := 102 }
  plannedAtNs := 0
  policy := ⟨0, 0, 5⟩
  retainedRoots := []
  pinnedRoots := []
  candidates := [⟨⟨1⟩, .snapshot, 1, 0, { hex := 1 }⟩]

def sampleInventory : Inventory :=
  (Dict.empty.set ⟨1⟩
      ⟨sampleArtifact 1 [], "snapshots/1", 0, (sampleTree 1).files, { hex := 1 }⟩).set ⟨2⟩
    ⟨sampleArtifact 2 [⟨1⟩], "snapshots/2", 0, (sampleTree 10).files, { hex := 10 }⟩

attribute [local instance] sampleRetentionDigest in
theorem sampleStore_inventory : sampleStore.verifiedInventory = .ok sampleInventory := rfl

theorem closure_nil (inventory : Inventory) : closure [] inventory = .ok [] := by
  rw [closure, Closure.walk]
  rfl

attribute [local instance] sampleRetentionDigest in
theorem sampleStore_planned :
    sampleStore.planLocked [] ⟨0, 0, 5⟩ 0 = .ok samplePlan := by
  have hroots : artifactIds ([] ++ artifactIds (sampleStore.activePinsLocked.flatMap
      fun pin => pin.roots) ++ youngArtifacts sampleInventory ⟨0, 0, 5⟩ 0) = [] := by
    decide
  have hselected : selectCandidates [] ⟨0, 0, 5⟩ 0 (sortedInventory sampleInventory) 0 =
      samplePlan.candidates := by
    decide
  rw [ArtifactStore.planLocked, sampleStore_inventory, ok_bind, planFrom]
  dsimp only
  rw [hroots, closure_nil, ok_bind, hselected]
  rfl

attribute [local instance] sampleRetentionDigest in
/-- The execution moves the smaller artifact and leaves the larger. -/
theorem sampleStore_executed : ∃ store' manifest,
    sampleStore.executeGarbageCollection samplePlan 0 = .ok (store', manifest) ∧
      store'.roots = Dict.empty.set "snapshots/2"
        ⟨sampleTree 10, 0, some (sampleArtifact 2 [⟨1⟩])⟩ := by
  have hplanned : sampleStore.planLocked samplePlan.retainedRoots samplePlan.policy
      samplePlan.plannedAtNs = .ok samplePlan := sampleStore_planned
  rw [ArtifactStore.executeGarbageCollection, hplanned, sampleStore_inventory]
  exact ⟨_, _, rfl, rfl⟩

attribute [local instance] sampleRetentionDigest in
theorem sampleStore_complete : sampleStore.LineageComplete := by
  rw [ArtifactStore.lineageComplete_iff]
  intro a verified ha b hb
  have hget := (committed_iff sampleStore_inventory).mp ha
  rcases List.mem_cons.mp (Dict.get?_eq_some_iff.mp hget) with hfirst | hmem
  · obtain ⟨-, rfl⟩ := Prod.mk.inj hfirst
    cases hb
  · obtain ⟨-, rfl⟩ := Prod.mk.inj (List.mem_singleton.mp hmem)
    obtain rfl := List.mem_singleton.mp hb
    exact ⟨_, (committed_iff sampleStore_inventory).mpr rfl⟩

theorem lineage_kept_iff_sample : ∃ (digest : RetentionDigest) (store store' : ArtifactStore),
    @ArtifactStore.LineageComplete digest store ∧
      (@ArtifactStore.LineageComplete digest store' ↔
        NoInputTakenFromPassedOver sampleInventory store.activePinsLocked samplePlan) := by
  obtain ⟨store', manifest, hexecuted, -⟩ := sampleStore_executed
  exact ⟨sampleRetentionDigest, sampleStore, store', sampleStore_complete,
    @lineage_kept_iff sampleRetentionDigest sampleStore samplePlan 0 store' manifest
      sampleInventory hexecuted sampleStore_inventory sampleStore_complete⟩

/-- A collection can leave an artifact whose input it has moved. -/
theorem collection_breaks_lineage :
    ¬ ∀ (digest : RetentionDigest) (store : ArtifactStore) (plan : GarbageCollectionPlan)
      (nowNs : Nat) (store' : ArtifactStore) (manifest : BatchManifest),
      @ArtifactStore.LineageComplete digest store →
      @ArtifactStore.executeGarbageCollection digest store plan nowNs = .ok (store', manifest) →
      @ArtifactStore.LineageComplete digest store' := by
  intro h
  obtain ⟨store', manifest, hexecuted, hleft⟩ := sampleStore_executed
  have hkept := h sampleRetentionDigest sampleStore samplePlan 0 store' manifest
    sampleStore_complete hexecuted
  rw [@ArtifactStore.lineageComplete_iff sampleRetentionDigest] at hkept
  have hstays : @ArtifactStore.Committed sampleRetentionDigest store' ⟨2⟩
      ⟨sampleArtifact 2 [⟨1⟩], "snapshots/2", 0, (sampleTree 10).files, { hex := 10 }⟩ := by
    refine ⟨⟨sampleTree 10, 0, some (sampleArtifact 2 [⟨1⟩])⟩, ?_, rfl, rfl, rfl⟩
    rw [hleft]
    rfl
  obtain ⟨input, candidate, hroot, hverified, hid, -⟩ := hkept _ _ hstays ⟨1⟩
    (List.mem_singleton.mpr rfl)
  rw [hleft] at hroot
  obtain ⟨-, rfl⟩ := Prod.mk.inj (List.mem_singleton.mp (Dict.get?_eq_some_iff.mp hroot))
  obtain hdescriptor := Option.some.inj hverified
  rw [← hdescriptor] at hid
  exact absurd hid (by decide)

end Artifacts

end OnchainBacktest
