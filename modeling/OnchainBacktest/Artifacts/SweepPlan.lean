import OnchainBacktest.Lib.FirstFit
import OnchainBacktest.Artifacts.Retention

/-!
# What a plan selects and what its execution moves

The specification of each step of a collection: the inventory lists every committed artifact once,
the closure of a list of artifacts is everything they lead to, a plan selects by first fit among
what nothing protects, and an execution takes exactly the selected artifacts out of the store.
-/

set_option autoImplicit false

namespace OnchainBacktest

namespace Artifacts

open Checked

variable [RetentionDigest]

/-! ## The inventory -/

/-- The inventory lists an artifact under its identity just when a directory verifies to it. -/
structure Inventoried (entries : List (String × CandidateRoot)) (inventory : Inventory) :
    Prop where
  listed : ∀ e ∈ entries, ∃ descriptor, e.2.verified = some descriptor ∧
    inventory.get? descriptor.artifactId = some (e.2.artifact e.1 descriptor)
  real : ∀ a verified, inventory.get? a = some verified → ∃ e ∈ entries, ∃ descriptor,
    e.2.verified = some descriptor ∧ descriptor.artifactId = a ∧
    verified = e.2.artifact e.1 descriptor

theorem addVerified_eq_ok {inventory inventory' : Inventory} {entry : String × CandidateRoot} :
    addVerified inventory entry = .ok inventory' ↔ ∃ descriptor,
      entry.2.verified = some descriptor ∧ inventory.get? descriptor.artifactId = none ∧
      inventory' = inventory.set descriptor.artifactId (entry.2.artifact entry.1 descriptor) := by
  rw [addVerified]
  cases h : entry.2.verified with
  | none => simp
  | some descriptor =>
    dsimp only
    rw [check_bind_eq_ok, refuseIf_eq_ok, ne_eq, not_not]
    constructor
    · rintro ⟨hnew, hset⟩
      exact ⟨descriptor, rfl, hnew, (Except.ok.inj hset).symm⟩
    · rintro ⟨d, hd, hnew, rfl⟩
      obtain rfl := Option.some.inj hd
      exact ⟨hnew, rfl⟩

/-- What the loop over some directories adds to an inventory. -/
theorem foldlM_addVerified {entries : List (String × CandidateRoot)} {start inventory : Inventory}
    (h : entries.foldlM addVerified start = .ok inventory) :
    (∀ e ∈ entries, ∃ descriptor, e.2.verified = some descriptor ∧
      start.get? descriptor.artifactId = none ∧
      inventory.get? descriptor.artifactId = some (e.2.artifact e.1 descriptor)) ∧
    (∀ a verified, start.get? a = some verified → inventory.get? a = some verified) ∧
    (∀ a verified, inventory.get? a = some verified → start.get? a = some verified ∨
      ∃ e ∈ entries, ∃ descriptor, e.2.verified = some descriptor ∧ descriptor.artifactId = a ∧
        verified = e.2.artifact e.1 descriptor) := by
  induction entries generalizing start with
  | nil =>
    rw [List.foldlM_nil] at h
    obtain rfl := Except.ok.inj h
    exact ⟨fun e he => absurd he List.not_mem_nil, fun _ _ h => h, fun _ _ h => .inl h⟩
  | cons e rest ih =>
    rw [List.foldlM_cons] at h
    obtain ⟨mid, hmid, h⟩ := bind_eq_ok.mp h
    obtain ⟨descriptor, hverified, hnew, rfl⟩ := addVerified_eq_ok.mp hmid
    obtain ⟨hlisted, hkept, hreal⟩ := ih h
    refine ⟨?_, ?_, ?_⟩
    · intro e' he'
      rcases List.mem_cons.mp he' with rfl | he'
      · exact ⟨descriptor, hverified, hnew, hkept _ _ (Dict.get?_set_self _ _ _)⟩
      · obtain ⟨d', hv', hn', hl'⟩ := hlisted e' he'
        refine ⟨d', hv', ?_, hl'⟩
        rw [Dict.get?_set] at hn'
        split at hn'
        · cases hn'
        · exact hn'
    · intro a verified ha
      refine hkept a verified ?_
      rw [Dict.get?_set_of_ne _ _ ?_]
      · exact ha
      · rintro rfl
        rw [hnew] at ha
        cases ha
    · intro a verified ha
      rcases hreal a verified ha with hset | ⟨e', he', hd'⟩
      · rw [Dict.get?_set] at hset
        split at hset
        · rename_i heq
          exact .inr ⟨e, List.mem_cons_self, descriptor, hverified, heq.symm,
            (Option.some.inj hset).symm⟩
        · exact .inl hset
      · exact .inr ⟨e', List.mem_cons_of_mem _ he', hd'⟩

theorem verifiedInventory_spec {store : ArtifactStore} {inventory : Inventory}
    (h : store.verifiedInventory = .ok inventory) :
    Inventoried store.roots.entries inventory := by
  obtain ⟨hlisted, -, hreal⟩ := foldlM_addVerified h
  refine ⟨fun e he => ?_, fun a verified ha => ?_⟩
  · obtain ⟨descriptor, hv, -, hi⟩ := hlisted e he
    exact ⟨descriptor, hv, hi⟩
  · rcases hreal a verified ha with hempty | hreal
    · cases hempty
    · exact hreal

/-- An inventoried artifact stands at its root. -/
theorem Inventoried.at_root {store : ArtifactStore} {inventory : Inventory}
    (h : Inventoried store.roots.entries inventory) {a : ArtifactId} {verified : VerifiedArtifact}
    (ha : inventory.get? a = some verified) :
    verified.descriptor.artifactId = a ∧ ∃ candidate,
      store.roots.get? verified.root = some candidate ∧
      candidate.verified = some verified.descriptor ∧
      verified = candidate.artifact verified.root verified.descriptor := by
  obtain ⟨e, he, descriptor, hv, hid, rfl⟩ := h.real a verified ha
  exact ⟨hid, e.2, Dict.get?_eq_some_iff.mpr he, hv, rfl⟩

/-! ## Closure -/

omit [RetentionDigest] in
theorem closure_eq_ok {roots result : List ArtifactId} {inventory : Inventory}
    (h : closure roots inventory = .ok result) :
    (∀ a, a ∈ result ↔ ∃ root ∈ roots, Closure.Reaches inventory VerifiedArtifact.inputs root a) ∧
    ∀ a ∈ result, ∃ verified, inventory.get? a = some verified := by
  rw [closure] at h
  split at h
  · rename_i visited hwalk
    obtain rfl := Except.ok.inj h
    have hmem : ∀ a, a ∈ visited.insertionSort (· ≤ ·) ↔
        ∃ root ∈ roots, Closure.Reaches inventory VerifiedArtifact.inputs root a := fun a => by
      rw [List.mem_insertionSort, Closure.mem_walk_iff hwalk]
    refine ⟨hmem, fun a ha => ?_⟩
    obtain ⟨root, hroot, hr⟩ := (hmem a).mp ha
    exact Closure.walk_returns_iff.mp ⟨visited, hwalk⟩ root hroot a hr
  · cases h

/-! ## Plans -/

/-- The artifacts a collection starts to mark from. -/
def MarkRoot (inventory : Inventory) (pins : List PinRecord) (retainedRoots : List ArtifactId)
    (policy : GarbageCollectionPolicy) (nowNs : Nat) (a : ArtifactId) : Prop :=
  a ∈ retainedRoots ∨ (∃ pin ∈ pins, a ∈ pin.roots) ∨
    ∃ verified, inventory.get? a = some verified ∧
      verified.ageNs nowNs < (policy.minimumArtifactAgeNs : Int)

/-- The artifacts nothing may sweep: what a root of the marking was made from, the root itself
among them. -/
def Marked (inventory : Inventory) (pins : List PinRecord) (retainedRoots : List ArtifactId)
    (policy : GarbageCollectionPolicy) (nowNs : Nat) (a : ArtifactId) : Prop :=
  ∃ root, MarkRoot inventory pins retainedRoots policy nowNs root ∧
    Closure.Reaches inventory VerifiedArtifact.inputs root a

/-- An inventory with its artifacts under their own identities. -/
def Keyed (inventory : Inventory) : Prop :=
  ∀ a verified, inventory.get? a = some verified → verified.descriptor.artifactId = a

theorem Inventoried.keyed {store : ArtifactStore} {inventory : Inventory}
    (h : Inventoried store.roots.entries inventory) : Keyed inventory :=
  fun _ _ ha => (h.at_root ha).1

omit [RetentionDigest] in
theorem mem_youngArtifacts {inventory : Inventory} (hkeyed : Keyed inventory)
    {policy : GarbageCollectionPolicy} {nowNs : Nat} {a : ArtifactId} :
    a ∈ youngArtifacts inventory policy nowNs ↔ ∃ verified, inventory.get? a = some verified ∧
      verified.ageNs nowNs < (policy.minimumArtifactAgeNs : Int) := by
  rw [youngArtifacts, List.mem_map]
  constructor
  · rintro ⟨⟨b, verified⟩, hmem, rfl⟩
    obtain ⟨hentry, hyoung⟩ := List.mem_filter.mp hmem
    have hget := Dict.get?_eq_some_iff.mpr hentry
    exact ⟨verified, (hkeyed b verified hget).symm ▸ hget, of_decide_eq_true hyoung⟩
  · rintro ⟨verified, hget, hyoung⟩
    exact ⟨(a, verified), List.mem_filter.mpr
      ⟨Dict.get?_eq_some_iff.mp hget, decide_eq_true hyoung⟩, hkeyed a verified hget⟩

/-- What a plan has checked and selected. -/
structure PlanSpec (inventory : Inventory) (pins : List PinRecord)
    (retainedRoots : List ArtifactId) (policy : GarbageCollectionPolicy) (nowNs : Nat)
    (plan : GarbageCollectionPlan) (isProtected : List ArtifactId) : Prop where
  pinned : ∀ pin ∈ pins, closure pin.roots inventory = .ok pin.transitiveClosure
  protected_iff : ∀ a, a ∈ isProtected ↔ Marked inventory pins retainedRoots policy nowNs a
  present : ∀ a ∈ isProtected, ∃ verified, inventory.get? a = some verified
  candidates : plan.candidates =
    selectCandidates isProtected policy nowNs (sortedInventory inventory) 0
  retained : plan.retainedRoots = retainedRoots
  policy_eq : plan.policy = policy
  planned : plan.plannedAtNs = nowNs

theorem planFrom_spec {inventory : Inventory} {pins : List PinRecord}
    {retainedRoots : List ArtifactId} {policy : GarbageCollectionPolicy} {nowNs : Nat}
    {plan : GarbageCollectionPlan} (hkeyed : Keyed inventory)
    (h : planFrom inventory pins retainedRoots policy nowNs = .ok plan) :
    ∃ isProtected, PlanSpec inventory pins retainedRoots policy nowNs plan isProtected := by
  rw [planFrom] at h
  obtain ⟨hpins, h⟩ := check_bind_eq_ok.mp h
  obtain ⟨isProtected, hclosure, h⟩ := bind_eq_ok.mp h
  obtain rfl := Except.ok.inj h
  obtain ⟨hmem, hpresent⟩ := closure_eq_ok hclosure
  refine ⟨isProtected, ?_, ?_, hpresent, rfl, rfl, rfl, rfl⟩
  · intro pin hpin
    have hpin := forM_eq_ok hpins pin hpin
    rw [checkPin] at hpin
    obtain ⟨actual, hactual, hpin⟩ := bind_eq_ok.mp hpin
    rw [refuseIf_eq_ok, ne_eq, not_not] at hpin
    rw [hactual, hpin]
  · intro a
    rw [hmem]
    constructor
    · rintro ⟨root, hroot, hr⟩
      refine ⟨root, ?_, hr⟩
      rw [mem_artifactIds, List.mem_append, List.mem_append, mem_artifactIds,
        List.mem_flatMap, mem_youngArtifacts hkeyed] at hroot
      exact or_assoc.mp hroot
    · rintro ⟨root, hroot, hr⟩
      refine ⟨root, ?_, hr⟩
      rw [mem_artifactIds, List.mem_append, List.mem_append, mem_artifactIds,
        List.mem_flatMap, mem_youngArtifacts hkeyed]
      exact or_assoc.mpr hroot

/-! ## Selection -/

omit [RetentionDigest]

/-- The bytes of an inventoried artifact. -/
def inventoriedBytes (inventory : Inventory) (a : ArtifactId) : Nat :=
  ((inventory.get? a).map VerifiedArtifact.sizeBytes).getD 0

/-- An artifact a plan may select: unprotected and old enough. -/
def Selectable (isProtected : List ArtifactId) (policy : GarbageCollectionPolicy) (nowNs : Nat)
    (e : ArtifactId × VerifiedArtifact) : Prop :=
  e.1 ∉ isProtected ∧ ¬ e.2.ageNs nowNs < (policy.minimumArtifactAgeNs : Int)

instance (isProtected : List ArtifactId) (policy : GarbageCollectionPolicy) (nowNs : Nat)
    (e : ArtifactId × VerifiedArtifact) : Decidable (Selectable isProtected policy nowNs e) :=
  inferInstanceAs (Decidable (_ ∧ _))

/-- The selection of a plan is the loop of the first fit over what it may select. -/
theorem map_selectCandidates {w : ArtifactId → Nat} {isProtected : List ArtifactId}
    {policy : GarbageCollectionPolicy} {nowNs : Nat}
    {entries : List (ArtifactId × VerifiedArtifact)} (used : Nat)
    (hentries : ∀ e ∈ entries, e.2.descriptor.artifactId = e.1 ∧ w e.1 = e.2.sizeBytes) :
    (selectCandidates isProtected policy nowNs entries used).map (·.artifactId) =
      FirstFit.take w policy.maximumSweepBytes
        ((entries.filter (Selectable isProtected policy nowNs ·)).map Prod.fst) used := by
  induction entries generalizing used with
  | nil => rfl
  | cons e rest ih =>
    obtain ⟨a, verified⟩ := e
    obtain ⟨hid, hw⟩ := hentries (a, verified) List.mem_cons_self
    have ih := fun u => ih u fun e he => hentries e (List.mem_cons_of_mem _ he)
    rw [selectCandidates]
    by_cases hprotected : a ∈ isProtected
    · rw [if_pos hprotected, List.filter_cons_of_neg (by simp [Selectable, hprotected]), ih]
    · rw [if_neg hprotected]
      by_cases hyoung : verified.ageNs nowNs < (policy.minimumArtifactAgeNs : Int)
      · rw [if_pos hyoung, List.filter_cons_of_neg (by simp [Selectable, hyoung]), ih]
      · rw [if_neg hyoung, List.filter_cons_of_pos (by simp [Selectable, hprotected, hyoung]),
          List.map_cons, FirstFit.take, hw]
        by_cases hover : policy.maximumSweepBytes < used + verified.sizeBytes
        · rw [if_pos hover, if_pos hover, ih]
        · rw [if_neg hover, if_neg hover, List.map_cons, ih]
          exact congrArg (· :: _) hid

/-- A selected candidate is the candidate of an artifact the plan may select. -/
theorem mem_selectCandidates {isProtected : List ArtifactId} {policy : GarbageCollectionPolicy}
    {nowNs : Nat} {entries : List (ArtifactId × VerifiedArtifact)} {used : Nat}
    {candidate : GarbageCollectionCandidate}
    (h : candidate ∈ selectCandidates isProtected policy nowNs entries used) :
    ∃ e ∈ entries, Selectable isProtected policy nowNs e ∧ candidate = e.2.candidate := by
  induction entries generalizing used with
  | nil => cases h
  | cons e rest ih =>
    obtain ⟨a, verified⟩ := e
    have hrest : ∀ u, candidate ∈ selectCandidates isProtected policy nowNs rest u →
        ∃ e ∈ (a, verified) :: rest, Selectable isProtected policy nowNs e ∧
          candidate = e.2.candidate := by
      intro u hu
      obtain ⟨e, he, hspec⟩ := ih hu
      exact ⟨e, List.mem_cons_of_mem _ he, hspec⟩
    rw [selectCandidates] at h
    split at h
    · exact hrest _ h
    · rename_i hprotected
      split at h
      · exact hrest _ h
      · rename_i hold
        split at h
        · exact hrest _ h
        · rcases List.mem_cons.mp h with rfl | h
          · exact ⟨(a, verified), List.mem_cons_self, ⟨hprotected, hold⟩, rfl⟩
          · exact hrest _ h

theorem mem_sortedInventory {inventory : Inventory} {e : ArtifactId × VerifiedArtifact} :
    e ∈ sortedInventory inventory ↔ inventory.get? e.1 = some e.2 := by
  rw [sortedInventory, List.mem_insertionSort, Dict.get?_eq_some_iff]

theorem pairwise_sortedInventory (inventory : Inventory) :
    (sortedInventory inventory).Pairwise fun a b => a.1 < b.1 := by
  have hnodup : ((sortedInventory inventory).map Prod.fst).Nodup :=
    ((List.perm_insertionSort _ _).map Prod.fst).nodup_iff.mpr inventory.nodup
  have hsorted : (sortedInventory inventory).Pairwise fun a b => a.1 ≤ b.1 :=
    List.pairwise_insertionSort _ _
  exact (hsorted.and (List.pairwise_map.mp hnodup)).imp fun h => lt_of_le_of_ne h.1 h.2

open Classical in
/-- What a collection may sweep: the inventoried artifacts no marking reaches. -/
noncomputable def unmarked (inventory : Inventory) (pins : List PinRecord)
    (retainedRoots : List ArtifactId) (policy : GarbageCollectionPolicy) (nowNs : Nat) :
    Finset ArtifactId :=
  inventory.keys.toFinset.filter fun a => ¬ Marked inventory pins retainedRoots policy nowNs a

open Classical in
theorem mem_unmarked {inventory : Inventory} {pins : List PinRecord}
    {retainedRoots : List ArtifactId} {policy : GarbageCollectionPolicy} {nowNs : Nat}
    {a : ArtifactId} : a ∈ unmarked inventory pins retainedRoots policy nowNs ↔
      (∃ verified, inventory.get? a = some verified) ∧
        ¬ Marked inventory pins retainedRoots policy nowNs a := by
  rw [unmarked, Finset.mem_filter, List.mem_toFinset]
  refine and_congr_left fun _ => ?_
  rw [← not_iff_not, ← Dict.get?_eq_none_iff, ← Option.ne_none_iff_exists', not_not]

/-- An artifact that is too young is marked. -/
theorem marked_of_young {inventory : Inventory} {pins : List PinRecord}
    {retainedRoots : List ArtifactId} {policy : GarbageCollectionPolicy} {nowNs : Nat}
    {a : ArtifactId} {verified : VerifiedArtifact} (ha : inventory.get? a = some verified)
    (hyoung : verified.ageNs nowNs < (policy.minimumArtifactAgeNs : Int)) :
    Marked inventory pins retainedRoots policy nowNs a :=
  ⟨a, .inr (.inr ⟨verified, ha, hyoung⟩), Relation.ReflTransGen.refl⟩

theorem PlanSpec.selectable_iff {inventory : Inventory} {pins : List PinRecord}
    {retainedRoots : List ArtifactId} {policy : GarbageCollectionPolicy} {nowNs : Nat}
    {plan : GarbageCollectionPlan} {isProtected : List ArtifactId}
    (h : PlanSpec inventory pins retainedRoots policy nowNs plan isProtected)
    {e : ArtifactId × VerifiedArtifact} (he : inventory.get? e.1 = some e.2) :
    Selectable isProtected policy nowNs e ↔
      ¬ Marked inventory pins retainedRoots policy nowNs e.1 := by
  rw [Selectable, h.protected_iff]
  exact ⟨And.left, fun hn => ⟨hn, fun hyoung => hn (marked_of_young he hyoung)⟩⟩

/-- **A plan selects by first fit among the artifacts no marking reaches.** -/
theorem PlanSpec.isFirstFit {inventory : Inventory} {pins : List PinRecord}
    {retainedRoots : List ArtifactId} {policy : GarbageCollectionPolicy} {nowNs : Nat}
    {plan : GarbageCollectionPlan} {isProtected : List ArtifactId} (hkeyed : Keyed inventory)
    (h : PlanSpec inventory pins retainedRoots policy nowNs plan isProtected) :
    FirstFit.IsFirstFit (inventoriedBytes inventory) policy.maximumSweepBytes
      (unmarked inventory pins retainedRoots policy nowNs)
      (plan.candidates.map (·.artifactId)).toFinset := by
  have hentries : ∀ e ∈ sortedInventory inventory,
      e.2.descriptor.artifactId = e.1 ∧ inventoriedBytes inventory e.1 = e.2.sizeBytes := by
    intro e he
    have hget := mem_sortedInventory.mp he
    exact ⟨hkeyed _ _ hget, by rw [inventoriedBytes, hget]; rfl⟩
  have hsorted : (((sortedInventory inventory).filter
      (Selectable isProtected policy nowNs ·)).map Prod.fst).Pairwise (· < ·) :=
    List.pairwise_map.mpr ((pairwise_sortedInventory inventory).filter _)
  have hoffered : (((sortedInventory inventory).filter
      (Selectable isProtected policy nowNs ·)).map Prod.fst).toFinset
        = unmarked inventory pins retainedRoots policy nowNs := by
    ext a
    rw [List.mem_toFinset, List.mem_map, mem_unmarked]
    constructor
    · rintro ⟨e, he, rfl⟩
      obtain ⟨hmem, hsel⟩ := List.mem_filter.mp he
      have hget := mem_sortedInventory.mp hmem
      exact ⟨⟨e.2, hget⟩, (h.selectable_iff hget).mp (of_decide_eq_true hsel)⟩
    · rintro ⟨⟨verified, hget⟩, hn⟩
      exact ⟨(a, verified), List.mem_filter.mpr ⟨mem_sortedInventory.mpr hget,
        decide_eq_true ((h.selectable_iff hget).mpr hn)⟩, rfl⟩
  rw [h.candidates, map_selectCandidates 0 hentries, ← hoffered]
  exact FirstFit.take_isFirstFit hsorted

/-- A planned candidate is that of an inventoried artifact no marking reaches. -/
theorem PlanSpec.of_candidate {inventory : Inventory} {pins : List PinRecord}
    {retainedRoots : List ArtifactId} {policy : GarbageCollectionPolicy} {nowNs : Nat}
    {plan : GarbageCollectionPlan} {isProtected : List ArtifactId}
    (h : PlanSpec inventory pins retainedRoots policy nowNs plan isProtected)
    {candidate : GarbageCollectionCandidate} (hc : candidate ∈ plan.candidates) :
    ∃ a verified, inventory.get? a = some verified ∧ candidate = verified.candidate ∧
      ¬ Marked inventory pins retainedRoots policy nowNs a := by
  rw [h.candidates] at hc
  obtain ⟨e, he, hsel, rfl⟩ := mem_selectCandidates hc
  have hget := mem_sortedInventory.mp he
  exact ⟨e.1, e.2, hget, rfl, (h.selectable_iff hget).mp hsel⟩

/-- The selection keeps the order of the inventory. -/
theorem sublist_selectCandidates (isProtected : List ArtifactId) (policy : GarbageCollectionPolicy)
    (nowNs : Nat) (entries : List (ArtifactId × VerifiedArtifact)) (used : Nat) :
    List.Sublist (selectCandidates isProtected policy nowNs entries used)
      (entries.map fun e => e.2.candidate) := by
  induction entries generalizing used with
  | nil => exact List.Sublist.refl _
  | cons e rest ih =>
    rw [selectCandidates, List.map_cons]
    split
    · exact (ih _).cons _
    · split
      · exact (ih _).cons _
      · split
        · exact (ih _).cons _
        · exact (ih _).cons_cons _

/-- The candidates of a plan are distinct artifacts of its inventory. -/
theorem PlanSpec.candidates_listed {inventory : Inventory} {pins : List PinRecord}
    {retainedRoots : List ArtifactId} {policy : GarbageCollectionPolicy} {nowNs : Nat}
    {plan : GarbageCollectionPlan} {isProtected : List ArtifactId} (hkeyed : Keyed inventory)
    (h : PlanSpec inventory pins retainedRoots policy nowNs plan isProtected) :
    (plan.candidates.map (·.artifactId)).Nodup ∧ ∀ c ∈ plan.candidates, ∃ verified,
      inventory.get? c.artifactId = some verified ∧ c = verified.candidate := by
  constructor
  · have hsub := (sublist_selectCandidates isProtected policy nowNs (sortedInventory inventory)
      0).map (·.artifactId)
    rw [← h.candidates, List.map_map] at hsub
    refine hsub.nodup ?_
    have hids : (sortedInventory inventory).map
        ((fun c : GarbageCollectionCandidate => c.artifactId) ∘ fun e => e.2.candidate)
          = (sortedInventory inventory).map Prod.fst := by
      refine List.map_congr_left fun e he => ?_
      exact hkeyed _ _ (mem_sortedInventory.mp he)
    rw [hids]
    exact ((List.perm_insertionSort _ _).map Prod.fst).nodup_iff.mpr inventory.nodup
  · intro c hc
    obtain ⟨a, verified, hget, rfl, -⟩ := h.of_candidate hc
    refine ⟨verified, ?_, rfl⟩
    rw [show verified.candidate.artifactId = a from hkeyed a verified hget]
    exact hget

end Artifacts

end OnchainBacktest
