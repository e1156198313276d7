import OnchainBacktest.Artifacts.RetentionSystem
import OnchainBacktest.Artifacts.SweepLineage

/-!
# What a collection never takes

Whatever the clients of the store do between a plan and its execution, an execution that goes
through takes none of what an active pin, a retained root or an open lease leads to, nothing that
was committed after the plan, and nothing that is too young (`collection_safe`).  An execution is
refused just when what its plan rests on no longer holds, and that is before it moves anything
(`executeGarbageCollection_returns_iff`).
-/

set_option autoImplicit false

namespace OnchainBacktest

namespace Artifacts

open Checked

/-! ## The moves do not fail -/

/-- Two artifacts of an inventory stand in two directories. -/
def Apart (inventory : Inventory) : Prop :=
  ∀ a b v w, inventory.get? a = some v → inventory.get? b = some w → v.root = w.root → a = b

/-- Moving distinct candidates of an inventory whose directories are all there goes through. -/
theorem moves_return {inventory : Inventory} (hapart : Apart inventory)
    {candidates : List GarbageCollectionCandidate}
    (hnodup : (candidates.map (·.artifactId)).Nodup)
    (hlisted : ∀ c ∈ candidates, ∃ verified, inventory.get? c.artifactId = some verified ∧
      c = verified.candidate)
    (state : Dict String CandidateRoot × List BatchItem × Dict ArtifactId ArtifactTree)
    (hthere : ∀ c ∈ candidates, ∀ verified, inventory.get? c.artifactId = some verified →
      ∃ moved, state.1.get? verified.root = some moved) :
    ∃ state', candidates.foldlM (moveCandidate inventory) state = .ok state' := by
  induction candidates generalizing state with
  | nil => exact ⟨state, rfl⟩
  | cons c rest ih =>
    rw [List.map_cons, List.nodup_cons] at hnodup
    obtain ⟨verified, hget, hsame⟩ := hlisted c List.mem_cons_self
    obtain ⟨moved, hmoved⟩ := hthere c List.mem_cons_self verified hget
    rw [List.foldlM_cons, moveCandidate_eq_ok.mpr ⟨verified, moved, hget, hsame, hmoved, rfl⟩,
      ok_bind]
    refine ih hnodup.2 (fun c' hc' => hlisted c' (List.mem_cons_of_mem _ hc')) _ ?_
    intro c' hc' verified' hget'
    obtain ⟨moved', hmoved'⟩ := hthere c' (List.mem_cons_of_mem _ hc') verified' hget'
    refine ⟨moved', ?_⟩
    have hne : verified'.root ≠ verified.root := by
      intro hroot
      refine hnodup.1 (List.mem_map.mpr ⟨c', hc', ?_⟩)
      exact hapart _ _ _ _ hget' hget hroot
    rw [Dict.get?_erase_of_ne _ hne]
    exact hmoved'

section

variable [RetentionDigest]

theorem Inventoried.apart {store : ArtifactStore} {inventory : Inventory}
    (h : Inventoried store.roots.entries inventory) : Apart inventory := by
  intro a b v w ha hb hroot
  obtain ⟨hida, ca, hca, hva, -⟩ := h.at_root ha
  obtain ⟨hidb, cb, hcb, hvb, -⟩ := h.at_root hb
  rw [hroot] at hca
  obtain rfl := Option.some.inj (hca.symm.trans hcb)
  rw [← hida, Option.some.inj (hva.symm.trans hvb), hidb]

/-! ## When an execution goes through -/

/-- What a plan rests on still holds in a store: its dry run comes out the same. -/
structure PlanHolds (store : ArtifactStore) (plan : GarbageCollectionPlan) (nowNs : Nat) :
    Prop where
  not_early : plan.plannedAtNs ≤ nowNs
  repeated : ∃ refreshed,
    store.planLocked plan.retainedRoots plan.policy plan.plannedAtNs = .ok refreshed ∧
    refreshed.planId = plan.planId ∧ refreshed.candidates = plan.candidates ∧
    refreshed.pinnedRoots = plan.pinnedRoots
  unused : store.batches.get? (recordDigest (.batch nowNs plan.planId)) = none

/-- **An execution goes through just when what its plan rests on still holds**: once the checks have
passed no move fails. -/
theorem executeGarbageCollection_returns_iff {store : ArtifactStore} {plan : GarbageCollectionPlan}
    {nowNs : Nat} : (∃ store' manifest,
      store.executeGarbageCollection plan nowNs = .ok (store', manifest)) ↔
        PlanHolds store plan nowNs := by
  constructor
  · rintro ⟨store', manifest, h⟩
    rw [ArtifactStore.executeGarbageCollection] at h
    obtain ⟨hearly, h⟩ := check_bind_eq_ok.mp h
    obtain ⟨refreshed, hrefreshed, h⟩ := bind_eq_ok.mp h
    obtain ⟨hstale, h⟩ := check_bind_eq_ok.mp h
    obtain ⟨inventory, hinventory, h⟩ := bind_eq_ok.mp h
    obtain ⟨hunused, -⟩ := check_bind_eq_ok.mp h
    rw [refuseIf_eq_ok] at hearly hstale hunused
    simp only [not_or, ne_eq, not_not] at hstale
    exact ⟨not_lt.mp hearly, ⟨refreshed, hrefreshed, hstale⟩, by simpa using hunused⟩
  · intro h
    obtain ⟨refreshed, hrefreshed, hid, hcandidates, hpinned⟩ := h.repeated
    have hplanned := hrefreshed
    rw [ArtifactStore.planLocked] at hplanned
    obtain ⟨inventory, hinventory, hplanned⟩ := bind_eq_ok.mp hplanned
    have hspec := verifiedInventory_spec hinventory
    obtain ⟨isProtected, hplan⟩ := planFrom_spec hspec.keyed hplanned
    obtain ⟨hnodup, hlisted⟩ := hplan.candidates_listed hspec.keyed
    rw [hcandidates] at hnodup hlisted
    obtain ⟨⟨roots, artifacts, trees⟩, hmoved⟩ := moves_return hspec.apart hnodup hlisted
      (store.roots, [], Dict.empty) (fun c _ verified hget => by
        obtain ⟨-, candidate, hroot, -⟩ := hspec.at_root hget
        exact ⟨candidate, hroot⟩)
    rw [ArtifactStore.executeGarbageCollection, refuseIf_of_not (not_lt.mpr h.not_early), ok_bind,
      hrefreshed, ok_bind, refuseIf_of_not (by simp [hid, hcandidates, hpinned]), ok_bind,
      hinventory, ok_bind]
    dsimp only
    rw [refuseIf_of_not (by simp [h.unused]), ok_bind, hmoved]
    exact ⟨_, _, rfl⟩

/-- An execution of a plan that was asked for while some client works goes through just when no
client holds the retention lock and what the plan rests on still holds. -/
theorem execute_returns_iff {s : RetentionState} {plan : GarbageCollectionPlan} {nowNs : Nat} :
    (∃ s' manifest, s.execute plan nowNs = .ok (s', manifest)) ↔
      ¬ s.HeldShared ∧ PlanHolds s.store plan nowNs := by
  rw [RetentionState.execute, ← executeGarbageCollection_returns_iff]
  by_cases hearly : nowNs < plan.plannedAtNs
  · rw [if_pos hearly]
    refine iff_of_false (by simp) ?_
    rintro ⟨-, hreturns⟩
    exact absurd hearly (not_lt.mpr (executeGarbageCollection_returns_iff.mp hreturns).not_early)
  · rw [if_neg hearly]
    by_cases hheld : s.HeldShared
    · rw [if_pos hheld]
      exact iff_of_false (by simp) fun h => h.1 hheld
    · rw [if_neg hheld]
      cases hrun : s.store.executeGarbageCollection plan nowNs with
      | error fault => exact iff_of_false (by simp) (by simp)
      | ok result => exact iff_of_true ⟨_, _, rfl⟩ ⟨hheld, result.1, result.2, rfl⟩

theorem execute_eq_ok {s s' : RetentionState} {plan : GarbageCollectionPlan} {nowNs : Nat}
    {manifest : BatchManifest} (h : s.execute plan nowNs = .ok (s', manifest)) :
    ¬ s.HeldShared ∧ s' = { s with store := s'.store } ∧
      s.store.executeGarbageCollection plan nowNs = .ok (s'.store, manifest) := by
  rw [RetentionState.execute] at h
  split at h
  · cases h
  · split at h
    · cases h
    · rename_i hheld
      split at h
      · cases h
      · rename_i store' manifest' hrun
        cases h
        exact ⟨hheld, rfl, hrun⟩

/-! ## What holds in every reachable state -/

/-- The books of a state: every committed artifact is in the log of commits, whose times increase;
what a dry run has read and what a plan would sweep was committed before; and a lease has opened
its roots or has them still to open. -/
structure RetentionSound (s : RetentionState) : Prop where
  logged : ∀ root candidate descriptor, s.store.roots.get? root = some candidate →
    candidate.verified = some descriptor →
      ⟨descriptor.artifactId, candidate.committedAtNs⟩ ∈ s.commits
  ordered : s.commits.Pairwise fun c d => c.committedAtNs < d.committedAtNs
  leased : ∀ lease ∈ s.leases, lease.roots ≠ [] ∧
    ∀ root ∈ lease.roots, root ∈ lease.pending ∨ ∃ handle, lease.handles.get? root = some handle
  read : ∀ planner ∈ s.planners, Keyed planner.inventory ∧ ∀ a verified,
    planner.inventory.get? a = some verified → ⟨a, verified.committedAtNs⟩ ∈ s.commits
  planned : ∀ made ∈ s.plans, made.commitsBefore ≤ s.commits.length ∧
    ∀ c ∈ made.plan.candidates,
      ⟨c.artifactId, c.committedAtNs⟩ ∈ s.commits.take made.commitsBefore

omit [RetentionDigest] in
theorem start_sound : RetentionSound RetentionState.start where
  logged := fun _ _ _ h => by cases h
  ordered := List.Pairwise.nil
  leased := fun _ h => absurd h List.not_mem_nil
  read := fun _ h => absurd h List.not_mem_nil
  planned := fun _ h => absurd h List.not_mem_nil

/-! ## What one step preserves -/

/-- A verified directory of a store is there under another one, or is the staged one. -/
def VerifiedFrom (store store' : ArtifactStore) : Prop :=
  ∀ root candidate descriptor, store'.roots.get? root = some candidate →
    candidate.verified = some descriptor → ∃ root' candidate',
      store.roots.get? root' = some candidate' ∧ candidate'.verified = some descriptor ∧
      candidate'.committedAtNs = candidate.committedAtNs

omit [RetentionDigest] in
theorem verifiedFrom_of_roots {store store' : ArtifactStore} (h : store'.roots = store.roots) :
    VerifiedFrom store store' := by
  intro root candidate descriptor hroot hverified
  exact ⟨root, candidate, h ▸ hroot, hverified, rfl⟩

omit [RetentionDigest] in
/-- Whatever happens to the store, as long as nothing new is committed. -/
theorem RetentionSound.store {s : RetentionState} (h : RetentionSound s) {store' : ArtifactStore}
    (hfrom : VerifiedFrom s.store store') : RetentionSound { s with store := store' } where
  logged := by
    intro root candidate descriptor hroot hverified
    obtain ⟨root', candidate', hroot', hverified', htime⟩ :=
      hfrom root candidate descriptor hroot hverified
    rw [← htime]
    exact h.logged root' candidate' descriptor hroot' hverified'
  ordered := h.ordered
  leased := h.leased
  read := h.read
  planned := h.planned

omit [RetentionDigest] in
/-- One more commit, later than all before. -/
theorem RetentionSound.committed {s : RetentionState} (h : RetentionSound s)
    {finalRoot : String} {tree : ArtifactTree} {committedAtNs : Nat} {committed : CommittedArtifact}
    (hclock : ∀ commit ∈ s.commits, commit.committedAtNs < committedAtNs) :
    RetentionSound (s.committed
      { s.store with
        roots := s.store.roots.set finalRoot (stagedRoot tree committedAtNs committed) }
      committed committedAtNs) where
  logged := by
    intro root candidate descriptor hroot hverified
    rw [RetentionState.committed, List.mem_append]
    rw [RetentionState.committed, Dict.get?_set] at hroot
    split at hroot
    · obtain rfl := Option.some.inj hroot
      obtain rfl := Option.some.inj hverified
      exact .inr (List.mem_singleton.mpr rfl)
    · exact .inl (h.logged root candidate descriptor hroot hverified)
  ordered := by
    refine List.pairwise_append.mpr ⟨h.ordered, List.pairwise_singleton _ _, ?_⟩
    intro c hc d hd
    obtain rfl := List.mem_singleton.mp hd
    exact hclock c hc
  leased := h.leased
  read := by
    intro planner hplanner
    obtain ⟨hkeyed, hread⟩ := h.read planner hplanner
    exact ⟨hkeyed, fun a verified ha => List.mem_append_left _ (hread a verified ha)⟩
  planned := by
    intro made hmade
    obtain ⟨hbefore, hcandidates⟩ := h.planned made hmade
    rw [RetentionState.committed, List.length_append]
    refine ⟨Nat.le_add_right_of_le hbefore, fun c hc => ?_⟩
    rw [List.take_append_of_le_length hbefore]
    exact hcandidates c hc

theorem publish_installed {store store' : ArtifactStore} {finalRoot : String} {tree : ArtifactTree}
    {committedAtNs : Nat} {committed : CommittedArtifact}
    (h : store.publish finalRoot tree committedAtNs committed = .ok (.installed store')) :
    store' = { store with
      roots := store.roots.set finalRoot (stagedRoot tree committedAtNs committed) } := by
  rw [ArtifactStore.publish] at h
  obtain ⟨-, h⟩ := check_bind_eq_ok.mp h
  split at h
  · cases h
    rfl
  · split at h
    · cases h
    · split at h
      · cases h
      · cases h

theorem resolveExistingPath_installed {store store' : ArtifactStore} {finalRoot : String}
    {tree : ArtifactTree} {committedAtNs : Nat} {committed : CommittedArtifact}
    (h : store.resolveExistingPath finalRoot tree committedAtNs committed
      = .ok (.installed store')) :
    store' = { store with
      roots := store.roots.set finalRoot (stagedRoot tree committedAtNs committed) } := by
  rw [ArtifactStore.resolveExistingPath] at h
  obtain ⟨-, h⟩ := check_bind_eq_ok.mp h
  split at h
  · cases h
    rfl
  · split at h
    · cases h
      rfl
    · split at h
      · cases h
      · cases h

theorem resolveExistingPath_conflict {store store' : ArtifactStore} {finalRoot : String}
    {tree : ArtifactTree} {committedAtNs : Nat} {committed : CommittedArtifact}
    (h : store.resolveExistingPath finalRoot tree committedAtNs committed
      = .ok (.conflict store')) :
    store' = { store with roots := store.roots.erase finalRoot } := by
  rw [ArtifactStore.resolveExistingPath] at h
  obtain ⟨-, h⟩ := check_bind_eq_ok.mp h
  split at h
  · cases h
  · split at h
    · cases h
    · split at h
      · cases h
      · cases h
        rfl

omit [RetentionDigest] in
theorem publishPin_roots {store store' : ArtifactStore} {pin : PinRecord}
    (h : store.publishPin pin = .ok store') : store'.roots = store.roots := by
  rw [ArtifactStore.publishPin] at h
  obtain ⟨-, h⟩ := check_bind_eq_ok.mp h
  split at h
  · cases h
    rfl
  · obtain ⟨-, h⟩ := check_bind_eq_ok.mp h
    cases h
    rfl

omit [RetentionDigest] in
theorem retirePin_roots {store store' : ArtifactStore} {pinId : Identifier}
    (h : store.retirePin pinId = .ok store') : store'.roots = store.roots := by
  rw [ArtifactStore.retirePin] at h
  split at h
  · split at h
    · cases h
      rfl
    · cases h
  · obtain ⟨-, h⟩ := check_bind_eq_ok.mp h
    cases h
    rfl

/-- Opening the next artifact keeps the roots opened or still to open. -/
theorem openNext_roots {store : ArtifactStore} {lease lease' : Lease}
    (h : lease.openNext store = .ok lease') : lease'.roots = lease.roots ∧ ∀ root : ArtifactId,
      (root ∈ lease.pending ∨ ∃ handle, lease.handles.get? root = some handle) →
        root ∈ lease'.pending ∨ ∃ handle, lease'.handles.get? root = some handle := by
  rw [Lease.openNext] at h
  split at h
  · cases h
    exact ⟨rfl, fun _ h => h⟩
  · rename_i artifactId pending hpending
    split at h
    · rename_i hopened
      cases h
      refine ⟨rfl, fun root hroot => ?_⟩
      rcases hroot with hroot | hroot
      · rw [hpending] at hroot
        rcases List.mem_cons.mp hroot with rfl | hroot
        · exact .inr (Option.ne_none_iff_exists'.mp hopened)
        · exact .inl hroot
      · exact .inr hroot
    · rename_i hnew
      obtain ⟨verified, -, h⟩ := bind_eq_ok.mp h
      cases h
      refine ⟨rfl, fun root hroot => ?_⟩
      dsimp only
      rw [Dict.get?_set]
      by_cases hsame : root = artifactId
      · rw [if_pos hsame]
        exact .inr ⟨verified, rfl⟩
      · rw [if_neg hsame]
        rw [hpending] at hroot
        rcases hroot with hroot | hroot
        · rcases List.mem_cons.mp hroot with heq | hroot
          · exact absurd heq hsame
          · exact .inl (List.mem_append_right _ hroot)
        · exact .inr hroot

/-- **Every step keeps the books.** -/
theorem RetentionStep.sound {s s' : RetentionState} (hstep : RetentionStep s s')
    (h : RetentionSound s) : RetentionSound s' := by
  cases hstep with
  | leaseAsked leaseId roots hroots =>
    refine { h with leased := fun lease hlease => ?_ }
    rcases List.mem_append.mp hlease with hlease | hlease
    · exact h.leased lease hlease
    · obtain rfl := List.mem_singleton.mp hlease
      obtain ⟨root, hroot⟩ := List.exists_mem_of_ne_nil roots hroots
      exact ⟨List.ne_nil_of_mem (mem_artifactIds.mpr hroot), fun _ hroot => .inl hroot⟩
  | @leaseOpensNext before after lease lease' hlease hnext =>
    refine { h with leased := fun other hother => ?_ }
    rcases List.mem_append.mp hother with hother | hother
    · exact h.leased other (hlease ▸ List.mem_append_left _ hother)
    · rcases List.mem_cons.mp hother with rfl | hother
      · obtain ⟨hnonempty, hopened⟩ := h.leased lease
          (hlease ▸ List.mem_append_right _ List.mem_cons_self)
        obtain ⟨hroots, hnext⟩ := openNext_roots hnext
        rw [hroots]
        exact ⟨hnonempty, fun root hroot => hnext root (hopened root hroot)⟩
      · exact h.leased other
          (hlease ▸ List.mem_append_right _ (List.mem_cons_of_mem _ hother))
  | @leaseCloses before after lease hlease =>
    refine { h with leased := fun other hother => h.leased other (hlease ▸ ?_) }
    rcases List.mem_append.mp hother with hother | hother
    · exact List.mem_append_left _ hother
    · exact List.mem_append_right _ (List.mem_cons_of_mem _ hother)
  | pinCreated hlease hopen hid hpin hpublished =>
    exact h.store (verifiedFrom_of_roots (publishPin_roots hpublished))
  | pinRetired hretired => exact h.store (verifiedFrom_of_roots (retirePin_roots hretired))
  | published hclock hinstalled =>
    rw [publish_installed hinstalled]
    exact h.committed hclock
  | publishedExclusive hlock hclock hinstalled =>
    rw [resolveExistingPath_installed hinstalled]
    exact h.committed hclock
  | @quarantined finalRoot tree committedAtNs committed store' hlock hconflict =>
    refine h.store ?_
    rw [resolveExistingPath_conflict hconflict]
    intro root candidate descriptor hroot hverified
    rw [Dict.get?_erase] at hroot
    split at hroot
    · cases hroot
    · exact ⟨root, candidate, hroot, hverified, rfl⟩
  | @damaged damagedRoot damagedCandidate hdamaged =>
    refine h.store ?_
    intro root candidate descriptor hroot hverified
    rw [Dict.get?_set] at hroot
    split at hroot
    · obtain rfl := Option.some.inj hroot
      cases hverified
    · exact ⟨root, candidate, hroot, hverified, rfl⟩
  | planningStarts retainedRoots policy nowNs =>
    refine { h with read := fun planner hplanner => ?_ }
    rcases List.mem_append.mp hplanner with hplanner | hplanner
    · exact h.read planner hplanner
    · obtain rfl := List.mem_singleton.mp hplanner
      constructor
      · intro a verified ha
        cases ha
      · intro a verified ha
        cases ha
  | @planningReadsRoot before after planner hplanner entry hentry inventory hadded =>
    refine { h with read := fun other hother => ?_ }
    rcases List.mem_append.mp hother with hother | hother
    · exact h.read other (hplanner ▸ List.mem_append_left _ hother)
    · rcases List.mem_cons.mp hother with rfl | hother
      · obtain ⟨hkeyed, hread⟩ := h.read planner
          (hplanner ▸ List.mem_append_right _ List.mem_cons_self)
        obtain ⟨descriptor, hverified, -, rfl⟩ := addVerified_eq_ok.mp hadded
        have hlogged := h.logged entry.1 entry.2 descriptor
          (Dict.get?_eq_some_iff.mpr hentry) hverified
        constructor
        · intro a verified ha
          dsimp only at ha
          rw [Dict.get?_set] at ha
          split at ha
          · rename_i heq
            obtain rfl := Option.some.inj ha
            exact heq.symm
          · exact hkeyed a verified ha
        · intro a verified ha
          dsimp only at ha
          rw [Dict.get?_set] at ha
          split at ha
          · rename_i heq
            obtain rfl := Option.some.inj ha
            rw [heq]
            exact hlogged
          · exact hread a verified ha
      · exact h.read other
          (hplanner ▸ List.mem_append_right _ (List.mem_cons_of_mem _ hother))
  | @planningReadsPin before after planner hplanner pin hpin =>
    refine { h with read := fun other hother => ?_ }
    rcases List.mem_append.mp hother with hother | hother
    · exact h.read other (hplanner ▸ List.mem_append_left _ hother)
    · rcases List.mem_cons.mp hother with rfl | hother
      · exact h.read planner (hplanner ▸ List.mem_append_right _ List.mem_cons_self)
      · exact h.read other
          (hplanner ▸ List.mem_append_right _ (List.mem_cons_of_mem _ hother))
  | @planningFails before after planner hplanner =>
    refine { h with read := fun other hother => h.read other (hplanner ▸ ?_) }
    rcases List.mem_append.mp hother with hother | hother
    · exact List.mem_append_left _ hother
    · exact List.mem_append_right _ (List.mem_cons_of_mem _ hother)
  | @planned before after planner hplanner plan hplan =>
    obtain ⟨hkeyed, hread⟩ := h.read planner
      (hplanner ▸ List.mem_append_right _ List.mem_cons_self)
    refine { h with
      read := fun other hother => h.read other (hplanner ▸ ?_)
      planned := fun made hmade => ?_ }
    · rcases List.mem_append.mp hother with hother | hother
      · exact List.mem_append_left _ hother
      · exact List.mem_append_right _ (List.mem_cons_of_mem _ hother)
    · rcases List.mem_append.mp hmade with hmade | hmade
      · exact h.planned made hmade
      · obtain rfl := List.mem_singleton.mp hmade
        refine ⟨Nat.le_refl _, fun c hc => ?_⟩
        obtain ⟨isProtected, hspec⟩ := planFrom_spec hkeyed hplan
        obtain ⟨verified, hget, rfl⟩ := (hspec.candidates_listed hkeyed).2 c hc
        rw [List.take_length]
        exact hread _ verified hget
  | @executed plan nowNs _ manifest hexecuted =>
    obtain ⟨-, hstate, hrun⟩ := execute_eq_ok hexecuted
    obtain ⟨inventory, isProtected, hspec⟩ := executeGarbageCollection_spec hrun
    rw [hstate]
    refine h.store ?_
    intro root candidate descriptor hroot hverified
    rw [hspec.left] at hroot
    split at hroot
    · cases hroot
    · exact ⟨root, candidate, hroot, hverified, rfl⟩
  | purged hlock batches => exact h.store (verifiedFrom_of_roots rfl)

/-- **The books hold in every reachable state.** -/
theorem RetentionState.Reachable.sound {s : RetentionState} (h : s.Reachable) :
    RetentionSound s := by
  induction h with
  | refl => exact start_sound
  | tail _ hstep ih => exact hstep.sound ih

/-! ## What an execution takes -/

/-- One artifact leads to another through the inputs of committed artifacts. -/
def ArtifactStore.LeadsTo (store : ArtifactStore) : ArtifactId → ArtifactId → Prop :=
  Relation.ReflTransGen fun a b => ∃ verified, store.Committed a verified ∧ b ∈ verified.inputs

/-- An artifact that was committed and no longer is. -/
def Taken (store store' : ArtifactStore) (a : ArtifactId) : Prop :=
  (∃ verified, store.Committed a verified) ∧ ¬ ∃ verified, store'.Committed a verified

/-- What an execution of a plan may and may not have taken. -/
structure SweepSafe (s : RetentionState) (made : MadePlan) (nowNs : Nat) (s' : RetentionState) :
    Prop where
  /-- It takes what the plan selected. -/
  selected : ∀ a, Taken s.store s'.store a ↔ a ∈ made.plan.candidates.map (·.artifactId)
  pinned : ∀ pin ∈ s.store.activePinsLocked, ∀ root ∈ pin.roots, ∀ a,
    s.store.LeadsTo root a → ¬ Taken s.store s'.store a
  retained : ∀ root ∈ made.plan.retainedRoots, ∀ a,
    s.store.LeadsTo root a → ¬ Taken s.store s'.store a
  leased : ∀ lease ∈ s.leases, lease.Open → ∀ root ∈ lease.roots, ∀ a,
    s.store.LeadsTo root a → ¬ Taken s.store s'.store a
  /-- It was committed before the plan, and not once more after it. -/
  earlier : ∀ a verified, s.store.Committed a verified → Taken s.store s'.store a →
    ⟨a, verified.committedAtNs⟩ ∈ s.commits.take made.commitsBefore ∧
    ⟨a, verified.committedAtNs⟩ ∉ s.commits.drop made.commitsBefore
  old : ∀ a verified, s.store.Committed a verified → Taken s.store s'.store a →
    (made.plan.policy.minimumArtifactAgeNs : Int) ≤ verified.ageNs nowNs

theorem leadsTo_iff {store : ArtifactStore} {inventory : Inventory}
    (h : store.verifiedInventory = .ok inventory) {a b : ArtifactId} :
    store.LeadsTo a b ↔ Closure.Reaches inventory VerifiedArtifact.inputs a b := by
  have hsame : (fun a b => ∃ verified, store.Committed a verified ∧ b ∈ verified.inputs)
      = Closure.Names inventory VerifiedArtifact.inputs := by
    funext a b
    exact propext (exists_congr fun verified => by rw [committed_iff h])
  rw [ArtifactStore.LeadsTo, Closure.Reaches, hsame]

/-- **In every interleaving, an execution is refused just when a client holds the retention lock or
what its plan rests on no longer holds, and one that goes through takes nothing that an active pin,
a retained root or an open lease leads to, nothing committed after the plan, and nothing too
young.** -/
theorem collection_safe (s : RetentionState) (hreachable : s.Reachable) (made : MadePlan)
    (hmade : made ∈ s.plans) (nowNs : Nat) :
    ((∃ fault, s.execute made.plan nowNs = .error fault) ↔
      s.HeldShared ∨ ¬ PlanHolds s.store made.plan nowNs) ∧
    ∀ s' manifest, s.execute made.plan nowNs = .ok (s', manifest) →
      SweepSafe s made nowNs s' := by
  have hsound := hreachable.sound
  constructor
  · rw [← not_iff_not, not_or, not_not, ← execute_returns_iff]
    constructor
    · intro hnot
      cases hrun : s.execute made.plan nowNs with
      | error fault => exact absurd ⟨fault, hrun⟩ hnot
      | ok result => exact ⟨result.1, result.2, rfl⟩
    · rintro ⟨s', manifest, hrun⟩ ⟨fault, herror⟩
      rw [hrun] at herror
      cases herror
  · intro s' manifest hexecuted
    obtain ⟨hheld, -, hrun⟩ := execute_eq_ok hexecuted
    obtain ⟨inventory, isProtected, hspec⟩ := executeGarbageCollection_spec hrun
    have hinventory := hspec.inventory_eq
    have hkeyed := (verifiedInventory_spec hinventory).keyed
    have hlisted := (hspec.planned.candidates_listed hkeyed).2
    have htaken : ∀ a, Taken s.store s'.store a ↔ a ∈ made.plan.candidates.map (·.artifactId) := by
      intro a
      constructor
      · rintro ⟨⟨verified, hbefore⟩, hgone⟩
        by_contra hnot
        exact hgone ⟨verified, hspec.committed.mpr ⟨hbefore, hnot⟩⟩
      · intro hmem
        obtain ⟨c, hc, rfl⟩ := List.mem_map.mp hmem
        obtain ⟨verified, hget, -⟩ := hlisted c hc
        refine ⟨⟨verified, (committed_iff hinventory).mpr hget⟩, ?_⟩
        rintro ⟨verified', hafter⟩
        exact (hspec.committed.mp hafter).2 hmem
    have hunmarked : ∀ a, Taken s.store s'.store a → ∃ verified, inventory.get? a = some verified ∧
        verified.candidate ∈ made.plan.candidates ∧
        ¬ Marked inventory s.store.activePinsLocked made.plan.retainedRoots made.plan.policy
          made.plan.plannedAtNs a := by
      intro a ha
      obtain ⟨c, hc, rfl⟩ := List.mem_map.mp ((htaken a).mp ha)
      obtain ⟨b, verified, hget, rfl, hn⟩ := hspec.planned.of_candidate hc
      have hid : verified.candidate.artifactId = b := hkeyed b verified hget
      rw [hid]
      exact ⟨verified, hget, hc, hn⟩
    have hfree : ∀ root, MarkRoot inventory s.store.activePinsLocked made.plan.retainedRoots
        made.plan.policy made.plan.plannedAtNs root → ∀ a, s.store.LeadsTo root a →
          ¬ Taken s.store s'.store a := by
      intro root hroot a hleads ha
      obtain ⟨-, -, -, hn⟩ := hunmarked a ha
      exact hn ⟨root, hroot, (leadsTo_iff hinventory).mp hleads⟩
    refine
      { selected := htaken
        pinned := fun pin hpin root hroot => hfree root (.inr (.inl ⟨pin, hpin, hroot⟩))
        retained := fun root hroot => hfree root (.inl hroot)
        leased := ?_
        earlier := ?_
        old := ?_ }
    · intro lease hlease hopen root hroot
      -- a lease that has opened its roots holds the lock
      refine absurd (.inl ⟨lease, hlease, ?_⟩) hheld
      rcases (hsound.leased lease hlease).2 root hroot with hpending | ⟨handle, hhandle⟩
      · rw [hopen] at hpending
        cases hpending
      · exact List.ne_nil_of_mem (Dict.get?_eq_some_iff.mp hhandle)
    · intro a verified hverified ha
      obtain ⟨verified', hget, hc, -⟩ := hunmarked a ha
      have hid : verified'.descriptor.artifactId = a := hkeyed a verified' hget
      obtain rfl := Option.some.inj (hget.symm.trans ((committed_iff hinventory).mp hverified))
      have hbefore := (hsound.planned made hmade).2 _ hc
      have htake : (⟨a, verified'.committedAtNs⟩ : Commit) ∈ s.commits.take made.commitsBefore := by
        rw [← hid]
        exact hbefore
      have hnodup : s.commits.Nodup := hsound.ordered.imp fun hlt heq => by
        rw [heq] at hlt
        exact absurd hlt (lt_irrefl _)
      exact ⟨htake, fun hdrop =>
        List.disjoint_take_drop hnodup (Nat.le_refl _) htake hdrop⟩
    · intro a verified hverified ha
      obtain ⟨verified', hget, -, hn⟩ := hunmarked a ha
      obtain rfl := Option.some.inj (hget.symm.trans ((committed_iff hinventory).mp hverified))
      have hold := not_lt.mp fun hyoung => hn (marked_of_young hget hyoung)
      have hlater : (made.plan.plannedAtNs : Int) ≤ nowNs := Int.ofNat_le.mpr hspec.not_early
      rw [VerifiedArtifact.ageNs] at hold ⊢
      omega

end

/-! ## A run with a plan -/

/-- One committed artifact. -/
def samplePublished : ArtifactStore :=
  { ArtifactStore.empty with
    roots := Dict.empty.set "snapshots/1" (stagedRoot (sampleTree 1) 7 (sampleArtifact 1 [])) }

def sampleRead : Inventory :=
  Dict.empty.set ⟨1⟩ ⟨sampleArtifact 1 [], "snapshots/1", 7, (sampleTree 1).files, { hex := 1 }⟩

/-- A plan that sweeps it. -/
def sampleMade : MadePlan where
  plan :=
    { planId := { hex := 102 }
      plannedAtNs := 10
      policy := ⟨3, 0, 5⟩
      retainedRoots := []
      pinnedRoots := []
      candidates := [⟨⟨1⟩, .snapshot, 1, 7, { hex := 1 }⟩] }
  commitsBefore := 1

def samplePlanned : RetentionState :=
  ⟨samplePublished, [], [], [sampleMade], [⟨⟨1⟩, 7⟩]⟩

attribute [local instance] sampleRetentionDigest in
theorem sampleRead_planned :
    planFrom sampleRead [] [] ⟨3, 0, 5⟩ 10 = .ok sampleMade.plan := by
  have hroots : artifactIds ([] ++ artifactIds (([] : List PinRecord).flatMap fun pin => pin.roots)
      ++ youngArtifacts sampleRead ⟨3, 0, 5⟩ 10) = [] := by
    decide
  have hselected : selectCandidates [] ⟨3, 0, 5⟩ 10 (sortedInventory sampleRead) 0 =
      sampleMade.plan.candidates := by
    decide
  rw [planFrom]
  dsimp only
  rw [hroots, closure_nil, ok_bind, hselected]
  rfl

attribute [local instance] sampleRetentionDigest in
/-- Publish, start a dry run, read the directory, plan. -/
theorem samplePlanned_reachable : samplePlanned.Reachable := by
  have hpublished : RetentionStep RetentionState.start
      ⟨samplePublished, [], [], [], [⟨⟨1⟩, 7⟩]⟩ :=
    @RetentionStep.published _ RetentionState.start "snapshots/1" (sampleTree 1) 7
      (sampleArtifact 1 []) samplePublished
      (fun commit hcommit => absurd hcommit List.not_mem_nil) rfl
  have hstarted : RetentionStep ⟨samplePublished, [], [], [], [⟨⟨1⟩, 7⟩]⟩
      ⟨samplePublished, [], [⟨[], ⟨3, 0, 5⟩, 10, Dict.empty, []⟩], [], [⟨⟨1⟩, 7⟩]⟩ :=
    .planningStarts [] ⟨3, 0, 5⟩ 10
  have hread : RetentionStep
      ⟨samplePublished, [], [⟨[], ⟨3, 0, 5⟩, 10, Dict.empty, []⟩], [], [⟨⟨1⟩, 7⟩]⟩
      ⟨samplePublished, [], [⟨[], ⟨3, 0, 5⟩, 10, sampleRead, []⟩], [], [⟨⟨1⟩, 7⟩]⟩ :=
    @RetentionStep.planningReadsRoot _ _ [] [] ⟨[], ⟨3, 0, 5⟩, 10, Dict.empty, []⟩ rfl
      ("snapshots/1", stagedRoot (sampleTree 1) 7 (sampleArtifact 1 [])) List.mem_cons_self
      sampleRead rfl
  have hplanned : RetentionStep
      ⟨samplePublished, [], [⟨[], ⟨3, 0, 5⟩, 10, sampleRead, []⟩], [], [⟨⟨1⟩, 7⟩]⟩ samplePlanned :=
    @RetentionStep.planned _ _ [] [] ⟨[], ⟨3, 0, 5⟩, 10, sampleRead, []⟩ rfl
      sampleMade.plan sampleRead_planned
  exact (((Relation.ReflTransGen.single hpublished).tail hstarted).tail hread).tail hplanned

attribute [local instance] sampleRetentionDigest in
theorem samplePlanned_executes : ∃ s' manifest,
    samplePlanned.execute sampleMade.plan 10 = .ok (s', manifest) := by
  have hinventory : samplePublished.verifiedInventory = .ok sampleRead := rfl
  refine execute_returns_iff.mpr ⟨by decide, Nat.le_refl _, ⟨sampleMade.plan, ?_, rfl, rfl, rfl⟩, rfl⟩
  rw [ArtifactStore.planLocked]
  rw [show samplePlanned.store = samplePublished from rfl, hinventory]
  exact sampleRead_planned

attribute [local instance] sampleRetentionDigest in
theorem collection_safe_sample : ∃ s' : RetentionState,
    SweepSafe samplePlanned sampleMade 10 s' := by
  obtain ⟨s', manifest, hexecuted⟩ := samplePlanned_executes
  exact ⟨s', (collection_safe samplePlanned samplePlanned_reachable sampleMade List.mem_cons_self
    10).2 s' manifest hexecuted⟩

end Artifacts

end OnchainBacktest
