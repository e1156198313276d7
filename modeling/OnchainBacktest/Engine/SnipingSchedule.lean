import OnchainBacktest.Engine.EventGroups
import OnchainBacktest.Engine.SnipingRun

/-!
# The order in time

What a moment of a run says of boundaries: where the boundary at hand is, that nothing still to
come lies before it, and which actions were taken out of the schedule for it.  These are the laws
(`Timed`) under which an action is always handled at the position it is due at.
-/

set_option autoImplicit false

namespace OnchainBacktest

open Checked

/-! ## The queue -/

section Queue

variable {ρ : Type}

variable {scheduled : List (ScheduledAction ρ)} {boundary maximumPhase : Nat}

theorem popActions_append (scheduled : List (ScheduledAction ρ)) (boundary maximumPhase : Nat) :
    (popActions scheduled boundary maximumPhase).1
      ++ (popActions scheduled boundary maximumPhase).2 = scheduled := by
  rw [popActions, List.span_eq_takeWhile_dropWhile]
  exact List.takeWhile_append_dropWhile

/-- What is taken out is due at the boundary. -/
theorem due_of_mem_popped {a : ScheduledAction ρ}
    (h : a ∈ (popActions scheduled boundary maximumPhase).1) :
    a.releaseBoundaryOrdinal = boundary ∧ a.phase ≤ maximumPhase := by
  rw [popActions, List.span_eq_takeWhile_dropWhile] at h
  simpa using List.all_eq_true.mp List.all_takeWhile a h

/-- **Everything that is due is taken out.** -/
theorem not_due_of_mem_rest (hsorted : scheduled.Pairwise scheduledActionLe)
    (hfrom : ∀ a ∈ scheduled, boundary ≤ a.releaseBoundaryOrdinal) {a : ScheduledAction ρ}
    (h : a ∈ (popActions scheduled boundary maximumPhase).2) :
    ¬ (a.releaseBoundaryOrdinal = boundary ∧ a.phase ≤ maximumPhase) := by
  rw [popActions, List.span_eq_takeWhile_dropWhile] at h
  induction scheduled with
  | nil => cases h
  | cons b rest ih =>
    rw [List.pairwise_cons] at hsorted
    rw [List.dropWhile_cons] at h
    split at h
    · exact ih hsorted.2 (fun c hc => hfrom c (List.mem_cons_of_mem _ hc)) h
    · rename_i hb
      rw [decide_eq_true_eq] at hb
      rcases List.mem_cons.mp h with rfl | h
      · exact hb
      · intro ha
        have h1 := hfrom b List.mem_cons_self
        rcases scheduledActionLe_iff.mp (hsorted.1 a h) with h2 | ⟨h2, h3⟩
        · omega
        · exact hb ⟨by omega, by omega⟩

theorem pairwise_rest (hsorted : scheduled.Pairwise scheduledActionLe) :
    (popActions scheduled boundary maximumPhase).2.Pairwise scheduledActionLe := by
  rw [← popActions_append scheduled boundary maximumPhase] at hsorted
  exact (List.pairwise_append.mp hsorted).2.1

theorem mem_of_mem_rest {a : ScheduledAction ρ}
    (h : a ∈ (popActions scheduled boundary maximumPhase).2) : a ∈ scheduled := by
  rw [← popActions_append scheduled boundary maximumPhase]
  exact List.mem_append_right _ h

theorem mem_of_mem_popped {a : ScheduledAction ρ}
    (h : a ∈ (popActions scheduled boundary maximumPhase).1) : a ∈ scheduled := by
  rw [← popActions_append scheduled boundary maximumPhase]
  exact List.mem_append_left _ h

end Queue

/-- **The next boundary is the first of all that are still to come.** -/
theorem nextBoundary_eq_some {clock : CompactTransactionClock}
    {groups : List (List CanonicalEvent)} {scheduled : List (ScheduledAction ContentDigest)}
    {boundary : Nat} (h : nextBoundary groups scheduled = some boundary)
    (hgroups : WellGrouped clock groups) (hsorted : scheduled.Pairwise scheduledActionLe) :
    (∀ group ∈ groups, boundary ≤ groupBoundary group) ∧
      (∀ a ∈ scheduled, boundary ≤ a.releaseBoundaryOrdinal) ∧
      ((∃ group later, groups = group :: later ∧ groupBoundary group = boundary) ∨
        ∃ a rest, scheduled = a :: rest ∧ a.releaseBoundaryOrdinal = boundary) := by
  have hg : ∀ group later, groups = group :: later → ∀ g ∈ groups,
      groupBoundary group ≤ groupBoundary g := by
    rintro group later rfl g hmem
    rcases List.mem_cons.mp hmem with rfl | hmem
    · exact le_rfl
    · exact ((List.pairwise_cons.mp hgroups.increasing).1 g hmem).le
  have hs : ∀ a rest, scheduled = a :: rest → ∀ b ∈ scheduled,
      a.releaseBoundaryOrdinal ≤ b.releaseBoundaryOrdinal := by
    rintro a rest rfl b hmem
    rcases List.mem_cons.mp hmem with rfl | hmem
    · exact le_rfl
    · exact release_le_of_le ((List.pairwise_cons.mp hsorted).1 b hmem)
  match groups, scheduled, h with
  | [], [], h => cases h
  | group :: later, [], h =>
    cases h
    exact ⟨hg group later rfl, by simp, .inl ⟨group, later, rfl, rfl⟩⟩
  | [], a :: rest, h =>
    cases h
    exact ⟨by simp, hs a rest rfl, .inr ⟨a, rest, rfl, rfl⟩⟩
  | group :: later, a :: rest, h =>
    cases h
    refine ⟨fun g hmem => (min_le_left _ _).trans (hg group later rfl g hmem),
      fun b hmem => (min_le_right _ _).trans (hs a rest rfl b hmem), ?_⟩
    rcases Nat.le_total (groupBoundary group) a.releaseBoundaryOrdinal with hle | hle
    · exact .inl ⟨group, later, rfl, (min_eq_left hle).symm⟩
    · exact .inr ⟨a, rest, rfl, (min_eq_right hle).symm⟩

/-! ## A group that is applied -/

section Groups

variable {setup : SnipingSetup} {run run' : RunState} {first : CanonicalEvent}
  {group : List CanonicalEvent} {launches : List LaunchTarget}

/-- A launch at the boundary at hand. -/
structure LaunchHere (setup : SnipingSetup) (boundary : Nat) (target : LaunchTarget) : Prop where
  boundary_eq : target.position.boundaryOrdinal = boundary
  assets_ne : target.assetId ≠ target.quoteAssetId
  path : setup.config.decisionRange.containsPosition target.position = .ok true →
    ∃ path, setup.path target.position = .ok path

/-- A launch of a group is the target of one of its events. -/
theorem pumpLaunch_eq_some {event : CanonicalEvent} {target : LaunchTarget}
    (h : event.pumpLaunch? = some target) :
    ∃ launch, event = .tokenLaunch launch ∧ target = launch.target := by
  cases event with
  | tokenLaunch launch =>
    rw [CanonicalEvent.pumpLaunch?] at h
    split at h
    · exact ⟨launch, rfl, (Option.some.inj h).symm⟩
    · cases h
  | _ => cases h

/-- What applying a group gives. -/
theorem applyGroup_eq_ok (h : applyGroup setup run first group = .ok (run', launches)) :
    (∃ timeNs curves, setup.clock.blockTimeForBlock first.envelope.position.blockOrdinal
        = .ok timeNs ∧
      setup.protocol.applyHistoricalGroup run.curves group (timeNs / 1000000000)
        = .ok (curves, group.filterMap CanonicalEvent.pumpLaunch?) ∧
      run' = { run with
        curves := curves
        desk := run.desk.audit (.historicalGroupApplied first.boundaryOrdinal
          (group.map fun event => event.envelope.canonicalEventId)
          first.envelope.transactionGroupId)
        counts := { run.counts with
          eventCount := run.counts.eventCount + group.length
          deliveredEventCount := run.counts.deliveredEventCount + group.length
          groupCount := run.counts.groupCount + 1 } }) ∧
      ensureSingleLaunch (group.filterMap CanonicalEvent.pumpLaunch?) = .ok launches := by
  obtain ⟨timeNs, htime, h⟩ := bind_eq_ok.mp h
  obtain ⟨⟨curves, found⟩, hfound, h⟩ := bind_eq_ok.mp h
  obtain ⟨rfl, _⟩ := applyHistoricalGroup_eq_ok hfound
  obtain ⟨sorted, hsorted, h⟩ := bind_eq_ok.mp h
  cases h
  exact ⟨⟨timeNs, curves, htime, hfound, rfl⟩, hsorted⟩

theorem ensureSingleLaunch_eq_ok {found : List LaunchTarget}
    (h : ensureSingleLaunch found = .ok launches) :
    (found.map LaunchTarget.targetEventId).Nodup ∧
      launches = found.insertionSort fun a b => launchTargetLe a b = true := by
  obtain ⟨hnd, h⟩ := check_bind_eq_ok.mp h
  cases h
  exact ⟨not_not.mp (refuseIf_eq_ok.mp hnd), rfl⟩

/-- The launches of a group are launches at its boundary. -/
theorem launchHere_of_mem {found : List LaunchTarget} {clock : CompactTransactionClock}
    (hgroup : IsGroup clock group) (hchecked : ∀ e ∈ group, preflightEvent setup e = .ok ())
    (hfound : found = group.filterMap CanonicalEvent.pumpLaunch?)
    (h : ensureSingleLaunch found = .ok launches) {target : LaunchTarget}
    (hmem : target ∈ launches) : LaunchHere setup (groupBoundary group) target := by
  obtain ⟨_, rfl⟩ := ensureSingleLaunch_eq_ok h
  rw [List.mem_insertionSort] at hmem
  subst hfound
  obtain ⟨event, he, hl⟩ := List.mem_filterMap.mp hmem
  obtain ⟨launch, rfl, rfl⟩ := pumpLaunch_eq_some hl
  have hb : (CanonicalEvent.tokenLaunch launch).boundaryOrdinal = groupBoundary group :=
    hgroup.boundary _ he
  exact ⟨hb, launch.assets_ne, preflightEvent_launch (hchecked _ he)⟩

end Groups

/-! ## The laws of time -/

section Laws

variable (setup : SnipingSetup)

/-- A run at a boundary. -/
structure AtBoundary (boundary : Nat) (position : ChainPosition)
    (groups : List (List CanonicalEvent)) (run : RunState) : Prop where
  boundary_eq : position.boundaryOrdinal = boundary
  network : position.networkId = setup.clock.networkId
  event : position.eventIndex = none
  groups_later : ∀ group ∈ groups, boundary < groupBoundary group
  scheduled_from : ∀ a ∈ run.desk.scheduled, boundary ≤ a.releaseBoundaryOrdinal
  audit_until : ∀ row ∈ run.desk.recorder.audit, row.boundary ≤ boundary

/-- What has been taken for a boundary, and what is left. -/
def StageLaws : Moment → Prop
  | .between groups run =>
    ∀ row ∈ run.desk.recorder.audit, (∀ group ∈ groups, row.boundary < groupBoundary group) ∧
      ∀ a ∈ run.desk.scheduled, row.boundary < a.releaseBoundaryOrdinal
  | .deciding boundary position groups launches due run =>
    AtBoundary setup boundary position groups run ∧
      (∀ target ∈ launches, LaunchHere setup boundary target) ∧
      (∀ a ∈ due, a.releaseBoundaryOrdinal = boundary ∧ a.kind = .sellDecision) ∧
      ∀ a ∈ run.desk.scheduled, a.releaseBoundaryOrdinal = boundary → a.kind ≠ .sellDecision
  | .launching boundary position groups launches run =>
    AtBoundary setup boundary position groups run ∧
      (∀ target ∈ launches, LaunchHere setup boundary target) ∧
      ∀ a ∈ run.desk.scheduled, a.releaseBoundaryOrdinal = boundary → a.kind ≠ .sellDecision
  | .landing boundary position groups due run =>
    AtBoundary setup boundary position groups run ∧
      (∀ a ∈ due, a.releaseBoundaryOrdinal = boundary ∧ a.kind ≠ .sellDecision) ∧
      ∀ a ∈ run.desk.scheduled, boundary < a.releaseBoundaryOrdinal

/-- The laws of time. -/
structure Timed (m : Moment) : Prop where
  grouped : WellGrouped setup.clock m.groups
  preflighted : ∀ group ∈ m.groups, ∀ event ∈ group, preflightEvent setup event = .ok ()
  sorted : m.run.desk.scheduled.Pairwise scheduledActionLe
  phased : ∀ a ∈ m.queue, a.phase = a.kind.phase
  ordered : ∀ a ∈ m.queue, a.creatorBoundaryOrdinal < a.releaseBoundaryOrdinal
  stage : StageLaws setup m

variable {setup}

/-- The position of a boundary is the one anything due there has. -/
theorem AtBoundary.position_eq {boundary : Nat} {position p : ChainPosition}
    {groups : List (List CanonicalEvent)} {run : RunState}
    (h : AtBoundary setup boundary position groups run) (hb : p.boundaryOrdinal = boundary)
    (hn : p.networkId = setup.clock.networkId) (he : p.eventIndex = none) : position = p := by
  obtain ⟨h1, h2⟩ := ChainPosition.boundaryOrdinal_inj (h.boundary_eq.trans hb.symm)
  exact ChainPosition.ext_fields (h.network.trans hn.symm) h1 h2 (h.event.trans he.symm)

theorem AtBoundary.congr {boundary : Nat} {position : ChainPosition}
    {groups : List (List CanonicalEvent)} {run run' : RunState}
    (h : AtBoundary setup boundary position groups run)
    (hs : ∀ a ∈ run'.desk.scheduled, boundary ≤ a.releaseBoundaryOrdinal)
    (ha : ∀ row ∈ run'.desk.recorder.audit, row.boundary ≤ boundary) :
    AtBoundary setup boundary position groups run' :=
  { h with scheduled_from := hs, audit_until := ha }

/-- A decision position stands on the clock's chain, outside any event. -/
theorem firstNonempty_position {p q : ChainPosition} {time : Nat}
    (h : setup.clock.firstNonemptyTransactionAtOrAfter p time = .ok q) :
    q.networkId = setup.clock.networkId ∧ q.eventIndex = none := by
  obtain ⟨_, _, _, hq, _, _, he, _⟩ := CompactTransactionClock.firstNonempty_eq_ok h
  exact ⟨hq.network, he⟩

theorem transactionAfter_position {p q : ChainPosition} {delay : Nat}
    (h : setup.clock.transactionAfter p delay = .ok q) :
    q.networkId = setup.clock.networkId ∧ q.eventIndex = none := by
  obtain ⟨_, _, _, hq, _, _, he⟩ := CompactTransactionClock.transactionAfter_eq_ok h
  exact ⟨hq.network, he⟩

/-- Whatever a round trip waits for is due at a position of the clock, outside any event. -/
theorem duePosition_position {s : RoundTripState} {p : ChainPosition}
    (h : s.duePosition setup.clock setup.strategy.sellDelayTransactions = .ok p) :
    p.networkId = setup.clock.networkId ∧ p.eventIndex = none := by
  rw [RoundTripState.duePosition] at h
  split at h
  · exact transactionAfter_position h
  · obtain ⟨_, _, h⟩ := bind_eq_ok.mp h
    exact firstNonempty_position h
  · exact transactionAfter_position h
  · cases h

end Laws

end OnchainBacktest
