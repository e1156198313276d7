import OnchainBacktest.Engine.SnipingLaws

/-!
# Every step is a turn

The laws hold when a run starts (`core_of_start`), and under them every step is a turn and keeps
them (`Step.core_turn`).  So they hold at every moment a run gets to (`Reachable.core`), and every
step of a run is a turn (`Reachable.turn`).
-/

set_option autoImplicit false

namespace OnchainBacktest

open Checked

/-! ## What is taken for a boundary -/

section Popping

variable {scheduled : List (ScheduledAction ContentDigest)} {boundary : Nat}

theorem phase_le_decision {kind : ActionKind} : kind.phase ≤ 40 ↔ kind = .sellDecision := by
  cases kind <;> simp [ActionKind.phase]

theorem phase_le_landing {kind : ActionKind} : kind.phase ≤ 60 := by
  cases kind <;> simp [ActionKind.phase]

theorem mem_popped_or_rest {maximumPhase : Nat} {a : ScheduledAction ContentDigest} :
    a ∈ (popActions scheduled boundary maximumPhase).1
        ++ (popActions scheduled boundary maximumPhase).2 ↔ a ∈ scheduled := by
  rw [popActions_append]

/-- The decisions of a boundary. -/
theorem decisions_popped (hsorted : scheduled.Pairwise scheduledActionLe)
    (hfrom : ∀ a ∈ scheduled, boundary ≤ a.releaseBoundaryOrdinal)
    (hphased : ∀ a ∈ scheduled, a.phase = a.kind.phase) :
    (∀ a ∈ (popActions scheduled boundary 40).1,
        a.releaseBoundaryOrdinal = boundary ∧ a.kind = .sellDecision) ∧
      ∀ a ∈ (popActions scheduled boundary 40).2,
        a.releaseBoundaryOrdinal = boundary → a.kind ≠ .sellDecision := by
  refine ⟨fun a ha => ?_, fun a ha hb hkind => ?_⟩
  · obtain ⟨hb, hp⟩ := due_of_mem_popped ha
    rw [hphased a (mem_of_mem_popped ha)] at hp
    exact ⟨hb, phase_le_decision.mp hp⟩
  · refine not_due_of_mem_rest hsorted hfrom ha ⟨hb, ?_⟩
    rw [hphased a (mem_of_mem_rest ha), hkind]
    decide

/-- The landings of a boundary, once its decisions are taken. -/
theorem landings_popped (hsorted : scheduled.Pairwise scheduledActionLe)
    (hfrom : ∀ a ∈ scheduled, boundary ≤ a.releaseBoundaryOrdinal)
    (hphased : ∀ a ∈ scheduled, a.phase = a.kind.phase)
    (hdecided : ∀ a ∈ scheduled, a.releaseBoundaryOrdinal = boundary → a.kind ≠ .sellDecision) :
    (∀ a ∈ (popActions scheduled boundary 60).1,
        a.releaseBoundaryOrdinal = boundary ∧ a.kind ≠ .sellDecision) ∧
      ∀ a ∈ (popActions scheduled boundary 60).2, boundary < a.releaseBoundaryOrdinal := by
  refine ⟨fun a ha => ?_, fun a ha => ?_⟩
  · obtain ⟨hb, _⟩ := due_of_mem_popped ha
    exact ⟨hb, hdecided a (mem_of_mem_popped ha) hb⟩
  · refine Nat.lt_of_le_of_ne (hfrom a (mem_of_mem_rest ha)) fun hb => ?_
    refine not_due_of_mem_rest hsorted hfrom ha ⟨hb.symm, ?_⟩
    rw [hphased a (mem_of_mem_rest ha)]
    exact phase_le_landing

end Popping

/-! ## The laws of a moment -/

theorem SameOrders.of_eq {run run' : RunState} (hs : run'.states = run.states)
    (hc : run'.cooldowns = run.cooldowns) (hp : run'.desk.portfolio = run.desk.portfolio)
    (ha : run'.desk.accounts = run.desk.accounts) (hr : run'.desk.recorder = run.desk.recorder)
    (hn : run'.counts = run.counts) : SameOrders run run' := by
  refine ⟨hs, hp, ha, by rw [hr], by rw [hr], by rw [hr], by rw [hr], ⟨[], ?_, by simp⟩, hc,
    by rw [hn], by rw [hn], by rw [hn], by rw [hn], by rw [hn]⟩
  rw [hr, List.append_nil]

section Core

variable [DomainDigest] (setup : SnipingSetup)

/-- The laws of time and of the orders. -/
structure Core (m : Moment) : Prop where
  timed : Timed setup m
  orders : OrderLaws setup m.run m.queue

variable {setup}

variable {boundary : Nat} {position : ChainPosition} {groups : List (List CanonicalEvent)}
  {launches : List LaunchTarget} {run run' : RunState}
  {due : List (ScheduledAction ContentDigest)}

/-- Taking the decisions of a boundary. -/
theorem core_of_popDecisions (hgrouped : WellGrouped setup.clock groups)
    (hpre : ∀ group ∈ groups, ∀ event ∈ group, preflightEvent setup event = .ok ())
    (hsorted : run.desk.scheduled.Pairwise scheduledActionLe)
    (hphased : ∀ a ∈ run.desk.scheduled, a.phase = a.kind.phase)
    (hordered : ∀ a ∈ run.desk.scheduled,
      a.creatorBoundaryOrdinal < a.releaseBoundaryOrdinal)
    (hat : AtBoundary setup boundary position groups run)
    (hlaunches : ∀ target ∈ launches, LaunchHere setup boundary target)
    (horders : OrderLaws setup run run.desk.scheduled) :
    Core setup (.deciding boundary position groups launches
      (popActions run.desk.scheduled boundary 40).1
      { run with desk := { run.desk with
        scheduled := (popActions run.desk.scheduled boundary 40).2 } }) := by
  have hqueue : (popActions run.desk.scheduled boundary 40).1
      ++ (popActions run.desk.scheduled boundary 40).2 = run.desk.scheduled :=
    popActions_append _ _ _
  obtain ⟨hdue, hrest⟩ := decisions_popped hsorted hat.scheduled_from hphased
  refine ⟨⟨hgrouped, hpre, pairwise_rest hsorted, fun a ha => ?_, fun a ha => ?_, ?_, hlaunches,
    hdue, hrest⟩, ?_⟩
  · exact hphased a (mem_popped_or_rest.mp ha)
  · exact hordered a (mem_popped_or_rest.mp ha)
  · exact hat.congr (fun a ha => hat.scheduled_from a (mem_of_mem_rest ha)) hat.audit_until
  · refine horders.quiet (SameOrders.of_eq rfl rfl rfl rfl rfl rfl) (List.Perm.of_eq ?_)
    exact hqueue

/-- **A boundary with a group opens under the laws.** -/
theorem core_openGroup {first : CanonicalEvent} {rest : List CanonicalEvent}
    {later : List (List CanonicalEvent)}
    (h : Core setup (.between ((first :: rest) :: later) run))
    (hnext : nextBoundary ((first :: rest) :: later) run.desk.scheduled
      = some first.boundaryOrdinal)
    (happly : applyGroup setup run first (first :: rest) = .ok (run', launches)) :
    Core setup (.deciding first.boundaryOrdinal (boundaryPosition first) later launches
        (popActions run'.desk.scheduled first.boundaryOrdinal 40).1
        { run' with desk := { run'.desk with
          scheduled := (popActions run'.desk.scheduled first.boundaryOrdinal 40).2 } }) ∧
      SameOrders run run' ∧ run'.desk.scheduled = run.desk.scheduled := by
  obtain ⟨⟨timeNs, curves, _, _, rfl⟩, hlaunches⟩ := applyGroup_eq_ok happly
  obtain ⟨hgroups, hscheduled, _⟩ := nextBoundary_eq_some hnext h.timed.grouped h.timed.sorted
  have hgroup := h.timed.grouped.isGroup _ List.mem_cons_self
  have hsame : SameOrders run { run with
      curves := curves
      desk := run.desk.audit (.historicalGroupApplied first.boundaryOrdinal
        ((first :: rest).map fun event => event.envelope.canonicalEventId)
        first.envelope.transactionGroupId)
      counts := { run.counts with
        eventCount := run.counts.eventCount + (first :: rest).length
        deliveredEventCount := run.counts.deliveredEventCount + (first :: rest).length
        groupCount := run.counts.groupCount + 1 } } := by
    refine ⟨rfl, rfl, rfl, rfl, rfl, rfl, rfl, ⟨_, rfl, fun row hrow => ?_⟩, rfl, rfl, rfl, rfl,
      rfl, rfl⟩
    rw [List.mem_singleton.mp hrow]
    rfl
  refine ⟨core_of_popDecisions h.timed.grouped.tail
    (fun group hg => h.timed.preflighted group (List.mem_cons_of_mem _ hg)) h.timed.sorted
    h.timed.phased h.timed.ordered ?_ ?_ (h.orders.quiet hsame (List.Perm.refl _)), hsame, rfl⟩
  · refine ⟨rfl, (hgroup.admitted first List.mem_cons_self).network, rfl, fun group hg => ?_,
      hscheduled, fun row hrow => ?_⟩
    · exact (List.pairwise_cons.mp h.timed.grouped.increasing).1 group hg
    · rcases List.mem_append.mp hrow with hrow | hrow
      · exact ((h.timed.stage row hrow).1 _ List.mem_cons_self).le
      · rw [List.mem_singleton.mp hrow]
        rfl
  · exact fun target hmem => launchHere_of_mem hgroup
      (h.timed.preflighted _ List.mem_cons_self) rfl hlaunches hmem

/-- **A boundary without a group opens under the laws.** -/
theorem core_openScheduled (h : Core setup (.between groups run))
    (hnext : nextBoundary groups run.desk.scheduled = some boundary)
    (hnot : ∀ first rest later, groups = (first :: rest) :: later →
      first.boundaryOrdinal ≠ boundary)
    (hposition : ChainPosition.fromBoundaryOrdinal setup.clock.networkId
      setup.clock.positionSchemaId boundary = .ok position) :
    Core setup (.deciding boundary position groups []
      (popActions run.desk.scheduled boundary 40).1
      { run with desk := { run.desk with
        scheduled := (popActions run.desk.scheduled boundary 40).2 } }) := by
  obtain ⟨hgroups, hscheduled, hfirst⟩ :=
    nextBoundary_eq_some hnext h.timed.grouped h.timed.sorted
  have hlater : ∀ group ∈ groups, boundary < groupBoundary group := by
    refine fun group hg => Nat.lt_of_le_of_ne (hgroups group hg) fun he => ?_
    match groups, hg, hnot, h with
    | [] :: _, _, _, h => exact (h.timed.grouped.isGroup _ List.mem_cons_self).nonempty rfl
    | (first :: rest) :: later, hg, hnot, h =>
      rcases List.mem_cons.mp hg with rfl | hg
      · exact hnot first rest later rfl he.symm
      · have h1 := (List.pairwise_cons.mp h.timed.grouped.increasing).1 group hg
        have h2 := hgroups _ List.mem_cons_self
        omega
  obtain ⟨hn, he, hb⟩ := ChainPosition.fromBoundaryOrdinal_eq_ok hposition
  refine core_of_popDecisions h.timed.grouped h.timed.preflighted h.timed.sorted h.timed.phased
    h.timed.ordered ⟨hb, hn, he, hlater, hscheduled, fun row hrow => ?_⟩ (by simp) h.orders
  obtain ⟨hg, hs⟩ := h.timed.stage row hrow
  rcases hfirst with ⟨group, later, rfl, hgb⟩ | ⟨a, rest, ha, hab⟩
  · exact (hgb ▸ hg group List.mem_cons_self).le
  · exact (hab ▸ hs a (ha ▸ List.mem_cons_self)).le

/-! ## The laws after a move -/

/-- A run at a boundary is still there after a move. -/
theorem AtBoundary.moved {rid : ContentDigest} {old : Option RoundTripState}
    {new : RoundTripState} {fresh : List (ScheduledAction ContentDigest)}
    (h : AtBoundary setup boundary position groups run)
    (hm : Moved setup rid boundary old new run run') (hfresh : Fresh setup rid boundary new fresh)
    (hperm : run'.desk.scheduled.Perm (fresh ++ run.desk.scheduled)) :
    AtBoundary setup boundary position groups run' := by
  refine h.congr (fun a ha => ?_) fun row hrow => ?_
  · rcases List.mem_append.mp (hperm.mem_iff.mp ha) with ha | ha
    · exact (hfresh.later a ha).le
    · exact h.scheduled_from a ha
  · obtain ⟨row', haudit, hb, _⟩ := hm.move.audit
    rw [haudit] at hrow
    rcases List.mem_append.mp hrow with hrow | hrow
    · exact h.audit_until row hrow
    · rw [List.mem_singleton.mp hrow, hb]

omit [DomainDigest] in
/-- The queue after a move holds what was left and what is fresh. -/
theorem forall_queue_moved {rid : ContentDigest} {new : RoundTripState}
    {fresh scheduled scheduled' : List (ScheduledAction ContentDigest)}
    (due : List (ScheduledAction ContentDigest))
    (hfresh : Fresh setup rid boundary new fresh) (hperm : scheduled'.Perm (fresh ++ scheduled))
    (hphased : ∀ a ∈ due ++ scheduled, a.phase = a.kind.phase)
    (hordered : ∀ a ∈ due ++ scheduled, a.creatorBoundaryOrdinal < a.releaseBoundaryOrdinal) :
    (due ++ scheduled').Perm (fresh ++ (due ++ scheduled)) ∧
      (∀ a ∈ due ++ scheduled', a.phase = a.kind.phase) ∧
      ∀ a ∈ due ++ scheduled', a.creatorBoundaryOrdinal < a.releaseBoundaryOrdinal := by
  have hq : (due ++ scheduled').Perm (fresh ++ (due ++ scheduled)) := by
    refine (hperm.append_left due).trans ?_
    rw [← List.append_assoc, ← List.append_assoc]
    exact List.perm_append_comm.append_right _
  refine ⟨hq, fun a ha => ?_, fun a ha => ?_⟩
  · rcases List.mem_append.mp (hq.mem_iff.mp ha) with ha | ha
    · exact hfresh.phased a ha
    · exact hphased a ha
  · rcases List.mem_append.mp (hq.mem_iff.mp ha) with ha | ha
    · rw [hfresh.created a ha]
      exact hfresh.later a ha
    · exact hordered a ha

variable {action : ScheduledAction ContentDigest}

/-- **Deciding a sell keeps the laws and moves its round trip.** -/
theorem core_decide
    (h : Core setup (.deciding boundary position groups launches (action :: due) run))
    (hbody : decideAction setup position run action = .ok run') :
    Core setup (.deciding boundary position groups launches due run') ∧
      Turn setup (.deciding boundary position groups launches (action :: due) run)
        (.deciding boundary position groups launches due run') := by
  obtain ⟨hat, hlaunches, hdue, hrest⟩ := h.timed.stage
  have hrelease := (hdue action List.mem_cons_self).1
  obtain ⟨old, new, hpending, hmoved, hcooldowns⟩ :=
    moved_of_decideAction h.orders hat hrelease hbody
  obtain ⟨fresh, hfresh, hperm, hsorted⟩ := hmoved.move.fresh
  obtain ⟨hq, hphased, hordered⟩ := forall_queue_moved due hfresh hperm
    (fun a ha => h.timed.phased a (List.mem_cons_of_mem _ ha))
    (fun a ha => h.timed.ordered a (List.mem_cons_of_mem _ ha))
  refine ⟨⟨⟨h.timed.grouped, h.timed.preflighted, hsorted h.timed.sorted, hphased, hordered,
    hat.moved hmoved hfresh hperm, hlaunches, fun a ha => hdue a (List.mem_cons_of_mem _ ha),
    fun a ha hb => ?_⟩, (h.orders.acted hmoved hfresh).perm hq⟩,
    .acted rfl rfl rfl hrelease hpending hmoved hcooldowns⟩
  rcases List.mem_append.mp (hperm.mem_iff.mp ha) with ha | ha
  · have hlater := hfresh.later a ha
    omega
  · exact hrest a ha hb

/-- **Landing an order keeps the laws and moves its round trip.** -/
theorem core_land (h : Core setup (.landing boundary position groups (action :: due) run))
    (hbody : landAction setup position run action = .ok run') :
    Core setup (.landing boundary position groups due run') ∧
      Turn setup (.landing boundary position groups (action :: due) run)
        (.landing boundary position groups due run') := by
  obtain ⟨hat, hdue, hrest⟩ := h.timed.stage
  have hrelease := (hdue action List.mem_cons_self).1
  obtain ⟨old, new, hpending, hmoved, hcooldowns⟩ :=
    moved_of_landAction h.orders hat hrelease hbody
  obtain ⟨fresh, hfresh, hperm, hsorted⟩ := hmoved.move.fresh
  obtain ⟨hq, hphased, hordered⟩ := forall_queue_moved due hfresh hperm
    (fun a ha => h.timed.phased a (List.mem_cons_of_mem _ ha))
    (fun a ha => h.timed.ordered a (List.mem_cons_of_mem _ ha))
  refine ⟨⟨⟨h.timed.grouped, h.timed.preflighted, hsorted h.timed.sorted, hphased, hordered,
    hat.moved hmoved hfresh hperm, fun a ha => hdue a (List.mem_cons_of_mem _ ha),
    fun a ha => ?_⟩, (h.orders.acted hmoved hfresh).perm hq⟩,
    .acted rfl rfl rfl hrelease hpending hmoved hcooldowns⟩
  rcases List.mem_append.mp (hperm.mem_iff.mp ha) with ha | ha
  · exact hfresh.later a ha
  · exact hrest a ha

variable {target : LaunchTarget}

/-- A launch inside the decision range. -/
theorem core_decideLaunch
    (h : Core setup (.launching boundary position groups (target :: launches) run))
    (hbody : decideLaunch setup boundary run target = .ok run') :
    Core setup (.launching boundary position groups launches run') ∧
      Turn setup (.launching boundary position groups (target :: launches) run)
        (.launching boundary position groups launches run') := by
  obtain ⟨hat, hlaunches, hrest⟩ := h.timed.stage
  obtain ⟨new, htarget, hmoved, hcooled⟩ :=
    moved_of_decideLaunch h.orders (hlaunches target List.mem_cons_self) hbody
  obtain ⟨fresh, hfresh, hperm, hsorted⟩ := hmoved.move.fresh
  obtain ⟨hq, hphased, hordered⟩ := forall_queue_moved [] hfresh hperm h.timed.phased
    h.timed.ordered
  refine ⟨⟨⟨h.timed.grouped, h.timed.preflighted, hsorted h.timed.sorted, hphased, hordered,
    hat.moved hmoved hfresh hperm, fun t ht => hlaunches t (List.mem_cons_of_mem _ ht),
    fun a ha hb => ?_⟩, (h.orders.launched hmoved hfresh).perm hq⟩,
    .launched rfl rfl (by rw [htarget]; rfl) rfl hmoved hcooled⟩
  rcases List.mem_append.mp (hperm.mem_iff.mp ha) with ha | ha
  · have hlater := hfresh.later a ha
    omega
  · exact hrest a ha hb

omit [DomainDigest] in
/-- A run at a boundary is still there when a row is written. -/
theorem AtBoundary.audit {record : AuditRecord}
    (h : AtBoundary setup boundary position groups run) (hb : record.boundary = boundary) :
    AtBoundary setup boundary position groups { run with desk := run.desk.audit record } := by
  refine h.congr h.scheduled_from fun row hrow => ?_
  rcases List.mem_append.mp hrow with hrow | hrow
  · exact h.audit_until row hrow
  · rw [List.mem_singleton.mp hrow, hb]

omit [DomainDigest] in
theorem SameOrders.of_audit {record : AuditRecord} (hr : record.roundtrip? = none) :
    SameOrders run { run with desk := run.desk.audit record } := by
  refine ⟨rfl, rfl, rfl, rfl, rfl, rfl, rfl, ⟨[record], rfl, fun row hrow => ?_⟩, rfl, rfl, rfl,
    rfl, rfl, rfl⟩
  rw [List.mem_singleton.mp hrow, hr]

/-- **Processing a launch keeps the laws, and starts a round trip or nothing.** -/
theorem core_launch
    (h : Core setup (.launching boundary position groups (target :: launches) run))
    (hbody : processLaunch setup boundary run target = .ok run') :
    Core setup (.launching boundary position groups launches run') ∧
      Turn setup (.launching boundary position groups (target :: launches) run)
        (.launching boundary position groups launches run') := by
  obtain ⟨contained, _, hbody⟩ := bind_eq_ok.mp hbody
  cases contained with
  | true => exact core_decideLaunch h hbody
  | false =>
    cases hbody
    obtain ⟨hat, hlaunches, hrest⟩ := h.timed.stage
    have hsame : SameOrders run { run with
        desk := run.desk.audit (.targetOutsideDecisionRange boundary target.targetEventId) } :=
      .of_audit rfl
    exact ⟨⟨⟨h.timed.grouped, h.timed.preflighted, h.timed.sorted, h.timed.phased,
      h.timed.ordered, hat.audit rfl, fun t ht => hlaunches t (List.mem_cons_of_mem _ ht), hrest⟩,
      h.orders.quiet hsame (List.Perm.refl _)⟩, .quiet hsame (List.Perm.refl _)⟩

/-- **Taking the landings of a boundary keeps the laws.** -/
theorem core_launched (h : Core setup (.launching boundary position groups [] run)) :
    Core setup (.landing boundary position groups (popActions run.desk.scheduled boundary 60).1
      { run with desk := { run.desk with
        scheduled := (popActions run.desk.scheduled boundary 60).2 } }) := by
  obtain ⟨hat, _, hdecided⟩ := h.timed.stage
  obtain ⟨hdue, hrest⟩ :=
    landings_popped h.timed.sorted hat.scheduled_from h.timed.phased hdecided
  refine ⟨⟨h.timed.grouped, h.timed.preflighted, pairwise_rest h.timed.sorted, fun a ha => ?_,
    fun a ha => ?_, ?_, hdue, hrest⟩, ?_⟩
  · exact h.timed.phased a (mem_popped_or_rest.mp ha)
  · exact h.timed.ordered a (mem_popped_or_rest.mp ha)
  · exact hat.congr (fun a ha => hat.scheduled_from a (mem_of_mem_rest ha)) hat.audit_until
  · exact h.orders.quiet (SameOrders.of_eq rfl rfl rfl rfl rfl rfl)
      (List.Perm.of_eq (popActions_append _ _ _))

/-- **Closing a boundary keeps the laws.** -/
theorem core_close (h : Core setup (.landing boundary position groups [] run)) :
    Core setup
      (.between groups { run with desk := run.desk.audit (.boundaryCheckpoint boundary) }) := by
  obtain ⟨hat, _, hrest⟩ := h.timed.stage
  refine ⟨⟨h.timed.grouped, h.timed.preflighted, h.timed.sorted, h.timed.phased, h.timed.ordered,
    fun row hrow => ?_⟩, h.orders.quiet (.of_audit rfl) (List.Perm.refl _)⟩
  have hb : row.boundary ≤ boundary := (hat.audit rfl).audit_until row hrow
  exact ⟨fun group hg => Nat.lt_of_le_of_lt hb (hat.groups_later group hg),
    fun a ha => Nat.lt_of_le_of_lt hb (hrest a ha)⟩

/-! ## Every step -/

/-- **Every step keeps the laws, and is a turn.** -/
theorem Step.core_turn {m m' : Moment} (h : Core setup m) (hs : Step setup m m') :
    Core setup m' ∧ Turn setup m m' := by
  cases hs.cases with
  | openGroup next apply =>
    obtain ⟨hcore, hsame, hscheduled⟩ := core_openGroup h next apply
    refine ⟨hcore, .quiet ?_ ?_⟩
    · exact { hsame with }
    · exact List.Perm.of_eq ((popActions_append _ _ _).trans hscheduled)
  | openScheduled next notGroup position_eq =>
    refine ⟨core_openScheduled h next notGroup position_eq, .quiet ?_ ?_⟩
    · exact SameOrders.of_eq rfl rfl rfl rfl rfl rfl
    · exact List.Perm.of_eq (popActions_append _ _ _)
  | decide body => exact core_decide h body
  | decided =>
    obtain ⟨hat, hlaunches, _, hrest⟩ := h.timed.stage
    exact ⟨⟨⟨h.timed.grouped, h.timed.preflighted, h.timed.sorted, h.timed.phased,
      h.timed.ordered, hat, hlaunches, hrest⟩, h.orders⟩,
      .quiet (SameOrders.of_eq rfl rfl rfl rfl rfl rfl) (List.Perm.refl _)⟩
  | launch body => exact core_launch h body
  | launched =>
    exact ⟨core_launched h, .quiet (SameOrders.of_eq rfl rfl rfl rfl rfl rfl)
      (List.Perm.of_eq (popActions_append _ _ _))⟩
  | land body => exact core_land h body
  | close => exact ⟨core_close h, .quiet (.of_audit rfl) (List.Perm.refl _)⟩

/-- The laws hold when a run starts. -/
theorem core_of_start {source : HistoricalEventSource} {m : Moment}
    (h : start setup source = .ok m) : Core setup m := by
  obtain ⟨_, h⟩ := check_bind_eq_ok.mp h
  obtain ⟨counts, hpre, h⟩ := bind_eq_ok.mp h
  obtain ⟨run, hrun, h⟩ := bind_eq_ok.mp h
  cases h
  obtain ⟨hp, _⟩ := preflight_eq_ok hpre
  obtain ⟨accounts, haccounts, hrun⟩ := bind_eq_ok.mp hrun
  cases hrun
  obtain ⟨hvalid, rfl⟩ := initialWalletProvisioningState_eq_ok haccounts
  refine ⟨⟨hp.wellGrouped, fun group hg event he => hp.events event ?_, List.Pairwise.nil,
    by simp [Moment.queue, Moment.due, Moment.run],
    by simp [Moment.queue, Moment.due, Moment.run], fun row hrow => (nomatch hrow)⟩,
    fun _ _ hs => (nomatch hs), Agenda.empty, fun _ ha => (nomatch ha), hvalid, rfl,
    fun _ _ hs => (nomatch hs)⟩
  rw [← hp.flatten]
  exact List.mem_flatten.mpr ⟨group, hg, he⟩

/-- **The laws hold at every moment a run gets to.** -/
theorem Reachable.core {source : HistoricalEventSource} {m : Moment}
    (h : Reachable setup source m) : Core setup m :=
  h.induct (fun _ h₀ => core_of_start h₀) fun _ _ _ hs ih => (hs.core_turn ih).1

/-- **Every step of a run is a turn.** -/
theorem Reachable.turn {source : HistoricalEventSource} {m m' : Moment}
    (h : Reachable setup source m) (hs : Step setup m m') : Turn setup m m' :=
  (hs.core_turn h.core).2

end Core

end OnchainBacktest
