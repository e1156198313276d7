import OnchainBacktest.Engine.SnipingEnd

/-!
# The chronicle of a run

The audit stream tells a run in the order of time: boundary by boundary, the group that is applied
first, then the decisions, then the landings, then the checkpoint that closes the boundary.  A step
writes at the end of the stream (`Chronicle.write`), so this order is kept (`Step.chronicle`), and
what a completed run has written is whole: every boundary is closed, every group of the source is
applied once (`run_forward`).
-/

set_option autoImplicit false

namespace OnchainBacktest

open Checked Relation

namespace AuditRecord

/-- Where in a boundary a row is written: with the group, a decision, a landing or the
checkpoint. -/
def stage (row : AuditRecord) : Nat :=
  if row.phase ≤ 10 then 0 else if row.phase ≤ 50 then 1 else if row.phase ≤ 60 then 2 else 3

/-- The order of the stream.  A boundary has one group and one checkpoint at most. -/
def Precedes (r s : AuditRecord) : Prop :=
  r.boundary < s.boundary ∨ r.boundary = s.boundary ∧
    (r.stage < s.stage ∨ r.stage = s.stage ∧ (s.stage = 1 ∨ s.stage = 2))

/-- The group a row says is applied: its boundary and its events. -/
def appliedGroup? : AuditRecord → Option (Nat × List ContentDigest)
  | historicalGroupApplied boundary eventIds _ => some (boundary, eventIds)
  | _ => none

end AuditRecord

/-- What the stream tells of a group. -/
def groupApplied (group : List CanonicalEvent) : Nat × List ContentDigest :=
  (groupBoundary group, group.map fun event => event.envelope.canonicalEventId)

/-! ## The row of a move -/

/-- Where in a boundary a round trip moves. -/
def moveStage (old : Option RoundTripState) : Nat :=
  if ∃ s ∈ old, s.pending ≠ some .sellDecision then 2 else 1

theorem moveStage_none : moveStage none = 1 := by
  rw [moveStage, if_neg (by simp)]

theorem moveStage_some {s : RoundTripState} {kind : ActionKind} (hs : s.pending = some kind) :
    moveStage (some s) = if kind = .sellDecision then 1 else 2 := by
  by_cases hk : kind = .sellDecision <;> simp [moveStage, hs, hk]

section Rows

variable [DomainDigest] {setup : SnipingSetup}

/-- A move writes its row at its stage. -/
theorem Move.row {rid : ContentDigest} {boundary : Nat} {desk desk' : Desk ContentDigest}
    {old : Option RoundTripState} {new : RoundTripState}
    (h : Move setup rid boundary desk old new desk') :
    ∃ row, desk'.recorder.audit = desk.recorder.audit ++ [row] ∧ row.boundary = boundary ∧
      row.stage = moveStage old ∧ row.appliedGroup? = none := by
  have hdecided : ∀ p : HeldPosition setup rid, moveStage (some p.state) = 1 := fun p => by
    rw [moveStage_some p.pending_eq, if_pos rfl]
  have hbuy : ∀ b : SubmittedBuy setup rid, moveStage (some b.state) = 2 := fun b => by
    rw [moveStage_some b.pending_eq, if_neg ActionKind.noConfusion]
  have hsell : ∀ o : SubmittedSell setup rid, moveStage (some o.state) = 2 := fun o => by
    rw [moveStage_some o.pending_eq, if_neg ActionKind.noConfusion]
  cases h with
  | suppressed => exact ⟨_, rfl, rfl, moveStage_none.symm, rfl⟩
  | buyReferenceRejected => exact ⟨_, rfl, rfl, moveStage_none.symm, rfl⟩
  | buyPreSubmitRejected => exact ⟨_, rfl, rfl, moveStage_none.symm, rfl⟩
  | buyAccepted _ _ _ _ apply =>
    exact ⟨_, congrArg (· ++ _) apply.audit, rfl, moveStage_none.symm, rfl⟩
  | buyFailed b _ _ _ _ apply =>
    exact ⟨_, congrArg (· ++ _) apply.audit, rfl, (hbuy b).symm, rfl⟩
  | buyFilled p _ _ _ apply =>
    exact ⟨_, congrArg (· ++ _) apply.audit, rfl, (hbuy p.toSubmittedBuy).symm, rfl⟩
  | sellUnavailable p => exact ⟨_, rfl, rfl, (hdecided p).symm, rfl⟩
  | sellPreSubmitRejected o => exact ⟨_, rfl, rfl, (hdecided o.toHeldPosition).symm, rfl⟩
  | sellAccepted o _ _ apply =>
    exact ⟨_, congrArg (· ++ _) apply.audit, rfl, (hdecided o.toHeldPosition).symm, rfl⟩
  | sellFailed o _ _ _ apply =>
    exact ⟨_, congrArg (· ++ _) apply.audit, rfl, (hsell o).symm, rfl⟩
  | closed o _ _ _ apply =>
    exact ⟨_, congrArg (· ++ _) apply.audit, rfl, (hsell o).symm, rfl⟩

end Rows

/-! ## The chronicle -/

namespace Moment

/-- The audit stream so far. -/
def audit (m : Moment) : List AuditRecord := m.run.desk.recorder.audit

/-- Where in its boundary a moment stands. -/
def stage : Moment → Nat
  | between _ _ => 3
  | deciding _ _ _ _ _ _ | launching _ _ _ _ _ => 1
  | landing _ _ _ _ _ => 2

end Moment

/-- The stream of a run over some groups tells it in order up to a moment. -/
structure Chronicle (groups : List (List CanonicalEvent)) (m : Moment) : Prop where
  ordered : m.audit.Pairwise AuditRecord.Precedes
  reached : ∀ row ∈ m.audit, ∀ b, m.boundary? = some b →
    row.boundary < b ∨ row.boundary = b ∧ row.stage ≤ m.stage
  closed : ∀ row ∈ m.audit, m.boundary? ≠ some row.boundary →
    .boundaryCheckpoint row.boundary ∈ m.audit
  applied : m.audit.filterMap AuditRecord.appliedGroup? ++ m.groups.map groupApplied
    = groups.map groupApplied

section Steps

variable {groups : List (List CanonicalEvent)} {m m' : Moment} {boundary : Nat}

/-- A moment that writes nothing and stays at its boundary. -/
theorem Chronicle.quiet (h : Chronicle groups m) (haudit : m'.audit = m.audit)
    (hb : m'.boundary? = m.boundary?) (hstage : m.stage ≤ m'.stage)
    (hgroups : m'.groups = m.groups) : Chronicle groups m' := by
  refine ⟨haudit ▸ h.ordered, fun row hrow b he => ?_, fun row hrow he => ?_, ?_⟩
  · rw [haudit] at hrow
    rw [hb] at he
    rcases h.reached row hrow b he with hlt | ⟨heq, hle⟩
    · exact .inl hlt
    · exact .inr ⟨heq, hle.trans hstage⟩
  · rw [haudit] at hrow ⊢
    exact h.closed row hrow (hb ▸ he)
  · rw [haudit, hgroups]
    exact h.applied

/-- A row written at the boundary at hand goes to the end of the stream. -/
theorem Chronicle.write (row : AuditRecord) (h : Chronicle groups m)
    (hb : m.boundary? = some boundary) (hrow : row.boundary = boundary)
    (hstage : row.stage = m.stage) (hinner : m.stage = 1 ∨ m.stage = 2)
    (hnone : row.appliedGroup? = none) (haudit : m'.audit = m.audit ++ [row])
    (hb' : m'.boundary? = m.boundary?) (hstage' : m'.stage = m.stage)
    (hgroups : m'.groups = m.groups) : Chronicle groups m' := by
  refine ⟨?_, fun r hr b he => ?_, fun r hr he => ?_, ?_⟩
  · rw [haudit]
    refine List.pairwise_append.mpr ⟨h.ordered, List.pairwise_singleton _ _, fun r hr s hs => ?_⟩
    rw [List.mem_singleton.mp hs, AuditRecord.Precedes, hrow, hstage]
    rcases h.reached r hr boundary hb with hlt | ⟨heq, hle⟩
    · exact .inl hlt
    · exact .inr ⟨heq, (Nat.lt_or_eq_of_le hle).imp_right fun he => ⟨he, hinner⟩⟩
  · rw [haudit] at hr
    rw [hb'] at he
    rw [hstage']
    rcases List.mem_append.mp hr with hr | hr
    · exact h.reached r hr b he
    · rw [List.mem_singleton.mp hr, hrow]
      exact .inr ⟨Option.some.inj (hb.symm.trans he), hstage.le⟩
  · rw [haudit] at hr ⊢
    rw [hb'] at he
    rcases List.mem_append.mp hr with hr | hr
    · exact List.mem_append_left _ (h.closed r hr he)
    · rw [List.mem_singleton.mp hr, hrow] at he
      exact absurd hb he
  · rw [haudit, hgroups, List.filterMap_append, List.filterMap_cons_none hnone, List.filterMap_nil,
      List.append_nil]
    exact h.applied

/-- A boundary opens after everything that was written. -/
theorem Chronicle.open {run run' : RunState} {due : List (ScheduledAction ContentDigest)}
    {launches : List LaunchTarget} {position : ChainPosition}
    {groups₁ groups₂ : List (List CanonicalEvent)} (rows : List AuditRecord)
    (h : Chronicle groups (.between groups₁ run))
    (hlater : ∀ row ∈ run.desk.recorder.audit, row.boundary < boundary)
    (hordered : rows.Pairwise AuditRecord.Precedes)
    (hrows : ∀ row ∈ rows, row.boundary = boundary ∧ row.stage ≤ 1)
    (haudit : run'.desk.recorder.audit = run.desk.recorder.audit ++ rows)
    (happlied : rows.filterMap AuditRecord.appliedGroup? ++ groups₂.map groupApplied
      = groups₁.map groupApplied) :
    Chronicle groups (.deciding boundary position groups₂ launches due run') := by
  refine ⟨?_, fun r hr b he => ?_, fun r hr he => ?_, ?_⟩
  · rw [Moment.audit, Moment.run, haudit]
    refine List.pairwise_append.mpr ⟨h.ordered, hordered, fun r hr s hs => .inl ?_⟩
    rw [(hrows s hs).1]
    exact hlater r hr
  · rw [Moment.audit, Moment.run, haudit] at hr
    obtain rfl : boundary = b := Option.some.inj he
    rcases List.mem_append.mp hr with hr | hr
    · exact .inl (hlater r hr)
    · exact .inr (hrows r hr)
  · rw [Moment.audit, Moment.run, haudit] at hr ⊢
    rcases List.mem_append.mp hr with hr | hr
    · exact List.mem_append_left _ (h.closed r hr (Option.some_ne_none _).symm)
    · exact absurd (congrArg some (hrows r hr).1.symm) he
  · rw [Moment.audit, Moment.run, haudit, List.filterMap_append, List.append_assoc]
    exact (congrArg _ happlied).trans h.applied

end Steps

section Run

variable [DomainDigest] {setup : SnipingSetup} {groups : List (List CanonicalEvent)}

/-- **Every step keeps the order of the stream.** -/
theorem Step.chronicle {m m' : Moment} (hcore : Core setup m) (h : Chronicle groups m)
    (hs : Step setup m m') : Chronicle groups m' := by
  cases hs.cases with
  | openGroup next apply =>
    rename_i first rest later run run' launches
    obtain ⟨⟨timeNs, curves, _, _, rfl⟩, _⟩ := applyGroup_eq_ok apply
    refine .open [_] h (fun row hrow => ?_) (List.pairwise_singleton _ _)
      (fun row hrow => ?_) rfl rfl
    · exact (hcore.timed.stage row hrow).1 _ List.mem_cons_self
    · rw [List.mem_singleton.mp hrow]
      exact ⟨rfl, Nat.zero_le _⟩
  | openScheduled next notGroup position_eq =>
    obtain ⟨_, _, hfirst⟩ := nextBoundary_eq_some next hcore.timed.grouped hcore.timed.sorted
    refine .open [] h (fun row hrow => ?_) List.Pairwise.nil (by simp)
      (List.append_nil _).symm rfl
    obtain ⟨hg, ha⟩ := hcore.timed.stage row hrow
    rcases hfirst with ⟨group, later, rfl, hgroup⟩ | ⟨a, rest, hrest, hrelease⟩
    · exact hgroup ▸ hg group List.mem_cons_self
    · exact hrelease ▸ ha a (hrest ▸ List.mem_cons_self)
  | decide body =>
    rename_i boundary position later launches action due run run'
    obtain ⟨hat, _, hdue, _⟩ := hcore.timed.stage
    obtain ⟨hrelease, hkind⟩ := hdue action List.mem_cons_self
    obtain ⟨old, new, hpending, hmoved, _⟩ :=
      moved_of_decideAction hcore.orders hat hrelease body
    obtain ⟨row, haudit, hb, hstage, hnone⟩ := hmoved.move.row
    rw [moveStage_some hpending, if_pos hkind] at hstage
    exact .write row h rfl hb hstage (.inl rfl) hnone haudit rfl rfl rfl
  | decided => exact h.quiet rfl rfl le_rfl rfl
  | launch body =>
    rename_i boundary position later target launches run run'
    obtain ⟨hat, hlaunches, _⟩ := hcore.timed.stage
    obtain ⟨contained, _, body⟩ := bind_eq_ok.mp body
    cases contained with
    | true =>
      obtain ⟨new, _, hmoved, _⟩ :=
        moved_of_decideLaunch hcore.orders (hlaunches target List.mem_cons_self) body
      obtain ⟨row, haudit, hb, hstage, hnone⟩ := hmoved.move.row
      rw [moveStage_none] at hstage
      exact .write row h rfl hb hstage (.inl rfl) hnone haudit rfl rfl rfl
    | false =>
      cases body
      exact .write (.targetOutsideDecisionRange boundary target.targetEventId) h rfl rfl rfl
        (.inl rfl) rfl rfl rfl rfl rfl
  | launched => exact h.quiet rfl rfl (Nat.le_succ 1) rfl
  | land body =>
    rename_i boundary position later action due run run'
    obtain ⟨hat, hdue, _⟩ := hcore.timed.stage
    obtain ⟨hrelease, hkind⟩ := hdue action List.mem_cons_self
    obtain ⟨old, new, hpending, hmoved, _⟩ := moved_of_landAction hcore.orders hat hrelease body
    obtain ⟨row, haudit, hb, hstage, hnone⟩ := hmoved.move.row
    rw [moveStage_some hpending, if_neg hkind] at hstage
    exact .write row h rfl hb hstage (.inr rfl) hnone haudit rfl rfl rfl
  | close fits =>
    rename_i boundary position later run
    -- the checkpoint is later than every stage of its boundary
    refine ⟨?_, fun r hr b he => ?_, fun r hr he => ?_, ?_⟩
    · refine List.pairwise_append.mpr ⟨h.ordered, List.pairwise_singleton _ _,
        fun r hr s hs => ?_⟩
      rw [List.mem_singleton.mp hs]
      rcases h.reached r hr boundary rfl with hlt | ⟨heq, hle⟩
      · exact .inl hlt
      · exact .inr ⟨heq, .inl (Nat.lt_succ_of_le hle)⟩
    · cases he
    · by_cases hb : r.boundary = boundary
      · rw [hb]
        exact List.mem_append_right _ List.mem_cons_self
      · rcases List.mem_append.mp hr with hr | hr
        · exact List.mem_append_left _
            (h.closed r hr fun he => hb (Option.some.inj he).symm)
        · rw [List.mem_singleton.mp hr] at hb
          exact absurd rfl hb
    · refine Eq.trans ?_ h.applied
      exact congrArg (· ++ _) (List.filterMap_append.trans (List.append_nil _))

/-- The stream of a run is in order at every moment. -/
theorem Reachable.chronicle {source : HistoricalEventSource} {m : Moment}
    (h : Reachable setup source m) :
    Chronicle (eventGroups setup.clock source.events).groups m := by
  refine h.induct (fun m h₀ => ?_) fun m m' hm hs ih => hs.chronicle hm.core ih
  obtain ⟨_, h₀⟩ := check_bind_eq_ok.mp h₀
  obtain ⟨_, _, h₀⟩ := bind_eq_ok.mp h₀
  obtain ⟨run, hrun, h₀⟩ := bind_eq_ok.mp h₀
  cases h₀
  obtain ⟨_, _, hrun⟩ := bind_eq_ok.mp hrun
  cases hrun
  exact ⟨List.Pairwise.nil, fun _ hr => absurd hr List.not_mem_nil,
    fun _ hr => absurd hr List.not_mem_nil, rfl⟩

omit [DomainDigest] in
/-- Nothing is to come when nothing is ahead. -/
theorem nextBoundary_of_ahead {later : List (List CanonicalEvent)} {run : RunState}
    (h : (Moment.between later run).ahead = 0) : nextBoundary later run.desk.scheduled = none := by
  refine nextBoundary_eq_none.mpr ⟨List.length_eq_zero_iff.mp ?_, ?_⟩
  · simp only [Moment.ahead, Moment.groups] at h
    omega
  · by_contra hne
    obtain ⟨action, rest, hrest⟩ := List.exists_cons_of_ne_nil hne
    have hpos : 0 < action.kind.ahead := by cases action.kind <;> decide
    simp [Moment.ahead, Moment.queue, Moment.due, Moment.run, hrest] at h
    omega

theorem runLoop_of_none {later : List (List CanonicalEvent)} {run : RunState}
    (h : nextBoundary later run.desk.scheduled = none) (fuel : Nat) :
    runLoop setup fuel later run = .ok (later, run) := by
  cases fuel with
  | zero => rfl
  | succ fuel => rw [runLoop, h]

/-- More rounds than what is ahead change nothing. -/
theorem runLoop_rounds (fuel fuel' : Nat) {later : List (List CanonicalEvent)} {run : RunState}
    (hcore : Core setup (.between later run)) (h : (Moment.between later run).ahead ≤ fuel)
    (h' : (Moment.between later run).ahead ≤ fuel') :
    runLoop setup fuel later run = runLoop setup fuel' later run := by
  induction fuel generalizing fuel' later run with
  | zero =>
    have hnext := nextBoundary_of_ahead (Nat.le_zero.mp h)
    rw [runLoop_of_none hnext, runLoop_of_none hnext]
  | succ fuel ih =>
    cases hnext : nextBoundary later run.desk.scheduled with
    | none => rw [runLoop_of_none hnext, runLoop_of_none hnext]
    | some boundary =>
      cases fuel' with
      | zero => cases (nextBoundary_of_ahead (Nat.le_zero.mp h')).symm.trans hnext
      | succ fuel' =>
        rw [runLoop, runLoop, hnext]
        show processBoundary setup later run boundary >>= _
          = processBoundary setup later run boundary >>= _
        cases hbody : processBoundary setup later run boundary with
        | error e => rfl
        | ok result =>
          obtain ⟨later', run'⟩ := result
          have hlt := ahead_processBoundary hcore hnext hbody
          have hreached := (reaches_of_processBoundary hnext hbody).to_reflTransGen
          exact ih fuel' (hcore.reaches hreached) (by omega) (by omega)

/-- **A run goes forward in time and ends.**  At every moment what is due is due at the boundary at
hand, what is scheduled was created before its release and is not late, and the groups to come are
later.  More rounds than the loop is given change nothing.  A completed run has told every boundary
in order and closed it, has applied every group of its source once and in order, and has nothing
scheduled. -/
theorem run_forward (setup : SnipingSetup) (source : HistoricalEventSource) :
    (∀ m, Reachable setup source m →
      (∀ a ∈ m.queue, a.creatorBoundaryOrdinal < a.releaseBoundaryOrdinal) ∧
      (∀ b, m.boundary? = some b → (∀ a ∈ m.due, a.releaseBoundaryOrdinal = b) ∧
        (∀ a ∈ m.queue, b ≤ a.releaseBoundaryOrdinal) ∧
        ∀ group ∈ m.groups, b < groupBoundary group) ∧
      m.audit.Pairwise AuditRecord.Precedes) ∧
    (∀ groups run, start setup source = .ok (.between groups run) → ∀ fuel, fuelOf groups ≤ fuel →
      runLoop setup fuel groups run = runLoop setup (fuelOf groups) groups run) ∧
    ∀ run, simulate setup source = .ok run →
      run.desk.recorder.audit.Pairwise AuditRecord.Precedes ∧
      (∀ row ∈ run.desk.recorder.audit,
        .boundaryCheckpoint row.boundary ∈ run.desk.recorder.audit) ∧
      run.desk.recorder.audit.filterMap AuditRecord.appliedGroup?
        = (eventGroups setup.clock source.events).groups.map groupApplied ∧
      run.desk.scheduled = [] := by
  refine ⟨fun m h => ⟨h.core.timed.ordered, fun b hb => ?_, h.chronicle.ordered⟩,
    fun groups run h fuel hfuel => ?_, fun run h => ?_⟩
  · have hstage := h.core.timed.stage
    -- what is due is released now, and so is not late either
    have hqueue : (∀ a ∈ m.due, a.releaseBoundaryOrdinal = b) →
        (∀ a ∈ m.run.desk.scheduled, b ≤ a.releaseBoundaryOrdinal) →
        ∀ a ∈ m.queue, b ≤ a.releaseBoundaryOrdinal := fun hdue hscheduled a ha =>
      (List.mem_append.mp ha).elim (fun ha => (hdue a ha).ge) (hscheduled a)
    cases m with
    | between groups run => cases hb
    | deciding boundary position groups launches due run =>
      cases hb
      obtain ⟨hat, _, hdue, _⟩ := hstage
      have hdue : ∀ a ∈ due, a.releaseBoundaryOrdinal = b := fun a ha => (hdue a ha).1
      exact ⟨hdue, hqueue hdue hat.scheduled_from, hat.groups_later⟩
    | launching boundary position groups launches run =>
      cases hb
      obtain ⟨hat, _⟩ := hstage
      exact ⟨fun _ ha => absurd ha List.not_mem_nil,
        hqueue (fun _ ha => absurd ha List.not_mem_nil) hat.scheduled_from, hat.groups_later⟩
    | landing boundary position groups due run =>
      cases hb
      obtain ⟨hat, hdue, _⟩ := hstage
      have hdue : ∀ a ∈ due, a.releaseBoundaryOrdinal = b := fun a ha => (hdue a ha).1
      exact ⟨hdue, hqueue hdue hat.scheduled_from, hat.groups_later⟩
  · have hempty : run.desk.scheduled = [] := by
      obtain ⟨_, hbody⟩ := check_bind_eq_ok.mp h
      obtain ⟨_, _, hbody⟩ := bind_eq_ok.mp hbody
      obtain ⟨run', hrun, hbody⟩ := bind_eq_ok.mp hbody
      cases hbody
      obtain ⟨_, _, hrun⟩ := bind_eq_ok.mp hrun
      cases hrun
      rfl
    have hahead : (Moment.between groups run).ahead = fuelOf groups := by
      simp [Moment.ahead, Moment.groups, Moment.launches, Moment.queue, Moment.due, Moment.run,
        hempty, fuelOf]
    exact runLoop_rounds _ _ (core_of_start h) (hahead.trans_le hfuel) hahead.le
  · obtain ⟨hreached, hscheduled⟩ := reachable_of_simulate h
    have hchronicle := hreached.chronicle
    exact ⟨hchronicle.ordered,
      fun row hrow => hchronicle.closed row hrow (Option.some_ne_none _).symm,
      (List.append_nil _).symm.trans hchronicle.applied, hscheduled⟩

end Run

end OnchainBacktest
