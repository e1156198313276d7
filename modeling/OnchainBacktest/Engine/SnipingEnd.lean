import OnchainBacktest.Engine.SnipingTurns

/-!
# The end of a run

Every action that is scheduled takes its round trip one action nearer to its end, so what is ahead
of a run (`Moment.ahead`: groups, launches and actions) never grows, and a boundary makes it
smaller.  The rounds of `fuelOf` are therefore enough: the loop ends with no group left and an
empty schedule (`runLoop_ends`), and a run that completes has reached such a moment
(`reachable_of_simulate`).
-/

set_option autoImplicit false

namespace OnchainBacktest

open Checked Relation

/-! ## What is ahead -/

/-- The actions a round trip has ahead when it waits for one. -/
def ActionKind.ahead : ActionKind → Nat
  | buyLanding => 3
  | sellDecision => 2
  | sellLanding => 1

/-- The actions ahead of a round trip. -/
def actionsAhead (task : Option ActionKind) : Nat := (task.map ActionKind.ahead).getD 0

/-- The actions ahead of a queue. -/
def queueAhead (queue : List (ScheduledAction ContentDigest)) : Nat :=
  (queue.map fun a => a.kind.ahead).sum

@[simp] theorem queueAhead_nil : queueAhead [] = 0 := rfl

@[simp] theorem queueAhead_cons (a : ScheduledAction ContentDigest)
    (queue : List (ScheduledAction ContentDigest)) :
    queueAhead (a :: queue) = a.kind.ahead + queueAhead queue := by
  rw [queueAhead, List.map_cons, List.sum_cons]
  rfl

@[simp] theorem queueAhead_append (queue queue' : List (ScheduledAction ContentDigest)) :
    queueAhead (queue ++ queue') = queueAhead queue + queueAhead queue' := by
  rw [queueAhead, List.map_append, List.sum_append]
  rfl

theorem queueAhead_perm {queue queue' : List (ScheduledAction ContentDigest)}
    (h : queue.Perm queue') : queueAhead queue = queueAhead queue' := (h.map _).sum_eq

/-- What is ahead of a run: its groups, three actions for each launch, and its queue. -/
def Moment.ahead (m : Moment) : Nat :=
  m.groups.length + 3 * (m.groups.flatten.length + m.launches.length) + queueAhead m.queue

section Run

variable [DomainDigest] {setup : SnipingSetup} {rid : ContentDigest} {boundary : Nat}
  {desk desk' : Desk ContentDigest} {old : Option RoundTripState} {new : RoundTripState}
  {fresh : List (ScheduledAction ContentDigest)}

omit [DomainDigest] in
theorem Fresh.ahead (h : Fresh setup rid boundary new fresh) :
    queueAhead fresh = actionsAhead new.pending := by
  have h1 : fresh.map (fun a => a.kind) = new.pending.toList := by
    have h2 := congrArg (List.map Prod.snd) h.tasks
    rw [List.map_map] at h2
    rw [show (fun a : ScheduledAction ContentDigest => a.kind)
      = Prod.snd ∘ fun a => (a.subject, a.kind) from rfl, h2]
    cases new.pending <;> rfl
  have h2 : queueAhead fresh = ((fresh.map fun a => a.kind).map ActionKind.ahead).sum := by
    rw [List.map_map]
    rfl
  rw [h2, h1, actionsAhead]
  cases new.pending <;> rfl

/-- **A move takes its round trip nearer to its end.** -/
theorem Move.ahead_lt {s : RoundTripState} (h : Move setup rid boundary desk (some s) new desk') :
    actionsAhead new.pending < actionsAhead s.pending := by
  have hdone : ∀ kind : ActionKind, actionsAhead none < actionsAhead (some kind) := by
    intro kind
    cases kind <;> decide
  cases h with
  | buyFailed b =>
    rw [b.pending_eq]
    exact hdone .buyLanding
  | buyFilled p =>
    rw [p.pending_eq, p.toSubmittedBuy.pending_eq]
    decide
  | sellUnavailable p =>
    rw [p.pending_eq]
    exact hdone .sellDecision
  | sellPreSubmitRejected o =>
    rw [o.toHeldPosition.pending_eq]
    exact hdone .sellDecision
  | sellAccepted o =>
    rw [o.pending_eq, o.toHeldPosition.pending_eq]
    decide
  | sellFailed o =>
    rw [o.pending_eq]
    exact hdone .sellLanding
  | closed o =>
    rw [o.pending_eq]
    exact hdone .sellLanding

omit [DomainDigest] in
theorem actionsAhead_le (task : Option ActionKind) : actionsAhead task ≤ 3 := by
  cases task with
  | none => decide
  | some kind => cases kind <;> decide

/-! ## The queue of a turn -/

/-- The queue after a launch. -/
theorem queue_of_launched {m m' : Moment} (hdue : m'.due = m.due)
    (hm : Move setup rid boundary m.run.desk none new m'.run.desk) :
    ∃ fresh, Fresh setup rid boundary new fresh ∧ m'.queue.Perm (fresh ++ m.queue) := by
  obtain ⟨fresh, hfresh, hperm, _⟩ := hm.fresh
  refine ⟨fresh, hfresh, ?_⟩
  rw [Moment.queue, Moment.queue, hdue]
  refine (hperm.append_left m.due).trans ?_
  rw [← List.append_assoc, ← List.append_assoc]
  exact List.perm_append_comm.append_right _

/-- The queue after an action: the action is gone, and its round trip's next one is there. -/
theorem queue_of_acted {m m' : Moment} {action : ScheduledAction ContentDigest}
    (hdue : m.due = action :: m'.due)
    (hm : Move setup rid boundary m.run.desk old new m'.run.desk) :
    ∃ fresh rest, Fresh setup rid boundary new fresh ∧ m.queue = action :: rest ∧
      m'.queue.Perm (fresh ++ rest) := by
  obtain ⟨fresh, hfresh, hperm, _⟩ := hm.fresh
  refine ⟨fresh, m'.due ++ m.run.desk.scheduled, hfresh, ?_, ?_⟩
  · rw [Moment.queue, hdue]
    rfl
  · rw [Moment.queue]
    refine (hperm.append_left m'.due).trans ?_
    rw [← List.append_assoc, ← List.append_assoc]
    exact List.perm_append_comm.append_right _

/-- **A turn leaves less ahead, or no more and everything that was due.** -/
theorem Turn.ahead {m m' : Moment} (h : Turn setup m m') (hgroups : m'.groups = m.groups)
    (hlaunches : m'.launches.length ≤ m.launches.length) :
    m'.ahead < m.ahead ∨ m'.ahead ≤ m.ahead ∧ ∀ a ∈ m.queue, a ∈ m'.queue := by
  cases h with
  | quiet same queue =>
    refine .inr ⟨?_, fun a ha => queue.mem_iff.mpr ha⟩
    rw [Moment.ahead, Moment.ahead, hgroups, queueAhead_perm queue]
    omega
  | @launched _ _ new _ _ launch due moved =>
    obtain ⟨fresh, hfresh, hperm⟩ := queue_of_launched due moved.move
    refine .inr ⟨?_, fun a ha => hperm.mem_iff.mpr (List.mem_append_right _ ha)⟩
    have hle := actionsAhead_le new.pending
    rw [Moment.ahead, Moment.ahead, hgroups, queueAhead_perm hperm, queueAhead_append,
      hfresh.ahead, launch, List.length_cons]
    omega
  | acted _ _ due _ pending moved =>
    obtain ⟨fresh, rest, hfresh, hqueue, hperm⟩ := queue_of_acted due moved.move
    refine .inl ?_
    have hlt := moved.move.ahead_lt
    rw [pending] at hlt
    rw [Moment.ahead, Moment.ahead, hgroups, queueAhead_perm hperm, queueAhead_append,
      hfresh.ahead, hqueue, queueAhead_cons]
    have hlt : actionsAhead _ < ActionKind.ahead _ := hlt
    omega

/-! ## What is ahead shrinks -/

omit [DomainDigest] in
theorem ensureSingleLaunch_length_le {group : List CanonicalEvent} {launches : List LaunchTarget}
    (h : ensureSingleLaunch (group.filterMap CanonicalEvent.pumpLaunch?) = .ok launches) :
    launches.length ≤ group.length := by
  obtain ⟨_, rfl⟩ := ensureSingleLaunch_eq_ok h
  rw [List.length_insertionSort]
  exact List.length_filterMap_le _ _

omit [DomainDigest] in
/-- A group that is opened is no longer ahead. -/
theorem ahead_openGroup {first : CanonicalEvent} {rest : List CanonicalEvent}
    {later : List (List CanonicalEvent)} {run run' : RunState} {launches : List LaunchTarget}
    {position : ChainPosition}
    (apply : applyGroup setup run first (first :: rest) = .ok (run', launches)) :
    (Moment.deciding boundary position later launches
        (popActions run'.desk.scheduled boundary 40).1
        { run' with desk := { run'.desk with
          scheduled := (popActions run'.desk.scheduled boundary 40).2 } }).ahead
      < (Moment.between ((first :: rest) :: later) run).ahead := by
  obtain ⟨⟨timeNs, curves, _, _, rfl⟩, hlaunches⟩ := applyGroup_eq_ok apply
  have hle := ensureSingleLaunch_length_le hlaunches
  simp only [Moment.ahead, Moment.groups, Moment.launches, Moment.queue, Moment.due, Moment.run,
    popActions_append, List.flatten_cons, List.length_append, List.length_cons, List.length_nil,
    List.nil_append, Desk.audit] at hle ⊢
  omega

/-- What is ahead of a run that has left a moment with `n` ahead: less, unless it is still at that
boundary and something is due there. -/
def AheadOf (n : Nat) : Moment → Prop
  | .between groups run => (Moment.between groups run).ahead < n
  | m => m.ahead < n ∨
    m.ahead ≤ n ∧ ∃ a ∈ m.queue, m.boundary? = some a.releaseBoundaryOrdinal

omit [DomainDigest] in
theorem AheadOf.of_lt {n : Nat} {m : Moment} (h : m.ahead < n) : AheadOf n m := by
  cases m with
  | between => exact h
  | _ => exact .inl h

/-- A turn inside a boundary. -/
theorem AheadOf.turn {n : Nat} {m m' : Moment} (h : m.ahead < n ∨
      m.ahead ≤ n ∧ ∃ a ∈ m.queue, m.boundary? = some a.releaseBoundaryOrdinal)
    (ht : Turn setup m m') (hgroups : m'.groups = m.groups)
    (hlaunches : m'.launches.length ≤ m.launches.length) (hb : m'.boundary? = m.boundary?) :
    m'.ahead < n ∨
      m'.ahead ≤ n ∧ ∃ a ∈ m'.queue, m'.boundary? = some a.releaseBoundaryOrdinal := by
  rcases ht.ahead hgroups hlaunches with hlt | ⟨hle, hmem⟩
  · refine .inl ?_
    rcases h with h | ⟨h, _⟩
    · omega
    · omega
  · rcases h with h | ⟨h, a, ha, hrelease⟩
    · exact .inl (by omega)
    · exact .inr ⟨by omega, a, hmem a ha, hb.trans hrelease⟩

/-- **A step leaves less ahead.** -/
theorem AheadOf.step {n : Nat} {m m' : Moment} (hcore : Core setup m) (hs : Step setup m m')
    (h : AheadOf n m) : AheadOf n m' := by
  have ht := (hs.core_turn hcore).2
  cases hs.cases with
  | openGroup next apply =>
    exact .of_lt (Nat.lt_trans (ahead_openGroup apply) h)
  | openScheduled next notGroup position_eq =>
    refine .of_lt (Nat.lt_of_le_of_lt ?_ h)
    rcases ht.ahead rfl (Nat.le_refl _) with hlt | ⟨hle, _⟩
    · exact hlt.le
    · exact hle
  | decide body => exact AheadOf.turn h ht rfl (Nat.le_refl _) rfl
  | decided => exact AheadOf.turn h ht rfl (Nat.le_refl _) rfl
  | launch body => exact AheadOf.turn h ht rfl (Nat.le_succ _) rfl
  | launched => exact AheadOf.turn h ht rfl (Nat.le_refl _) rfl
  | land body => exact AheadOf.turn h ht rfl (Nat.le_refl _) rfl
  | close =>
    obtain ⟨_, _, hrest⟩ := hcore.timed.stage
    rcases h with h | ⟨_, a, ha, hrelease⟩
    · exact h
    · -- nothing is due at a boundary that is closed
      have hlater := hrest a ha
      cases hrelease
      omega

/-- Opening a boundary starts on what is ahead. -/
theorem AheadOf.open {groups : List (List CanonicalEvent)} {run : RunState} {m : Moment}
    (hcore : Core setup (.between groups run)) (hs : Step setup (.between groups run) m) :
    AheadOf (Moment.between groups run).ahead m := by
  have ht := (hs.core_turn hcore).2
  cases hs.cases with
  | openGroup next apply => exact .of_lt (ahead_openGroup apply)
  | @openScheduled _ _ boundary _ next notGroup position_eq =>
    obtain ⟨_, _, hfirst⟩ := nextBoundary_eq_some next hcore.timed.grouped hcore.timed.sorted
    rcases hfirst with ⟨group, later, rfl, hb⟩ | ⟨a, rest, ha, hb⟩
    · match group, notGroup, hb, hcore with
      | [], _, _, hcore =>
        exact absurd rfl (hcore.timed.grouped.isGroup _ List.mem_cons_self).nonempty
      | first :: rest, notGroup, hb, _ => exact absurd hb (notGroup first rest later rfl)
    · rcases ht.ahead rfl (Nat.le_refl _) with hlt | ⟨hle, hmem⟩
      · exact .inl hlt
      · refine .inr ⟨hle, a, hmem a ?_, congrArg some hb.symm⟩
        show a ∈ [] ++ run.desk.scheduled
        rw [ha]
        exact List.mem_cons_self

/-! ## The loop ends -/

theorem Core.reaches {m m' : Moment} (h : Core setup m) (hr : ReflTransGen (Step setup) m m') :
    Core setup m' := by
  induction hr with
  | refl => exact h
  | tail _ hs ih => exact (hs.core_turn ih).1

theorem AheadOf.reaches {n : Nat} {m m' : Moment} (hcore : Core setup m) (h : AheadOf n m)
    (hr : ReflTransGen (Step setup) m m') : AheadOf n m' := by
  induction hr with
  | refl => exact h
  | tail hr hs ih => exact ih.step (hcore.reaches hr) hs

/-- **A boundary that is processed leaves less ahead.** -/
theorem ahead_processBoundary {groups groups' : List (List CanonicalEvent)} {run run' : RunState}
    (hcore : Core setup (.between groups run))
    (hnext : nextBoundary groups run.desk.scheduled = some boundary)
    (h : processBoundary setup groups run boundary = .ok (groups', run')) :
    (Moment.between groups' run').ahead < (Moment.between groups run).ahead := by
  obtain ⟨m, hopen, hpath⟩ := TransGen.head'_iff.mp (reaches_of_processBoundary hnext h)
  exact AheadOf.reaches (hopen.core_turn hcore).1 (.open hcore hopen) hpath

omit [DomainDigest] in
theorem nextBoundary_eq_none {groups : List (List CanonicalEvent)}
    {scheduled : List (ScheduledAction ContentDigest)} :
    nextBoundary groups scheduled = none ↔ groups = [] ∧ scheduled = [] := by
  match groups, scheduled with
  | [], [] => simp [nextBoundary]
  | [], _ :: _ => simp [nextBoundary]
  | _ :: _, [] => simp [nextBoundary]
  | _ :: _, _ :: _ => simp [nextBoundary]

/-- **With as many rounds as is ahead, the loop ends: no group is left and nothing is scheduled.** -/
theorem runLoop_ends (fuel : Nat) {groups groups' : List (List CanonicalEvent)}
    {run run' : RunState} (hcore : Core setup (.between groups run))
    (hfuel : (Moment.between groups run).ahead ≤ fuel)
    (h : runLoop setup fuel groups run = .ok (groups', run')) :
    groups' = [] ∧ run'.desk.scheduled = [] := by
  induction fuel generalizing groups run with
  | zero =>
    cases h
    refine nextBoundary_eq_none.mp ?_
    cases hnext : nextBoundary groups' run'.desk.scheduled with
    | none => rfl
    | some boundary =>
      -- something ahead of the boundary counts
      exfalso
      obtain ⟨_, _, hfirst⟩ := nextBoundary_eq_some hnext hcore.timed.grouped hcore.timed.sorted
      rcases hfirst with ⟨group, later, rfl, _⟩ | ⟨a, rest, ha, _⟩
      · simp [Moment.ahead, Moment.groups] at hfuel
      · have hpos : 0 < a.kind.ahead := by cases a.kind <;> decide
        simp [Moment.ahead, Moment.queue, Moment.due, Moment.run, ha] at hfuel
        omega
  | succ fuel ih =>
    rw [runLoop] at h
    split at h
    · rename_i hnone
      cases h
      exact nextBoundary_eq_none.mp hnone
    · rename_i boundary hnext
      obtain ⟨⟨groups₁, run₁⟩, h₁, h⟩ := bind_eq_ok.mp h
      have hlt := ahead_processBoundary hcore hnext h₁
      exact ih (hcore.reaches (reaches_of_processBoundary hnext h₁).to_reflTransGen) (by omega) h

/-! ## A completed run -/

/-- **A run that completes has reached a moment with nothing to come.** -/
theorem reachable_of_simulate {source : HistoricalEventSource} {run : RunState}
    (h : simulate setup source = .ok run) :
    Reachable setup source (.between [] run) ∧ run.desk.scheduled = [] := by
  obtain ⟨hchain, h⟩ := check_bind_eq_ok.mp h
  obtain ⟨counts, hpre, h⟩ := bind_eq_ok.mp h
  obtain ⟨opening, hopening, h⟩ := bind_eq_ok.mp h
  obtain ⟨⟨groups, run'⟩, hloop, h⟩ := bind_eq_ok.mp h
  obtain ⟨_, h⟩ := check_bind_eq_ok.mp h
  obtain ⟨_, h⟩ := check_bind_eq_ok.mp h
  obtain ⟨_, h⟩ := check_bind_eq_ok.mp h
  cases h
  have hstart : start setup source
      = .ok (.between (eventGroups setup.clock source.events).groups opening) := by
    rw [start, hchain, ok_bind, hpre, ok_bind, hopening, ok_bind]
  have hcore := core_of_start hstart
  have hempty : opening.desk.scheduled = [] := by
    obtain ⟨_, _, hopening⟩ := bind_eq_ok.mp hopening
    cases hopening
    rfl
  obtain ⟨rfl, hscheduled⟩ := runLoop_ends _ hcore (by
    simp [Moment.ahead, Moment.groups, Moment.launches, Moment.queue, Moment.due, Moment.run,
      hempty, fuelOf]) hloop
  exact ⟨⟨_, hstart, reaches_of_runLoop _ hloop⟩, hscheduled⟩

end Run

end OnchainBacktest
