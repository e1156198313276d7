import Mathlib.Logic.Relation
import OnchainBacktest.Engine.RoundTripMoves

/-!
# A run, step by step

The loop of the engine is broken into single steps: open a boundary, decide one sell, process one
launch, take the landings, land one order, close the boundary.  A `Moment` is where a run stands
between two of them, and `Moment.next` is the step.

`Reachable` are the moments a run of a source gets to.  A completed run ends in one of them
(`reachable_of_simulate`).
-/

set_option autoImplicit false

namespace OnchainBacktest

open Checked Relation

/-- Where a run stands between two steps. -/
inductive Moment
  | between (groups : List (List CanonicalEvent)) (run : RunState)
  | deciding (boundary : Nat) (position : ChainPosition) (groups : List (List CanonicalEvent))
    (launches : List LaunchTarget) (due : List (ScheduledAction ContentDigest)) (run : RunState)
  | launching (boundary : Nat) (position : ChainPosition) (groups : List (List CanonicalEvent))
    (launches : List LaunchTarget) (run : RunState)
  | landing (boundary : Nat) (position : ChainPosition) (groups : List (List CanonicalEvent))
    (due : List (ScheduledAction ContentDigest)) (run : RunState)

namespace Moment

/-- The state of the run. -/
def run : Moment → RunState
  | between _ run | deciding _ _ _ _ _ run | launching _ _ _ _ run | landing _ _ _ _ run => run

/-- The groups that are still to come. -/
def groups : Moment → List (List CanonicalEvent)
  | between groups _ | deciding _ _ groups _ _ _ | launching _ _ groups _ _
  | landing _ _ groups _ _ => groups

/-- The boundary at hand. -/
def boundary? : Moment → Option Nat
  | between _ _ => none
  | deciding boundary _ _ _ _ _ | launching boundary _ _ _ _ | landing boundary _ _ _ _ =>
    some boundary

/-- The launches of the boundary at hand that are still to be processed. -/
def launches : Moment → List LaunchTarget
  | between _ _ | landing _ _ _ _ _ => []
  | deciding _ _ _ launches _ _ | launching _ _ _ launches _ => launches

/-- The actions that were taken out of the schedule for the boundary at hand. -/
def due : Moment → List (ScheduledAction ContentDigest)
  | between _ _ | launching _ _ _ _ _ => []
  | deciding _ _ _ _ due _ | landing _ _ _ due _ => due

/-- Every action that is still to come. -/
def queue (m : Moment) : List (ScheduledAction ContentDigest) := m.due ++ m.run.desk.scheduled

end Moment

section Run

variable [DomainDigest] (setup : SnipingSetup)

/-- The step of a run, and `none` when it is over. -/
def Moment.next : Moment → Except Fault (Option Moment)
  | .between groups run =>
    match nextBoundary groups run.desk.scheduled with
    | none => .ok none
    | some boundary => do
      let opened ← openBoundary setup groups run boundary
      .ok (some (.deciding boundary opened.position opened.groups opened.launches
        opened.decisions opened.run))
  | .deciding boundary position groups launches (action :: due) run => do
    let run ← decideAction setup position run action
    .ok (some (.deciding boundary position groups launches due run))
  | .deciding boundary position groups launches [] run =>
    .ok (some (.launching boundary position groups launches run))
  | .launching boundary position groups (target :: launches) run => do
    let run ← processLaunch setup boundary run target
    .ok (some (.launching boundary position groups launches run))
  | .launching boundary position groups [] run =>
    .ok (some (.landing boundary position groups (popLandings boundary run).1
      (popLandings boundary run).2))
  | .landing boundary position groups (action :: due) run => do
    let run ← landAction setup position run action
    .ok (some (.landing boundary position groups due run))
  | .landing boundary _ groups [] run => do
    let run ← closeBoundary setup boundary run
    .ok (some (.between groups run))

/-- One step leads from `m` to `m'`. -/
def Step (m m' : Moment) : Prop := m.next setup = .ok (some m')

/-- The moment a run starts from, once its checks have passed. -/
def start (source : HistoricalEventSource) : Except Fault Moment := do
  validateChainContract setup
  let _ ← preflightSourceClockCoverage setup source
  let run ← openingState setup
  .ok (.between (eventGroups setup.clock source.events).groups run)

/-- The moments a run gets to. -/
def Reachable (source : HistoricalEventSource) (m : Moment) : Prop :=
  ∃ m₀, start setup source = .ok m₀ ∧ ReflTransGen (Step setup) m₀ m

/-! ## What a step is -/

/-- The steps, each with the computation it makes. -/
inductive StepCases : Moment → Moment → Prop
  | openGroup {first : CanonicalEvent} {rest : List CanonicalEvent}
    {later : List (List CanonicalEvent)} {run run' : RunState} {launches : List LaunchTarget}
    (next : nextBoundary ((first :: rest) :: later) run.desk.scheduled
      = some first.boundaryOrdinal)
    (apply : applyGroup setup run first (first :: rest) = .ok (run', launches)) :
    StepCases (.between ((first :: rest) :: later) run)
      (.deciding first.boundaryOrdinal (boundaryPosition first) later launches
        (popActions run'.desk.scheduled first.boundaryOrdinal 40).1
        { run' with desk := { run'.desk with
          scheduled := (popActions run'.desk.scheduled first.boundaryOrdinal 40).2 } })
  | openScheduled {groups : List (List CanonicalEvent)} {run : RunState} {boundary : Nat}
    {position : ChainPosition}
    (next : nextBoundary groups run.desk.scheduled = some boundary)
    (notGroup : ∀ first rest later, groups = (first :: rest) :: later →
      first.boundaryOrdinal ≠ boundary)
    (position_eq : ChainPosition.fromBoundaryOrdinal setup.clock.networkId
      setup.clock.positionSchemaId boundary = .ok position) :
    StepCases (.between groups run)
      (.deciding boundary position groups []
        (popActions run.desk.scheduled boundary 40).1
        { run with desk := { run.desk with
          scheduled := (popActions run.desk.scheduled boundary 40).2 } })
  | decide {boundary : Nat} {position : ChainPosition} {groups : List (List CanonicalEvent)}
    {launches : List LaunchTarget} {action : ScheduledAction ContentDigest}
    {due : List (ScheduledAction ContentDigest)} {run run' : RunState}
    (body : decideAction setup position run action = .ok run') :
    StepCases (.deciding boundary position groups launches (action :: due) run)
      (.deciding boundary position groups launches due run')
  | decided {boundary : Nat} {position : ChainPosition} {groups : List (List CanonicalEvent)}
    {launches : List LaunchTarget} {run : RunState} :
    StepCases (.deciding boundary position groups launches [] run)
      (.launching boundary position groups launches run)
  | launch {boundary : Nat} {position : ChainPosition} {groups : List (List CanonicalEvent)}
    {target : LaunchTarget} {launches : List LaunchTarget} {run run' : RunState}
    (body : processLaunch setup boundary run target = .ok run') :
    StepCases (.launching boundary position groups (target :: launches) run)
      (.launching boundary position groups launches run')
  | launched {boundary : Nat} {position : ChainPosition} {groups : List (List CanonicalEvent)}
    {run : RunState} :
    StepCases (.launching boundary position groups [] run)
      (.landing boundary position groups (popActions run.desk.scheduled boundary 60).1
        { run with desk := { run.desk with
          scheduled := (popActions run.desk.scheduled boundary 60).2 } })
  | land {boundary : Nat} {position : ChainPosition} {groups : List (List CanonicalEvent)}
    {action : ScheduledAction ContentDigest} {due : List (ScheduledAction ContentDigest)}
    {run run' : RunState} (body : landAction setup position run action = .ok run') :
    StepCases (.landing boundary position groups (action :: due) run)
      (.landing boundary position groups due run')
  | close {boundary : Nat} {position : ChainPosition} {groups : List (List CanonicalEvent)}
    {run : RunState} (fits : run.desk.scheduled.length ≤ setup.config.maximumDynamicItems) :
    StepCases (.landing boundary position groups [] run)
      (.between groups { run with desk := run.desk.audit (.boundaryCheckpoint boundary) })

variable {setup}

theorem openScheduled_cases {groups : List (List CanonicalEvent)} {run : RunState}
    {boundary : Nat} {opened : Opened}
    (next : nextBoundary groups run.desk.scheduled = some boundary)
    (notGroup : ∀ first rest later, groups = (first :: rest) :: later →
      first.boundaryOrdinal ≠ boundary)
    (h : openScheduled setup groups run boundary = .ok opened) :
    StepCases setup (.between groups run) (.deciding boundary opened.position opened.groups
      opened.launches opened.decisions opened.run) := by
  obtain ⟨position, hposition, h⟩ := bind_eq_ok.mp h
  cases h
  exact .openScheduled next notGroup hposition

theorem openBoundary_cases {groups : List (List CanonicalEvent)} {run : RunState}
    {boundary : Nat} {opened : Opened}
    (next : nextBoundary groups run.desk.scheduled = some boundary)
    (h : openBoundary setup groups run boundary = .ok opened) :
    StepCases setup (.between groups run) (.deciding boundary opened.position opened.groups
      opened.launches opened.decisions opened.run) := by
  match groups, next, h with
  | [], next, h => exact openScheduled_cases next (fun _ _ _ he => (nomatch he)) h
  | [] :: later, next, h => exact openScheduled_cases next (fun _ _ _ he => (nomatch he)) h
  | (first :: rest) :: later, next, h =>
    rw [openBoundary] at h
    split at h
    · rename_i hb
      subst hb
      obtain ⟨⟨run', launches⟩, happly, h⟩ := bind_eq_ok.mp h
      cases h
      exact .openGroup next happly
    · rename_i hb
      refine openScheduled_cases next (fun first' rest' later' he => ?_) h
      cases he
      exact hb

/-- **A step is one of the eight.** -/
theorem Step.cases {m m' : Moment} (h : Step setup m m') : StepCases setup m m' := by
  rw [Step] at h
  match m, h with
  | .between groups run, h =>
    rw [Moment.next] at h
    split at h
    · cases h
    · rename_i boundary hnext
      obtain ⟨opened, hopened, h⟩ := bind_eq_ok.mp h
      cases h
      exact openBoundary_cases hnext hopened
  | .deciding _ _ _ _ (action :: due) _, h =>
    obtain ⟨run', hrun, h⟩ := bind_eq_ok.mp h
    cases h
    exact .decide hrun
  | .deciding _ _ _ _ [] _, h =>
    cases h
    exact .decided
  | .launching _ _ _ (target :: launches) _, h =>
    obtain ⟨run', hrun, h⟩ := bind_eq_ok.mp h
    cases h
    exact .launch hrun
  | .launching _ _ _ [] _, h =>
    cases h
    exact .launched
  | .landing _ _ _ (action :: due) _, h =>
    obtain ⟨run', hrun, h⟩ := bind_eq_ok.mp h
    cases h
    exact .land hrun
  | .landing _ _ _ [] _, h =>
    obtain ⟨run', hrun, h⟩ := bind_eq_ok.mp h
    obtain ⟨hfits, hrun⟩ := check_bind_eq_ok.mp hrun
    cases h
    cases hrun
    exact .close (not_lt.mp (refuseIf_eq_ok.mp hfits))

/-! ## The loop is made of steps -/

section Loops

variable {ι : Type} {body : RunState → ι → Except Fault RunState}
  {f : List ι → RunState → Moment}

/-- A loop that returns has gone through its items step by step. -/
theorem reaches_of_foldlM
    (hnext : ∀ i rest run run', body run i = .ok run' →
      Step setup (f (i :: rest) run) (f rest run'))
    (items : List ι) (run run' : RunState) (h : items.foldlM body run = .ok run') :
    ReflTransGen (Step setup) (f items run) (f [] run') := by
  induction items generalizing run with
  | nil =>
    cases h
    exact .refl
  | cons i rest ih =>
    rw [List.foldlM_cons] at h
    obtain ⟨run₁, h₁, h⟩ := bind_eq_ok.mp h
    exact .head (hnext i rest run run₁ h₁) (ih run₁ h)

end Loops

section Boundary

variable {boundary : Nat} {position : ChainPosition} {groups : List (List CanonicalEvent)}
  {launches : List LaunchTarget}

theorem step_decide (action : ScheduledAction ContentDigest)
    (due : List (ScheduledAction ContentDigest)) (run run' : RunState)
    (h : decideAction setup position run action = .ok run') :
    Step setup (.deciding boundary position groups launches (action :: due) run)
      (.deciding boundary position groups launches due run') := by
  rw [Step, Moment.next, h]
  rfl

theorem step_launch (target : LaunchTarget) (rest : List LaunchTarget) (run run' : RunState)
    (h : processLaunch setup boundary run target = .ok run') :
    Step setup (.launching boundary position groups (target :: rest) run)
      (.launching boundary position groups rest run') := by
  rw [Step, Moment.next, h]
  rfl

theorem step_land (action : ScheduledAction ContentDigest)
    (due : List (ScheduledAction ContentDigest)) (run run' : RunState)
    (h : landAction setup position run action = .ok run') :
    Step setup (.landing boundary position groups (action :: due) run)
      (.landing boundary position groups due run') := by
  rw [Step, Moment.next, h]
  rfl

theorem step_decided (run : RunState) :
    Step setup (.deciding boundary position groups launches [] run)
      (.launching boundary position groups launches run) := rfl

theorem step_launched (run : RunState) :
    Step setup (.launching boundary position groups [] run)
      (.landing boundary position groups (popLandings boundary run).1
        (popLandings boundary run).2) := rfl

/-- **A boundary that is processed is processed step by step.** -/
theorem reaches_of_processBoundary {groups' : List (List CanonicalEvent)} {run run' : RunState}
    (hnext : nextBoundary groups run.desk.scheduled = some boundary)
    (h : processBoundary setup groups run boundary = .ok (groups', run')) :
    TransGen (Step setup) (.between groups run) (.between groups' run') := by
  obtain ⟨opened, hopened, h⟩ := bind_eq_ok.mp h
  obtain ⟨run₁, h₁, h⟩ := bind_eq_ok.mp h
  obtain ⟨run₂, h₂, h⟩ := bind_eq_ok.mp h
  obtain ⟨run₃, h₃, h⟩ := bind_eq_ok.mp h
  obtain ⟨run₄, h₄, h⟩ := bind_eq_ok.mp h
  cases h
  have hopen : Step setup (.between groups run) (.deciding boundary opened.position opened.groups
      opened.launches opened.decisions opened.run) := by
    rw [Step, Moment.next, hnext]
    simp only [hopened]
    rfl
  have hclose : Step setup (.landing boundary opened.position opened.groups [] run₃)
      (.between opened.groups run') := by
    rw [Step, Moment.next, h₄]
    rfl
  refine .head' hopen ((reaches_of_foldlM step_decide _ _ _ h₁).trans ?_)
  refine .head (step_decided run₁) ((reaches_of_foldlM step_launch _ _ _ h₂).trans ?_)
  exact .head (step_launched run₂) ((reaches_of_foldlM step_land _ _ _ h₃).trans (.single hclose))

theorem reaches_of_runLoop (fuel : Nat) {groups' : List (List CanonicalEvent)}
    {run run' : RunState} (h : runLoop setup fuel groups run = .ok (groups', run')) :
    ReflTransGen (Step setup) (.between groups run) (.between groups' run') := by
  induction fuel generalizing groups run with
  | zero =>
    cases h
    exact .refl
  | succ fuel ih =>
    rw [runLoop] at h
    split at h
    · cases h
      exact .refl
    · rename_i boundary hnext
      obtain ⟨⟨groups₁, run₁⟩, h₁, h⟩ := bind_eq_ok.mp h
      exact (reaches_of_processBoundary hnext h₁).to_reflTransGen.trans (ih h)

end Boundary

/-- **The rule of runs**: what holds at the start and is kept by every step from a reachable
moment holds at every reachable moment. -/
theorem Reachable.induct {source : HistoricalEventSource} {P : Moment → Prop}
    (init : ∀ m, start setup source = .ok m → P m)
    (step : ∀ m m', Reachable setup source m → Step setup m m' → P m → P m') {m : Moment}
    (h : Reachable setup source m) : P m := by
  obtain ⟨m₀, h₀, h⟩ := h
  induction h with
  | refl => exact init m₀ h₀
  | tail hm hs ih => exact step _ _ ⟨m₀, h₀, hm⟩ hs ih

end Run

end OnchainBacktest
