import OnchainBacktest.Engine.SnipingEnd

/-!
# The launches of a run

A source names the launches of a run, in the order of the chain: those of its groups, each group's
by event index, as far as they lie in the decision range.  A run starts one round trip for each of
them, in this order, and for nothing else (`Reachable.targets`).
-/

set_option autoImplicit false

namespace OnchainBacktest

open Checked

/-- The launches of a group, in the order they are decided in. -/
def groupLaunches (group : List CanonicalEvent) : List LaunchTarget :=
  (group.filterMap CanonicalEvent.pumpLaunch?).insertionSort fun a b => launchTargetLe a b = true

/-- A launch lies in the decision range. -/
def SnipingSetup.decides (setup : SnipingSetup) (target : LaunchTarget) : Bool :=
  decide (setup.config.decisionRange.containsPosition target.position = .ok true)

/-- The launches a source asks a run to decide, in the order of the chain. -/
def decidedLaunches (setup : SnipingSetup) (source : HistoricalEventSource) : List LaunchTarget :=
  ((eventGroups setup.clock source.events).groups.flatMap groupLaunches).filter setup.decides

/-- The launches a run has started, in its order. -/
def RunState.targets (run : RunState) : List LaunchTarget :=
  run.states.entries.map fun e => e.2.target

/-- The launches a moment has still to decide. -/
def Moment.toDecide (setup : SnipingSetup) (m : Moment) : List LaunchTarget :=
  (m.launches ++ m.groups.flatMap groupLaunches).filter setup.decides

section Moves

variable [DomainDigest] {setup : SnipingSetup} {rid : ContentDigest} {boundary : Nat}
  {desk desk' : Desk ContentDigest} {old : Option RoundTripState} {new : RoundTripState}
  {run run' : RunState} {m m' : Moment}

/-- A move leaves the launch of its round trip as it is. -/
theorem Move.target_eq {s : RoundTripState}
    (h : Move setup rid boundary desk (some s) new desk') : new.target = s.target := by
  cases h <;> rfl

/-- **A move starts at most its own launch.** -/
theorem Moved.targets (hm : Moved setup rid boundary old new run run') :
    run'.targets = run.targets ++ if old = none then [new.target] else [] := by
  have hbefore := hm.before
  rw [RunState.targets, RunState.targets, hm.states]
  cases hold : old with
  | none =>
    rw [hold] at hbefore
    rw [Dict.entries_set_of_new _ hbefore, List.map_append, if_pos rfl]
    rfl
  | some s =>
    rw [hold] at hbefore
    have hmove := hm.move
    rw [hold] at hmove
    obtain ⟨l, l', hl, hl'⟩ := Dict.split hbefore new
    rw [hl, hl', List.map_append, List.map_append, List.map_cons, List.map_cons, hmove.target_eq,
      if_neg (by simp), List.append_nil]

/-- A turn that takes no launch starts none. -/
theorem Turn.targets_eq (h : Turn setup m m')
    (hl : ∀ target, m.launches ≠ target :: m'.launches) : m'.run.targets = m.run.targets := by
  cases h with
  | quiet same _ => rw [RunState.targets, same.states, RunState.targets]
  | launched _ _ launch => exact absurd launch (hl _)
  | acted _ _ _ _ _ moved => rw [moved.targets, if_neg (by simp), List.append_nil]

/-- Processing a launch starts it if it is to be decided. -/
theorem targets_processLaunch {position : ChainPosition} {groups : List (List CanonicalEvent)}
    {launches : List LaunchTarget} {target : LaunchTarget}
    (h : Core setup (.launching boundary position groups (target :: launches) run))
    (hbody : processLaunch setup boundary run target = .ok run') :
    run'.targets = run.targets ++ [target].filter setup.decides := by
  obtain ⟨_, hlaunches, _⟩ := h.timed.stage
  obtain ⟨contained, hcontained, hbody⟩ := bind_eq_ok.mp hbody
  cases contained with
  | true =>
    obtain ⟨new, htarget, hmoved, _⟩ :=
      moved_of_decideLaunch h.orders (hlaunches target List.mem_cons_self) hbody
    have hdecides : setup.decides target = true := decide_eq_true hcontained
    rw [hmoved.targets, if_pos rfl, htarget, List.filter_singleton, hdecides]
    rfl
  | false =>
    cases hbody
    have hdecides : setup.decides target = false := by
      rw [SnipingSetup.decides, hcontained]
      exact decide_eq_false fun he => Bool.false_ne_true (Except.ok.inj he)
    rw [List.filter_singleton, hdecides]
    exact (List.append_nil _).symm

/-- **A step starts the launches it takes from those to be decided.** -/
theorem Step.targets (h : Core setup m) (hs : Step setup m m') :
    m'.run.targets ++ m'.toDecide setup = m.run.targets ++ m.toDecide setup := by
  have hturn := (hs.core_turn h).2
  cases hs.cases with
  | openGroup next apply =>
    obtain ⟨_, hlaunches⟩ := applyGroup_eq_ok apply
    obtain ⟨_, rfl⟩ := ensureSingleLaunch_eq_ok hlaunches
    rw [hturn.targets_eq fun _ he => (nomatch he)]
    rfl
  | openScheduled => exact congrArg (· ++ _) (hturn.targets_eq fun _ he => (nomatch he))
  | decide => exact congrArg (· ++ _) (hturn.targets_eq (fun _ => List.cons_ne_self _ _ ∘ Eq.symm))
  | decided => rfl
  | @launch boundary position groups target launches run run' body =>
    have hsplit : (Moment.launching boundary position groups (target :: launches) run).toDecide setup
        = [target].filter setup.decides
          ++ (Moment.launching boundary position groups launches run').toDecide setup := by
      rw [Moment.toDecide, Moment.toDecide, ← List.filter_append]
      rfl
    rw [hsplit, ← List.append_assoc]
    exact congrArg (· ++ _) (targets_processLaunch h body)
  | launched => rfl
  | land => exact congrArg (· ++ _) (hturn.targets_eq fun _ he => (nomatch he))
  | close => rfl

/-- **A run decides the launches of its source, in their order.** -/
theorem Reachable.targets {source : HistoricalEventSource} (h : Reachable setup source m) :
    m.run.targets ++ m.toDecide setup = decidedLaunches setup source := by
  refine Reachable.induct
    (P := fun m => m.run.targets ++ m.toDecide setup = decidedLaunches setup source)
    (fun m h₀ => ?_) (fun m m' hr hs ih => (hs.targets hr.core).trans ih) h
  obtain ⟨_, h₀⟩ := check_bind_eq_ok.mp h₀
  obtain ⟨_, _, h₀⟩ := bind_eq_ok.mp h₀
  obtain ⟨run, hrun, h₀⟩ := bind_eq_ok.mp h₀
  cases h₀
  obtain ⟨accounts, _, hrun⟩ := bind_eq_ok.mp hrun
  cases hrun
  rfl

/-- **A completed run has started every launch of its source.** -/
theorem targets_of_simulate {source : HistoricalEventSource}
    (h : simulate setup source = .ok run) : run.targets = decidedLaunches setup source := by
  have ht := (reachable_of_simulate h).1.targets
  rwa [show (Moment.between [] run).toDecide setup = [] from rfl, List.append_nil] at ht

/-- A round trip is named after its launch. -/
theorem Lawful.roundtripId_eq {s : RoundTripState} (h : Lawful setup rid s) :
    setup.strategy.roundtripId s.target = rid := by
  cases h with
  | suppressed l => exact l.roundtripId_eq
  | buyReferenceRejected b => exact b.roundtripId_eq
  | buyPreSubmitRejected b => exact b.roundtripId_eq
  | buyPending b => exact b.roundtripId_eq
  | buyFailed b => exact b.roundtripId_eq
  | holding p => exact p.roundtripId_eq
  | sellUnavailable p => exact p.roundtripId_eq
  | sellPreSubmitRejected o => exact o.roundtripId_eq
  | sellPending o => exact o.roundtripId_eq
  | sellFailed o => exact o.roundtripId_eq
  | closed o => exact o.roundtripId_eq

/-- The round trips of a run are named after the launches it has started. -/
theorem Core.keys (h : Core setup m) :
    m.run.states.keys = m.run.targets.map setup.strategy.roundtripId := by
  rw [Dict.keys, RunState.targets, List.map_map]
  refine List.map_congr_left fun e he => ?_
  exact (h.orders.lawful e.1 e.2 (Dict.get?_eq_some_iff.mpr he)).roundtripId_eq.symm

end Moves

end OnchainBacktest
