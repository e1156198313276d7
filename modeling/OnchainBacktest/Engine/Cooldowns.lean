import OnchainBacktest.Engine.DecidedLaunches
import OnchainBacktest.Engine.SnipingFinish
import OnchainBacktest.Lib.Window

/-!
# The cooldowns of the developers

The windows a strategy keeps are those of `Lib.Window`: at every moment of a run they say when the
last eligible launch of a developer was, and the launches a run has decided were suppressed exactly
inside them (`Cooling`).  Nothing that happens to an order afterwards changes that.
-/

set_option autoImplicit false

namespace OnchainBacktest

open Checked

/-- A launch as the cooldown of its developer sees it. -/
def RoundTripState.windowItem (s : RoundTripState) : WindowItem String :=
  ⟨s.target.developerId.value, s.targetTimeNs, !s.skipped⟩

/-- The launches a run has decided, in the order it decided them. -/
def RunState.windowItems (run : RunState) : List (WindowItem String) :=
  run.states.entries.map fun e => e.2.windowItem

/-- The windows of the developers are those of the launches. -/
structure Cooling (run : RunState) : Prop where
  windowed : Windowed PUMPFUN_SNIPING_COOLDOWN_NS run.windowItems
  windows : ∀ developer, run.cooldowns.get? developer
    = (lastAdmitted run.windowItems developer).map (· + PUMPFUN_SNIPING_COOLDOWN_NS)

section Moves

variable [DomainDigest] {setup : SnipingSetup} {rid : ContentDigest} {boundary : Nat}
  {desk desk' : Desk ContentDigest} {new : RoundTripState} {run run' : RunState}

/-- What happens to an order after its launch is nothing to the cooldown. -/
theorem Move.windowItem_eq {s : RoundTripState}
    (h : Move setup rid boundary desk (some s) new desk') : new.windowItem = s.windowItem := by
  have hnew : new.skipped = false := by
    by_contra hne
    cases h.skipped ((Bool.not_eq_false _).mp hne)
  have htime : new.targetTimeNs = s.targetTimeNs := by
    cases h <;> rfl
  rw [RoundTripState.windowItem, h.target_eq, htime, hnew, RoundTripState.windowItem,
    h.settled.2.1]

/-- A move of a round trip that is there leaves the cooldowns as they are. -/
theorem Moved.windowItems_some {s : RoundTripState}
    (hm : Moved setup rid boundary (some s) new run run') : run'.windowItems = run.windowItems := by
  obtain ⟨l, l', hl, hl'⟩ := Dict.split hm.before new
  rw [RunState.windowItems, RunState.windowItems, hm.states, hl, hl', List.map_append,
    List.map_append, List.map_cons, List.map_cons, hm.move.windowItem_eq]

theorem Moved.windowItems_none (hm : Moved setup rid boundary none new run run') :
    run'.windowItems = run.windowItems ++ [new.windowItem] := by
  rw [RunState.windowItems, RunState.windowItems, hm.states, Dict.entries_set_of_new _ hm.before,
    List.map_append]
  rfl

omit [DomainDigest] in
/-- **A launch is decided by the window of its developer, and an eligible one renews it.** -/
theorem Cooling.launched (h : Cooling run)
    (hitems : run'.windowItems = run.windowItems ++ [new.windowItem])
    (hcooled : Cooled new run.cooldowns run'.cooldowns) : Cooling run' := by
  have hwindow := h.windows new.target.developerId.value
  generalize hcooldowns : run'.cooldowns = cooldowns at hcooled
  refine ⟨?_, fun developer => ?_⟩
  · rw [hitems]
    refine windowed_concat.mpr ⟨h.windowed, ?_⟩
    cases hcooled with
    | suppressed status window inside =>
      have hno : new.windowItem.admitted = false := by
        rw [RoundTripState.windowItem, status]
        rfl
      refine iff_of_true hno ?_
      rw [window] at hwindow
      obtain ⟨opened, hopened, hadd⟩ := Option.map_eq_some_iff.mp hwindow.symm
      refine ⟨opened, hopened, ?_⟩
      rw [hadd]
      exact inside
    | started status outside =>
      have hyes : new.windowItem.admitted = true := by
        rw [RoundTripState.windowItem, status]
        rfl
      refine iff_of_false (by rw [hyes]; exact fun he => Bool.false_ne_true he.symm) ?_
      rintro ⟨opened, hopened, hlt⟩
      have hle : opened + PUMPFUN_SNIPING_COOLDOWN_NS ≤ new.targetTimeNs :=
        outside _ (hwindow.trans (by rw [show lastAdmitted run.windowItems
          new.target.developerId.value = some opened from hopened, Option.map_some]))
      exact absurd hlt (Nat.not_lt.mpr hle)
  · rw [hitems, lastAdmitted_concat, hcooldowns]
    cases hcooled with
    | suppressed status =>
      have hno : new.windowItem.admitted = false := by
        rw [RoundTripState.windowItem, status]
        rfl
      rw [hno, if_neg fun hc => Bool.false_ne_true hc.1]
      exact h.windows developer
    | started status =>
      have hyes : new.windowItem.admitted = true := by
        rw [RoundTripState.windowItem, status]
        rfl
      rw [hyes, Dict.get?_set]
      by_cases hd : developer = new.target.developerId.value
      · rw [if_pos hd, if_pos ⟨rfl, hd.symm⟩]
        rfl
      · rw [if_neg hd, if_neg fun hc => hd hc.2.symm]
        exact h.windows developer

/-- **The cooldowns are kept at every moment of a run.** -/
theorem Reachable.cooling {source : HistoricalEventSource} {m : Moment}
    (h : Reachable setup source m) : Cooling m.run := by
  refine Reachable.induct (P := fun m => Cooling m.run) (fun m h₀ => ?_)
    (fun m m' hr hs ih => ?_) h
  · obtain ⟨_, h₀⟩ := check_bind_eq_ok.mp h₀
    obtain ⟨_, _, h₀⟩ := bind_eq_ok.mp h₀
    obtain ⟨run, hrun, h₀⟩ := bind_eq_ok.mp h₀
    cases h₀
    obtain ⟨accounts, _, hrun⟩ := bind_eq_ok.mp hrun
    cases hrun
    exact ⟨windowed_nil, fun _ => rfl⟩
  · cases hr.turn hs with
    | quiet same =>
      refine ⟨?_, ?_⟩
      · rw [RunState.windowItems, same.states]
        exact ih.windowed
      · rw [RunState.windowItems, same.states, same.cooldowns]
        exact ih.windows
    | launched _ _ _ _ moved cooled => exact ih.launched moved.windowItems_none cooled
    | acted _ _ _ _ _ moved cooldowns =>
      refine ⟨?_, ?_⟩
      · rw [moved.windowItems_some]
        exact ih.windowed
      · rw [moved.windowItems_some, cooldowns]
        exact ih.windows

end Moves

/-! ## The order of the launches -/

section Order

instance : Std.Total fun a b : LaunchTarget => launchTargetLe a b = true :=
  ⟨fun a b => by
    simp only [launchTargetLe, decide_eq_true_eq]
    exact le_total _ _⟩

instance : IsTrans LaunchTarget fun a b => launchTargetLe a b = true :=
  ⟨fun a b c h h' => by
    simp only [launchTargetLe, decide_eq_true_eq] at h h' ⊢
    exact le_trans h h'⟩

theorem launchTargetLe_of_boundary_lt {a b : LaunchTarget}
    (h : a.position.boundaryOrdinal < b.position.boundaryOrdinal) : launchTargetLe a b = true := by
  rw [launchTargetLe, decide_eq_true_eq, Prod.Lex.le_iff]
  exact .inl h

/-- The launches of a group stand at its boundary. -/
theorem boundary_of_mem_groupLaunches {clock : CompactTransactionClock}
    {group : List CanonicalEvent} (hgroup : IsGroup clock group) {target : LaunchTarget}
    (h : target ∈ groupLaunches group) : target.position.boundaryOrdinal = groupBoundary group := by
  rw [groupLaunches, List.mem_insertionSort] at h
  obtain ⟨event, he, hl⟩ := List.mem_filterMap.mp h
  obtain ⟨launch, rfl, rfl⟩ := pumpLaunch_eq_some hl
  have hb : (CanonicalEvent.tokenLaunch launch).boundaryOrdinal = groupBoundary group :=
    hgroup.boundary _ he
  exact hb

/-- **Launches are decided in the order of the chain.** -/
theorem pairwise_groupLaunches {clock : CompactTransactionClock}
    {groups : List (List CanonicalEvent)} (h : WellGrouped clock groups) :
    (groups.flatMap groupLaunches).Pairwise fun a b => launchTargetLe a b = true := by
  rw [List.pairwise_flatMap]
  refine ⟨fun group _ => ?_, ?_⟩
  · rw [groupLaunches]
    exact List.pairwise_insertionSort _ _
  · refine h.increasing.imp_of_mem fun {g g'} hg hg' hlt a ha b hb => ?_
    refine launchTargetLe_of_boundary_lt ?_
    rw [boundary_of_mem_groupLaunches (h.isGroup g hg) ha,
      boundary_of_mem_groupLaunches (h.isGroup g' hg') hb]
    exact hlt

variable [DomainDigest] {setup : SnipingSetup} {source : HistoricalEventSource} {m : Moment}

theorem Reachable.launchOrder (h : Reachable setup source m) :
    (decidedLaunches setup source).Pairwise fun a b => launchTargetLe a b = true := by
  obtain ⟨m₀, h₀, _⟩ := h
  obtain ⟨_, h₀⟩ := check_bind_eq_ok.mp h₀
  obtain ⟨counts, hpre, _⟩ := bind_eq_ok.mp h₀
  obtain ⟨hp, _⟩ := preflight_eq_ok hpre
  exact (pairwise_groupLaunches hp.wellGrouped).filter _

/-- A launch is timed by the clock. -/
theorem Lawful.targetTime {rid : ContentDigest} {s : RoundTripState} (h : Lawful setup rid s) :
    setup.clock.blockTimeForPosition s.target.position = .ok s.targetTimeNs := by
  cases h with
  | suppressed l => exact l.time_eq
  | buyReferenceRejected b => exact b.time_eq
  | buyPreSubmitRejected b => exact b.time_eq
  | buyPending b => exact b.time_eq
  | buyFailed b => exact b.time_eq
  | holding p => exact p.time_eq
  | sellUnavailable p => exact p.time_eq
  | sellPreSubmitRejected o => exact o.time_eq
  | sellPending o => exact o.time_eq
  | sellFailed o => exact o.time_eq
  | closed o => exact o.time_eq

/-- What is said of the launches a run has decided. -/
structure CooldownLaw (setup : SnipingSetup) (source : HistoricalEventSource) (m : Moment) :
    Prop where
  /-- The launches that are decided and those still to be decided are those of the source. -/
  targets : m.run.targets ++ m.toDecide setup = decidedLaunches setup source
  chain : (decidedLaunches setup source).Pairwise fun a b => launchTargetLe a b = true
  timed : ∀ e ∈ m.run.states.entries,
    setup.clock.blockTimeForPosition e.2.target.position = .ok e.2.targetTimeNs
  /-- Eligible launches of one developer are a cooldown apart. -/
  spaced : (m.run.states.entries.map Prod.snd).Pairwise fun s t =>
    s.target.developerId.value = t.target.developerId.value → s.status ≠ .cooldownSkipped →
      t.status ≠ .cooldownSkipped → s.targetTimeNs + 600 * 1000000000 ≤ t.targetTimeNs
  /-- A launch is suppressed exactly inside the window of its developer's last eligible launch,
  whatever became of that one's buy. -/
  suppressed : ∀ before s after, m.run.states.entries.map Prod.snd = before ++ s :: after →
    (s.status = .cooldownSkipped ↔ ∃ last ∈ (before.filter fun t =>
        t.status ≠ .cooldownSkipped ∧
          t.target.developerId.value = s.target.developerId.value).getLast?,
      s.targetTimeNs < last.targetTimeNs + 600 * 1000000000)
  /-- What is decided for a developer depends on the times of its own launches only. -/
  own : ∀ developer, (itemsOf m.run.windowItems developer).map WindowItem.admitted
    = admitTimes (600 * 1000000000) ((itemsOf m.run.windowItems developer).map WindowItem.time)

omit [DomainDigest] in
/-- The last admitted launch of a developer, as a state. -/
theorem lastAdmitted_map (states : List RoundTripState) (developer : String) :
    lastAdmitted (states.map RoundTripState.windowItem) developer
      = ((states.filter fun t => t.status ≠ .cooldownSkipped ∧
          t.target.developerId.value = developer).getLast?).map fun t => t.targetTimeNs := by
  have hfilter : (fun a : WindowItem String => a.admitted && decide (a.key = developer))
      ∘ RoundTripState.windowItem
      = fun t => decide (t.status ≠ .cooldownSkipped ∧ t.target.developerId.value = developer) := by
    funext t
    simp [RoundTripState.windowItem, RoundTripState.skipped, Bool.decide_and, beq_eq_decide]
  rw [lastAdmitted, List.filter_map, hfilter, List.getLast?_map, Option.map_map]
  rfl

omit [DomainDigest] in
theorem skipped_iff {s : RoundTripState} :
    s.windowItem.admitted = false ↔ s.status = .cooldownSkipped := by
  simp [RoundTripState.windowItem, RoundTripState.skipped]

/-- **The cooldown of a developer is kept in every run.** -/
theorem cooldown_kept (setup : SnipingSetup) (source : HistoricalEventSource) (m : Moment)
    (h : Reachable setup source m) : CooldownLaw setup source m := by
  have hcooling := h.cooling
  have hitems : m.run.windowItems
      = (m.run.states.entries.map Prod.snd).map RoundTripState.windowItem := by
    rw [RunState.windowItems, List.map_map]
    rfl
  refine ⟨h.targets, h.launchOrder, fun e he => ?_, ?_, fun before s after hsplit => ?_,
    hcooling.windowed.own⟩
  · exact (h.core.orders.lawful e.1 e.2 (Dict.get?_eq_some_iff.mpr he)).targetTime
  · have hspaced := hcooling.windowed.spaced
    rw [hitems, List.pairwise_map] at hspaced
    refine hspaced.imp fun {s t} hst hkey hs ht => hst hkey ?_ ?_
    · exact (Bool.not_eq_false _).mp fun hf => hs (skipped_iff.mp hf)
    · exact (Bool.not_eq_false _).mp fun hf => ht (skipped_iff.mp hf)
  · have hwindow := hcooling.windowed (before.map RoundTripState.windowItem) s.windowItem
      (after.map RoundTripState.windowItem) (by rw [hitems, hsplit, List.map_append, List.map_cons])
    rw [skipped_iff, lastAdmitted_map] at hwindow
    rw [hwindow]
    simp only [Option.mem_map, exists_exists_and_eq_and]
    rfl

end Order

attribute [local instance] sampleDigest in
/-- The sample run keeps its cooldowns. -/
theorem cooldown_kept_sample : ∃ state, CooldownLaw sampleSetup sampleSource (.between [] state) := by
  obtain ⟨state, h⟩ := reachable_sample
  exact ⟨state, cooldown_kept sampleSetup sampleSource _ h⟩

end OnchainBacktest
