import Mathlib.Logic.Relation
import OnchainBacktest.Engine.CopyReplay

/-!
# What a copy run can do

A copy run is a sequence of moves: a group is applied to the history or to what is observed of it,
the schedule changes, a signal consumes its mint or enters a position, an exit is evaluated, an
order is begun, an order lands.  `CopyMove` lists them once, whatever the order they come in, and
`CopyReachable` is every state that any sequence of them leads to; the replay only ever makes moves
(`replayCopy_reachable`).

What every position has when it starts, and keeps whatever happens to it, it has in every reachable
state (`CopyReachable.positions`).
-/

set_option autoImplicit false

namespace OnchainBacktest

open Checked Relation

variable [DomainDigest]

/-- A position on the chain of a run, as the replay builds it for a boundary. -/
def CopySetup.OnChain (setup : CopySetup) (position : ChainPosition) : Prop :=
  ∃ boundary, ChainPosition.fromBoundaryOrdinal setup.clock.networkId
    setup.clock.positionSchemaId boundary = .ok position

/-- A signal the protocol gives for a group of events. -/
def CopySetup.Signals (setup : CopySetup) (signal : CopyBuySignal) : Prop :=
  ∃ curves group seconds curves' signals,
    setup.protocol.applyGroup curves group seconds = .ok (curves', signals) ∧ signal ∈ signals

/-- One thing a run does at a position. -/
inductive CopyMove (setup : CopySetup) (position : ChainPosition) : CopyRun → CopyRun → Prop
  | history (run : CopyRun) {group : List CanonicalEvent} {seconds : Nat} {curves : Curves}
      {signals : List CopyBuySignal} (counts : CopyCounts)
      (happly : setup.protocol.applyGroup run.desk.historical group seconds
        = .ok (curves, signals)) :
      CopyMove setup position run
        { run with desk := { run.desk with historical := curves }, counts := counts }
  | observed (run : CopyRun) {group : List CanonicalEvent} {seconds : Nat} {curves : Curves}
      {signals : List CopyBuySignal} (counts : CopyCounts)
      (happly : setup.protocol.applyGroup run.desk.observed group seconds
        = .ok (curves, signals)) :
      CopyMove setup position run
        { run with desk := { run.desk with observed := curves }, counts := counts }
  | rescheduled (run : CopyRun) (scheduled : List CopyAction) :
      CopyMove setup position run { run with scheduled := scheduled }
  | consumed (run : CopyRun) {signal : CopyBuySignal} {consumedMints : List AssetId}
      (hsignal : setup.Signals signal)
      (hdecide : setup.strategy.decide run.consumedMints signal position
        = .ok (none, consumedMints)) :
      CopyMove setup position run { run with consumedMints := consumedMints }
  | entered (run : CopyRun) {signal : CopyBuySignal} {intent : CopyBuyIntent}
      {consumedMints : List AssetId} (hsignal : setup.Signals signal)
      (hblock : setup.decisionRange.containsBlock signal.position.blockOrdinal = true)
      (hdecide : setup.strategy.decide run.consumedMints signal position
        = .ok (some intent, consumedMints)) :
      CopyMove setup position run
        { run with
          consumedMints := consumedMints
          states := run.states.set intent.roundtripId (CopyExecutionPosition.start intent)
          byVenue := run.byVenue.set intent.venueId intent.roundtripId }
  | evaluated (run : CopyRun) {positionId : ContentDigest} {state : CopyExecutionPosition}
      {price : Option TokenPrice} {control : CopyPositionControl} {reason : Option CopyExitReason}
      (hstate : run.states.get? positionId = some state)
      (hevaluate : state.control.evaluateExit position price = .ok (control, reason)) :
      CopyMove setup position run
        { run with states := run.states.set positionId { state with control := control } }
  | begun (run : CopyRun) {positionId : ContentDigest} {state : CopyExecutionPosition}
      {isBuy : Bool} {handled : CopyHandled} (hstate : run.states.get? positionId = some state)
      (hbegin : beginRequest setup position run.desk state isBuy = .ok handled) :
      CopyMove setup position run
        { run with
          desk := handled.desk
          states := run.states.set positionId handled.state }
  | landed (run : CopyRun) {positionId : ContentDigest} {state : CopyExecutionPosition}
      {handled : CopyHandled} (hstate : run.states.get? positionId = some state)
      (hland : land setup run.desk state position = .ok handled) :
      CopyMove setup position run
        { run with
          desk := handled.desk
          states := run.states.set positionId handled.state }

/-- Any number of moves at one position. -/
abbrev CopyMoves (setup : CopySetup) (position : ChainPosition) : CopyRun → CopyRun → Prop :=
  ReflTransGen (CopyMove setup position)

/-- One move at some position of the chain. -/
def CopyStep (setup : CopySetup) (run run' : CopyRun) : Prop :=
  ∃ position, setup.OnChain position ∧ CopyMove setup position run run'

/-- **The states any interleaving of moves leads to.** -/
def CopyReachable (setup : CopySetup) (run : CopyRun) : Prop :=
  ReflTransGen (CopyStep setup) (openingCopyRun setup) run

theorem CopyMoves.steps {setup : CopySetup} {position : ChainPosition} {run run' : CopyRun}
    (h : CopyMoves setup position run run') (hon : setup.OnChain position) :
    ReflTransGen (CopyStep setup) run run' :=
  ReflTransGen.mono (fun _ _ hmove => ⟨position, hon, hmove⟩) _ _ h

/-! ## The phases of a boundary are moves -/

section Phases

variable {setup : CopySetup} {position : ChainPosition} {run run' : CopyRun}

omit [DomainDigest] in
theorem requireState_eq_ok {states : Dict ContentDigest CopyExecutionPosition}
    {positionId : ContentDigest} {state : CopyExecutionPosition} :
    requireState states positionId = .ok state ↔ states.get? positionId = some state := by
  rw [requireState]
  split
  · rename_i found hfound
    rw [hfound]
    simp
  · rename_i hfound
    rw [hfound]
    simp

theorem exitCallback_moves {moved moved' : CopyRun × CopyRequests} {positionId : ContentDigest}
    (h : exitCallback setup position moved positionId = .ok moved') :
    CopyMoves setup position moved.1 moved'.1 := by
  obtain ⟨state, hstate, h⟩ := bind_eq_ok.mp h
  rw [requireState_eq_ok] at hstate
  split at h
  · obtain ⟨price, _, h⟩ := bind_eq_ok.mp h
    obtain ⟨⟨control, reason⟩, hevaluate, h⟩ := bind_eq_ok.mp h
    have hmove := @CopyMove.evaluated _ setup _ moved.1 _ _ _ _ _ hstate hevaluate
    cases reason with
    | none => exact Except.ok.inj h ▸ .single hmove
    | some reason => exact Except.ok.inj h ▸ .single hmove
  · split at h
    · exact Except.ok.inj h ▸ .refl
    · split at h
      · exact Except.ok.inj h ▸ .refl
      · exact Except.ok.inj h ▸ .refl
  · exact Except.ok.inj h ▸ .refl

theorem enterSignal_moves {moved moved' : CopyRun × CopyRequests} {signal : CopyBuySignal}
    (hsignal : setup.Signals signal)
    (h : enterSignal setup position moved signal = .ok moved') :
    CopyMoves setup position moved.1 moved'.1 := by
  rw [enterSignal] at h
  split at h
  · exact Except.ok.inj h ▸ .refl
  · rename_i hblock
    obtain ⟨⟨intent, consumedMints⟩, hdecide, h⟩ := bind_eq_ok.mp h
    cases intent with
    | none => exact Except.ok.inj h ▸ .single (.consumed moved.1 hsignal hdecide)
    | some intent =>
      obtain ⟨_, h⟩ := check_bind_eq_ok.mp h
      have hinside := eq_true_of_ne_false hblock
      exact Except.ok.inj h ▸ .single (.entered moved.1 hsignal hinside hdecide)

/-- The signals of a callback are signals of the protocol. -/
def CopyCallback.Sound (setup : CopySetup) : CopyCallback → Prop
  | .timer _ => True
  | .market _ signals => ∀ signal ∈ signals, setup.Signals signal

theorem handleCallback_moves {moved moved' : CopyRun × CopyRequests} {callback : OrderedCallback}
    (hsound : callback.callback.Sound setup)
    (h : handleCallback setup position moved callback = .ok moved') :
    CopyMoves setup position moved.1 moved'.1 := by
  rw [handleCallback] at h
  split at h
  · exact exitCallback_moves h
  · rename_i group signals hmarket
    rw [hmarket] at hsound
    obtain ⟨exited, hexited, h⟩ := bind_eq_ok.mp h
    have hexits : CopyMoves setup position moved.1 exited.1 := foldlM_keeps
      (P := fun at_ : CopyRun × CopyRequests => CopyMoves setup position moved.1 at_.1)
      (fun _ _ _ _ hmoves h => hmoves.trans (exitCallback_moves h)) .refl hexited
    exact foldlM_keeps
      (P := fun at_ : CopyRun × CopyRequests => CopyMoves setup position moved.1 at_.1)
      (fun signal hmem _ _ hmoves h => hmoves.trans (enterSignal_moves (hsound signal hmem) h))
      hexits h

theorem scheduleRetry_moves {state : CopyExecutionPosition}
    (h : scheduleRetry run state position = .ok run') : CopyMoves setup position run run' := by
  rw [scheduleRetry] at h
  split at h
  · obtain ⟨scheduled, _, h⟩ := bind_eq_ok.mp h
    exact Except.ok.inj h ▸ .single (.rescheduled run scheduled)
  · exact Except.ok.inj h ▸ .refl

theorem submitRequest_moves {request : ContentDigest × Bool}
    (h : submitRequest setup position run request = .ok run') :
    CopyMoves setup position run run' := by
  obtain ⟨state, hstate, h⟩ := bind_eq_ok.mp h
  obtain ⟨handled, hhandled, h⟩ := bind_eq_ok.mp h
  have hbegun := CopyMove.begun run (requireState_eq_ok.mp hstate) hhandled
  split at h
  · exact Except.ok.inj h ▸ .single hbegun
  · split at h
    · obtain ⟨scheduled, _, h⟩ := bind_eq_ok.mp h
      exact Except.ok.inj h ▸ (ReflTransGen.single hbegun).tail (.rescheduled _ scheduled)
    · exact (ReflTransGen.single hbegun).trans (scheduleRetry_moves h)

theorem landCopyAction_moves {action : CopyAction}
    (h : landCopyAction setup position run action = .ok run') :
    CopyMoves setup position run run' := by
  obtain ⟨_, h⟩ := check_bind_eq_ok.mp h
  obtain ⟨state, hstate, h⟩ := bind_eq_ok.mp h
  obtain ⟨handled, hhandled, h⟩ := bind_eq_ok.mp h
  exact Except.ok.inj h ▸ .single (.landed run (requireState_eq_ok.mp hstate) hhandled)

theorem notifyPosition_moves {action : CopyAction}
    (h : notifyPosition setup position run action = .ok run') :
    CopyMoves setup position run run' := by
  obtain ⟨state, hstate, h⟩ := bind_eq_ok.mp h
  split at h
  · obtain ⟨price, _, h⟩ := bind_eq_ok.mp h
    obtain ⟨⟨control, reason⟩, hevaluate, h⟩ := bind_eq_ok.mp h
    have hmove := @CopyMove.evaluated _ setup _ run _ _ _ _ _ (requireState_eq_ok.mp hstate)
      hevaluate
    cases reason with
    | none =>
      obtain ⟨scheduled, _, h⟩ := bind_eq_ok.mp h
      exact Except.ok.inj h ▸ (ReflTransGen.single hmove).tail (.rescheduled _ scheduled)
    | some reason =>
      obtain ⟨_, _, h⟩ := bind_eq_ok.mp h
      obtain ⟨scheduled, _, h⟩ := bind_eq_ok.mp h
      exact Except.ok.inj h ▸ (ReflTransGen.single hmove).tail (.rescheduled _ scheduled)
  · exact scheduleRetry_moves h

theorem applyHistory_moves {boundary : Nat} {ahead ahead' : CopyAhead}
    (h : applyHistory setup boundary ahead run = .ok (ahead', run')) :
    CopyMoves setup position run run' := by
  rw [applyHistory] at h
  split at h
  · split at h
    · obtain ⟨seconds, _, h⟩ := bind_eq_ok.mp h
      obtain ⟨⟨curves, signals⟩, happly, h⟩ := bind_eq_ok.mp h
      cases h
      exact .single (.history run _ happly)
    · cases h
      exact .refl
  · cases h
    exact .refl

theorem applyObservation_moves {boundary : Nat} {ahead ahead' : CopyAhead}
    {observed : List OrderedCallback}
    (h : applyObservation setup boundary ahead run = .ok (ahead', run', observed)) :
    CopyMoves setup position run run' ∧ ∀ callback ∈ observed, callback.callback.Sound setup := by
  rw [applyObservation] at h
  split at h
  · split at h
    · obtain ⟨seconds, _, h⟩ := bind_eq_ok.mp h
      obtain ⟨⟨curves, signals⟩, happly, h⟩ := bind_eq_ok.mp h
      cases h
      refine ⟨.single (.observed run _ happly), fun callback hmem => ?_⟩
      rw [List.mem_singleton.mp hmem]
      exact fun signal hsignal => ⟨_, _, _, _, _, happly, hsignal⟩
    · cases h
      exact ⟨.refl, fun _ hmem => (List.not_mem_nil hmem).elim⟩
  · cases h
    exact ⟨.refl, fun _ hmem => (List.not_mem_nil hmem).elim⟩

theorem runCallbacks_moves {boundary : Nat} {observed : List OrderedCallback}
    {moved : CopyRun × CopyRequests}
    (hsound : ∀ callback ∈ observed, callback.callback.Sound setup)
    (h : runCallbacks setup boundary position run observed = .ok moved) :
    CopyMoves setup position run moved.1 := by
  refine foldlM_keeps
    (P := fun at_ : CopyRun × CopyRequests => CopyMoves setup position run at_.1)
    (fun callback hmem _ _ hmoves h => hmoves.trans (handleCallback_moves ?_ h))
    (.single (.rescheduled run _)) h
  rcases List.mem_append.mp ((List.perm_insertionSort callbackLe _).mem_iff.mp hmem) with
    hmem | hmem
  · exact hsound callback hmem
  · obtain ⟨action, _, rfl⟩ := List.mem_map.mp hmem
    exact trivial

/-- **A boundary is a sequence of moves at its position.** -/
theorem processCopyBoundary_moves {boundary : Nat} {ahead ahead' : CopyAhead}
    (h : processCopyBoundary setup boundary ahead run = .ok (ahead', run')) :
    ∃ position, setup.OnChain position ∧ CopyMoves setup position run run' := by
  obtain ⟨position, hposition, h⟩ := bind_eq_ok.mp h
  obtain ⟨⟨ahead₁, run₁⟩, h₁, h⟩ := bind_eq_ok.mp h
  obtain ⟨⟨ahead₂, run₂, observed⟩, h₂, h⟩ := bind_eq_ok.mp h
  obtain ⟨⟨run₃, requests⟩, h₃, h⟩ := bind_eq_ok.mp h
  obtain ⟨run₄, h₄, h⟩ := bind_eq_ok.mp h
  obtain ⟨run₅, h₅, h⟩ := bind_eq_ok.mp h
  obtain ⟨run₆, h₆, h⟩ := bind_eq_ok.mp h
  obtain ⟨_, h⟩ := check_bind_eq_ok.mp h
  cases h
  obtain ⟨hobserved, hsound⟩ := @applyObservation_moves _ _ position _ _ _ _ _ _ h₂
  have hcalled : CopyMoves setup position run run₃ :=
    ((applyHistory_moves h₁).trans hobserved).trans (runCallbacks_moves hsound h₃)
  have hsubmitted : CopyMoves setup position run run₄ := foldlM_keeps
    (P := fun at_ : CopyRun => CopyMoves setup position run at_)
    (fun _ _ _ _ hmoves h => hmoves.trans (submitRequest_moves h)) hcalled h₄
  have hlanded : CopyMoves setup position run run₅ := foldlM_keeps
    (P := fun at_ : CopyRun => CopyMoves setup position run at_)
    (fun _ _ _ _ hmoves h => hmoves.trans (landCopyAction_moves h))
    (hsubmitted.tail (.rescheduled run₄ _)) h₅
  have hnotified : CopyMoves setup position run run' := foldlM_keeps
    (P := fun at_ : CopyRun => CopyMoves setup position run at_)
    (fun _ _ _ _ hmoves h => hmoves.trans (notifyPosition_moves h)) hlanded h₆
  exact ⟨position, ⟨boundary, hposition⟩, hnotified⟩

/-- **The loop stays among the reachable states.** -/
theorem copyLoop_reachable (rounds : Nat) {ahead : CopyAhead} (hrun : CopyReachable setup run)
    (h : copyLoop setup rounds ahead run = .ok (some run')) : CopyReachable setup run' := by
  induction rounds generalizing ahead run with
  | zero =>
    rw [copyLoop] at h
    split at h
    · exact Option.some.inj (Except.ok.inj h) ▸ hrun
    · cases h
  | succ rounds ih =>
    rw [copyLoop] at h
    split at h
    · exact Option.some.inj (Except.ok.inj h) ▸ hrun
    · obtain ⟨⟨ahead', run₁⟩, h₁, h⟩ := bind_eq_ok.mp h
      obtain ⟨position, hon, hmoves⟩ := processCopyBoundary_moves h₁
      exact ih (hrun.trans (hmoves.steps hon)) h

/-- **A replay that completes ends in a reachable state, and each position it publishes is one of
that state and has come to its end.** -/
theorem replayCopy_reachable {rounds : Nat} {source : HistoricalEventSource}
    {positions : List CopyExecutionPosition}
    (h : replayCopy setup rounds source = .ok (some (run, positions))) :
    CopyReachable setup run ∧ positions = publishedPositions run ∧
      ∀ state ∈ positions, state.control.status.finished = true := by
  obtain ⟨expected, _, h⟩ := bind_eq_ok.mp h
  obtain ⟨observations, _, h⟩ := bind_eq_ok.mp h
  obtain ⟨looped, hlooped, h⟩ := bind_eq_ok.mp h
  cases looped with
  | none => cases h
  | some last =>
    obtain ⟨_, h⟩ := check_bind_eq_ok.mp h
    obtain ⟨hfinished, h⟩ := check_bind_eq_ok.mp h
    cases h
    refine ⟨copyLoop_reachable rounds .refl hlooped, rfl, fun state hmem => ?_⟩
    by_contra hopen
    exact refuseIf_eq_ok.mp hfinished ⟨state, hmem, eq_false_of_ne_true hopen⟩

end Phases

/-! ## What every position keeps -/

/-- An intent the strategy decided at a position of the chain. -/
def CopySetup.Decided (setup : CopySetup) (intent : CopyBuyIntent) : Prop :=
  ∃ consumedMints consumedMints' signal position, setup.OnChain position ∧ setup.Signals signal ∧
    setup.strategy.decide consumedMints signal position = .ok (some intent, consumedMints')

/-- Whatever can happen to a position keeps the property, which may name the identity the position
is kept under. -/
structure KeptByMoves (setup : CopySetup) (P : ContentDigest → CopyExecutionPosition → Prop) :
    Prop where
  start {intent : CopyBuyIntent} :
    setup.Decided intent → P intent.roundtripId (CopyExecutionPosition.start intent)
  evaluated {positionId : ContentDigest} {position : ChainPosition} {state : CopyExecutionPosition}
      {price : Option TokenPrice} {control : CopyPositionControl}
      {reason : Option CopyExitReason} :
    setup.OnChain position → P positionId state →
      state.control.evaluateExit position price = .ok (control, reason) →
      P positionId { state with control := control }
  begun {positionId : ContentDigest} {position : ChainPosition} {desk : CopyDesk}
      {state : CopyExecutionPosition} {isBuy : Bool} {handled : CopyHandled} :
    setup.OnChain position → P positionId state →
      beginRequest setup position desk state isBuy = .ok handled → P positionId handled.state
  landed {positionId : ContentDigest} {position : ChainPosition} {desk : CopyDesk}
      {state : CopyExecutionPosition} {handled : CopyHandled} :
    setup.OnChain position → P positionId state →
      land setup desk state position = .ok handled → P positionId handled.state

theorem KeptByMoves.step {setup : CopySetup} {P : ContentDigest → CopyExecutionPosition → Prop}
    (hP : KeptByMoves setup P) {run run' : CopyRun} (hstep : CopyStep setup run run')
    (h : ∀ e ∈ run.states.entries, P e.1 e.2) : ∀ e ∈ run'.states.entries, P e.1 e.2 := by
  obtain ⟨position, hon, hmove⟩ := hstep
  have hput : ∀ {positionId : ContentDigest} {state : CopyExecutionPosition},
      P positionId state → ∀ e ∈ (run.states.set positionId state).entries, P e.1 e.2 := by
    intro positionId state hstate e he
    rcases Dict.mem_entries_set.mp he with rfl | ⟨he, _⟩
    · exact hstate
    · exact h e he
  have hheld : ∀ {positionId : ContentDigest} {state : CopyExecutionPosition},
      run.states.get? positionId = some state → P positionId state :=
    fun hget => h _ (Dict.get?_eq_some_iff.mp hget)
  cases hmove with
  | history | observed | rescheduled | consumed => exact h
  | entered hsignal _ hdecide => exact hput (hP.start ⟨_, _, _, _, hon, hsignal, hdecide⟩)
  | evaluated hstate hevaluate => exact hput (hP.evaluated hon (hheld hstate) hevaluate)
  | begun hstate hbegin => exact hput (hP.begun hon (hheld hstate) hbegin)
  | landed hstate hland => exact hput (hP.landed hon (hheld hstate) hland)

/-- **What every position starts with and keeps holds of the positions of every reachable
state.** -/
theorem CopyReachable.positions {setup : CopySetup}
    {P : ContentDigest → CopyExecutionPosition → Prop} (hP : KeptByMoves setup P) {run : CopyRun}
    (h : CopyReachable setup run) : ∀ e ∈ run.states.entries, P e.1 e.2 := by
  induction h with
  | refl =>
    intro e he
    cases he
  | tail _ hstep ih => exact hP.step hstep ih

end OnchainBacktest
