import Mathlib.Data.List.TakeWhile
import OnchainBacktest.Reference.NoLookAhead
import OnchainBacktest.Reference.OrderTimes

/-!
# What a run may know

A run over a stream, cut off after a boundary, and the same run to the end: the end adds only what
is written at later boundaries (`run_eq_upTo`).  Two streams that agree up to a boundary are cut off
in states that agree (`runUpTo_agree`).
-/

set_option autoImplicit false

namespace OnchainBacktest

namespace Reference

open Checked

section Runs

variable {ε σ : Type} [MarketEvent ε] {source source' : HistoricalEventSource ε}
  {plugins : RunPlugins ε σ} {strategy : σ} {boundary : Nat}

/-- The events a stream has before it gets past a boundary. -/
def eventsUpTo (boundary : Nat) (events : List ε) : List ε :=
  events.takeWhile fun e => decide ((envelope e).boundaryOrdinal ≤ boundary)

/-- Two streams with the same boundaries and the same events up to a boundary. -/
structure HistoricalEventSource.AgreeUpTo (boundary : Nat)
    (source source' : HistoricalEventSource ε) : Prop where
  boundaries : (source.boundaries.filter fun b => decide (b.boundaryOrdinal ≤ boundary)) =
    source'.boundaries.filter fun b => decide (b.boundaryOrdinal ≤ boundary)
  events : eventsUpTo boundary source.events = eventsUpTo boundary source'.events

/-- An order decided at a boundary of a stream has a boundary to be executed at. -/
def HistoricalEventSource.Releases (source : HistoricalEventSource ε) (orderSlots c : Nat) : Prop :=
  ∃ timeline release, BoundaryTimeline.make source.boundaries = .ok timeline ∧
    timeline.orderRelease c orderSlots = .ok (some release)

theorem make_boundaries {boundaries : List ReplayBoundary} {timeline : BoundaryTimeline}
    (h : BoundaryTimeline.make boundaries = .ok timeline) : timeline.boundaries = boundaries := by
  rw [BoundaryTimeline.make] at h
  split at h
  · cases h
  · split at h
    · split at h
      · split at h
        · rw [← Except.ok.inj h]
        · cases h
      · cases h
    · cases h

theorem timelines_agree (h : source.AgreeUpTo boundary source')
    {timeline timeline' : BoundaryTimeline}
    (hmake : BoundaryTimeline.make source.boundaries = .ok timeline)
    (hmake' : BoundaryTimeline.make source'.boundaries = .ok timeline') :
    timeline.AgreeUpTo timeline' boundary := by
  rw [BoundaryTimeline.AgreeUpTo, BoundaryTimeline.upTo, BoundaryTimeline.upTo,
    make_boundaries hmake, make_boundaries hmake']
  exact h.boundaries

/-- Cutting a stream off after a boundary cuts its groups off. -/
theorem eventGroups_upTo (boundary : Nat) (events : List ε) :
    eventGroups events = eventGroups (eventsUpTo boundary events) ++
      eventGroups (events.dropWhile fun e => decide ((envelope e).boundaryOrdinal ≤ boundary)) := by
  conv_lhs => rw [← List.takeWhile_append_dropWhile (l := events)
    (p := fun e => decide ((envelope e).boundaryOrdinal ≤ boundary))]
  refine List.splitBy_append fun x hx y hy => ?_
  have hxle : (envelope x).boundaryOrdinal ≤ boundary :=
    of_decide_eq_true (List.mem_takeWhile_imp
      (p := fun e => decide ((envelope e).boundaryOrdinal ≤ boundary))
      (List.mem_of_mem_getLast? hx))
  have hylt : ¬ (envelope y).boundaryOrdinal ≤ boundary := by
    intro hle
    have hnot := List.head?_dropWhile_not
      (fun e => decide ((envelope e).boundaryOrdinal ≤ boundary)) events
    rw [hy] at hnot
    simp [hle] at hnot
  rw [sameGroup, Bool.and_eq_false_iff]
  refine .inl (beq_eq_false_iff_ne.mpr ?_)
  omega

theorem mem_eventGroups_upTo {events group : List ε}
    (hgroup : group ∈ eventGroups (eventsUpTo boundary events)) :
    ∀ e ∈ group, (envelope e).boundaryOrdinal ≤ boundary := by
  intro e he
  have hmem : e ∈ eventsUpTo boundary events := by
    rw [← List.flatten_splitBy sameGroup (eventsUpTo boundary events)]
    exact List.mem_flatten.mpr ⟨group, hgroup, he⟩
  exact of_decide_eq_true (List.mem_takeWhile_imp
    (p := fun e => decide ((envelope e).boundaryOrdinal ≤ boundary)) hmem)

/-- What is written up to a boundary. -/
theorem filter_wrote {α : Type} {f : α → Nat} {before after : List α}
    (h : ∃ xs, after = before ++ xs ∧ ∀ x ∈ xs, boundary < f x)
    (hbefore : ∀ x ∈ before, f x ≤ boundary) :
    (after.filter fun x => decide (f x ≤ boundary)) = before := by
  obtain ⟨xs, rfl, hxs⟩ := h
  rw [List.filter_append, List.filter_eq_self.mpr fun x hx => decide_eq_true (hbefore x hx),
    List.filter_eq_nil_iff.mpr fun x hx => by simpa using hxs x hx, List.append_nil]

variable [DomainDigest]

/-- A run that is cut off after a boundary. -/
def runUpTo (source : HistoricalEventSource ε) (plugins : RunPlugins ε σ) (strategy : σ)
    (boundary : Nat) : Except EngineFault (CausalScheduler (Observation ε) × RunBooks σ) := do
  let timeline ← BoundaryTimeline.make source.boundaries
  runGroups timeline plugins (KeyedQueue.empty, RunBooks.start plugins.config strategy)
    (eventGroups (eventsUpTo boundary source.events))

/-- **Two runs that are cut off after a boundary agree**, when the streams agree up to it and no
order was proposed that has a boundary to be executed at in one stream only. -/
theorem runUpTo_agree (hagree : source.AgreeUpTo boundary source')
    {state state' : CausalScheduler (Observation ε) × RunBooks σ}
    (hrun : runUpTo source plugins strategy boundary = .ok state)
    (hrun' : runUpTo source' plugins strategy boundary = .ok state')
    (hreleases : ∀ c ≤ boundary, (∃ orderId, .intentProposed c orderId ∈ state.2.recorder.audit) →
      (source.Releases plugins.config.latency.orderSlots c ↔
        source'.Releases plugins.config.latency.orderSlots c)) :
    AgreeUpTo boundary state state' := by
  obtain ⟨timeline, hmake, hrun⟩ := bind_eq_ok.mp hrun
  obtain ⟨timeline', hmake', hrun'⟩ := bind_eq_ok.mp hrun'
  rw [← hagree.events] at hrun'
  refine runGroups_agree (timelines_agree hagree hmake hmake')
    (fun group hgroup => mem_eventGroups_upTo hgroup) ⟨rfl, rfl⟩ (fun c hc hproposed => ?_) hrun hrun'
  have hunique : ∀ {s : HistoricalEventSource ε} {t : BoundaryTimeline},
      BoundaryTimeline.make s.boundaries = .ok t →
        ((∃ release, t.orderRelease c plugins.config.latency.orderSlots = .ok (some release)) ↔
          s.Releases plugins.config.latency.orderSlots c) := by
    intro s t ht
    constructor
    · rintro ⟨release, hrelease⟩
      exact ⟨t, release, ht, hrelease⟩
    · rintro ⟨t', release, ht', hrelease⟩
      obtain rfl := Except.ok.inj (ht.symm.trans ht')
      exact ⟨release, hrelease⟩
  exact (hunique hmake).trans ((hreleases c hc hproposed).trans (hunique hmake').symm)

/-- **To the end of its stream, a run adds what is written at later boundaries.** -/
theorem run_eq_upTo {summary : RunSummary}
    (hrun : run source plugins strategy none = .ok summary) :
    ∃ state, runUpTo source plugins strategy boundary = .ok state ∧
      (summary.recorder.ledger.filter fun t => decide (t.boundaryOrdinal ≤ boundary)) =
        state.2.recorder.ledger ∧
      (summary.recorder.fills.filter fun f => decide (f.boundaryOrdinal ≤ boundary)) =
        state.2.recorder.fills ∧
      (summary.recorder.audit.filter fun r => decide (r.boundaryOrdinal ≤ boundary)) =
        state.2.recorder.audit := by
  obtain ⟨timeline, hmake, hrun⟩ := bind_eq_ok.mp hrun
  obtain ⟨final, hfinal, hfinish⟩ := bind_eq_ok.mp hrun
  have hsummary : summary.recorder = final.2.recorder := by
    obtain ⟨-, hfinish⟩ := check_bind_eq_ok.mp hfinish
    obtain ⟨-, hfinish⟩ := check_bind_eq_ok.mp hfinish
    obtain ⟨-, hfinish⟩ := check_bind_eq_ok.mp hfinish
    rw [← Except.ok.inj hfinish]
  have hall := hfinal
  rw [eventGroups_upTo boundary, runGroups, foldlM_append] at hfinal
  obtain ⟨state, hstate, hrest⟩ := bind_eq_ok.mp hfinal
  refine ⟨state, by rw [runUpTo, hmake, ok_bind]; exact hstate, ?_⟩
  -- the groups after the cut stand past the boundary
  obtain ⟨hpairs, -, hgroups⟩ := runGroups_increasing hrest
  have hlater : ∀ group ∈ eventGroups (source.events.dropWhile fun e =>
      decide ((envelope e).boundaryOrdinal ≤ boundary)), boundary < groupBoundary group := by
    have hflat := List.flatten_splitBy sameGroup (source.events.dropWhile fun e =>
      decide ((envelope e).boundaryOrdinal ≤ boundary))
    change (eventGroups _).flatten = _ at hflat
    generalize hrests : eventGroups (source.events.dropWhile fun e =>
      decide ((envelope e).boundaryOrdinal ≤ boundary)) = rests at hpairs hgroups hflat ⊢
    cases rests with
    | nil => exact fun _ h => absurd h List.not_mem_nil
    | cons group rests =>
      have hfirst : boundary < groupBoundary group := by
        obtain ⟨first, tail, rfl⟩ :=
          List.exists_cons_of_ne_nil (hgroups group List.mem_cons_self).1
        have hnot := List.head?_dropWhile_not
          (fun e => decide ((envelope e).boundaryOrdinal ≤ boundary)) source.events
        rw [← hflat] at hnot
        simpa [groupBoundary] using hnot
      intro other hother
      rcases List.mem_cons.mp hother with rfl | hother
      · exact hfirst
      · exact hfirst.trans ((List.pairwise_cons.mp hpairs).1 other hother)
  have hafter := runGroups_wrote (P := fun b => boundary < b) hrest hlater
  have hbefore := runGroups_wrote (P := fun b => b ≤ boundary) hstate fun group hgroup => by
    have hall := (runGroups_increasing hstate).2.2 group hgroup
    obtain ⟨first, tail, rfl⟩ := List.exists_cons_of_ne_nil hall.1
    exact mem_eventGroups_upTo hgroup first List.mem_cons_self
  rw [hsummary]
  obtain ⟨⟨records, haudit, hrecords⟩, ⟨transactions, hledger, htransactions⟩,
    ⟨fills, hfills, hfilled⟩⟩ := hbefore
  refine ⟨filter_wrote hafter.ledger ?_, filter_wrote hafter.fills ?_,
    filter_wrote hafter.audit ?_⟩
  · rw [hledger]
    exact htransactions
  · rw [hfills]
    exact hfilled
  · rw [haudit]
    exact hrecords

/-- **No look-ahead.**  For two streams that agree up to a boundary: runs that get past it in both
agree there, provided no order was proposed by then that has a boundary to be executed at in one of
them only; and what a run to the end writes up to the boundary is what it has written there.  In a
run orders are executed at later boundaries than they are decided at, and a lookup of causal rows
reads a row that is available by then, whatever rows become available later. -/
theorem no_look_ahead (hagree : source.AgreeUpTo boundary source') :
    (∀ state state', runUpTo source plugins strategy boundary = .ok state →
      runUpTo source' plugins strategy boundary = .ok state' →
      (∀ c ≤ boundary, (∃ orderId, .intentProposed c orderId ∈ state.2.recorder.audit) →
        (source.Releases plugins.config.latency.orderSlots c ↔
          source'.Releases plugins.config.latency.orderSlots c)) →
      AgreeUpTo boundary state state') ∧
    (∀ summary, run source plugins strategy none = .ok summary →
      ∃ state, runUpTo source plugins strategy boundary = .ok state ∧
        (summary.recorder.ledger.filter fun t => decide (t.boundaryOrdinal ≤ boundary)) =
          state.2.recorder.ledger ∧
        (summary.recorder.fills.filter fun f => decide (f.boundaryOrdinal ≤ boundary)) =
          state.2.recorder.fills ∧
        (summary.recorder.audit.filter fun r => decide (r.boundaryOrdinal ≤ boundary)) =
          state.2.recorder.audit) ∧
    (∀ summary, run source plugins strategy none = .ok summary →
      ExecutedLater summary.recorder.audit) ∧
    ∀ (provider : InMemoryCausalScalarProvider) (name : String) (entityId c : Nat),
      (∀ value, provider.valueAt name entityId c = some value →
        ∃ row ∈ provider.rows, row.name = name ∧ row.entityId = entityId ∧
          row.availableBoundaryOrdinal ≤ c ∧ row.value = some value) ∧
      ∀ provider' : InMemoryCausalScalarProvider, provider.AgreeUpTo provider' c →
        provider.valueAt name entityId c = provider'.valueAt name entityId c := by
  refine ⟨fun state state' hrun hrun' hreleases => runUpTo_agree hagree hrun hrun' hreleases,
    fun summary hrun => run_eq_upTo hrun, fun summary hrun => ?_,
    fun provider name entityId c => ⟨fun value hvalue => ?_, fun provider' hrows =>
      InMemoryCausalScalarProvider.valueAt_agree hrows le_rfl⟩⟩
  · obtain ⟨timeline, hmake, hrun⟩ := bind_eq_ok.mp hrun
    obtain ⟨final, hfinal, hfinish⟩ := bind_eq_ok.mp hrun
    obtain ⟨-, hfinish⟩ := check_bind_eq_ok.mp hfinish
    obtain ⟨-, hfinish⟩ := check_bind_eq_ok.mp hfinish
    obtain ⟨-, hfinish⟩ := check_bind_eq_ok.mp hfinish
    rw [← Except.ok.inj hfinish]
    exact (runGroups_ordersLater (start_ordersLater _ _) hfinal).executed
  · obtain ⟨row, hrow, hname, hentity, havailable, hvalue, -⟩ :=
      InMemoryCausalScalarProvider.valueAt_spec hvalue
    exact ⟨row, hrow, hname, hentity, havailable, hvalue⟩

end Runs

/-! ## A stream that ends -/

section Sample

instance sampleBlocks_neZero : NeZero 8 := ⟨by decide⟩

/-- An envelope at the first transaction of a block. -/
def sampleEnvelope (block eventIndex : Fin 8) (causalId : Fin (2 ^ 256)) : EventEnvelope where
  position :=
    { networkId := ⟨"sample:chain"⟩
      positionSchemaId := BLOCK32_TRANSACTION32_POSITION_SCHEMA_ID
      blockOrdinal := block
      transactionIndex := 0
      eventIndex := some eventIndex
      schema_supported := rfl
      block_le := by have := block.isLt; unfold UINT32_MAX; omega
      neg_one_le := ChainPosition.first_ge
      transaction_lt := ChainPosition.first_lt
      event_le := by
        intro e he
        have := eventIndex.isLt
        obtain rfl := Option.some.inj he
        unfold UINT32_MAX
        omega }
  transactionGroupId := ⟨block.castLE (by decide), false⟩
  canonicalEventId := ⟨eventIndex.castLE (by decide), false⟩
  stableCausalId := ⟨causalId, false⟩
  protocol := "amm"
  protocolVersion := "v1"
  orderingFidelity := .instructionExact
  protocol_trimmed := by decide
  version_trimmed := by decide
  exact_indexed := fun _ => by simp

def sampleBoundary (block : Fin 8) : ReplayBoundary where
  chainPosition := (sampleEnvelope block 0 0).position.withoutEvent
  eventless := rfl

/-- A stream of one event in each block. -/
def sampleSource (blocks : List (Fin 8)) : HistoricalEventSource PlainEvent where
  boundaries := blocks.map sampleBoundary
  events := blocks.map fun block => ⟨sampleEnvelope block 0 0, .other⟩
  eventAt := none

/-- A strategy that sells once, on the first event it sees. -/
theorem sampleAssets_ne : (⟨"base"⟩ : AssetId) ≠ ⟨"quote"⟩ := by decide

def sampleStrategy : StrategyInstance PlainEvent Bool where
  onEvent sold _ context :=
    if sold then .ok (true, [])
    else .ok (true, [.swapExactIn
      ⟨⟨7, false⟩, ⟨"pool"⟩, ⟨"base"⟩, ⟨"quote"⟩, 5, 0, context.instant.boundaryOrdinal,
        sampleAssets_ne, by decide⟩])
  onExecution sold _ _ := .ok sold

def samplePlugins : RunPlugins PlainEvent Bool where
  strategy := sampleStrategy
  executionModel := ⟨fun _ _ _ _ => .rejected "UNKNOWN_POOL"⟩
  riskPolicy := ⟨fun intent view => decide ((intent.amountInAtomic : Int) ≤
    view.available intent.soldAssetId)⟩
  config := ⟨.exogenousReplay, ⟨0, 0⟩, ⟨0⟩, [(⟨"base"⟩, 10)], 8, by decide, by decide⟩
  features := emptyCausalScalarProvider
  predictions := emptyCausalScalarProvider

@[reducible] def sampleDigest : DomainDigest := ⟨fun _ _ => ⟨0, false⟩⟩

theorem sampleSources_agree : (sampleSource [1]).AgreeUpTo (sampleBoundary 1).boundaryOrdinal
    (sampleSource [1, 2]) := by
  have hboundary : ∀ block : Fin 8,
      decide ((envelope (⟨sampleEnvelope block 0 0, .other⟩ : PlainEvent)).boundaryOrdinal ≤
        (sampleBoundary 1).boundaryOrdinal) = decide (block ≤ 1) := by decide
  refine ⟨by decide, ?_⟩
  rw [eventsUpTo, eventsUpTo, sampleSource, sampleSource]
  simp only [List.map_cons, List.map_nil, List.takeWhile_cons, hboundary]
  rfl

attribute [local instance] sampleDigest in
/-- **The end of a stream decides whether an order is accepted**: the streams agree up to the first
boundary, and the order decided there is on the ledger of the longer run only. -/
theorem run_horizon : (sampleSource [1]).AgreeUpTo (sampleBoundary 1).boundaryOrdinal
      (sampleSource [1, 2]) ∧
    (run (sampleSource [1]) samplePlugins false none).map (fun summary =>
      (summary.recorder.ledger.filter fun t =>
        decide (t.boundaryOrdinal ≤ (sampleBoundary 1).boundaryOrdinal)).length) = .ok 0 ∧
    (run (sampleSource [1, 2]) samplePlugins false none).map (fun summary =>
      (summary.recorder.ledger.filter fun t =>
        decide (t.boundaryOrdinal ≤ (sampleBoundary 1).boundaryOrdinal)).length) = .ok 1 :=
  ⟨sampleSources_agree, by decide, by decide⟩

attribute [local instance] sampleDigest in
theorem no_look_ahead_sample :
    ∃ summary state, run (sampleSource [1]) samplePlugins false none = .ok summary ∧
      runUpTo (sampleSource [1]) samplePlugins false (sampleBoundary 1).boundaryOrdinal =
        .ok state ∧
      (summary.recorder.ledger.filter fun t =>
        decide (t.boundaryOrdinal ≤ (sampleBoundary 1).boundaryOrdinal)) =
          state.2.recorder.ledger ∧
      ExecutedLater summary.recorder.audit := by
  have hrun : (run (sampleSource [1]) samplePlugins false none).isOk = true := by decide
  obtain ⟨-, hcut, hlater, -⟩ :=
    @no_look_ahead _ _ _ _ _ samplePlugins false _ _ sampleSources_agree
  cases hsummary : run (sampleSource [1]) samplePlugins false none with
  | error fault =>
    rw [hsummary] at hrun
    cases hrun
  | ok summary =>
    obtain ⟨state, hstate, hledger, -, -⟩ := hcut summary hsummary
    exact ⟨summary, state, rfl, hstate, hledger, hlater summary hsummary⟩

end Sample

end Reference

end OnchainBacktest
