import OnchainBacktest.Reference.CausalRuns

/-!
# What a strategy sees without a delay

Without an observation delay the events of a group are shown at their own boundary, in the order of
their stable causal identities (`runGroups_observed`): the order of the scheduler's keys, not that
of the events in their group.  So the pools a strategy sees are the historical ones as long as the
last update of a pool in a group is the last in both orders (`observed_eq_historical_iff`).
-/

set_option autoImplicit false

namespace OnchainBacktest

namespace Reference

open Checked

section Pools

variable {ε : Type} [MarketEvent ε] {poolId : PoolId}

/-! ## The last update of a pool -/

/-- The snapshot an event leaves a pool with. -/
def snapshotOf (poolId : PoolId) (event : ε) : Option PoolSnapshot :=
  match view event with
  | .swap (.ok update) =>
    if update.poolId = poolId then update.snapshot (envelope event).boundaryOrdinal else none
  | _ => none

/-- The snapshot the last of some events leaves a pool with. -/
def lastSnapshot (poolId : PoolId) : List ε → Option PoolSnapshot
  | [] => none
  | event :: rest => (lastSnapshot poolId rest).or (snapshotOf poolId event)

theorem lastSnapshot_append (events later : List ε) : lastSnapshot poolId (events ++ later) =
    (lastSnapshot poolId later).or (lastSnapshot poolId events) := by
  induction events with
  | nil => rw [List.nil_append, lastSnapshot, Option.or_none]
  | cons event rest ih => rw [List.cons_append, lastSnapshot, ih, lastSnapshot, Option.or_assoc]

theorem lastSnapshot_eq_none {events : List ε} :
    lastSnapshot poolId events = none ↔ ∀ e ∈ events, snapshotOf poolId e = none := by
  induction events with
  | nil => exact iff_of_true rfl nofun
  | cons event rest ih =>
    rw [lastSnapshot, Option.or_eq_none_iff, ih, List.forall_mem_cons, and_comm]

theorem applyEvent_get? {pools pools' : Pools} {event : ε}
    (h : applyEvent (envelope event).boundaryOrdinal pools event = .ok pools') :
    pools'.get? poolId = (snapshotOf poolId event).or (pools.get? poolId) := by
  rw [applyEvent] at h
  rw [snapshotOf]
  cases hview : view event with
  | other =>
    rw [hview] at h
    rw [← Except.ok.inj h]
    rfl
  | tokenCreation assetId =>
    rw [hview] at h
    rw [← Except.ok.inj h]
    rfl
  | swap pool =>
    rw [hview] at h
    obtain ⟨update, hupdate, h⟩ := bind_eq_ok.mp h
    rw [raising_eq_ok.mp hupdate, ← Except.ok.inj h, PoolUpdate.applyTo]
    dsimp only
    cases hsnapshot : update.snapshot (envelope event).boundaryOrdinal with
    | none => rw [ite_self, Option.none_or]
    | some snapshot =>
      dsimp only
      by_cases hpool : update.poolId = poolId
      · rw [if_pos hpool, Option.some_or, hpool, Dict.get?_set_self]
      · rw [if_neg hpool, Option.none_or, Dict.get?_set_of_ne _ _ (Ne.symm hpool)]

theorem foldlM_applyEvent_get? {boundary : Nat} {pools pools' : Pools} {events : List ε}
    (hevents : ∀ e ∈ events, (envelope e).boundaryOrdinal = boundary)
    (h : events.foldlM (applyEvent boundary) pools = .ok pools') :
    pools'.get? poolId = (lastSnapshot poolId events).or (pools.get? poolId) := by
  induction events generalizing pools with
  | nil =>
    simp only [List.foldlM_nil, pure, Except.pure, Except.ok.injEq] at h
    rw [h, lastSnapshot, Option.none_or]
  | cons event rest ih =>
    rw [List.foldlM_cons] at h
    obtain ⟨next, hnext, h⟩ := bind_eq_ok.mp h
    rw [← hevents event List.mem_cons_self] at hnext
    rw [ih (fun e he => hevents e (List.mem_cons_of_mem _ he)) h, applyEvent_get? hnext,
      lastSnapshot, Option.or_assoc]

theorem applyGroup_pool {historical historical' : HistoricalReferenceState} {events : List ε}
    (h : historical.applyGroup events = .ok historical') : historical'.pool poolId =
      (lastSnapshot poolId events).or (historical.pool poolId) := by
  cases events with
  | nil => cases h
  | cons first rest =>
    have hsame := applyGroup_same h
    obtain ⟨-, h⟩ := check_bind_eq_ok.mp h
    obtain ⟨-, h⟩ := check_bind_eq_ok.mp h
    obtain ⟨pools, hpools, h⟩ := bind_eq_ok.mp h
    rw [← Except.ok.inj h]
    exact foldlM_applyEvent_get? hsame hpools

theorem observedApply_pool {observed observed' : ObservedState} {event : ε}
    (h : observed.apply event = .ok observed') : observed'.pool poolId =
      (snapshotOf poolId event).or (observed.pool poolId) := by
  rw [ObservedState.apply] at h
  split at h
  · rename_i assetId hview
    rw [← Except.ok.inj h, snapshotOf, hview]
    rfl
  · obtain ⟨pools, hpools, h⟩ := bind_eq_ok.mp h
    rw [← Except.ok.inj h]
    exact applyEvent_get? hpools

end Pools

section Delivery

variable {ε σ : Type} [MarketEvent ε] {timeline : BoundaryTimeline} {plugins : RunPlugins ε σ}
  {boundary : Nat}

/-! ## The order of a delivery -/

def causalId (event : ε) : Nat := (envelope event).stableCausalId.hex.val

/-- Events by their stable causal identities. -/
def byCausalId (events : List ε) : List ε :=
  events.insertionSort fun a b => causalId a ≤ causalId b

/-- The boundary, event and source of a delivery on record. -/
def AuditRecord.delivery : AuditRecord → Option (Nat × Fin (2 ^ 256) × Nat)
  | .observationDelivered boundary eventId source => some (boundary, eventId, source)
  | _ => none

/-- The deliveries on record. -/
def RunBooks.deliveries (books : RunBooks σ) : List (Nat × Fin (2 ^ 256) × Nat) :=
  books.recorder.audit.filterMap AuditRecord.delivery

/-- The delivery of an event at its own boundary. -/
def ownDelivery (event : ε) : Nat × Fin (2 ^ 256) × Nat :=
  ((envelope event).boundaryOrdinal, (envelope event).canonicalEventId.hex,
    (envelope event).boundaryOrdinal)

/-- What a strategy has been shown. -/
def RunBooks.shown (books : RunBooks σ) : ObservedState × List (Nat × Fin (2 ^ 256) × Nat) :=
  (books.observed, books.deliveries)

theorem shown_audit {books : RunBooks σ} {record : AuditRecord} (h : record.delivery = none) :
    (books.audit record).shown = books.shown := by
  rw [RunBooks.shown, RunBooks.shown, RunBooks.deliveries, RunBooks.deliveries, RunBooks.audit,
    Recorder.appendAudit, List.filterMap_append, List.filterMap_cons_none h, List.filterMap_nil,
    List.append_nil]

theorem deliverObservation_shown {books books' : RunBooks σ} {item : SchedulerKey × Observation ε}
    (h : deliverObservation boundary books item = .ok books') :
    (∀ poolId, books'.observed.pool poolId =
      (snapshotOf poolId item.2.event).or (books.observed.pool poolId)) ∧
      books'.deliveries = books.deliveries ++ [(boundary,
        (envelope item.2.event).canonicalEventId.hex, item.1.sourceOrCreatorBoundaryOrdinal)] := by
  obtain ⟨observed, hobserved, rfl⟩ := deliverObservation_eq_ok h
  refine ⟨fun poolId => observedApply_pool hobserved, ?_⟩
  rw [RunBooks.deliveries, RunBooks.deliveries, RunBooks.audit, Recorder.appendAudit,
    List.filterMap_append]
  rfl

/-- The observations of a boundary, one after the other. -/
theorem foldlM_deliverObservation_shown {books books' : RunBooks σ}
    {items : List (SchedulerKey × Observation ε)}
    (h : items.foldlM (deliverObservation boundary) books = .ok books') :
    (∀ poolId, books'.observed.pool poolId = (lastSnapshot poolId
      (items.map fun item => item.2.event)).or (books.observed.pool poolId)) ∧
      books'.deliveries = books.deliveries ++ items.map fun item => (boundary,
        (envelope item.2.event).canonicalEventId.hex, item.1.sourceOrCreatorBoundaryOrdinal) := by
  induction items generalizing books with
  | nil =>
    simp only [List.foldlM_nil, pure, Except.pure, Except.ok.injEq] at h
    rw [h]
    exact ⟨fun poolId => (Option.none_or).symm, (List.append_nil _).symm⟩
  | cons item rest ih =>
    rw [List.foldlM_cons] at h
    obtain ⟨next, hnext, h⟩ := bind_eq_ok.mp h
    obtain ⟨hpools, hdeliveries⟩ := deliverObservation_shown hnext
    obtain ⟨hpools', hdeliveries'⟩ := ih h
    refine ⟨fun poolId => ?_, ?_⟩
    · rw [hpools', hpools, List.map_cons, lastSnapshot, Option.or_assoc]
    · rw [hdeliveries', hdeliveries, List.map_cons, List.append_assoc, List.singleton_append]

/-! ## A group without a delay -/

/-- The events of a group, as they wait for their own boundary. -/
def waitingItems (events : List ε) (row : Nat) : List (SchedulerKey × Observation ε) :=
  (events.zipIdx row).map fun e =>
    (observationKey (envelope e.1).boundaryOrdinal e.1, ⟨e.1, e.2⟩)

theorem map_event_waitingItems (events : List ε) (row : Nat) :
    (waitingItems events row).map (fun item => item.2.event) = events := by
  rw [waitingItems, List.map_map]
  exact List.zipIdx_map_fst row events

theorem mem_waitingItems {events : List ε} {row : Nat} {item : SchedulerKey × Observation ε}
    (h : item ∈ waitingItems events row) : item.2.event ∈ events ∧
      item.1 = observationKey (envelope item.2.event).boundaryOrdinal item.2.event := by
  obtain ⟨e, he, rfl⟩ := List.mem_map.mp h
  exact ⟨List.fst_mem_of_mem_zipIdx he, rfl⟩

theorem registerEvent_zero {state state' : CausalScheduler (Observation ε) × RunBooks σ}
    {event : ε} (h : registerEvent timeline 0 boundary state event = .ok state') :
    state'.1.items.Perm ((observationKey (envelope event).boundaryOrdinal event,
        ⟨event, state.2.eventRowIndex⟩) :: state.1.items) ∧
      state'.2.eventRowIndex = state.2.eventRowIndex + 1 ∧ state'.2.shown = state.2.shown := by
  obtain ⟨release, hrelease, hfeed, hbooks⟩ := registerEvent_eq_ok h
  obtain rfl := BoundaryTimeline.observationRelease_zero hrelease
  refine ⟨KeyedQueue.enqueue_perm (CausalScheduler.enqueue_eq_ok hfeed), ?_, ?_⟩
  · rw [hbooks]
  · rw [hbooks]
    rfl

theorem foldlM_registerEvent_zero {state state' : CausalScheduler (Observation ε) × RunBooks σ}
    {events : List ε}
    (h : events.foldlM (registerEvent timeline 0 boundary) state = .ok state') :
    state'.1.items.Perm (waitingItems events state.2.eventRowIndex ++ state.1.items) ∧
      state'.2.shown = state.2.shown := by
  induction events generalizing state with
  | nil =>
    simp only [List.foldlM_nil, pure, Except.pure, Except.ok.injEq] at h
    rw [h]
    exact ⟨.refl _, rfl⟩
  | cons event rest ih =>
    rw [List.foldlM_cons] at h
    obtain ⟨next, hnext, h⟩ := bind_eq_ok.mp h
    obtain ⟨hperm, hrow, hshown⟩ := registerEvent_zero hnext
    obtain ⟨hperm', hshown'⟩ := ih h
    refine ⟨?_, hshown'.trans hshown⟩
    rw [hrow] at hperm'
    rw [waitingItems, List.zipIdx_cons, List.map_cons]
    exact hperm'.trans ((List.Perm.append_left _ hperm).trans List.perm_middle)

/-- **What waits for one boundary comes out by stable causal identity.** -/
theorem popReady_zero {scheduler : CausalScheduler (Observation ε)} {events : List ε} {row : Nat}
    (hevents : ∀ e ∈ events, (envelope e).boundaryOrdinal = boundary)
    (h : scheduler.items.Perm (waitingItems events row)) :
    ((scheduler.popReady boundary .observationDelivery).1.map fun item => item.2.event) =
        byCausalId events ∧
      (∀ item ∈ (scheduler.popReady boundary .observationDelivery).1,
        item.1.sourceOrCreatorBoundaryOrdinal = boundary) ∧
      (scheduler.popReady boundary .observationDelivery).2 = KeyedQueue.empty := by
  have hkeys : ∀ item ∈ scheduler.items, item.2.event ∈ events ∧
      item.1 = observationKey boundary item.2.event := by
    intro item hitem
    obtain ⟨hevent, hkey⟩ := mem_waitingItems (h.mem_iff.mp hitem)
    exact ⟨hevent, by rw [hkey, hevents _ hevent]⟩
  have hdue : ∀ item ∈ scheduler.items, item.1.due boundary .observationDelivery = true := by
    intro item hitem
    rw [(hkeys item hitem).2]
    exact SchedulerKey.due_iff.mpr (.inr ⟨rfl, le_rfl⟩)
  have hready : (scheduler.popReady boundary .observationDelivery).1 = scheduler.items := by
    refine (KeyedQueue.popThrough_fst _ fun _ _ => SchedulerKey.due_of_le).trans ?_
    exact List.filter_eq_self.mpr hdue
  rw [hready]
  refine ⟨?_, fun item hitem => ?_, KeyedQueue.ext_mem fun e => ?_⟩
  · have hperm : (scheduler.items.map fun item => item.2.event).Perm (byCausalId events) := by
      refine (h.map _).trans ?_
      rw [map_event_waitingItems]
      exact (List.perm_insertionSort _ _).symm
    have hstrict : (scheduler.items.map fun item => item.2.event).Pairwise
        fun a b => causalId a < causalId b := by
      refine List.pairwise_map.mpr (scheduler.sorted.imp_of_mem fun {a b} ha hb hlt => ?_)
      obtain ⟨hea, hka⟩ := hkeys a ha
      obtain ⟨heb, hkb⟩ := hkeys b hb
      rw [hka, hkb, SchedulerKey.lt_iff, SchedulerKey.fields, SchedulerKey.fields] at hlt
      simpa [observationKey, hevents _ hea, hevents _ heb, Prod.Lex.toLex_lt_toLex, causalId]
        using hlt
    have hsorted : (byCausalId events).Pairwise fun a b => causalId a ≤ causalId b :=
      List.pairwise_insertionSort _ _
    refine hperm.eq_of_pairwise (fun a b ha hb hab hba => ?_) (hstrict.imp fun h => h.le) hsorted
    by_contra hne
    have hdiffer : (scheduler.items.map fun item => item.2.event).Pairwise
        fun a b => causalId a ≠ causalId b := hstrict.imp fun h => h.ne
    have : Std.Symm fun a b : ε => causalId a ≠ causalId b := ⟨fun _ _ hab => hab.symm⟩
    exact hdiffer.forall ha (hperm.mem_iff.mpr hb) hne (le_antisymm hab hba)
  · obtain ⟨hevent, hkey⟩ := hkeys item hitem
    rw [hkey]
    exact hevents _ hevent
  · rw [CausalScheduler.mem_popReady_snd]
    refine iff_of_false (fun he => ?_) (List.not_mem_nil)
    rw [hdue e he.1] at he
    cases he.2

end Delivery

/-! ## What does not show anything -/

section Frames

variable {ε σ : Type} {timeline : BoundaryTimeline} {plugins : RunPlugins ε σ} {boundary : Nat}

theorem callStrategy_shown {instant : ReplayBoundary}
    {state state' : RunBooks σ × List SwapExactInIntent} {observation : Observation ε}
    (h : callStrategy plugins instant boundary state observation = .ok state') :
    state'.1.shown = state.1.shown := by
  obtain ⟨strategy, intents, -, hintents⟩ := callStrategy_eq_ok h
  refine foldlM_keeps (P := fun s => s.1.shown = state.1.shown) ?_ rfl hintents
  intro intent _ s s' hs hstep
  obtain ⟨swap, -, -, -, rfl⟩ := proposeIntent_eq_ok hstep
  exact (shown_audit rfl).trans hs

variable [DomainDigest]

theorem decideOrder_shown {intent : SwapExactInIntent}
    {state state' : RunBooks σ × List ExecutionNotification}
    (h : decideOrder timeline plugins boundary state intent = .ok state') :
    state'.1.shown = state.1.shown := by
  rcases decideOrder_cases h with ⟨-, rfl⟩ | ⟨release, -, ⟨-, rfl⟩ | ⟨-, haccept⟩⟩
  · exact shown_audit rfl
  · exact shown_audit rfl
  · obtain ⟨reservation, books, orders, -, hbooks, -, rfl⟩ := acceptOrder_eq_ok haccept
    obtain ⟨candidate, -, rfl⟩ := applyTransaction_eq_ok hbooks
    exact shown_audit rfl

theorem executeOrder_shown {state state' : RunBooks σ × List ExecutionNotification}
    {item : SchedulerKey × SwapExactInIntent}
    (h : executeOrder plugins boundary state item = .ok state') :
    state'.1.shown = state.1.shown := by
  rcases (executeOrder_cases h).2 with ⟨code, -, hfail⟩ | ⟨plan, -, hfill⟩
  · obtain ⟨release, books, -, hbooks, rfl⟩ := failOrder_eq_ok hfail
    obtain ⟨candidate, -, rfl⟩ := applyTransaction_eq_ok hbooks
    exact shown_audit rfl
  · obtain ⟨settlement, books, venue, notification, -, -, hbooks, -, -, rfl⟩ := fillOrder_eq_ok hfill
    obtain ⟨candidate, -, rfl⟩ := applyTransaction_eq_ok hbooks
    refine (shown_audit rfl).trans ?_
    rw [RunBooks.shown, RunBooks.shown, RunBooks.deliveries, RunBooks.deliveries, audit_appendFills]
    rfl

theorem settleBoundary_shown {instant : ReplayBoundary} {books books' : RunBooks σ}
    {notifications : List ExecutionNotification}
    (h : settleBoundary plugins boundary instant books notifications = .ok books') :
    books'.shown = books.shown := by
  obtain ⟨books₁, notifications₁, books₂, hexecute, hnotify, rfl⟩ := settleBoundary_eq_ok h
  have hexecuted : books₁.shown = books.shown :=
    foldlM_keeps (P := fun s => s.1.shown = books.shown)
      (fun item _ s s' hs hstep => (executeOrder_shown hstep).trans hs) rfl hexecute
  have hnotified : books₂.shown = books.shown := by
    refine foldlM_keeps (P := fun s => RunBooks.shown s = books.shown) ?_ hexecuted hnotify
    intro notification _ s s' hs hstep
    obtain ⟨strategy, -, rfl⟩ := notifyStrategy_eq_ok hstep
    exact (shown_audit rfl).trans hs
  exact (shown_audit rfl).trans hnotified

theorem decideOrders_shown {instant : ReplayBoundary} {delivered : List (Observation ε)}
    {books : RunBooks σ} {state' : RunBooks σ × List ExecutionNotification}
    (h : decideOrders timeline plugins boundary instant delivered books = .ok state') :
    state'.1.shown = books.shown := by
  obtain ⟨books₁, proposed, hcalls, horders⟩ := decideOrders_eq_ok h
  have hcalled : books₁.shown = books.shown :=
    foldlM_keeps (P := fun s => s.1.shown = books.shown)
      (fun observation _ s s' hs hstep => (callStrategy_shown hstep).trans hs) rfl hcalls
  exact foldlM_keeps (P := fun s => s.1.shown = books.shown)
    (fun intent _ s s' hs hstep => (decideOrder_shown hstep).trans hs) hcalled horders

end Frames

section Runs

variable {ε σ : Type} [MarketEvent ε] [DomainDigest] {timeline : BoundaryTimeline}
  {plugins : RunPlugins ε σ} {boundary : Nat}

/-- **A group without a delay**: its events are shown at once, by stable causal identity, and the
history takes them in their own order. -/
theorem processGroup_zero (hslots : plugins.config.latency.observationSlots = 0)
    {state state' : CausalScheduler (Observation ε) × RunBooks σ} {events : List ε}
    (hempty : state.1.items = [])
    (h : processGroup timeline plugins state events = .ok state') :
    state'.1.items = [] ∧
      (∀ poolId, state'.2.historical.pool poolId =
        (lastSnapshot poolId events).or (state.2.historical.pool poolId)) ∧
      (∀ poolId, state'.2.observed.pool poolId =
        (lastSnapshot poolId (byCausalId events)).or (state.2.observed.pool poolId)) ∧
      state'.2.deliveries = state.2.deliveries ++ (byCausalId events).map ownDelivery := by
  obtain ⟨-, hboundaries, -, -⟩ := processGroup_group h
  obtain ⟨_, _, history', hevents', hhistory', hfollows⟩ := processGroup_follows h
  obtain ⟨first, rest, hevents, history, registered, ready, shown, instant, decided, notifications,
    hhistory, hregistered, -, hready, hshown, -, hdecided, -, hsettled⟩ := processGroup_eq_ok h
  subst hevents
  obtain ⟨rfl, rfl⟩ := List.cons.inj hevents'
  obtain rfl := Except.ok.inj (hhistory.symm.trans hhistory')
  have hsame : ∀ e ∈ first :: rest, (envelope e).boundaryOrdinal =
      (envelope first).boundaryOrdinal := fun e he => (hboundaries e he).1
  rw [hslots] at hregistered
  obtain ⟨hperm, hwaiting⟩ := foldlM_registerEvent_zero hregistered
  rw [hempty, List.append_nil] at hperm
  obtain ⟨hevents, hsources, hrest⟩ := popReady_zero hsame hperm
  rw [Except.ok.inj hready] at hevents hsources hrest
  obtain ⟨hpools, hdeliveries⟩ := foldlM_deliverObservation_shown hshown
  have hend : state'.2.shown = shown.shown :=
    (settleBoundary_shown hsettled).trans (decideOrders_shown hdecided)
  obtain ⟨key, historical, venue, -, -, -, hgroup, -, hbooks⟩ := applyHistory_eq_ok hhistory
  have hstart : history.shown = state.2.shown := by
    rw [hbooks]
    exact (shown_audit rfl).trans (shown_audit rfl)
  obtain ⟨hobserved, hdelivered⟩ := Prod.mk.inj hend
  obtain ⟨hobserved', hdelivered'⟩ := Prod.mk.inj (hwaiting.trans hstart)
  refine ⟨congrArg KeyedQueue.items hrest, fun poolId => ?_, fun poolId => ?_, ?_⟩
  · rw [hfollows.historical, hbooks]
    exact applyGroup_pool hgroup
  · rw [hobserved, hpools, hevents, hobserved']
  · rw [hdelivered, hdeliveries, hdelivered', ← hevents, List.map_map]
    refine congrArg (state.2.deliveries ++ ·) (List.map_congr_left fun item hitem => ?_)
    have hmem : item.2.event ∈ byCausalId (first :: rest) := by
      rw [← hevents]
      exact List.mem_map.mpr ⟨item, hitem, rfl⟩
    have hown := hsame _ ((List.mem_insertionSort _).mp hmem)
    rw [hsources item hitem]
    show _ = ownDelivery item.2.event
    rw [ownDelivery, hown]

/-- **Every run without a delay.** -/
theorem runGroups_observed (hslots : plugins.config.latency.observationSlots = 0)
    {state state' : CausalScheduler (Observation ε) × RunBooks σ} {groups : List (List ε)}
    (hempty : state.1.items = [])
    (h : runGroups timeline plugins state groups = .ok state') :
    (∀ poolId, state'.2.historical.pool poolId =
        (lastSnapshot poolId groups.flatten).or (state.2.historical.pool poolId)) ∧
      (∀ poolId, state'.2.observed.pool poolId =
        (lastSnapshot poolId (groups.flatMap byCausalId)).or (state.2.observed.pool poolId)) ∧
      state'.2.deliveries = state.2.deliveries ++ (groups.flatMap byCausalId).map ownDelivery := by
  induction groups generalizing state with
  | nil =>
    simp only [runGroups, List.foldlM_nil, pure, Except.pure, Except.ok.injEq] at h
    rw [h]
    exact ⟨fun _ => Option.none_or.symm, fun _ => Option.none_or.symm,
      (List.append_nil _).symm⟩
  | cons group rest ih =>
    rw [runGroups, List.foldlM_cons] at h
    obtain ⟨next, hnext, h⟩ := bind_eq_ok.mp h
    obtain ⟨hnone, hhistorical, hobserved, hdelivered⟩ := processGroup_zero hslots hempty hnext
    obtain ⟨hhistorical', hobserved', hdelivered'⟩ := ih hnone h
    refine ⟨fun poolId => ?_, fun poolId => ?_, ?_⟩
    · rw [hhistorical', hhistorical, List.flatten_cons, lastSnapshot_append, Option.or_assoc]
    · rw [hobserved', hobserved, List.flatMap_cons, lastSnapshot_append, Option.or_assoc]
    · rw [hdelivered', hdelivered, List.flatMap_cons, List.map_append, List.append_assoc]

/-! ## The pools a strategy sees -/

/-- In the last group that updates a pool, the last update is the same by stable causal identity as
in the order of the group. -/
def LastUpdateAgrees (poolId : PoolId) (groups : List (List ε)) : Prop :=
  ∀ earlier group later, groups = earlier ++ group :: later →
    (∀ g ∈ later, lastSnapshot poolId g = none) →
      lastSnapshot poolId (byCausalId group) = lastSnapshot poolId group

omit [DomainDigest] in
theorem lastSnapshot_byCausalId {poolId : PoolId} {group : List ε} :
    lastSnapshot poolId (byCausalId group) = none ↔ lastSnapshot poolId group = none := by
  rw [lastSnapshot_eq_none, lastSnapshot_eq_none]
  have hperm := List.perm_insertionSort (fun a b : ε => causalId a ≤ causalId b) group
  exact ⟨fun h e he => h e (hperm.mem_iff.mpr he), fun h e he => h e (hperm.mem_iff.mp he)⟩

omit [DomainDigest] in
theorem lastSnapshot_later {poolId : PoolId} {later : List (List ε)}
    (h : ∀ g ∈ later, lastSnapshot poolId g = none) :
    lastSnapshot poolId later.flatten = none ∧
      lastSnapshot poolId (later.flatMap byCausalId) = none := by
  induction later with
  | nil => exact ⟨rfl, rfl⟩
  | cons group rest ih =>
    obtain ⟨hflat, hcausal⟩ := ih fun g hg => h g (List.mem_cons_of_mem _ hg)
    have hgroup := h group List.mem_cons_self
    rw [List.flatten_cons, List.flatMap_cons, lastSnapshot_append, lastSnapshot_append, hflat,
      hcausal, hgroup, lastSnapshot_byCausalId.mpr hgroup]
    exact ⟨rfl, rfl⟩

omit [DomainDigest] in
/-- **When the two orders leave a pool in the same state.** -/
theorem lastSnapshot_eq_iff {poolId : PoolId} (groups : List (List ε)) :
    lastSnapshot poolId (groups.flatMap byCausalId) = lastSnapshot poolId groups.flatten ↔
      LastUpdateAgrees poolId groups := by
  constructor
  · rintro h earlier group later rfl hlater
    obtain ⟨hflat, hcausal⟩ := lastSnapshot_later hlater
    rw [List.flatMap_append, List.flatten_append, List.flatMap_cons, List.flatten_cons,
      lastSnapshot_append, lastSnapshot_append, lastSnapshot_append, lastSnapshot_append, hflat,
      hcausal, Option.none_or, Option.none_or] at h
    cases hgroup : lastSnapshot poolId group with
    | none => exact lastSnapshot_byCausalId.mpr hgroup
    | some snapshot =>
      cases hsorted : lastSnapshot poolId (byCausalId group) with
      | none =>
        rw [lastSnapshot_byCausalId.mp hsorted] at hgroup
        cases hgroup
      | some other =>
        rw [hgroup, hsorted, Option.some_or, Option.some_or] at h
        exact h
  · intro h
    induction groups using List.reverseRecOn with
    | nil => rfl
    | append_singleton earlier group ih =>
      rw [List.flatMap_append, List.flatten_append, lastSnapshot_append, lastSnapshot_append,
        List.flatMap_singleton, List.flatten_singleton, h earlier group [] rfl nofun]
      cases hgroup : lastSnapshot poolId group with
      | some snapshot => rfl
      | none =>
        -- a group without an update leaves the condition to the groups before it
        rw [Option.none_or, Option.none_or]
        refine ih fun before other later heq hlater => h before other (later ++ [group]) ?_ ?_
        · rw [heq, List.append_assoc, List.cons_append]
        · intro g hg
          rcases List.mem_append.mp hg with hg | hg
          · exact hlater g hg
          · rw [List.mem_singleton.mp hg]
            exact hgroup

/-- **What a strategy sees without a delay**, at every boundary a run gets through: it has been shown
every event of every group at its own boundary, the events of a group by stable causal identity; and
a pool it sees is the historical one just when the last update of that pool is the last in both
orders. -/
theorem observed_eq_historical_iff {source : HistoricalEventSource ε} {strategy : σ}
    (hslots : plugins.config.latency.observationSlots = 0)
    {state : CausalScheduler (Observation ε) × RunBooks σ}
    (h : runUpTo source plugins strategy boundary = .ok state) :
    state.2.deliveries =
        ((eventGroups (eventsUpTo boundary source.events)).flatMap byCausalId).map ownDelivery ∧
      (∀ poolId, state.2.historical.pool poolId =
        lastSnapshot poolId (eventsUpTo boundary source.events)) ∧
      (∀ poolId, state.2.observed.pool poolId = lastSnapshot poolId
        ((eventGroups (eventsUpTo boundary source.events)).flatMap byCausalId)) ∧
      ∀ poolId, state.2.observed.pool poolId = state.2.historical.pool poolId ↔
        LastUpdateAgrees poolId (eventGroups (eventsUpTo boundary source.events)) := by
  obtain ⟨timeline, -, hrun⟩ := bind_eq_ok.mp h
  obtain ⟨hhistorical, hobserved, hdelivered⟩ := runGroups_observed hslots rfl hrun
  have hflat : (eventGroups (eventsUpTo boundary source.events)).flatten =
      eventsUpTo boundary source.events := List.flatten_splitBy _ _
  have hpast : ∀ poolId, state.2.historical.pool poolId =
      lastSnapshot poolId (eventGroups (eventsUpTo boundary source.events)).flatten :=
    fun poolId => (hhistorical poolId).trans Option.or_none
  have hseen : ∀ poolId, state.2.observed.pool poolId = lastSnapshot poolId
      ((eventGroups (eventsUpTo boundary source.events)).flatMap byCausalId) :=
    fun poolId => (hobserved poolId).trans Option.or_none
  refine ⟨hdelivered, fun poolId => hflat ▸ hpast poolId, hseen, fun poolId => ?_⟩
  rw [hpast, hseen]
  exact lastSnapshot_eq_iff _

end Runs

/-! ## A group that updates a pool twice -/

section Sample

/-- The reserves a sample swap leaves the pool with. -/
def sampleSwap (eventIndex : Fin 8) (causalId : Fin (2 ^ 256)) (reserves : Nat × Nat) :
    PlainEvent :=
  ⟨sampleEnvelope 1 eventIndex causalId,
    .swap (.ok ⟨⟨"pool"⟩, ⟨"base"⟩, ⟨"quote"⟩, some reserves, sampleAssets_ne⟩)⟩

/-- One transaction that updates a pool twice, the second event with the smaller identity. -/
def sampleSwaps : HistoricalEventSource PlainEvent where
  boundaries := [sampleBoundary 1]
  events := [sampleSwap 0 2 (10, 10), sampleSwap 1 1 (20, 5)]
  eventAt := none

attribute [local instance] sampleDigest in
/-- **The strategy sees the pool as the first event left it**, and is shown the second event first;
there is no delay. -/
theorem observed_differs :
    (run sampleSwaps samplePlugins true none).isOk = true ∧
    (runUpTo sampleSwaps samplePlugins true (sampleBoundary 1).boundaryOrdinal).map (fun state =>
      ((state.2.observed.pool ⟨"pool"⟩).map (·.reserveAAtomic),
        (state.2.historical.pool ⟨"pool"⟩).map (·.reserveAAtomic),
        state.2.deliveries.map fun delivery => delivery.2.1.val)) =
      .ok (some 10, some 20, [1, 0]) := ⟨by decide, by decide⟩

attribute [local instance] sampleDigest in
theorem observed_eq_historical_iff_sample :
    ∃ state, runUpTo sampleSwaps samplePlugins true (sampleBoundary 1).boundaryOrdinal =
        .ok state ∧
      ∀ poolId, state.2.historical.pool poolId = lastSnapshot poolId
        (eventsUpTo (sampleBoundary 1).boundaryOrdinal sampleSwaps.events) := by
  have hrun : (runUpTo sampleSwaps samplePlugins true
      (sampleBoundary 1).boundaryOrdinal).isOk = true := by decide
  cases hstate : runUpTo sampleSwaps samplePlugins true (sampleBoundary 1).boundaryOrdinal with
  | error fault =>
    rw [hstate] at hrun
    cases hrun
  | ok state => exact ⟨state, rfl, (observed_eq_historical_iff rfl hstate).2.1⟩

end Sample

end Reference

end OnchainBacktest
