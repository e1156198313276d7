import OnchainBacktest.Reference.RunSteps

/-!
# The part of a run that is decided by a boundary

What a run knows at a boundary is all of its books but the items that are released later, and the
records that tell of a release past the boundary or of there being none.  `upTo` leaves those out.
A step that does not look at the boundaries of the replay commutes with it.
-/

set_option autoImplicit false

namespace OnchainBacktest

namespace Reference

open Checked

/-! ## The part of a run that is decided -/

/-- A record as far as it is decided by a boundary: what waits for a release past it reads the same
whatever that release is. -/
def AuditRecord.upTo (boundary : Nat) : AuditRecord → Option AuditRecord
  | .observationOutsideHorizon _ _ => none
  | .orderAcceptedAndReserved current eligible orderId =>
    some (.orderAcceptedAndReserved current (min eligible (boundary + 1)) orderId)
  | record => some record

def Recorder.upTo (boundary : Nat) (recorder : Recorder) : Recorder :=
  { recorder with audit := recorder.audit.filterMap (AuditRecord.upTo boundary) }

/-- The items released up to a boundary. -/
def CausalScheduler.upTo {τ : Type} (boundary : Nat) (scheduler : CausalScheduler τ) :
    CausalScheduler τ :=
  KeyedQueue.part scheduler fun key => decide (key.releaseBoundaryOrdinal ≤ boundary)

def RunBooks.upTo {σ : Type} (boundary : Nat) (books : RunBooks σ) : RunBooks σ :=
  { books with
    executableOrders := books.executableOrders.upTo boundary
    recorder := books.recorder.upTo boundary }

/-- Two runs agree up to a boundary. -/
def AgreeUpTo {ε σ : Type} (boundary : Nat)
    (x y : CausalScheduler (Observation ε) × RunBooks σ) : Prop :=
  x.1.upTo boundary = y.1.upTo boundary ∧ x.2.upTo boundary = y.2.upTo boundary

section Queue

variable {τ : Type} {boundary release release' source : Nat} {phase : SchedulerPhase}
  {scheduler scheduler' queue queue' : CausalScheduler τ} {key key' : SchedulerKey} {item : τ}

/-- An item released past the boundary is not seen. -/
theorem upTo_enqueue_later (h : CausalScheduler.enqueue scheduler key item = .ok queue)
    (hlater : boundary < key.releaseBoundaryOrdinal) :
    queue.upTo boundary = scheduler.upTo boundary :=
  KeyedQueue.part_enqueue_of_not (CausalScheduler.enqueue_eq_ok h) (decide_eq_false hlater.not_ge)

/-- An item released by the boundary changes what is seen in one way. -/
theorem upTo_enqueue (hagree : scheduler.upTo boundary = scheduler'.upTo boundary)
    (h : CausalScheduler.enqueue scheduler key item = .ok queue)
    (h' : CausalScheduler.enqueue scheduler' key item = .ok queue')
    (hle : key.releaseBoundaryOrdinal ≤ boundary) :
    queue.upTo boundary = queue'.upTo boundary := by
  have hpart := KeyedQueue.part_enqueue_of
    (p := fun k => decide (k.releaseBoundaryOrdinal ≤ boundary)) (CausalScheduler.enqueue_eq_ok h)
    (decide_eq_true hle)
  have hpart' := KeyedQueue.part_enqueue_of
    (p := fun k => decide (k.releaseBoundaryOrdinal ≤ boundary)) (CausalScheduler.enqueue_eq_ok h')
    (decide_eq_true hle)
  rw [CausalScheduler.upTo, CausalScheduler.upTo] at hagree
  rw [hagree] at hpart
  exact Option.some.inj (hpart.symm.trans hpart')

/-- **What is due by the boundary is due in what is seen.** -/
theorem popReady_upTo (scheduler : CausalScheduler τ) (phase : SchedulerPhase) {current : Nat}
    (hle : current ≤ boundary) :
    (scheduler.upTo boundary).popReady current phase =
      ((scheduler.popReady current phase).1, (scheduler.popReady current phase).2.upTo boundary) :=
  KeyedQueue.popThrough_part (fun _ _ => SchedulerKey.due_of_le) fun key hkey => by
    rw [SchedulerKey.due_iff] at hkey
    rw [decide_eq_true_eq]
    omega

end Queue

section Steps

variable {ε σ : Type} {boundary current : Nat} {plugins : RunPlugins ε σ}

/-! ## Steps that commute -/

theorem upTo_audit {books books' : RunBooks σ} {record record' : AuditRecord}
    (hbooks : books' = books.upTo boundary) (h : record.upTo boundary = some record') :
    books'.audit record' = (books.audit record).upTo boundary := by
  have hlist : (books.recorder.audit ++ [record]).filterMap (AuditRecord.upTo boundary) =
      books.recorder.audit.filterMap (AuditRecord.upTo boundary) ++ [record'] := by
    rw [List.filterMap_append, List.filterMap_cons_some h, List.filterMap_nil]
  rw [hbooks, RunBooks.audit, RunBooks.audit, RunBooks.upTo, RunBooks.upTo, Recorder.upTo,
    Recorder.upTo, Recorder.appendAudit, Recorder.appendAudit, hlist]

theorem upTo_audit_hidden {books : RunBooks σ} {record : AuditRecord}
    (h : record.upTo boundary = none) :
    (books.audit record).upTo boundary = books.upTo boundary := by
  have hlist : (books.recorder.audit ++ [record]).filterMap (AuditRecord.upTo boundary) =
      books.recorder.audit.filterMap (AuditRecord.upTo boundary) := by
    rw [List.filterMap_append, List.filterMap_cons_none h, List.filterMap_nil, List.append_nil]
  rw [RunBooks.audit, RunBooks.upTo, RunBooks.upTo, Recorder.upTo, Recorder.upTo,
    Recorder.appendAudit, hlist]

theorem upTo_appendFills (fills : List Fill) (recorder : Recorder) :
    (fills.foldl Recorder.appendFill recorder).upTo boundary =
      fills.foldl Recorder.appendFill (recorder.upTo boundary) := by
  induction fills generalizing recorder with
  | nil => rfl
  | cons fill rest ih => exact ih (recorder.appendFill fill)

/-- The decided part of the books a step also has a list beside. -/
def seen {α : Type} (boundary : Nat) (state : RunBooks σ × α) : RunBooks σ × α :=
  (state.1.upTo boundary, state.2)

theorem seen_congr {α : Type} {x y : RunBooks σ} (h : x.upTo boundary = y.upTo boundary) (a : α) :
    seen boundary (x, a) = seen boundary (y, a) := by rw [seen, seen, h]

theorem deliverObservation_upTo [MarketEvent ε] (books : RunBooks σ)
    (item : SchedulerKey × Observation ε) :
    deliverObservation current (books.upTo boundary) item =
      (deliverObservation current books item).map (RunBooks.upTo boundary) := by
  show (books.observed.apply item.2.event >>= _) = Except.map _ (books.observed.apply _ >>= _)
  cases books.observed.apply item.2.event with
  | error fault => rfl
  | ok observed => exact congrArg Except.ok (upTo_audit rfl rfl)

theorem proposeIntent_upTo (state : RunBooks σ × List SwapExactInIntent) (intent : Intent) :
    proposeIntent current (seen boundary state) intent =
      (proposeIntent current state intent).map (seen boundary) := by
  cases intent with
  | other => rfl
  | swapExactIn swap =>
    rw [proposeIntent, proposeIntent]
    show (refuseIf _ _ >>= fun _ => refuseIf (swap.orderId ∈ state.1.seenOrders) _ >>= _) = _
    by_cases hcreated : swap.createdBoundaryOrdinal ≠ current
    · rw [refuseIf_of hcreated]
      rfl
    · rw [refuseIf_of_not hcreated]
      by_cases hseen : swap.orderId ∈ state.1.seenOrders
      · rw [ok_bind, ok_bind, refuseIf_of hseen]
        rfl
      · rw [ok_bind, ok_bind, refuseIf_of_not hseen]
        exact congrArg (fun books => Except.ok (books, state.2 ++ [swap])) (upTo_audit rfl rfl)

theorem callStrategy_upTo {instant : ReplayBoundary}
    (state : RunBooks σ × List SwapExactInIntent) (observation : Observation ε) :
    callStrategy plugins instant current (seen boundary state) observation =
      (callStrategy plugins instant current state observation).map (seen boundary) := by
  show (raising (plugins.strategy.onEvent state.1.strategy observation.event
    (callbackContext plugins instant state.1 (some observation.eventRowId))) >>= _) =
      Except.map _ (raising _ >>= _)
  cases raising (plugins.strategy.onEvent state.1.strategy observation.event
      (callbackContext plugins instant state.1 (some observation.eventRowId))) with
  | error fault => rfl
  | ok answer =>
    exact foldlM_map (fun intent _ s => proposeIntent_upTo s intent)
      ({ state.1 with strategy := answer.1 }, state.2)

theorem applyTransaction_upTo (transaction : LedgerTransaction) (books : RunBooks σ) :
    applyTransaction transaction (books.upTo boundary) =
      (applyTransaction transaction books).map (RunBooks.upTo boundary) := by
  show (raising (books.portfolio.preview transaction) >>= _) = Except.map _ (raising _ >>= _)
  cases raising (books.portfolio.preview transaction) with
  | error fault => rfl
  | ok candidate => rfl

theorem notifyStrategy_upTo {instant : ReplayBoundary} (books : RunBooks σ)
    (notification : ExecutionNotification) :
    notifyStrategy plugins instant current (books.upTo boundary) notification =
      (notifyStrategy plugins instant current books notification).map
        (RunBooks.upTo boundary) := by
  show (raising (plugins.strategy.onExecution books.strategy notification
    (callbackContext plugins instant books none)) >>= _) = Except.map _ (raising _ >>= _)
  cases raising (plugins.strategy.onExecution books.strategy notification
      (callbackContext plugins instant books none)) with
  | error fault => rfl
  | ok strategy => exact congrArg Except.ok (upTo_audit rfl rfl)

theorem rejectOrder_upTo (reason : RejectionReason) (intent : SwapExactInIntent)
    (state : RunBooks σ × List ExecutionNotification) :
    rejectOrder current reason intent (seen boundary state) =
      seen boundary (rejectOrder current reason intent state) :=
  Prod.ext (upTo_audit rfl rfl) rfl

section Transactions

variable [DomainDigest]

theorem failOrder_upTo (code : String) (intent : SwapExactInIntent)
    (state : RunBooks σ × List ExecutionNotification) :
    failOrder current code intent (seen boundary state) =
      (failOrder current code intent state).map (seen boundary) := by
  rw [failOrder, failOrder]
  cases raising (releaseTransaction intent current code) with
  | error fault => rfl
  | ok release =>
    rw [ok_bind, ok_bind, seen, applyTransaction_upTo]
    cases applyTransaction release state.1 with
    | error fault => rfl
    | ok books => exact congrArg Except.ok (Prod.ext (upTo_audit rfl rfl) rfl)

theorem fillOrder_upTo (mode : ExecutionMode) (plan : ExecutionPlan) (intent : SwapExactInIntent)
    (state : RunBooks σ × List ExecutionNotification) :
    fillOrder current mode plan intent (seen boundary state) =
      (fillOrder current mode plan intent state).map (seen boundary) := by
  rw [fillOrder, fillOrder]
  cases validateExecutionPlan intent plan current mode with
  | error fault => rfl
  | ok _ =>
  cases raising (settlementTransaction intent plan.ledgerPostings current) with
  | error fault => rfl
  | ok settlement =>
  rw [ok_bind, ok_bind, ok_bind, ok_bind, seen, applyTransaction_upTo]
  cases applyTransaction settlement state.1 with
  | error fault => rfl
  | ok books =>
  show (previewVenue state.1.venue plan >>= _) = Except.map _ (previewVenue _ _ >>= _)
  cases previewVenue state.1.venue plan with
  | error fault => rfl
  | ok venue =>
  rw [ok_bind, ok_bind]
  cases raising (ExecutionNotification.make intent.orderId .filled current plan.fills
      plan.reports) with
  | error fault => rfl
  | ok notification =>
    refine congrArg Except.ok (Prod.ext (upTo_audit ?_ rfl) rfl)
    rw [RunBooks.upTo, RunBooks.upTo, upTo_appendFills]

theorem executeOrder_upTo (state : RunBooks σ × List ExecutionNotification)
    (item : SchedulerKey × SwapExactInIntent) :
    executeOrder plugins current (seen boundary state) item =
      (executeOrder plugins current state item).map (seen boundary) := by
  rw [executeOrder, executeOrder]
  show (refuseIf (item.2.orderId ∈ state.1.terminalOrders) _ >>= _) = _
  by_cases hterminal : item.2.orderId ∈ state.1.terminalOrders
  · rw [refuseIf_of hterminal]
    rfl
  · have hvenue : (seen boundary state).1.venue = state.1.venue := rfl
    rw [refuseIf_of_not hterminal, ok_bind, ok_bind, hvenue]
    cases plugins.executionModel.execute item.2 state.1.venue current
        plugins.config.executionMode with
    | failed fault => rfl
    | unsupported => rfl
    | rejected code => exact failOrder_upTo code item.2 state
    | planned plan => exact fillOrder_upTo plugins.config.executionMode plan item.2 state

/-- **Settling a boundary looks at what is decided by it only.** -/
theorem settleBoundary_upTo {instant : ReplayBoundary} (hle : current ≤ boundary)
    (books : RunBooks σ) (notifications : List ExecutionNotification) :
    settleBoundary plugins current instant (books.upTo boundary) notifications =
      (settleBoundary plugins current instant books notifications).map
        (RunBooks.upTo boundary) := by
  have hready : popReadyOrders current (books.upTo boundary) =
      ((popReadyOrders current books).1, (popReadyOrders current books).2.upTo boundary) := by
    have hqueue : (books.upTo boundary).executableOrders = books.executableOrders.upTo boundary :=
      rfl
    rw [popReadyOrders_eq, popReadyOrders_eq, hqueue, popReady_upTo _ _ hle]
    rfl
  have hexecute : (popReadyOrders current books).1.foldlM (executeOrder plugins current)
      (seen boundary ((popReadyOrders current books).2, notifications)) =
      ((popReadyOrders current books).1.foldlM (executeOrder plugins current)
        ((popReadyOrders current books).2, notifications)).map (seen boundary) :=
    foldlM_map (fun item _ s => executeOrder_upTo s item) _
  rw [settleBoundary_eq, settleBoundary_eq, hready]
  show (((popReadyOrders current books).1.foldlM (executeOrder plugins current)
    (seen boundary ((popReadyOrders current books).2, notifications))) >>= _) = _
  rw [hexecute]
  cases (popReadyOrders current books).1.foldlM (executeOrder plugins current)
      ((popReadyOrders current books).2, notifications) with
  | error fault => rfl
  | ok executed =>
    have hnotify : (sortedNotifications executed.2).foldlM (notifyStrategy plugins instant current)
        (executed.1.upTo boundary) =
        ((sortedNotifications executed.2).foldlM (notifyStrategy plugins instant current)
          executed.1).map (RunBooks.upTo boundary) :=
      foldlM_map (fun notification _ s => notifyStrategy_upTo s notification) _
    rw [ok_bind]
    show ((sortedNotifications executed.2).foldlM (notifyStrategy plugins instant current)
      (executed.1.upTo boundary) >>= _) = _
    rw [hnotify]
    cases (sortedNotifications executed.2).foldlM (notifyStrategy plugins instant current)
        executed.1 with
    | error fault => rfl
    | ok notified => exact congrArg Except.ok (upTo_audit rfl rfl)

end Transactions

end Steps

end Reference

end OnchainBacktest
