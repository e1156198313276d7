import OnchainBacktest.Reference.RunOrder

/-!
# When orders are executed

An order that waits has been accepted at an earlier boundary than it is released at, and an order
that is executed has been released by then: so every order is executed at a later boundary than the
one it was decided at (`runGroups_ordersLater`).
-/

set_option autoImplicit false

namespace OnchainBacktest

namespace Reference

open Checked

/-- The boundary and order of a record of an execution. -/
def AuditRecord.executed : AuditRecord → Option (Nat × Fin (2 ^ 256))
  | .orderExecutionFailedAndReleased boundary orderId _ => some (boundary, orderId)
  | .orderFilledAtomically boundary _ orderId => some (boundary, orderId)
  | _ => none

/-- An order that waits, as its acceptance is on record. -/
structure WaitingOrder (audit : List AuditRecord) (item : SchedulerKey × SwapExactInIntent) :
    Prop where
  later : item.1.sourceOrCreatorBoundaryOrdinal < item.1.releaseBoundaryOrdinal
  accepted : .orderAcceptedAndReserved item.1.sourceOrCreatorBoundaryOrdinal
    item.1.releaseBoundaryOrdinal item.2.orderId.hex ∈ audit

/-- Every order that was executed had been accepted at an earlier boundary, and was eligible. -/
def ExecutedLater (audit : List AuditRecord) : Prop :=
  ∀ record ∈ audit, ∀ boundary orderId, record.executed = some (boundary, orderId) →
    ∃ created eligible, .orderAcceptedAndReserved created eligible orderId ∈ audit ∧
      created < eligible ∧ eligible ≤ boundary

/-- What holds of the orders of a run: those that wait, and those that were executed. -/
structure OrdersLater (audit : List AuditRecord)
    (waiting : List (SchedulerKey × SwapExactInIntent)) : Prop where
  waiting : ∀ item ∈ waiting, WaitingOrder audit item
  executed : ExecutedLater audit

namespace OrdersLater

variable {audit : List AuditRecord} {waiting waiting' : List (SchedulerKey × SwapExactInIntent)}
  {record : AuditRecord} {item : SchedulerKey × SwapExactInIntent}

theorem append (h : OrdersLater audit waiting) (hrecord : ∀ boundary orderId,
      record.executed = some (boundary, orderId) → ∃ created eligible,
        .orderAcceptedAndReserved created eligible orderId ∈ audit ∧
          created < eligible ∧ eligible ≤ boundary) :
    OrdersLater (audit ++ [record]) waiting := by
  refine ⟨fun item hitem => ?_, fun other hother boundary orderId hexecuted => ?_⟩
  · obtain ⟨hlater, haccepted⟩ := h.waiting item hitem
    exact ⟨hlater, List.mem_append_left _ haccepted⟩
  · have hfound : ∃ created eligible,
        .orderAcceptedAndReserved created eligible orderId ∈ audit ∧
          created < eligible ∧ eligible ≤ boundary := by
      rcases List.mem_append.mp hother with hother | hother
      · exact h.executed other hother boundary orderId hexecuted
      · rw [List.mem_singleton.mp hother] at hexecuted
        exact hrecord boundary orderId hexecuted
    obtain ⟨created, eligible, haccepted, hlt, hle⟩ := hfound
    exact ⟨created, eligible, List.mem_append_left _ haccepted, hlt, hle⟩

/-- A record that tells of no execution. -/
theorem append_plain (h : OrdersLater audit waiting) (record : AuditRecord)
    (hrecord : record.executed = none) :
    OrdersLater (audit ++ [record]) waiting :=
  h.append fun boundary orderId hexecuted => by
    rw [hrecord] at hexecuted
    cases hexecuted

theorem subset (h : OrdersLater audit waiting) (hsub : ∀ item ∈ waiting', item ∈ waiting) :
    OrdersLater audit waiting' := ⟨fun item hitem => h.waiting item (hsub item hitem), h.executed⟩

end OrdersLater

section Steps

variable {ε σ φ : Type} {timeline : BoundaryTimeline} {plugins : RunPlugins ε σ} {boundary : Nat}

/-- What holds of the orders in the books of a run. -/
def RunBooks.OrdersLater (books : RunBooks σ) : Prop :=
  Reference.OrdersLater books.recorder.audit books.executableOrders.items

theorem start_ordersLater (config : ReferenceRunConfig) (strategy : σ) :
    (RunBooks.start config strategy).OrdersLater := ⟨nofun, nofun⟩

theorem callStrategy_ordersLater {instant : ReplayBoundary}
    {state state' : RunBooks σ × List SwapExactInIntent} {observation : Observation ε}
    (hstate : state.1.OrdersLater)
    (h : callStrategy plugins instant boundary state observation = .ok state') :
    state'.1.OrdersLater := by
  obtain ⟨strategy, intents, -, hintents⟩ := callStrategy_eq_ok h
  refine foldlM_keeps (P := fun s => s.1.OrdersLater) ?_ hstate hintents
  intro intent _ s s' hs hstep
  obtain ⟨swap, -, -, -, rfl⟩ := proposeIntent_eq_ok hstep
  exact hs.append_plain _ rfl

section Transactions

variable [DomainDigest]

theorem decideOrder_ordersLater {intent : SwapExactInIntent}
    {state state' : RunBooks σ × List ExecutionNotification} (hstate : state.1.OrdersLater)
    (h : decideOrder timeline plugins boundary state intent = .ok state') :
    state'.1.OrdersLater := by
  rcases decideOrder_cases h with ⟨-, rfl⟩ | ⟨release, hrelease, ⟨-, rfl⟩ | ⟨-, haccept⟩⟩
  · exact hstate.append_plain _ rfl
  · exact hstate.append_plain _ rfl
  · obtain ⟨reservation, books, orders, -, hbooks, horders, rfl⟩ := acceptOrder_eq_ok haccept
    obtain ⟨candidate, -, rfl⟩ := applyTransaction_eq_ok hbooks
    have hkept := hstate.append_plain
      (.orderAcceptedAndReserved boundary release intent.orderId.hex) rfl
    refine ⟨fun item hitem => ?_, hkept.executed⟩
    rcases (CausalScheduler.mem_enqueue horders).mp hitem with rfl | hitem
    · exact ⟨BoundaryTimeline.lt_orderRelease hrelease,
        List.mem_append_right _ (List.mem_singleton_self _)⟩
    · exact hkept.waiting item hitem

/-- An execution at or after the release of an order. -/
theorem executeOrder_ordersLater {state state' : RunBooks σ × List ExecutionNotification}
    {item : SchedulerKey × SwapExactInIntent} {rest : List (SchedulerKey × SwapExactInIntent)}
    (hdue : item.1.releaseBoundaryOrdinal ≤ boundary)
    (hstate : Reference.OrdersLater state.1.recorder.audit
      (state.1.executableOrders.items ++ item :: rest))
    (h : executeOrder plugins boundary state item = .ok state') :
    Reference.OrdersLater state'.1.recorder.audit
      (state'.1.executableOrders.items ++ rest) := by
  have hitem := hstate.waiting item (List.mem_append_right _ List.mem_cons_self)
  have hkept : Reference.OrdersLater state.1.recorder.audit
      (state.1.executableOrders.items ++ rest) := hstate.subset fun other ho => by
    rcases List.mem_append.mp ho with ho | ho
    · exact List.mem_append_left _ ho
    · exact List.mem_append_right _ (List.mem_cons_of_mem _ ho)
  rcases (executeOrder_cases h).2 with ⟨code, -, hfail⟩ | ⟨plan, -, hfill⟩
  · obtain ⟨release, books, -, hbooks, rfl⟩ := failOrder_eq_ok hfail
    obtain ⟨candidate, -, rfl⟩ := applyTransaction_eq_ok hbooks
    refine hkept.append fun c orderId hexecuted => ?_
    obtain ⟨rfl, rfl⟩ := Prod.mk.inj (Option.some.inj hexecuted)
    exact ⟨_, _, hitem.accepted, hitem.later, hdue⟩
  · obtain ⟨settlement, books, venue, notification, -, -, hbooks, -, -, rfl⟩ := fillOrder_eq_ok hfill
    obtain ⟨candidate, -, rfl⟩ := applyTransaction_eq_ok hbooks
    show Reference.OrdersLater ((List.foldl Recorder.appendFill _ _).audit ++ [_]) _
    rw [audit_appendFills]
    refine hkept.append fun c orderId hexecuted => ?_
    obtain ⟨rfl, rfl⟩ := Prod.mk.inj (Option.some.inj hexecuted)
    exact ⟨_, _, hitem.accepted, hitem.later, hdue⟩

theorem settleBoundary_ordersLater {instant : ReplayBoundary} {books books' : RunBooks σ}
    {notifications : List ExecutionNotification} (hbooks : books.OrdersLater)
    (h : settleBoundary plugins boundary instant books notifications = .ok books') :
    books'.OrdersLater := by
  obtain ⟨books₁, notifications₁, books₂, hexecute, hnotify, rfl⟩ := settleBoundary_eq_ok h
  rw [popReadyOrders_eq] at hexecute
  have hpopped := foldlM_ok
    (P := fun rest (s : RunBooks σ × List ExecutionNotification) =>
      (∀ item ∈ rest, item.1.releaseBoundaryOrdinal ≤ boundary) ∧
        Reference.OrdersLater s.1.recorder.audit (s.1.executableOrders.items ++ rest))
    (fun item rest s s' hs hstep => ⟨fun other ho => hs.1 other (List.mem_cons_of_mem _ ho),
      executeOrder_ordersLater (hs.1 item List.mem_cons_self) hs.2 hstep⟩) _ _ _ ?_ hexecute
  · have hexecuted : books₁.OrdersLater := by
      have h := hpopped.2
      rw [List.append_nil] at h
      exact h
    have hnotified : books₂.OrdersLater := by
      refine foldlM_keeps (P := RunBooks.OrdersLater) ?_ hexecuted hnotify
      intro notification _ s s' hs hstep
      obtain ⟨strategy, -, rfl⟩ := notifyStrategy_eq_ok hstep
      exact hs.append_plain _ rfl
    exact hnotified.append_plain _ rfl
  · refine ⟨fun item hitem => ?_, hbooks.subset fun item hitem => ?_⟩
    · have hdue := SchedulerKey.due_iff.mp (CausalScheduler.mem_popReady_fst.mp hitem).2
      omega
    · rcases List.mem_append.mp hitem with hitem | hitem
      · exact (CausalScheduler.mem_popReady_snd.mp hitem).1
      · exact (CausalScheduler.mem_popReady_fst.mp hitem).1

variable [MarketEvent ε] [ObservationFeed ε φ]

theorem processGroup_ordersLater {state state' : φ × RunBooks σ} {events : List ε}
    (hstate : state.2.OrdersLater)
    (h : processGroup timeline plugins state events = .ok state') : state'.2.OrdersLater := by
  obtain ⟨first, rest, hevents, history, registered, ready, shown, instant, decided, notifications,
    hhistory, hregistered, -, -, hshown, -, hdecided, -, hsettled⟩ := processGroup_eq_ok h
  have happlied : history.OrdersLater := by
    obtain ⟨key, historical, venue, -, -, -, -, -, rfl⟩ := applyHistory_eq_ok hhistory
    exact OrdersLater.append_plain (hstate.append_plain _ rfl) _ rfl
  have hwaiting : registered.2.OrdersLater := by
    refine foldlM_keeps (P := fun s => s.2.OrdersLater) ?_ happlied hregistered
    intro event _ s s' hs hstep
    obtain ⟨release, -, -, hbooks⟩ := registerEvent_eq_ok hstep
    rw [hbooks]
    cases release with
    | none => exact hs.append_plain _ rfl
    | some release => exact hs
  have hdelivered : shown.OrdersLater := by
    refine foldlM_keeps (P := RunBooks.OrdersLater) ?_ hwaiting hshown
    intro item _ s s' hs hstep
    obtain ⟨observed, -, rfl⟩ := deliverObservation_eq_ok hstep
    exact hs.append_plain _ rfl
  obtain ⟨books, proposed, hcalls, horders⟩ := decideOrders_eq_ok hdecided
  have hcalled : books.OrdersLater :=
    foldlM_keeps (P := fun s => s.1.OrdersLater)
      (fun observation _ s s' hs hstep => callStrategy_ordersLater hs hstep) hdelivered hcalls
  have hordered : decided.OrdersLater :=
    foldlM_keeps (P := fun s => s.1.OrdersLater)
      (fun intent _ s s' hs hstep => decideOrder_ordersLater hs hstep) hcalled horders
  exact settleBoundary_ordersLater hordered hsettled

/-- **Every order of a run is executed at a later boundary than the one it was decided at.** -/
theorem runGroups_ordersLater {state state' : φ × RunBooks σ} {groups : List (List ε)}
    (hstate : state.2.OrdersLater)
    (h : runGroups timeline plugins state groups = .ok state') : state'.2.OrdersLater :=
  foldlM_keeps (P := fun s => s.2.OrdersLater)
    (fun _ _ _ _ hs hstep => processGroup_ordersLater hs hstep) hstate h

end Transactions

end Steps

end Reference

end OnchainBacktest
