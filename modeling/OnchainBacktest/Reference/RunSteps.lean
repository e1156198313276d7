import OnchainBacktest.Reference.ReferenceEngine

/-!
# What the steps of a run do

Each step of a transaction group, taken apart once: what it needs to pass, and what the books are
after it.  From that, what a group writes: everything is written at the boundary of the group, after
what was written before (`processGroup_wrote`).
-/

set_option autoImplicit false

namespace OnchainBacktest

namespace Reference

open Checked

/-! ## What is written -/

/-- What a recorder wrote since an earlier state of it, all of it at boundaries with a property. -/
structure Recorder.Wrote (P : Nat → Prop) (before after : Recorder) : Prop where
  audit : ∃ records, after.audit = before.audit ++ records ∧ ∀ r ∈ records, P r.boundaryOrdinal
  ledger : ∃ transactions, after.ledger = before.ledger ++ transactions ∧
    ∀ t ∈ transactions, P t.boundaryOrdinal
  fills : ∃ fills, after.fills = before.fills ++ fills ∧ ∀ f ∈ fills, P f.boundaryOrdinal

namespace Recorder.Wrote

variable {P Q : Nat → Prop} {r s t : Recorder}

theorem refl (P : Nat → Prop) (r : Recorder) : r.Wrote P r :=
  ⟨⟨[], (List.append_nil _).symm, fun _ h => absurd h List.not_mem_nil⟩,
    ⟨[], (List.append_nil _).symm, fun _ h => absurd h List.not_mem_nil⟩,
    ⟨[], (List.append_nil _).symm, fun _ h => absurd h List.not_mem_nil⟩⟩

theorem appended {α : Type} {P : α → Prop} {a b c : List α}
    (h : ∃ xs, b = a ++ xs ∧ ∀ x ∈ xs, P x) (h' : ∃ xs, c = b ++ xs ∧ ∀ x ∈ xs, P x) :
    ∃ xs, c = a ++ xs ∧ ∀ x ∈ xs, P x := by
  obtain ⟨xs, rfl, hxs⟩ := h
  obtain ⟨ys, rfl, hys⟩ := h'
  refine ⟨xs ++ ys, List.append_assoc _ _ _, fun x hx => ?_⟩
  rcases List.mem_append.mp hx with hx | hx
  · exact hxs x hx
  · exact hys x hx

theorem trans (h : r.Wrote P s) (h' : s.Wrote P t) : r.Wrote P t :=
  ⟨appended h.audit h'.audit, appended h.ledger h'.ledger, appended h.fills h'.fills⟩

theorem mono (h : r.Wrote P s) (hPQ : ∀ b, P b → Q b) : r.Wrote Q s := by
  obtain ⟨⟨records, haudit, hrecords⟩, ⟨transactions, hledger, htransactions⟩,
    ⟨fills, hfills, hall⟩⟩ := h
  exact ⟨⟨records, haudit, fun r hr => hPQ _ (hrecords r hr)⟩,
    ⟨transactions, hledger, fun t ht => hPQ _ (htransactions t ht)⟩,
    ⟨fills, hfills, fun f hf => hPQ _ (hall f hf)⟩⟩

theorem appendAudit {record : AuditRecord} (hb : P record.boundaryOrdinal) (h : r.Wrote P s) :
    r.Wrote P (s.appendAudit record) :=
  ⟨appended h.audit ⟨[record], rfl, by simpa using hb⟩, h.ledger, h.fills⟩

theorem appendLedger {transaction : LedgerTransaction} (hb : P transaction.boundaryOrdinal)
    (h : r.Wrote P s) : r.Wrote P (s.appendLedger transaction) :=
  ⟨h.audit, appended h.ledger ⟨[transaction], rfl, by simpa using hb⟩, h.fills⟩

theorem appendFills {fills : List Fill} (hb : ∀ f ∈ fills, P f.boundaryOrdinal)
    (h : r.Wrote P s) : r.Wrote P (fills.foldl Recorder.appendFill s) := by
  induction fills generalizing s with
  | nil => exact h
  | cons fill rest ih =>
    refine ih (fun f hf => hb f (List.mem_cons_of_mem _ hf)) ⟨h.audit, h.ledger, ?_⟩
    exact appended h.fills ⟨[fill], rfl, by simpa using hb fill List.mem_cons_self⟩

end Recorder.Wrote

/-- Fills leave no record of their own in the audit. -/
theorem audit_appendFills (fills : List Fill) (recorder : Recorder) :
    (fills.foldl Recorder.appendFill recorder).audit = recorder.audit := by
  induction fills generalizing recorder with
  | nil => rfl
  | cons fill rest ih => exact ih (recorder.appendFill fill)

/-- What a step leaves alone once the history of its boundary is applied, and where it writes. -/
structure RunBooks.Follows {σ : Type} (boundary : Nat) (before after : RunBooks σ) : Prop where
  wrote : before.recorder.Wrote (· = boundary) after.recorder
  historical : after.historical = before.historical
  previousSortKey : after.previousSortKey = before.previousSortKey
  previousGroupBoundary : after.previousGroupBoundary = before.previousGroupBoundary
  groupCount : after.counts.groupCount = before.counts.groupCount
  eventCount : after.counts.eventCount = before.counts.eventCount

namespace RunBooks.Follows

variable {σ : Type} {boundary : Nat} {x y z : RunBooks σ}

theorem refl (boundary : Nat) (x : RunBooks σ) : x.Follows boundary x :=
  ⟨.refl _ _, rfl, rfl, rfl, rfl, rfl⟩

theorem trans (h : x.Follows boundary y) (h' : y.Follows boundary z) : x.Follows boundary z :=
  ⟨h.wrote.trans h'.wrote, h'.historical.trans h.historical,
    h'.previousSortKey.trans h.previousSortKey,
    h'.previousGroupBoundary.trans h.previousGroupBoundary, h'.groupCount.trans h.groupCount,
    h'.eventCount.trans h.eventCount⟩

theorem audit {record : AuditRecord} (hb : record.boundaryOrdinal = boundary)
    (h : x.Follows boundary y) : x.Follows boundary (y.audit record) :=
  ⟨h.wrote.appendAudit hb, h.historical, h.previousSortKey, h.previousGroupBoundary,
    h.groupCount, h.eventCount⟩

end RunBooks.Follows

section Steps

variable {ε σ φ : Type} {timeline : BoundaryTimeline} {plugins : RunPlugins ε σ} {boundary : Nat}

/-! ## History and observations -/

section Events

variable [MarketEvent ε]

theorem applyHistory_eq_ok {groupId : Fin (2 ^ 256)} {events : List ε} {books books' : RunBooks σ}
    (h : applyHistory timeline plugins boundary groupId events books = .ok books') :
    ∃ key historical venue, requireOrdered books.previousSortKey events = .ok key ∧
      books.previousGroupBoundary ≠ some boundary ∧
      (∀ event ∈ events, timeline.requireEvent (envelope event).position = .ok ()) ∧
      books.historical.applyGroup events = .ok historical ∧
      books.venue.reconcileGroup events historical = .ok venue ∧
      books' = (({ books with
          historical := historical
          venue := venue
          previousSortKey := key
          previousGroupBoundary := some boundary
          counts :=
            { books.counts with
              groupCount := books.counts.groupCount + 1
              eventCount := books.counts.eventCount + events.length } } : RunBooks σ)
        |>.audit (.historicalGroupApplied boundary
            (events.map fun event => (envelope event).canonicalEventId.hex) groupId)
        |>.audit (.simulationReconciled boundary plugins.config.executionMode groupId)) := by
  obtain ⟨key, hkey, h⟩ := bind_eq_ok.mp h
  obtain ⟨hnew, h⟩ := check_bind_eq_ok.mp h
  obtain ⟨i, -, h⟩ := bind_eq_ok.mp h
  obtain ⟨checks, hchecks, h⟩ := bind_eq_ok.mp h
  obtain ⟨historical, hhistorical, h⟩ := bind_eq_ok.mp h
  obtain ⟨venue, hvenue, h⟩ := bind_eq_ok.mp h
  refine ⟨key, historical, venue, hkey, refuseIf_eq_ok.mp hnew, fun event hevent => ?_,
    hhistorical, hvenue, (Except.ok.inj h).symm⟩
  obtain ⟨_, -, hcheck⟩ := ok_of_mem_mapM hchecks hevent
  exact hcheck

theorem applyHistory_wrote {groupId : Fin (2 ^ 256)} {events : List ε} {books books' : RunBooks σ}
    (h : applyHistory timeline plugins boundary groupId events books = .ok books') :
    books.recorder.Wrote (· = boundary) books'.recorder := by
  obtain ⟨key, historical, venue, -, -, -, -, -, rfl⟩ := applyHistory_eq_ok h
  have happlied : books.recorder.Wrote (· = boundary) (books.recorder.appendAudit
      (.historicalGroupApplied boundary
        (events.map fun event => (envelope event).canonicalEventId.hex) groupId)) :=
    (Recorder.Wrote.refl _ _).appendAudit rfl
  exact happlied.appendAudit rfl

/-- The events of an applied group stand at one boundary, in one group. -/
theorem applyGroup_same {historical historical' : HistoricalReferenceState} {first : ε}
    {rest : List ε} (h : historical.applyGroup (first :: rest) = .ok historical') :
    ∀ event ∈ first :: rest,
      (envelope event).boundaryOrdinal = (envelope first).boundaryOrdinal := by
  obtain ⟨hsame, -⟩ := check_bind_eq_ok.mp h
  intro event hevent
  by_contra hne
  exact refuseIf_eq_ok.mp hsame ⟨event, hevent, .inl hne⟩

section Feed

variable [ObservationFeed ε φ]

theorem registerEvent_eq_ok {slots : Nat} {state state' : φ × RunBooks σ} {event : ε}
    (h : registerEvent timeline slots boundary state event = .ok state') :
    ∃ release, timeline.observationRelease (envelope event).boundaryOrdinal slots = .ok release ∧
      ObservationFeed.register state.1 event state.2.eventRowIndex release = .ok state'.1 ∧
      state'.2 = match release with
        | none => RunBooks.audit { state.2 with eventRowIndex := state.2.eventRowIndex + 1 }
            (.observationOutsideHorizon boundary (envelope event).canonicalEventId.hex)
        | some _ => { state.2 with eventRowIndex := state.2.eventRowIndex + 1 } := by
  obtain ⟨release, hrelease, h⟩ := bind_eq_ok.mp h
  obtain ⟨feed, hfeed, h⟩ := bind_eq_ok.mp h
  refine ⟨release, hrelease, ?_⟩
  cases release with
  | none =>
    obtain rfl := Except.ok.inj h
    exact ⟨hfeed, rfl⟩
  | some release =>
    obtain rfl := Except.ok.inj h
    exact ⟨hfeed, rfl⟩

theorem registerEvent_follows {slots : Nat} {state state' : φ × RunBooks σ} {event : ε}
    (h : registerEvent timeline slots boundary state event = .ok state') :
    state.2.Follows boundary state'.2 := by
  obtain ⟨release, -, -, hbooks⟩ := registerEvent_eq_ok h
  rw [hbooks]
  cases release with
  | none => exact RunBooks.Follows.audit rfl ⟨.refl _ _, rfl, rfl, rfl, rfl, rfl⟩
  | some release => exact ⟨.refl _ _, rfl, rfl, rfl, rfl, rfl⟩

end Feed

theorem deliverObservation_eq_ok {books books' : RunBooks σ} {item : SchedulerKey × Observation ε}
    (h : deliverObservation boundary books item = .ok books') :
    ∃ observed, books.observed.apply item.2.event = .ok observed ∧
      books' = (({ books with
          observed := observed
          counts :=
            { books.counts with
              deliveredCount := books.counts.deliveredCount + 1 } } : RunBooks σ)
        |>.audit (.observationDelivered boundary (envelope item.2.event).canonicalEventId.hex
            item.1.sourceOrCreatorBoundaryOrdinal)) := by
  obtain ⟨observed, hobserved, h⟩ := bind_eq_ok.mp h
  exact ⟨observed, hobserved, (Except.ok.inj h).symm⟩

theorem deliverObservation_follows {books books' : RunBooks σ}
    {item : SchedulerKey × Observation ε}
    (h : deliverObservation boundary books item = .ok books') :
    books.Follows boundary books' := by
  obtain ⟨observed, -, rfl⟩ := deliverObservation_eq_ok h
  exact ⟨(Recorder.Wrote.refl _ _).appendAudit rfl, rfl, rfl, rfl, rfl, rfl⟩

end Events

/-! ## Decisions -/

theorem proposeIntent_eq_ok {state state' : RunBooks σ × List SwapExactInIntent} {intent : Intent}
    (h : proposeIntent boundary state intent = .ok state') :
    ∃ swap, intent = .swapExactIn swap ∧ swap.createdBoundaryOrdinal = boundary ∧
      swap.orderId ∉ state.1.seenOrders ∧
      state' = (RunBooks.audit { state.1 with seenOrders := swap.orderId :: state.1.seenOrders }
        (.intentProposed boundary swap.orderId.hex), state.2 ++ [swap]) := by
  cases intent with
  | other => cases h
  | swapExactIn swap =>
    obtain ⟨hcreated, h⟩ := check_bind_eq_ok.mp h
    obtain ⟨hnew, h⟩ := check_bind_eq_ok.mp h
    exact ⟨swap, rfl, not_not.mp (refuseIf_eq_ok.mp hcreated), refuseIf_eq_ok.mp hnew,
      (Except.ok.inj h).symm⟩

theorem callStrategy_eq_ok {instant : ReplayBoundary}
    {state state' : RunBooks σ × List SwapExactInIntent} {observation : Observation ε}
    (h : callStrategy plugins instant boundary state observation = .ok state') :
    ∃ strategy intents, plugins.strategy.onEvent state.1.strategy observation.event
        (callbackContext plugins instant state.1 (some observation.eventRowId)) =
          .ok (strategy, intents) ∧
      intents.foldlM (proposeIntent boundary) ({ state.1 with strategy := strategy }, state.2) =
        .ok state' := by
  obtain ⟨⟨strategy, intents⟩, hcall, h⟩ := bind_eq_ok.mp h
  exact ⟨strategy, intents, raising_eq_ok.mp hcall, h⟩

theorem callStrategy_follows {instant : ReplayBoundary}
    {state state' : RunBooks σ × List SwapExactInIntent} {observation : Observation ε}
    (h : callStrategy plugins instant boundary state observation = .ok state') :
    state.1.Follows boundary state'.1 := by
  obtain ⟨strategy, intents, -, hintents⟩ := callStrategy_eq_ok h
  refine foldlM_keeps (P := fun s => state.1.Follows boundary s.1) ?_
    ⟨.refl _ _, rfl, rfl, rfl, rfl, rfl⟩ hintents
  intro intent _ s s' hs hstep
  obtain ⟨swap, -, -, -, rfl⟩ := proposeIntent_eq_ok hstep
  refine hs.trans ?_
  exact ⟨(Recorder.Wrote.refl _ _).appendAudit rfl, rfl, rfl, rfl, rfl, rfl⟩

theorem applyTransaction_eq_ok {transaction : LedgerTransaction} {books books' : RunBooks σ}
    (h : applyTransaction transaction books = .ok books') :
    ∃ candidate, books.portfolio.preview transaction = .ok candidate ∧
      books' = { books with
        portfolio := books.portfolio.commit candidate
        recorder := books.recorder.appendLedger transaction } := by
  obtain ⟨candidate, hcandidate, h⟩ := bind_eq_ok.mp h
  exact ⟨candidate, raising_eq_ok.mp hcandidate, (Except.ok.inj h).symm⟩

theorem applyTransaction_follows {transaction : LedgerTransaction} {books books' : RunBooks σ}
    (hb : transaction.boundaryOrdinal = boundary)
    (h : applyTransaction transaction books = .ok books') :
    books.Follows boundary books' := by
  obtain ⟨candidate, -, rfl⟩ := applyTransaction_eq_ok h
  exact ⟨(Recorder.Wrote.refl _ _).appendLedger hb, rfl, rfl, rfl, rfl, rfl⟩

/-- What a valid plan holds. -/
theorem validateExecutionPlan_eq_ok {intent : SwapExactInIntent} {plan : ExecutionPlan}
    {mode : ExecutionMode} (h : validateExecutionPlan intent plan boundary mode = .ok ()) :
    (∀ fill ∈ plan.fills, fill.orderId = intent.orderId) ∧
      (∀ fill ∈ plan.fills, fill.boundaryOrdinal = boundary) ∧
      (plan.fills.map (·.amountInAtomic)).sum = intent.amountInAtomic ∧
      (mode = .exogenousReplay ↔ plan.transition = none) := by
  obtain ⟨hown, h⟩ := check_bind_eq_ok.mp h
  obtain ⟨hcurrent, h⟩ := check_bind_eq_ok.mp h
  obtain ⟨hamount, h⟩ := check_bind_eq_ok.mp h
  obtain ⟨hexogenous, hstateful⟩ := check_bind_eq_ok.mp h
  rw [refuseIf_eq_ok] at hown hcurrent hamount hexogenous hstateful
  refine ⟨fun fill hfill => ?_, fun fill hfill => ?_, not_not.mp hamount, fun hmode => ?_,
    fun hnone => ?_⟩
  · exact by_contra fun hne => hown ⟨fill, hfill, hne⟩
  · exact by_contra fun hne => hcurrent ⟨fill, hfill, hne⟩
  · exact by_contra fun hne => hexogenous ⟨hmode, hne⟩
  · exact by_contra fun hne => hstateful ⟨hne, hnone⟩

theorem notifyStrategy_eq_ok {instant : ReplayBoundary} {books books' : RunBooks σ}
    {notification : ExecutionNotification}
    (h : notifyStrategy plugins instant boundary books notification = .ok books') :
    ∃ strategy, plugins.strategy.onExecution books.strategy notification
        (callbackContext plugins instant books none) = .ok strategy ∧
      books' = RunBooks.audit { books with strategy := strategy }
        (.strategyNotified boundary notification.orderId.hex notification.status) := by
  obtain ⟨strategy, hcall, h⟩ := bind_eq_ok.mp h
  exact ⟨strategy, raising_eq_ok.mp hcall, (Except.ok.inj h).symm⟩

theorem notifyStrategy_follows {instant : ReplayBoundary} {books books' : RunBooks σ}
    {notification : ExecutionNotification}
    (h : notifyStrategy plugins instant boundary books notification = .ok books') :
    books.Follows boundary books' := by
  obtain ⟨strategy, -, rfl⟩ := notifyStrategy_eq_ok h
  exact ⟨(Recorder.Wrote.refl _ _).appendAudit rfl, rfl, rfl, rfl, rfl, rfl⟩

theorem popReadyOrders_eq (books : RunBooks σ) : popReadyOrders boundary books =
    ((books.executableOrders.popReady boundary .venueExecutionAndLedgerCommit).1,
      { books with
        executableOrders :=
          (books.executableOrders.popReady boundary .venueExecutionAndLedgerCommit).2 }) := rfl

section Transactions

variable [DomainDigest]

theorem acceptOrder_eq_ok {release : Nat} {intent : SwapExactInIntent}
    {state state' : RunBooks σ × List ExecutionNotification}
    (h : acceptOrder boundary release intent state = .ok state') :
    ∃ reservation books executableOrders,
      reservationTransaction intent boundary = .ok reservation ∧
      applyTransaction reservation state.1 = .ok books ∧
      CausalScheduler.enqueue state.1.executableOrders (orderKey release boundary intent) intent =
        .ok executableOrders ∧
      state' = (({ books with
          executableOrders := executableOrders
          counts :=
            { books.counts with acceptedCount := books.counts.acceptedCount + 1 } } : RunBooks σ)
          |>.audit (.orderAcceptedAndReserved boundary release intent.orderId.hex),
        state.2 ++ [.plain intent.orderId .accepted boundary [] (by decide)]) := by
  obtain ⟨reservation, hreservation, h⟩ := bind_eq_ok.mp h
  obtain ⟨books, hbooks, h⟩ := bind_eq_ok.mp h
  obtain ⟨orders, horders, h⟩ := bind_eq_ok.mp h
  have hqueue : books.executableOrders = state.1.executableOrders := by
    obtain ⟨candidate, -, rfl⟩ := applyTransaction_eq_ok hbooks
    rfl
  rw [hqueue] at horders
  exact ⟨reservation, books, orders, raising_eq_ok.mp hreservation, hbooks, horders,
    (Except.ok.inj h).symm⟩

/-- The three ways an order of a boundary goes. -/
theorem decideOrder_cases {intent : SwapExactInIntent}
    {state state' : RunBooks σ × List ExecutionNotification}
    (h : decideOrder timeline plugins boundary state intent = .ok state') :
    (timeline.orderRelease boundary plugins.config.latency.orderSlots = .ok none ∧
        state' = rejectOrder boundary .horizonExhausted intent state) ∨
      ∃ release, timeline.orderRelease boundary plugins.config.latency.orderSlots =
          .ok (some release) ∧
        (plugins.riskPolicy.accept intent (.of state.1.portfolio) = false ∧
            state' = rejectOrder boundary .riskRejected intent state ∨
          plugins.riskPolicy.accept intent (.of state.1.portfolio) = true ∧
            acceptOrder boundary release intent state = .ok state') := by
  obtain ⟨release, hrelease, h⟩ := bind_eq_ok.mp h
  cases release with
  | none => exact .inl ⟨hrelease, (Except.ok.inj h).symm⟩
  | some release =>
    refine .inr ⟨release, hrelease, ?_⟩
    dsimp only at h
    split at h
    · rename_i haccept
      exact .inr ⟨haccept, h⟩
    · rename_i haccept
      exact .inl ⟨Bool.eq_false_iff.mpr haccept, (Except.ok.inj h).symm⟩

theorem decideOrder_follows {intent : SwapExactInIntent}
    {state state' : RunBooks σ × List ExecutionNotification}
    (h : decideOrder timeline plugins boundary state intent = .ok state') :
    state.1.Follows boundary state'.1 := by
  rcases decideOrder_cases h with ⟨-, rfl⟩ | ⟨release, -, ⟨-, rfl⟩ | ⟨-, haccept⟩⟩
  · exact ⟨(Recorder.Wrote.refl _ _).appendAudit rfl, rfl, rfl, rfl, rfl, rfl⟩
  · exact ⟨(Recorder.Wrote.refl _ _).appendAudit rfl, rfl, rfl, rfl, rfl, rfl⟩
  · obtain ⟨reservation, books, orders, hreservation, hbooks, -, rfl⟩ := acceptOrder_eq_ok haccept
    have hb := (LedgerTransaction.make_eq_ok hreservation).2.2.2.1
    refine (applyTransaction_follows hb hbooks).trans ?_
    exact ⟨(Recorder.Wrote.refl _ _).appendAudit rfl, rfl, rfl, rfl, rfl, rfl⟩

/-! ## Execution -/

theorem failOrder_eq_ok {code : String} {intent : SwapExactInIntent}
    {state state' : RunBooks σ × List ExecutionNotification}
    (h : failOrder boundary code intent state = .ok state') :
    ∃ release books, releaseTransaction intent boundary code = .ok release ∧
      applyTransaction release state.1 = .ok books ∧
      state' = (({ books with
          terminalOrders := intent.orderId :: books.terminalOrders
          counts :=
            { books.counts with
              failedOrderCount := books.counts.failedOrderCount + 1 } } : RunBooks σ)
          |>.audit (.orderExecutionFailedAndReleased boundary intent.orderId.hex code),
        state.2 ++ [.plain intent.orderId .executionFailed boundary [code] (by decide)]) := by
  obtain ⟨release, hrelease, h⟩ := bind_eq_ok.mp h
  obtain ⟨books, hbooks, h⟩ := bind_eq_ok.mp h
  exact ⟨release, books, raising_eq_ok.mp hrelease, hbooks, (Except.ok.inj h).symm⟩

theorem fillOrder_eq_ok {mode : ExecutionMode} {plan : ExecutionPlan} {intent : SwapExactInIntent}
    {state state' : RunBooks σ × List ExecutionNotification}
    (h : fillOrder boundary mode plan intent state = .ok state') :
    ∃ settlement books venue notification,
      validateExecutionPlan intent plan boundary mode = .ok () ∧
      settlementTransaction intent plan.ledgerPostings boundary = .ok settlement ∧
      applyTransaction settlement state.1 = .ok books ∧
      previewVenue state.1.venue plan = .ok venue ∧
      ExecutionNotification.make intent.orderId .filled boundary plan.fills plan.reports =
        .ok notification ∧
      state' = (({ books with
          venue := venue
          terminalOrders := intent.orderId :: books.terminalOrders
          counts :=
            { books.counts with filledOrderCount := books.counts.filledOrderCount + 1 }
          recorder := (sortedFills plan.fills).foldl Recorder.appendFill books.recorder } :
            RunBooks σ)
          |>.audit (.orderFilledAtomically boundary plan.fills.length intent.orderId.hex),
        state.2 ++ [notification]) := by
  obtain ⟨hvalid, h⟩ := check_bind_eq_ok.mp h
  obtain ⟨settlement, hsettlement, h⟩ := bind_eq_ok.mp h
  obtain ⟨books, hbooks, h⟩ := bind_eq_ok.mp h
  obtain ⟨venue, hvenue, h⟩ := bind_eq_ok.mp h
  obtain ⟨notification, hnotification, h⟩ := bind_eq_ok.mp h
  exact ⟨settlement, books, venue, notification, hvalid, raising_eq_ok.mp hsettlement, hbooks,
    hvenue, raising_eq_ok.mp hnotification, (Except.ok.inj h).symm⟩

/-- An order that is due is filled or fails. -/
theorem executeOrder_cases {state state' : RunBooks σ × List ExecutionNotification}
    {item : SchedulerKey × SwapExactInIntent}
    (h : executeOrder plugins boundary state item = .ok state') :
    item.2.orderId ∉ state.1.terminalOrders ∧
      ((∃ code, plugins.executionModel.execute item.2 state.1.venue boundary
          plugins.config.executionMode = .rejected code ∧
          failOrder boundary code item.2 state = .ok state') ∨
        ∃ plan, plugins.executionModel.execute item.2 state.1.venue boundary
          plugins.config.executionMode = .planned plan ∧
          fillOrder boundary plugins.config.executionMode plan item.2 state = .ok state') := by
  obtain ⟨hopen, h⟩ := check_bind_eq_ok.mp h
  refine ⟨refuseIf_eq_ok.mp hopen, ?_⟩
  split at h
  · cases h
  · cases h
  · rename_i code hcode
    exact .inl ⟨code, hcode, h⟩
  · rename_i plan hplan
    exact .inr ⟨plan, hplan, h⟩

theorem executeOrder_follows {state state' : RunBooks σ × List ExecutionNotification}
    {item : SchedulerKey × SwapExactInIntent}
    (h : executeOrder plugins boundary state item = .ok state') :
    state.1.Follows boundary state'.1 := by
  rcases (executeOrder_cases h).2 with ⟨code, -, hfail⟩ | ⟨plan, -, hfill⟩
  · obtain ⟨release, books, hrelease, hbooks, rfl⟩ := failOrder_eq_ok hfail
    have hb := (LedgerTransaction.make_eq_ok hrelease).2.2.2.1
    refine (applyTransaction_follows hb hbooks).trans ?_
    exact ⟨(Recorder.Wrote.refl _ _).appendAudit rfl, rfl, rfl, rfl, rfl, rfl⟩
  · obtain ⟨settlement, books, venue, notification, hvalid, hsettlement, hbooks, -, -, rfl⟩ :=
      fillOrder_eq_ok hfill
    have hb := (LedgerTransaction.make_eq_ok hsettlement).2.2.2.1
    have hcurrent := (validateExecutionPlan_eq_ok hvalid).2.1
    have hfills : books.recorder.Wrote (· = boundary)
        ((sortedFills plan.fills).foldl Recorder.appendFill books.recorder) :=
      (Recorder.Wrote.refl _ _).appendFills fun f hf =>
        hcurrent f ((List.mem_insertionSort _).mp hf)
    refine (applyTransaction_follows hb hbooks).trans ?_
    exact ⟨hfills.appendAudit rfl, rfl, rfl, rfl, rfl, rfl⟩

/-! ## Groups -/

theorem decideOrders_eq_ok {instant : ReplayBoundary} {delivered : List (Observation ε)}
    {books : RunBooks σ} {state' : RunBooks σ × List ExecutionNotification}
    (h : decideOrders timeline plugins boundary instant delivered books = .ok state') :
    ∃ books₁ proposed,
      delivered.foldlM (callStrategy plugins instant boundary) (books, []) =
        .ok (books₁, proposed) ∧
      (sortedIntents proposed).foldlM (decideOrder timeline plugins boundary) (books₁, []) =
        .ok state' := by
  obtain ⟨⟨books₁, proposed⟩, hcalls, h⟩ := bind_eq_ok.mp h
  exact ⟨books₁, proposed, hcalls, h⟩

theorem decideOrders_follows {instant : ReplayBoundary} {delivered : List (Observation ε)}
    {books : RunBooks σ} {state' : RunBooks σ × List ExecutionNotification}
    (h : decideOrders timeline plugins boundary instant delivered books = .ok state') :
    books.Follows boundary state'.1 := by
  obtain ⟨books₁, proposed, hcalls, horders⟩ := decideOrders_eq_ok h
  have hcalled : books.Follows boundary books₁ :=
    foldlM_keeps (P := fun s => books.Follows boundary s.1)
      (fun observation _ s s' hs hstep => hs.trans (callStrategy_follows hstep))
      (.refl boundary _) hcalls
  exact foldlM_keeps (P := fun s => books.Follows boundary s.1)
    (fun intent _ s s' hs hstep => hs.trans (decideOrder_follows hstep)) hcalled horders

theorem settleBoundary_eq (instant : ReplayBoundary) (books : RunBooks σ)
    (notifications : List ExecutionNotification) :
    settleBoundary plugins boundary instant books notifications =
      ((popReadyOrders boundary books).1.foldlM (executeOrder plugins boundary)
          ((popReadyOrders boundary books).2, notifications) >>= fun executed =>
        (sortedNotifications executed.2).foldlM (notifyStrategy plugins instant boundary)
          executed.1 >>= fun notified =>
        .ok (notified.audit (.boundaryCheckpoint boundary))) := rfl

theorem settleBoundary_eq_ok {instant : ReplayBoundary} {books books' : RunBooks σ}
    {notifications : List ExecutionNotification}
    (h : settleBoundary plugins boundary instant books notifications = .ok books') :
    ∃ books₁ notifications₁ books₂,
      (popReadyOrders boundary books).1.foldlM (executeOrder plugins boundary)
        ((popReadyOrders boundary books).2, notifications) = .ok (books₁, notifications₁) ∧
      (sortedNotifications notifications₁).foldlM (notifyStrategy plugins instant boundary)
        books₁ = .ok books₂ ∧
      books' = books₂.audit (.boundaryCheckpoint boundary) := by
  obtain ⟨⟨books₁, notifications₁⟩, hexecute, h⟩ := bind_eq_ok.mp h
  obtain ⟨books₂, hnotify, h⟩ := bind_eq_ok.mp h
  exact ⟨books₁, notifications₁, books₂, hexecute, hnotify, (Except.ok.inj h).symm⟩

theorem settleBoundary_follows {instant : ReplayBoundary} {books books' : RunBooks σ}
    {notifications : List ExecutionNotification}
    (h : settleBoundary plugins boundary instant books notifications = .ok books') :
    books.Follows boundary books' := by
  obtain ⟨books₁, notifications₁, books₂, hexecute, hnotify, rfl⟩ := settleBoundary_eq_ok h
  have hexecuted : books.Follows boundary books₁ :=
    foldlM_keeps (P := fun s => books.Follows boundary s.1)
      (fun item _ s s' hs hstep => hs.trans (executeOrder_follows hstep))
      ⟨.refl _ _, rfl, rfl, rfl, rfl, rfl⟩ hexecute
  have hnotified : books.Follows boundary books₂ :=
    foldlM_keeps (P := fun s => books.Follows boundary s)
      (fun notification _ s s' hs hstep => hs.trans (notifyStrategy_follows hstep)) hexecuted hnotify
  exact hnotified.audit rfl

variable [MarketEvent ε] [ObservationFeed ε φ]

/-- The steps of a group. -/
theorem processGroup_eq_ok {state state' : φ × RunBooks σ} {events : List ε}
    (h : processGroup timeline plugins state events = .ok state') :
    ∃ first rest, events = first :: rest ∧
    ∃ history registered ready shown instant decided notifications,
      applyHistory timeline plugins (envelope first).boundaryOrdinal
        (envelope first).transactionGroupId.hex events state.2 = .ok history ∧
      events.foldlM (registerEvent timeline plugins.config.latency.observationSlots
        (envelope first).boundaryOrdinal) (state.1, history) = .ok registered ∧
      checkQueueBudget plugins.config.maximumDynamicItems registered.1 registered.2 = .ok () ∧
      ObservationFeed.popReady registered.1 (envelope first).boundaryOrdinal =
        .ok (ready, state'.1) ∧
      ready.foldlM (deliverObservation (envelope first).boundaryOrdinal) registered.2 =
        .ok shown ∧
      timeline.instant (envelope first).boundaryOrdinal = .ok instant ∧
      decideOrders timeline plugins (envelope first).boundaryOrdinal instant
        (ready.map Prod.snd) shown = .ok (decided, notifications) ∧
      checkQueueBudget plugins.config.maximumDynamicItems state'.1 decided = .ok () ∧
      settleBoundary plugins (envelope first).boundaryOrdinal instant decided notifications =
        .ok state'.2 := by
  rw [processGroup.eq_def] at h
  cases events with
  | nil => cases h
  | cons first rest =>
    refine ⟨first, rest, rfl, ?_⟩
    dsimp only at h
    obtain ⟨history, hhistory, h⟩ := bind_eq_ok.mp h
    obtain ⟨⟨feed, registered⟩, hregistered, h⟩ := bind_eq_ok.mp h
    obtain ⟨hbudget, h⟩ := check_bind_eq_ok.mp h
    obtain ⟨⟨ready, feed'⟩, hready, h⟩ := bind_eq_ok.mp h
    obtain ⟨shown, hshown, h⟩ := bind_eq_ok.mp h
    obtain ⟨instant, hinstant, h⟩ := bind_eq_ok.mp h
    obtain ⟨⟨decided, notifications⟩, hdecided, h⟩ := bind_eq_ok.mp h
    obtain ⟨hbudget', h⟩ := check_bind_eq_ok.mp h
    obtain ⟨books, hbooks, h⟩ := bind_eq_ok.mp h
    obtain rfl := Except.ok.inj h
    exact ⟨history, (feed, registered), ready, shown, instant, decided, notifications, hhistory,
      hregistered, hbudget, hready, hshown, hinstant, hdecided, hbudget', hbooks⟩

/-- What a group does after its history is applied. -/
theorem processGroup_follows {state state' : φ × RunBooks σ} {events : List ε}
    (h : processGroup timeline plugins state events = .ok state') :
    ∃ first rest history, events = first :: rest ∧
      applyHistory timeline plugins (envelope first).boundaryOrdinal
        (envelope first).transactionGroupId.hex events state.2 = .ok history ∧
      history.Follows (envelope first).boundaryOrdinal state'.2 := by
  obtain ⟨first, rest, hevents, history, registered, ready, shown, instant, decided, notifications,
    hhistory, hregistered, -, -, hshown, -, hdecided, -, hsettled⟩ := processGroup_eq_ok h
  refine ⟨first, rest, history, hevents, hhistory, ?_⟩
  have hwaiting : history.Follows (envelope first).boundaryOrdinal registered.2 :=
    foldlM_keeps (P := fun s => history.Follows (envelope first).boundaryOrdinal s.2)
      (fun event _ s s' hs hstep => hs.trans (registerEvent_follows hstep))
      (.refl _ history) hregistered
  have hdelivered : history.Follows (envelope first).boundaryOrdinal shown :=
    foldlM_keeps (P := fun s => history.Follows (envelope first).boundaryOrdinal s)
      (fun item _ s s' hs hstep => hs.trans (deliverObservation_follows hstep)) hwaiting hshown
  exact (hdelivered.trans (decideOrders_follows hdecided)).trans (settleBoundary_follows hsettled)

/-- **A group writes at its own boundary only, after what was written before.** -/
theorem processGroup_wrote {state state' : φ × RunBooks σ} {first : ε} {rest : List ε}
    (h : processGroup timeline plugins state (first :: rest) = .ok state') :
    state.2.recorder.Wrote (· = (envelope first).boundaryOrdinal) state'.2.recorder := by
  obtain ⟨_, _, history, hevents, hhistory, hfollows⟩ := processGroup_follows h
  obtain ⟨rfl, rfl⟩ := List.cons.inj hevents
  exact (applyHistory_wrote hhistory).trans hfollows.wrote

end Transactions

end Steps

end Reference

end OnchainBacktest
