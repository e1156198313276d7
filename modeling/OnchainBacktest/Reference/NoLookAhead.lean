import OnchainBacktest.Reference.DecidedPart
import OnchainBacktest.Reference.RunOrder

/-!
# No look-ahead

Two streams that are the same up to a boundary are released, decided and executed in the same way up
to it, whatever comes later (`processGroup_agree`, `runGroups_agree`).  Two steps look at the
boundaries of the replay, the release of an observation and the acceptance of an order; what they
look up is decided by the boundary or lies past it in both streams.

There is one thing the end of a stream decides: whether an order has a boundary to be executed at,
and so whether it is accepted at all.
-/

set_option autoImplicit false

namespace OnchainBacktest

namespace Reference

open Checked

section TwoRuns

variable {ε σ : Type} {timeline timeline' : BoundaryTimeline} {boundary current : Nat}
  {plugins : RunPlugins ε σ}

/-! ## Releases -/

theorem registerEvent_agree [MarketEvent ε] (htimeline : timeline.AgreeUpTo timeline' boundary)
    {slots : Nat} {event : ε} (hle : (envelope event).boundaryOrdinal ≤ boundary)
    {x y x' y' : CausalScheduler (Observation ε) × RunBooks σ} (hxy : AgreeUpTo boundary x y)
    (hx : registerEvent timeline slots current x event = .ok x')
    (hy : registerEvent timeline' slots current y event = .ok y') : AgreeUpTo boundary x' y' := by
  obtain ⟨release, hrelease, hfeed, hbooks⟩ := registerEvent_eq_ok hx
  obtain ⟨release', hrelease', hfeed', hbooks'⟩ := registerEvent_eq_ok hy
  have hsame := BoundaryTimeline.observationRelease_agree htimeline hle slots hrelease hrelease'
  have hrow : (x.2.upTo boundary).eventRowIndex = (y.2.upTo boundary).eventRowIndex :=
    congrArg RunBooks.eventRowIndex hxy.2
  change x.2.eventRowIndex = y.2.eventRowIndex at hrow
  have hnext : RunBooks.upTo boundary { x.2 with eventRowIndex := x.2.eventRowIndex + 1 } =
      RunBooks.upTo boundary { y.2 with eventRowIndex := y.2.eventRowIndex + 1 } := by
    show { x.2.upTo boundary with eventRowIndex := x.2.eventRowIndex + 1 } =
      { y.2.upTo boundary with eventRowIndex := y.2.eventRowIndex + 1 }
    rw [hxy.2, hrow]
  refine ⟨?_, ?_⟩
  · -- a release by the boundary is the same in both, any other is not seen
    have hlater : ∀ {scheduler scheduler' : CausalScheduler (Observation ε)} {row : Nat}
        {released : Option Nat}, enqueueObservation scheduler event row released = .ok scheduler' →
        (∀ r ∈ released, boundary < r) → scheduler'.upTo boundary = scheduler.upTo boundary := by
      intro scheduler scheduler' row released h hr
      cases released with
      | none => rw [Except.ok.inj h]
      | some r => exact upTo_enqueue_later h (hr r rfl)
    by_cases hby : ∃ r ≤ boundary, release = some r
    · obtain ⟨r, hr, rfl⟩ := hby
      obtain rfl := (hsame r hr).mp rfl
      rw [← hrow] at hfeed'
      exact upTo_enqueue hxy.1 hfeed hfeed' hr
    · have hx1 := hlater hfeed fun r hr => not_le.mp fun hle => hby ⟨r, hle, hr⟩
      have hy1 := hlater hfeed' fun r hr => not_le.mp fun hle =>
        hby ⟨r, hle, (hsame r hle).mpr hr⟩
      rw [hx1, hy1]
      exact hxy.1
  · have hx1 : x'.2.upTo boundary =
        RunBooks.upTo boundary { x.2 with eventRowIndex := x.2.eventRowIndex + 1 } := by
      rw [hbooks]
      cases release with
      | none => exact upTo_audit_hidden rfl
      | some _ => rfl
    have hy1 : y'.2.upTo boundary =
        RunBooks.upTo boundary { y.2 with eventRowIndex := y.2.eventRowIndex + 1 } := by
      rw [hbooks']
      cases release' with
      | none => exact upTo_audit_hidden rfl
      | some _ => rfl
    rw [hx1, hy1]
    exact hnext

theorem applyHistory_upTo [MarketEvent ε] {groupId : Fin (2 ^ 256)} {events : List ε}
    (books : RunBooks σ) :
    applyHistory timeline plugins current groupId events (books.upTo boundary) =
      (applyHistory timeline plugins current groupId events books).map
        (RunBooks.upTo boundary) := by
  rw [applyHistory, applyHistory]
  show (requireOrdered books.previousSortKey events >>= _) = _
  cases requireOrdered books.previousSortKey events with
  | error fault => rfl
  | ok key =>
  show (refuseIf (books.previousGroupBoundary = some current) _ >>= _) = _
  cases refuseIf (books.previousGroupBoundary = some current)
      (EngineFault.engineInvariant "one boundary contains more than one transaction group") with
  | error fault => rfl
  | ok _ =>
  cases timeline.index current with
  | error fault => rfl
  | ok index =>
  cases events.mapM fun event => timeline.requireEvent (envelope event).position with
  | error fault => rfl
  | ok checks =>
  show (books.historical.applyGroup events >>= _) = _
  rw [ok_bind, ok_bind, ok_bind, ok_bind]
  cases books.historical.applyGroup events with
  | error fault => rfl
  | ok historical =>
  show (books.venue.reconcileGroup events historical >>= _) = Except.map _ (_ >>= _)
  rw [ok_bind]
  cases books.venue.reconcileGroup events historical with
  | error fault => rfl
  | ok venue => exact congrArg Except.ok (upTo_audit (upTo_audit rfl rfl) rfl)

/-- The history of a group is applied in the same way. -/
theorem applyHistory_agree [MarketEvent ε] (htimeline : timeline.AgreeUpTo timeline' boundary)
    {groupId : Fin (2 ^ 256)} {events : List ε} (hle : current ≤ boundary)
    (hevents : ∀ e ∈ events, (envelope e).boundaryOrdinal ≤ boundary) (books : RunBooks σ) :
    applyHistory timeline plugins current groupId events books =
      applyHistory timeline' plugins current groupId events books := by
  have hchecks : (events.mapM fun event => timeline.requireEvent (envelope event).position) =
      events.mapM fun event => timeline'.requireEvent (envelope event).position :=
    mapM_congr fun e he => BoundaryTimeline.requireEvent_agree htimeline (hevents e he)
  rw [applyHistory, applyHistory, BoundaryTimeline.index_agree htimeline hle, hchecks]

/-! ## Orders -/

/-- What is proposed is on record. -/
theorem callStrategy_proposed {instant : ReplayBoundary} {delivered : List (Observation ε)}
    {books books₁ : RunBooks σ} {proposed : List SwapExactInIntent}
    (h : delivered.foldlM (callStrategy plugins instant current) (books, []) =
      .ok (books₁, proposed)) :
    ∀ intent ∈ proposed, .intentProposed current intent.orderId.hex ∈ books₁.recorder.audit := by
  refine foldlM_keeps (P := fun s => ∀ intent ∈ s.2,
    .intentProposed current intent.orderId.hex ∈ s.1.recorder.audit) ?_ nofun h
  intro observation _ s s' hs hstep
  obtain ⟨strategy, intents, -, hintents⟩ := callStrategy_eq_ok hstep
  refine foldlM_keeps (P := fun s => ∀ intent ∈ s.2,
    .intentProposed current intent.orderId.hex ∈ s.1.recorder.audit) ?_ hs hintents
  intro intent _ t t' ht hpropose
  obtain ⟨swap, -, -, -, rfl⟩ := proposeIntent_eq_ok hpropose
  intro other hother
  rcases List.mem_append.mp hother with hother | hother
  · exact List.mem_append_left _ (ht other hother)
  · rw [List.mem_singleton.mp hother]
    exact List.mem_append_right _ (List.mem_singleton_self _)

/-- What is on record stays there. -/
theorem RunBooks.Follows.mem_audit {x y : RunBooks σ} (h : x.Follows current y)
    {record : AuditRecord} (hrecord : record ∈ x.recorder.audit) :
    record ∈ y.recorder.audit := by
  obtain ⟨records, haudit, -⟩ := h.wrote.audit
  rw [haudit]
  exact List.mem_append_left _ hrecord

variable [DomainDigest]

theorem acceptOrder_agree {release release' : Nat} {intent : SwapExactInIntent}
    (hsame : ∀ r ≤ boundary, some release = some r ↔ some release' = some r)
    {x y x' y' : RunBooks σ × List ExecutionNotification}
    (hxy : seen boundary x = seen boundary y)
    (hx : acceptOrder current release intent x = .ok x')
    (hy : acceptOrder current release' intent y = .ok y') :
    seen boundary x' = seen boundary y' := by
  obtain ⟨reservation, books, orders, hreservation, hbooks, horders, rfl⟩ := acceptOrder_eq_ok hx
  obtain ⟨reservation', books', orders', hreservation', hbooks', horders', rfl⟩ :=
    acceptOrder_eq_ok hy
  obtain rfl := Except.ok.inj (hreservation.symm.trans hreservation')
  obtain ⟨hstate, hnotifications⟩ := Prod.mk.inj hxy
  have hbooked : books.upTo boundary = books'.upTo boundary :=
    agree_of_commutes (fun b => applyTransaction_upTo reservation b) hstate hbooks hbooks'
  have hqueue : x.1.executableOrders.upTo boundary = y.1.executableOrders.upTo boundary :=
    congrArg RunBooks.executableOrders hstate
  have horders' : orders.upTo boundary = orders'.upTo boundary ∧
      min release (boundary + 1) = min release' (boundary + 1) := by
    by_cases hby : release ≤ boundary
    · obtain rfl := Option.some.inj ((hsame release hby).mp rfl)
      exact ⟨upTo_enqueue hqueue horders horders' hby, rfl⟩
    · have hby' : ¬ release' ≤ boundary := fun hle =>
        hby (Option.some.inj ((hsame release' hle).mpr rfl) ▸ hle)
      refine ⟨?_, by omega⟩
      rw [upTo_enqueue_later horders (not_le.mp hby), upTo_enqueue_later horders' (not_le.mp hby'),
        hqueue]
  refine Prod.ext ?_ (congrArg (· ++ _) hnotifications)
  have hrecord : (AuditRecord.orderAcceptedAndReserved current release intent.orderId.hex).upTo
      boundary = some (.orderAcceptedAndReserved current (min release (boundary + 1))
        intent.orderId.hex) := rfl
  refine (upTo_audit rfl hrecord).symm.trans ?_
  refine Eq.trans ?_ (upTo_audit rfl rfl)
  show RunBooks.audit
      { books.upTo boundary with
        executableOrders := orders.upTo boundary
        counts :=
          { (books.upTo boundary).counts with
            acceptedCount := (books.upTo boundary).counts.acceptedCount + 1 } } _ =
    RunBooks.audit
      { books'.upTo boundary with
        executableOrders := orders'.upTo boundary
        counts :=
          { (books'.upTo boundary).counts with
            acceptedCount := (books'.upTo boundary).counts.acceptedCount + 1 } } _
  rw [hbooked, horders'.1, horders'.2]

/-- **An order is decided in the same way**, where it has something to wait for in both streams or
in neither. -/
theorem decideOrder_agree (htimeline : timeline.AgreeUpTo timeline' boundary)
    (hle : current ≤ boundary)
    (hhorizon : timeline.SameHorizon timeline' plugins.config.latency.orderSlots current)
    {intent : SwapExactInIntent} {x y x' y' : RunBooks σ × List ExecutionNotification}
    (hxy : seen boundary x = seen boundary y)
    (hx : decideOrder timeline plugins current x intent = .ok x')
    (hy : decideOrder timeline' plugins current y intent = .ok y') :
    seen boundary x' = seen boundary y' := by
  have hrejected : ∀ reason : RejectionReason, seen boundary (rejectOrder current reason intent x) =
      seen boundary (rejectOrder current reason intent y) := by
    intro reason
    rw [← rejectOrder_upTo, ← rejectOrder_upTo, hxy]
  have hportfolio : x.1.portfolio = y.1.portfolio :=
    congrArg (fun state => state.1.portfolio) hxy
  rcases decideOrder_cases hx with ⟨hnone, rfl⟩ | ⟨release, hrelease, hx⟩ <;>
    rcases decideOrder_cases hy with ⟨hnone', rfl⟩ | ⟨release', hrelease', hy⟩
  · exact hrejected _
  · obtain ⟨r, hr⟩ := hhorizon.mpr ⟨release', hrelease'⟩
    rw [hnone] at hr
    cases hr
  · obtain ⟨r, hr⟩ := hhorizon.mp ⟨release, hrelease⟩
    rw [hnone'] at hr
    cases hr
  · rw [← hportfolio] at hy
    rcases hx with ⟨hrefuse, rfl⟩ | ⟨haccept, hx⟩ <;> rcases hy with ⟨hrefuse', rfl⟩ | ⟨haccept', hy⟩
    · exact hrejected _
    · rw [hrefuse] at haccept'
      cases haccept'
    · rw [haccept] at hrefuse'
      cases hrefuse'
    · exact acceptOrder_agree
        (BoundaryTimeline.orderRelease_agree htimeline hle _ hrelease hrelease') hxy hx hy

/-! ## Groups -/

theorem decideOrders_agree (htimeline : timeline.AgreeUpTo timeline' boundary)
    (hle : current ≤ boundary) {instant : ReplayBoundary} {delivered : List (Observation ε)}
    {x y : RunBooks σ} {x' y' : RunBooks σ × List ExecutionNotification}
    (hxy : x.upTo boundary = y.upTo boundary)
    (hhorizon : (∃ orderId, .intentProposed current orderId ∈ x'.1.recorder.audit) →
      timeline.SameHorizon timeline' plugins.config.latency.orderSlots current)
    (hx : decideOrders timeline plugins current instant delivered x = .ok x')
    (hy : decideOrders timeline' plugins current instant delivered y = .ok y') :
    seen boundary x' = seen boundary y' := by
  obtain ⟨books, proposed, hcalls, horders⟩ := decideOrders_eq_ok hx
  obtain ⟨books', proposed', hcalls', horders'⟩ := decideOrders_eq_ok hy
  have hcalled : seen boundary (books, proposed) = seen boundary (books', proposed') :=
    agree_of_commutes
      (F := fun s => delivered.foldlM (callStrategy plugins instant current) s)
      (fun s => foldlM_map (fun observation _ t => callStrategy_upTo t observation) s)
      (seen_congr hxy []) hcalls hcalls'
  obtain ⟨hbooks, rfl⟩ := Prod.mk.inj hcalled
  have hfollows : books.Follows current x'.1 :=
    foldlM_keeps (P := fun s => books.Follows current s.1)
      (fun intent _ s s' hs hstep => hs.trans (decideOrder_follows hstep)) (.refl _ _) horders
  refine foldlM_agree (R := fun s s' => seen boundary s = seen boundary s') ?_
    (seen_congr hbooks []) horders horders'
  intro intent hintent s s' t t' hs ht ht'
  have hproposed := callStrategy_proposed hcalls intent ((List.mem_insertionSort _).mp hintent)
  exact decideOrder_agree htimeline hle (hhorizon ⟨_, hfollows.mem_audit hproposed⟩) hs ht ht'

/-- **A group of a boundary is processed in the same way in both streams.** -/
theorem processGroup_agree [MarketEvent ε] (htimeline : timeline.AgreeUpTo timeline' boundary)
    {events : List ε} (hevents : ∀ e ∈ events, (envelope e).boundaryOrdinal ≤ boundary)
    {x y x' y' : CausalScheduler (Observation ε) × RunBooks σ} (hxy : AgreeUpTo boundary x y)
    (hhorizon : (∃ orderId, .intentProposed (groupBoundary events) orderId ∈
        x'.2.recorder.audit) →
      timeline.SameHorizon timeline' plugins.config.latency.orderSlots (groupBoundary events))
    (hx : processGroup timeline plugins x events = .ok x')
    (hy : processGroup timeline' plugins y events = .ok y') : AgreeUpTo boundary x' y' := by
  obtain ⟨first, rest, rfl, history, registered, ready, shown, instant, decided, notifications,
    hhistory, hregistered, -, hready, hshown, hinstant, hdecided, -, hsettled⟩ :=
    processGroup_eq_ok hx
  obtain ⟨_, _, hsame, history', registered', ready', shown', instant', decided', notifications',
    hhistory', hregistered', -, hready', hshown', hinstant', hdecided', -, hsettled'⟩ :=
    processGroup_eq_ok hy
  obtain ⟨rfl, rfl⟩ := List.cons.inj hsame
  have hle : (envelope first).boundaryOrdinal ≤ boundary := hevents first List.mem_cons_self
  have happlied : history.upTo boundary = history'.upTo boundary := by
    rw [← applyHistory_agree htimeline hle hevents] at hhistory'
    exact agree_of_commutes (fun b => applyHistory_upTo b) hxy.2 hhistory hhistory'
  have hstart : AgreeUpTo boundary (x.1, history) (y.1, history') := ⟨hxy.1, happlied⟩
  have hwaiting : AgreeUpTo boundary registered registered' :=
    foldlM_agree (R := AgreeUpTo boundary)
      (fun event hevent s s' t t' hs ht ht' =>
        registerEvent_agree htimeline (hevents event hevent) hs ht ht')
      hstart hregistered hregistered'
  have hpopped := popReady_upTo registered.1 .observationDelivery hle
  have hpopped' := popReady_upTo registered'.1 .observationDelivery hle
  rw [← hwaiting.1, hpopped, Except.ok.inj hready, Except.ok.inj hready'] at hpopped'
  obtain ⟨rfl, hqueue⟩ := Prod.mk.inj hpopped'
  have hdelivered : shown.upTo boundary = shown'.upTo boundary :=
    agree_of_commutes
      (F := fun s => ready.foldlM (deliverObservation (envelope first).boundaryOrdinal) s)
      (fun s => foldlM_map (fun item _ t => deliverObservation_upTo t item) s)
      hwaiting.2 hshown hshown'
  rw [BoundaryTimeline.instant_agree htimeline hle, hinstant'] at hinstant
  obtain rfl := Except.ok.inj hinstant
  have hsettles := settleBoundary_follows hsettled
  have hdecisions := decideOrders_agree htimeline hle hdelivered (fun hproposed => by
    obtain ⟨orderId, horder⟩ := hproposed
    exact hhorizon ⟨orderId, hsettles.mem_audit horder⟩) hdecided hdecided'
  obtain ⟨hbooks, rfl⟩ := Prod.mk.inj hdecisions
  exact ⟨hqueue, agree_of_commutes
    (F := fun b => settleBoundary plugins (envelope first).boundaryOrdinal instant' b notifications)
    (fun b => settleBoundary_upTo hle b notifications) hbooks hsettled hsettled'⟩

/-- **Two runs over the same groups agree.** -/
theorem runGroups_agree [MarketEvent ε] (htimeline : timeline.AgreeUpTo timeline' boundary)
    {groups : List (List ε)}
    (hgroups : ∀ group ∈ groups, ∀ e ∈ group, (envelope e).boundaryOrdinal ≤ boundary)
    {x y x' y' : CausalScheduler (Observation ε) × RunBooks σ} (hxy : AgreeUpTo boundary x y)
    (hhorizon : ∀ c ≤ boundary, (∃ orderId, .intentProposed c orderId ∈ x'.2.recorder.audit) →
      timeline.SameHorizon timeline' plugins.config.latency.orderSlots c)
    (hx : runGroups timeline plugins x groups = .ok x')
    (hy : runGroups timeline' plugins y groups = .ok y') : AgreeUpTo boundary x' y' := by
  induction groups generalizing x y with
  | nil =>
    simp only [runGroups, List.foldlM_nil, pure, Except.pure, Except.ok.injEq] at hx hy
    exact hx ▸ hy ▸ hxy
  | cons group rest ih =>
    rw [runGroups, List.foldlM_cons] at hx hy
    obtain ⟨next, hnext, hx⟩ := bind_eq_ok.mp hx
    obtain ⟨next', hnext', hy⟩ := bind_eq_ok.mp hy
    have hevents := hgroups group List.mem_cons_self
    obtain ⟨hne, -, -, -⟩ := processGroup_group hnext
    have hle : groupBoundary group ≤ boundary := by
      obtain ⟨first, tail, rfl⟩ := List.exists_cons_of_ne_nil hne
      exact hevents first List.mem_cons_self
    refine ih (fun other hother => hgroups other (List.mem_cons_of_mem _ hother))
      (processGroup_agree htimeline hevents hxy ?_ hnext hnext') hx hy
    rintro ⟨orderId, horder⟩
    -- what the group has on record is still on record at the end
    obtain ⟨records, haudit, -⟩ :=
      (runGroups_wrote (P := fun _ => True) hx fun _ _ => trivial).audit
    refine hhorizon _ hle ⟨orderId, ?_⟩
    rw [haudit]
    exact List.mem_append_left _ horder

end TwoRuns

end Reference

end OnchainBacktest
