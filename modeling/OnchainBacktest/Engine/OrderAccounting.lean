import OnchainBacktest.Engine.DecidedLaunches
import OnchainBacktest.Engine.SnipingFinish

/-!
# The accounting of orders

The counters of a run are kept in four handlers; what they count can be read off the states of the
round trips.  `Accounted` says so at every moment, and says that each order is accepted at most
once and lands at most once.  When the run ends no round trip waits for anything, and the accounts
close (`orders_close`).
-/

set_option autoImplicit false

namespace OnchainBacktest

open Checked

/-! ## Orders in the audit -/

/-- The order a row accepts. -/
def AuditRecord.acceptedOrder? : AuditRecord → Option (ContentDigest × RoundTripLegSide)
  | buyAcceptedAndReserved _ rid _ _ => some (rid, .buy)
  | sellAcceptedAndReserved _ rid _ => some (rid, .sell)
  | _ => none

/-- The order a row lands. -/
def AuditRecord.landedOrder? : AuditRecord → Option (ContentDigest × RoundTripLegSide)
  | buyLandedFailedNetworkFeeCharged _ rid _ | buyFilled _ rid _ => some (rid, .buy)
  | sellLandedFailedNetworkFeeCharged _ rid _ | sellFilledAndAccountClosed _ rid _ =>
    some (rid, .sell)
  | _ => none

/-- How often an audit does something to an order. -/
def orderCount (what : AuditRecord → Option (ContentDigest × RoundTripLegSide))
    (audit : List AuditRecord) (rid : ContentDigest) (side : RoundTripLegSide) : Nat :=
  audit.countP fun row => what row == some (rid, side)

/-- The order of one side was accepted. -/
def RoundTripState.accepted (s : RoundTripState) : RoundTripLegSide → Bool
  | .buy => s.buyAccepted
  | .sell => s.sellAccepted

/-- The order of one side has landed. -/
def RoundTripState.landed (s : RoundTripState) : RoundTripLegSide → Bool
  | .buy => s.bought || s.buyMissed
  | .sell => s.sold || s.sellMissed

/-- The fills of a round trip. -/
def RoundTripState.fillCount (s : RoundTripState) : Nat := s.bought.toNat + s.sold.toNat

/-- A flag of a state that may not be there yet. -/
def flagOf (flag : RoundTripState → Bool) (s : Option RoundTripState) : Bool :=
  (s.map flag).getD false

@[simp] theorem flagOf_none (flag : RoundTripState → Bool) : flagOf flag none = false := rfl

@[simp] theorem flagOf_some (flag : RoundTripState → Bool) (s : RoundTripState) :
    flagOf flag (some s) = flag s := rfl

section Moves

variable [DomainDigest] {setup : SnipingSetup} {rid : ContentDigest} {boundary : Nat}
  {desk desk' : Desk ContentDigest} {old : Option RoundTripState} {new : RoundTripState}

theorem HeldPosition.sellAccepted_eq (p : HeldPosition setup rid) :
    p.state.sellAccepted = false := by
  rw [RoundTripState.sellAccepted, p.pending_eq]
  rfl

theorem SubmittedSell.sellAccepted_eq (o : SubmittedSell setup rid) :
    o.state.sellAccepted = true := by
  rw [RoundTripState.sellAccepted, o.pending_eq]
  rfl

/-- What a move does to the orders of its round trip. -/
structure OrderMoved (rid : ContentDigest) (old : Option RoundTripState) (new : RoundTripState)
    (row : AuditRecord) : Prop where
  accepted : ∀ side, (new.accepted side).toNat
    = (flagOf (·.accepted side) old).toNat + (row.acceptedOrder? == some (rid, side)).toNat
  landed : ∀ side, (new.landed side).toNat
    = (flagOf (·.landed side) old).toNat + (row.landedOrder? == some (rid, side)).toNat
  own : ∀ rid' side, row.acceptedOrder? = some (rid', side) ∨ row.landedOrder? = some (rid', side) →
    rid' = rid

omit [DomainDigest] in
/-- A row that neither accepts nor lands an order. -/
theorem OrderMoved.silent {row : AuditRecord} (ha : row.acceptedOrder? = none)
    (hl : row.landedOrder? = none) (h1 : ∀ side, new.accepted side = flagOf (·.accepted side) old)
    (h2 : ∀ side, new.landed side = flagOf (·.landed side) old) : OrderMoved rid old new row := by
  refine ⟨fun side => ?_, fun side => ?_, fun rid' side h => ?_⟩
  · rw [h1, ha]
    rfl
  · rw [h2, hl]
    rfl
  · rw [ha, hl] at h
    rcases h with h | h
    · cases h
    · cases h

omit [DomainDigest] in
theorem RoundTripState.landed_of_bought {s : RoundTripState} (h : s.bought = true) :
    s.landed .buy = true := by
  rw [landed, h, Bool.true_or]

omit [DomainDigest] in
/-- After its buy has filled, what happens to a round trip happens to its sell. -/
theorem OrderMoved.of_bought {s : RoundTripState} {row : AuditRecord} (hs : s.bought = true)
    (hn : new.bought = true) (hrow : ∀ rid' side, row.acceptedOrder? = some (rid', side) ∨
      row.landedOrder? = some (rid', side) → rid' = rid ∧ side = .sell)
    (ha : (new.accepted .sell).toNat
      = (s.accepted .sell).toNat + (row.acceptedOrder? == some (rid, .sell)).toNat)
    (hl : (new.landed .sell).toNat
      = (s.landed .sell).toNat + (row.landedOrder? == some (rid, .sell)).toNat) :
    OrderMoved rid (some s) new row := by
  refine ⟨fun side => ?_, fun side => ?_, fun rid' side h => (hrow rid' side h).1⟩
  · cases side with
    | sell => exact ha
    | buy =>
      have hno : (row.acceptedOrder? == some (rid, .buy)) = false :=
        beq_false_of_ne fun he => by cases (hrow rid .buy (.inl he)).2
      rw [hno, flagOf_some]
      show new.buyAccepted.toNat = s.buyAccepted.toNat + _
      rw [RoundTripState.buyAccepted_of_bought hn, RoundTripState.buyAccepted_of_bought hs]
      rfl
  · cases side with
    | sell => exact hl
    | buy =>
      have hno : (row.landedOrder? == some (rid, .buy)) = false :=
        beq_false_of_ne fun he => by cases (hrow rid .buy (.inr he)).2
      rw [hno, flagOf_some, RoundTripState.landed_of_bought hn, RoundTripState.landed_of_bought hs]
      rfl

/-- **A move writes one row, and the row says what happened to the orders.** -/
theorem Move.orders (h : Move setup rid boundary desk old new desk') :
    ∃ row, desk'.recorder.audit = desk.recorder.audit ++ [row] ∧ OrderMoved rid old new row := by
  have hother : (some (rid, RoundTripLegSide.buy) == some (rid, .sell)) = false :=
    beq_false_of_ne (by simp)
  cases h with
  | suppressed =>
    refine ⟨_, rfl, .silent rfl rfl (fun side => ?_) fun side => ?_⟩
    · cases side <;> rfl
    · cases side <;> rfl
  | buyReferenceRejected =>
    refine ⟨_, rfl, .silent rfl rfl (fun side => ?_) fun side => ?_⟩
    · cases side <;> rfl
    · cases side <;> rfl
  | buyPreSubmitRejected =>
    refine ⟨_, rfl, .silent rfl rfl (fun side => ?_) fun side => ?_⟩
    · cases side <;> rfl
    · cases side <;> rfl
  | buyAccepted b _ _ _ apply =>
    refine ⟨_, congrArg (· ++ _) apply.audit, fun side => ?_, fun side => ?_, fun rid' side h => ?_⟩
    · cases side with
      | buy => simp [AuditRecord.acceptedOrder?, RoundTripState.accepted, RoundTripState.buyAccepted]
      | sell =>
        show b.state.sellAccepted.toNat = 0 + (some (rid, RoundTripLegSide.buy) == _).toNat
        rw [hother]
        rfl
    · cases side <;> rfl
    · simp [AuditRecord.acceptedOrder?, AuditRecord.landedOrder?] at h
      exact h.1.symm
  | buyFailed b _ _ _ _ apply =>
    refine ⟨_, congrArg (· ++ _) apply.audit, fun side => ?_, fun side => ?_, fun rid' side h => ?_⟩
    · cases side <;> rfl
    · cases side with
      | buy =>
        simp [AuditRecord.landedOrder?]
        rfl
      | sell =>
        show _ = _ + (some (rid, RoundTripLegSide.buy) == _).toNat
        rw [hother]
        rfl
    · simp [AuditRecord.acceptedOrder?, AuditRecord.landedOrder?] at h
      exact h.1.symm
  | buyFilled p _ _ _ apply =>
    refine ⟨_, congrArg (· ++ _) apply.audit, fun side => ?_, fun side => ?_, fun rid' side h => ?_⟩
    · cases side with
      | buy =>
        show p.state.buyAccepted.toNat = _
        rw [RoundTripState.buyAccepted_of_bought p.bought]
        rfl
      | sell =>
        show p.state.sellAccepted.toNat = _
        rw [p.sellAccepted_eq]
        rfl
    · cases side with
      | buy =>
        rw [RoundTripState.landed_of_bought p.bought]
        simp [AuditRecord.landedOrder?]
        rfl
      | sell =>
        show _ = _ + (some (rid, RoundTripLegSide.buy) == _).toNat
        rw [hother]
        rfl
    · simp [AuditRecord.acceptedOrder?, AuditRecord.landedOrder?] at h
      exact h.1.symm
  | sellUnavailable p =>
    refine ⟨_, rfl, .of_bought p.bought p.bought ?_ ?_ rfl⟩
    · simp [AuditRecord.acceptedOrder?, AuditRecord.landedOrder?]
    · show _ = p.state.sellAccepted.toNat + _
      rw [p.sellAccepted_eq]
      rfl
  | sellPreSubmitRejected o =>
    refine ⟨_, rfl, .of_bought o.bought o.bought ?_ ?_ rfl⟩
    · simp [AuditRecord.acceptedOrder?, AuditRecord.landedOrder?]
    · show _ = o.toHeldPosition.state.sellAccepted.toNat + _
      rw [o.toHeldPosition.sellAccepted_eq]
      rfl
  | sellAccepted o _ _ apply =>
    refine ⟨_, congrArg (· ++ _) apply.audit, .of_bought o.bought o.bought ?_ ?_ rfl⟩
    · simp only [AuditRecord.acceptedOrder?, AuditRecord.landedOrder?, Option.some.injEq,
        Prod.mk.injEq]
      rintro rid' side (⟨rfl, rfl⟩ | h)
      · exact ⟨rfl, rfl⟩
      · cases h
    · show o.state.sellAccepted.toNat = o.toHeldPosition.state.sellAccepted.toNat + _
      rw [o.sellAccepted_eq, o.toHeldPosition.sellAccepted_eq]
      simp [AuditRecord.acceptedOrder?]
  | sellFailed o _ _ _ apply =>
    refine ⟨_, congrArg (· ++ _) apply.audit, .of_bought o.bought o.bought ?_ ?_ ?_⟩
    · simp only [AuditRecord.acceptedOrder?, AuditRecord.landedOrder?, Option.some.injEq,
        Prod.mk.injEq]
      rintro rid' side (h | ⟨rfl, rfl⟩)
      · cases h
      · exact ⟨rfl, rfl⟩
    · show _ = o.state.sellAccepted.toNat + _
      rw [o.sellAccepted_eq]
      rfl
    · simp [AuditRecord.landedOrder?]
      rfl
  | closed o _ _ _ apply =>
    refine ⟨_, congrArg (· ++ _) apply.audit, .of_bought o.bought o.bought ?_ ?_ ?_⟩
    · simp only [AuditRecord.acceptedOrder?, AuditRecord.landedOrder?, Option.some.injEq,
        Prod.mk.injEq]
      rintro rid' side (h | ⟨rfl, rfl⟩)
      · cases h
      · exact ⟨rfl, rfl⟩
    · show _ = o.state.sellAccepted.toNat + _
      rw [o.sellAccepted_eq]
      rfl
    · simp [AuditRecord.landedOrder?]
      rfl

/-- **A move records a fill exactly when an order of its round trip is filled.** -/
theorem Move.fills (h : Move setup rid boundary desk old new desk') :
    desk'.recorder.fills.length + (old.map RoundTripState.fillCount).getD 0
      = desk.recorder.fills.length + new.fillCount := by
  cases h with
  | suppressed => rfl
  | buyReferenceRejected => rfl
  | buyPreSubmitRejected => rfl
  | buyAccepted _ _ _ _ apply => exact congrArg List.length apply.fills
  | buyFailed _ _ _ _ _ apply => exact congrArg List.length apply.fills
  | buyFilled p _ _ _ apply =>
    have hfilled : p.state.fillCount = 1 := by
      rw [RoundTripState.fillCount, p.bought]
      rfl
    have hlen := congrArg List.length apply.fills
    show (_ ++ [_]).length + 0 = _ + p.state.fillCount
    rw [List.length_append, hlen, hfilled]
    rfl
  | sellUnavailable p => rfl
  | sellPreSubmitRejected o => rfl
  | sellAccepted o _ _ apply =>
    exact congrArg (·.length + o.state.fillCount) apply.fills
  | sellFailed o _ _ _ apply =>
    exact congrArg (·.length + o.state.fillCount) apply.fills
  | @closed o landing _ _ _ _ _ _ apply =>
    have hlen := congrArg List.length apply.fills
    have hbefore : o.state.fillCount = 1 := by
      rw [RoundTripState.fillCount, show o.state.bought = true from o.bought]
      rfl
    have hafter : (o.state.sellFilled o.sellPosition landing
        [closedMintRecord o.lockedMint, o.walletRecord]).fillCount = 2 := by
      rw [RoundTripState.fillCount, RoundTripState.bought]
      rw [decide_eq_true (show 0 < (o.state.sellFilled o.sellPosition landing
        [closedMintRecord o.lockedMint, o.walletRecord]).acquiredTokenAmountAtomic
          from o.acquired_pos)]
      rfl
    show (_ ++ [_]).length + o.state.fillCount = _
    rw [List.length_append, hlen, hbefore, hafter]
    rfl

end Moves

/-! ## The accounts of a run -/

section Accounts

/-- What the counters of a run say of its round trips. -/
structure Accounted (run : RunState) : Prop where
  target : run.counts.targetCount = run.states.total fun _ _ => 1
  skipped : run.counts.cooldownSkippedCount = run.states.total fun _ s => s.skipped.toNat
  acceptedBuy : run.counts.acceptedBuyCount = run.states.total fun _ s => s.buyAccepted.toNat
  failedBuy : run.counts.failedBuyCount = run.states.total fun _ s => s.buyMissed.toNat
  failedSell : run.counts.failedSellCount = run.states.total fun _ s => s.sellMissed.toNat
  fills : run.desk.recorder.fills.length = run.states.total fun _ s => s.fillCount
  roundtrips : run.desk.recorder.roundtrips = []
  accepted : ∀ rid side, orderCount AuditRecord.acceptedOrder? run.desk.recorder.audit rid side
    = (flagOf (·.accepted side) (run.states.get? rid)).toNat
  landed : ∀ rid side, orderCount AuditRecord.landedOrder? run.desk.recorder.audit rid side
    = (flagOf (·.landed side) (run.states.get? rid)).toNat

variable {setup : SnipingSetup} {run run' : RunState} {rid : ContentDigest} {boundary : Nat}
  {old : Option RoundTripState} {new : RoundTripState}

theorem orderCount_append (what : AuditRecord → Option (ContentDigest × RoundTripLegSide))
    (audit rows : List AuditRecord) (rid : ContentDigest) (side : RoundTripLegSide) :
    orderCount what (audit ++ rows) rid side
      = orderCount what audit rid side + orderCount what rows rid side :=
  List.countP_append

theorem orderCount_singleton (what : AuditRecord → Option (ContentDigest × RoundTripLegSide))
    (row : AuditRecord) (rid : ContentDigest) (side : RoundTripLegSide) :
    orderCount what [row] rid side = (what row == some (rid, side)).toNat := by
  rw [orderCount, List.countP_singleton]
  cases what row == some (rid, side) <;> rfl

/-- Rows about no round trip accept and land nothing. -/
theorem orderCount_eq_zero {rows : List AuditRecord} (h : ∀ row ∈ rows, row.roundtrip? = none)
    (rid : ContentDigest) (side : RoundTripLegSide) :
    orderCount AuditRecord.acceptedOrder? rows rid side = 0 ∧
      orderCount AuditRecord.landedOrder? rows rid side = 0 := by
  have hnone : ∀ row ∈ rows, row.acceptedOrder? = none ∧ row.landedOrder? = none := by
    intro row hrow
    have hr := h row hrow
    cases row <;> first | exact ⟨rfl, rfl⟩ | cases hr
  refine ⟨List.countP_eq_zero.mpr fun row hrow => ?_, List.countP_eq_zero.mpr fun row hrow => ?_⟩
  · rw [(hnone row hrow).1]
    simp
  · rw [(hnone row hrow).2]
    simp

theorem Accounted.quiet (h : Accounted run) (hs : SameOrders run run') : Accounted run' := by
  obtain ⟨rows, haudit, hrows⟩ := hs.audit
  refine ⟨?_, ?_, ?_, ?_, ?_, ?_, hs.roundtrips.trans h.roundtrips, fun rid side => ?_,
    fun rid side => ?_⟩
  · rw [hs.target, hs.states]
    exact h.target
  · rw [hs.skipped, hs.states]
    exact h.skipped
  · rw [hs.acceptedBuy, hs.states]
    exact h.acceptedBuy
  · rw [hs.failedBuy, hs.states]
    exact h.failedBuy
  · rw [hs.failedSell, hs.states]
    exact h.failedSell
  · rw [hs.fills, hs.states]
    exact h.fills
  · rw [haudit, orderCount_append, (orderCount_eq_zero hrows rid side).1, hs.states]
    exact h.accepted rid side
  · rw [haudit, orderCount_append, (orderCount_eq_zero hrows rid side).2, hs.states]
    exact h.landed rid side

variable [DomainDigest]

/-- What a move does to a total over the round trips. -/
theorem Moved.total (hm : Moved setup rid boundary old new run run') (f : RoundTripState → Nat) :
    (run'.states.total fun _ s => f s) + (old.map f).getD 0
      = (run.states.total fun _ s => f s) + f new := by
  have hbefore := hm.before
  rw [hm.states]
  cases old with
  | none => exact Dict.total_set_of_new new (fun _ s => f s) hbefore
  | some s => exact Dict.total_set new (fun _ s => f s) hbefore

/-- The count of the orders of a round trip after a move. -/
theorem Moved.orderCount {what : AuditRecord → Option (ContentDigest × RoundTripLegSide)}
    {flag : RoundTripLegSide → RoundTripState → Bool} {row : AuditRecord}
    (hm : Moved setup rid boundary old new run run')
    (h : ∀ rid side, orderCount what run.desk.recorder.audit rid side
      = (flagOf (flag side) (run.states.get? rid)).toNat)
    (haudit : run'.desk.recorder.audit = run.desk.recorder.audit ++ [row])
    (hflag : ∀ side, (flag side new).toNat
      = (flagOf (flag side) old).toNat + (what row == some (rid, side)).toNat)
    (hown : ∀ rid' side, what row = some (rid', side) → rid' = rid) (rid' : ContentDigest)
    (side : RoundTripLegSide) :
    orderCount what run'.desk.recorder.audit rid' side
      = (flagOf (flag side) (run'.states.get? rid')).toNat := by
  rw [haudit, orderCount_append, orderCount_singleton, h, hm.states, Dict.get?_set]
  split
  · rename_i he
    subst he
    rw [hm.before]
    exact (hflag side).symm
  · rename_i hne
    rw [beq_false_of_ne fun he => hne (hown rid' side he)]
    rfl

/-- **A move keeps the accounts.** -/
theorem Accounted.moved (h : Accounted run) (hm : Moved setup rid boundary old new run run') :
    Accounted run' := by
  obtain ⟨row, haudit, horders⟩ := hm.move.orders
  have hcounts := hm.counts
  have hsettled : ∀ s, old = some s → new.buyAccepted = s.buyAccepted ∧ s.skipped = false ∧
      s.buyMissed = false ∧ s.sellMissed = false := by
    rintro s rfl
    exact hm.move.settled
  refine ⟨?_, ?_, ?_, ?_, ?_, ?_, hm.move.roundtrips.trans h.roundtrips,
    hm.orderCount h.accepted haudit horders.accepted fun rid' side he => horders.own _ _ (.inl he),
    hm.orderCount h.landed haudit horders.landed fun rid' side he => horders.own _ _ (.inr he)⟩
  · have htotal := hm.total fun _ => 1
    rw [hcounts.target, h.target]
    cases old with
    | none => exact htotal.symm
    | some s => exact (Nat.add_right_cancel htotal).symm
  · have htotal := hm.total fun s => s.skipped.toNat
    rw [hcounts.skipped, h.skipped]
    cases hold : old with
    | none =>
      rw [hold] at htotal
      exact htotal.symm
    | some s =>
      rw [hold, Option.map_some, (hsettled s hold).2.1] at htotal
      exact htotal.symm
  · have htotal := hm.total fun s => s.buyAccepted.toNat
    rw [hcounts.acceptedBuy, h.acceptedBuy]
    cases hold : old with
    | none =>
      rw [hold] at htotal
      exact htotal.symm
    | some s =>
      rw [hold, Option.map_some, (hsettled s hold).1] at htotal
      exact (Nat.add_right_cancel htotal).symm
  · have htotal := hm.total fun s => s.buyMissed.toNat
    rw [hcounts.failedBuy, h.failedBuy]
    cases hold : old with
    | none =>
      rw [hold] at htotal
      exact htotal.symm
    | some s =>
      rw [hold, Option.map_some, (hsettled s hold).2.2.1] at htotal
      exact htotal.symm
  · have htotal := hm.total fun s => s.sellMissed.toNat
    rw [hcounts.failedSell, h.failedSell]
    cases hold : old with
    | none =>
      rw [hold] at htotal
      exact htotal.symm
    | some s =>
      rw [hold, Option.map_some, (hsettled s hold).2.2.2] at htotal
      exact htotal.symm
  · have htotal := hm.total RoundTripState.fillCount
    have hfills := hm.move.fills
    have hbefore := h.fills
    omega

/-- **The accounts are kept at every moment of a run.** -/
theorem Reachable.accounted {source : HistoricalEventSource} {m : Moment}
    (h : Reachable setup source m) : Accounted m.run := by
  refine Reachable.induct (P := fun m => Accounted m.run) (fun m h₀ => ?_)
    (fun m m' hr hs ih => ?_) h
  · obtain ⟨_, h₀⟩ := check_bind_eq_ok.mp h₀
    obtain ⟨_, _, h₀⟩ := bind_eq_ok.mp h₀
    obtain ⟨run, hrun, h₀⟩ := bind_eq_ok.mp h₀
    cases h₀
    obtain ⟨accounts, _, hrun⟩ := bind_eq_ok.mp hrun
    cases hrun
    exact ⟨rfl, rfl, rfl, rfl, rfl, rfl, rfl, fun _ _ => rfl, fun _ _ => rfl⟩
  · cases hr.turn hs with
    | quiet same => exact ih.quiet same
    | launched _ _ _ _ moved => exact ih.moved moved
    | acted _ _ _ _ _ moved => exact ih.moved moved

end Accounts

/-! ## The end of a run -/

section Close

/-- The field of the aggregates that sums a weight of the records. -/
theorem roundtripAggregates_sum {field : RoundTripAggregates → Nat} {weight : RoundTripRecord → Nat}
    (hzero : field {} = 0) (happend : ∀ a r, field (a.append r) = field a + weight r)
    (records : List RoundTripRecord) :
    field (roundtripAggregates records) = (records.map weight).sum := by
  have hfold : ∀ (l : List RoundTripRecord) (a : RoundTripAggregates),
      field (l.foldl RoundTripAggregates.append a) = field a + (l.map weight).sum := by
    intro l
    induction l with
    | nil => exact fun a => rfl
    | cons r rest ih =>
      intro a
      rw [List.foldl_cons, ih, happend, List.map_cons, List.sum_cons, Nat.add_assoc]
  rw [roundtripAggregates, hfold, hzero, Nat.zero_add]

/-- Its buy was refused before it was submitted. -/
def RoundTripState.buyRejected (s : RoundTripState) : Bool :=
  s.status == .buyReferenceRejected || s.status == .buyPreSubmitInsufficientFunds

/-- Its position is still held. -/
def RoundTripState.held (s : RoundTripState) : Bool := s.bought && !s.sold

/-- A round trip that has come to its end: every order it had accepted has landed. -/
structure Settled (s : RoundTripState) : Prop where
  decided : s.skipped.toNat + s.buyAccepted.toNat + s.buyRejected.toNat = 1
  buy : s.buyAccepted = s.landed .buy
  buyOnce : s.bought.toNat + s.buyMissed.toNat ≤ 1
  sell : s.sellAccepted = s.landed .sell
  sellOnce : s.sold.toNat + s.sellMissed.toNat ≤ 1
  closed : s.sold.toNat ≤ s.bought.toNat
  reached : (s.sellReference.isSome && s.sellDecisionPosition.isSome &&
    s.sellLandingPosition.isSome) = s.landed .sell

variable [DomainDigest] {setup : SnipingSetup} {rid : ContentDigest} {s : RoundTripState}

omit [DomainDigest] in
/-- A position whose buy has filled and whose sell has come to an end. -/
theorem Settled.of_bought (h : s.bought = true) (hskipped : s.skipped = false)
    (hrejected : s.buyRejected = false) (hmissed : s.buyMissed = false)
    (hsell : s.sellAccepted = s.landed .sell) (honce : s.sold.toNat + s.sellMissed.toNat ≤ 1)
    (hreached : (s.sellReference.isSome && s.sellDecisionPosition.isSome &&
      s.sellLandingPosition.isSome) = s.landed .sell) : Settled s := by
  have haccepted := RoundTripState.buyAccepted_of_bought h
  refine ⟨?_, ?_, ?_, hsell, honce, ?_, hreached⟩
  · rw [hskipped, haccepted, hrejected]
    rfl
  · rw [haccepted, RoundTripState.landed_of_bought h]
  · rw [h, hmissed]
    exact le_rfl
  · rw [h]
    exact Bool.toNat_le _

omit [DomainDigest] in
theorem toNat_or {a b : Bool} (h : a.toNat + b.toNat ≤ 1) :
    (a || b).toNat = a.toNat + b.toNat := by
  cases a <;> cases b <;> first | rfl | contradiction

omit [DomainDigest] in
theorem Settled.buy_toNat (h : Settled s) :
    s.buyAccepted.toNat = s.bought.toNat + s.buyMissed.toNat := by
  rw [h.buy, RoundTripState.landed, toNat_or h.buyOnce]

omit [DomainDigest] in
theorem Settled.sell_toNat (h : Settled s) :
    (s.landed .sell).toNat = s.sold.toNat + s.sellMissed.toNat := toNat_or h.sellOnce

omit [DomainDigest] in
/-- A position is sold or still held. -/
theorem Settled.held_toNat (h : Settled s) : s.bought.toNat = s.sold.toNat + s.held.toNat := by
  have hclosed := h.closed
  rw [RoundTripState.held]
  generalize s.bought = bought at hclosed
  generalize s.sold = sold at hclosed
  cases bought <;> cases sold <;> first | rfl | contradiction

/-- **A round trip that waits for nothing has come to its end.** -/
theorem Lawful.settled (h : Lawful setup rid s) (hp : s.pending = none) : Settled s := by
  cases h with
  | suppressed =>
    exact ⟨rfl, rfl, Nat.zero_le _, rfl, Nat.zero_le _, Nat.zero_le _, rfl⟩
  | buyReferenceRejected =>
    exact ⟨rfl, rfl, Nat.zero_le _, rfl, Nat.zero_le _, Nat.zero_le _, rfl⟩
  | buyPreSubmitRejected =>
    exact ⟨rfl, rfl, Nat.zero_le _, rfl, Nat.zero_le _, Nat.zero_le _, rfl⟩
  | buyPending => cases hp
  | buyFailed => exact ⟨rfl, rfl, le_rfl, rfl, Nat.zero_le _, Nat.zero_le _, rfl⟩
  | holding p =>
    rw [p.pending_eq] at hp
    cases hp
  | sellUnavailable p => exact .of_bought p.bought rfl rfl rfl rfl (Nat.zero_le _) rfl
  | sellPreSubmitRejected o => exact .of_bought o.bought rfl rfl rfl rfl (Nat.zero_le _) rfl
  | sellPending o =>
    rw [o.pending_eq] at hp
    cases hp
  | sellFailed o => exact .of_bought o.bought rfl rfl rfl rfl le_rfl rfl
  | closed o => exact .of_bought o.bought rfl rfl rfl rfl le_rfl rfl

omit [DomainDigest] in
/-- The sell leg of a record has landed when its sell has a reference, a decision and a landing. -/
theorem sellLanded_of_sellLeg {sell : Option RoundTripLegRecord} (h : sellLeg s = .ok sell) :
    sell.any (fun leg => leg.landingPosition.isSome)
      = (s.sellReference.isSome && s.sellDecisionPosition.isSome &&
        s.sellLandingPosition.isSome) := by
  rw [sellLeg] at h
  cases hr : s.sellReference with
  | none =>
    simp only [hr] at h
    cases h
    rfl
  | some reference =>
    cases hd : s.sellDecisionPosition with
    | none =>
      simp only [hr, hd] at h
      cases h
      rfl
    | some decision =>
      simp only [hr, hd] at h
      obtain ⟨leg, hleg, h⟩ := bind_eq_ok.mp h
      obtain ⟨_, hleg⟩ := check_bind_eq_ok.mp hleg
      cases hleg
      cases h
      rfl

/-- What a record says of the outcome of its round trip. -/
structure OutcomeCopied (s : RoundTripState) (r : RoundTripRecord) : Prop where
  skipped : (r.status == .cooldownSkipped) = s.skipped
  rejected : r.buyRejected = s.buyRejected
  failed : (r.status == .buyLandedFailed) = s.buyMissed
  closed : r.isClosed = s.sold
  opened : r.isOpen = s.held
  sellLanded : r.sellLanded = (s.sellReference.isSome && s.sellDecisionPosition.isSome &&
    s.sellLandingPosition.isSome)

omit [DomainDigest] in
theorem FinalizedFrom.outcome {market : Market} {profile : String} {mode : ExecutionMode}
    {cash : Int} {time : Nat} {r : RoundTripRecord}
    (h : FinalizedFrom market profile mode rid s cash time r) : OutcomeCopied s r := by
  obtain ⟨_, hstatus, hacquired, _⟩ := h.copies
  obtain ⟨_, sell, _, _, _, _, _, hsell, _, _, _, _, rfl⟩ := h.built
  exact ⟨rfl, rfl, rfl, rfl, rfl, sellLanded_of_sellLeg hsell⟩

/-- What is said of the orders of a completed run. -/
structure OrdersClose (setup : SnipingSetup) (source : HistoricalEventSource)
    (output : SnipingRunOutput) : Prop where
  /-- Each target was suppressed, accepted or rejected. -/
  targets : output.summary.targetCount = output.summary.cooldownSkippedCount
    + output.summary.acceptedBuyCount + output.summary.aggregates.rejectedBuyCount
  /-- An accepted order lands exactly once, and nothing else lands. -/
  lands : ∀ rid side, orderCount AuditRecord.landedOrder? output.recorder.audit rid side
      = orderCount AuditRecord.acceptedOrder? output.recorder.audit rid side ∧
    orderCount AuditRecord.acceptedOrder? output.recorder.audit rid side ≤ 1
  accepted : output.summary.acceptedOrderCount
    = output.summary.filledOrderCount + output.summary.failedOrderCount
  filled : output.summary.filledOrderCount
    = 2 * output.summary.aggregates.closedCount + output.summary.aggregates.openCount
  /-- One record for each launch that was decided, in their order. -/
  records : output.records.map RoundTripRecord.roundtripId
    = (decidedLaunches setup source).map setup.strategy.roundtripId
  unique : (output.records.map RoundTripRecord.roundtripId).Nodup
  written : output.recorder.roundtrips = output.records
  counted : output.summary.targetCount = output.records.length
  /-- A record is of a suppressed, rejected, failed, closed or open round trip. -/
  outcome : ∀ r ∈ output.records, (r.status == .cooldownSkipped).toNat + r.buyRejected.toNat
    + (r.status == .buyLandedFailed).toNat + r.isClosed.toNat + r.isOpen.toNat = 1

omit [DomainDigest] in
theorem total_add (states : Dict ContentDigest RoundTripState) (f g : RoundTripState → Nat) :
    (states.total fun _ s => f s + g s)
      = (states.total fun _ s => f s) + states.total fun _ s => g s :=
  List.sum_map_add

omit [DomainDigest] in
theorem total_congr {states : Dict ContentDigest RoundTripState} {f g : RoundTripState → Nat}
    (h : ∀ s, (∃ rid, states.get? rid = some s) → f s = g s) :
    (states.total fun _ s => f s) = states.total fun _ s => g s :=
  congrArg List.sum (List.map_congr_left fun e he => h e.2 ⟨e.1, Dict.get?_eq_some_iff.mpr he⟩)

/-- **The orders of a completed run close.** -/
theorem orders_close (setup : SnipingSetup) (source : HistoricalEventSource)
    (output : SnipingRunOutput) (h : run setup source = .ok output) :
    OrdersClose setup source output := by
  obtain ⟨state, hstate, hfinished⟩ := run_eq_ok h
  obtain ⟨hreachable, hscheduled⟩ := reachable_of_simulate hstate
  have hcore := hreachable.core
  have haccounts : Accounted state := hreachable.accounted
  have hsettled : ∀ s, (∃ rid, state.states.get? rid = some s) → Settled s := by
    rintro s ⟨rid, hs⟩
    refine (hcore.orders.lawful rid s hs).settled ?_
    by_contra hne
    obtain ⟨kind, hkind⟩ := Option.ne_none_iff_exists'.mp hne
    have hmem := hcore.orders.agenda.mem hs hkind
    rw [show (Moment.between [] state).queue = state.desk.scheduled from rfl, hscheduled] at hmem
    cases hmem
  obtain ⟨policy, hsummary⟩ := hfinished.summary
  -- what the aggregates sum, over the states
  have hsum : ∀ (f : RoundTripRecord → Nat) (g : RoundTripState → Nat),
      (∀ s r, Settled s → OutcomeCopied s r → f r = g s) →
      (output.records.map f).sum = state.states.total fun _ s => g s := by
    refine fun f g hfg => hfinished.sum_map f g fun e he r hr => hfg _ _ ?_ ?_
    · exact hsettled _ ⟨e.1, Dict.get?_eq_some_iff.mpr he⟩
    · exact (finalizeRoundtrip_eq_ok hr).outcome
  have hrejected : output.summary.aggregates.rejectedBuyCount
      = state.states.total fun _ s => s.buyRejected.toNat := by
    rw [hsummary]
    refine (roundtripAggregates_sum rfl (fun _ _ => rfl) output.records).trans ?_
    exact hsum _ _ fun s r _ hr => congrArg Bool.toNat hr.rejected
  have hacceptedSell : output.summary.aggregates.acceptedSellCount
      = state.states.total fun _ s => s.sold.toNat + s.sellMissed.toNat := by
    rw [hsummary]
    refine (roundtripAggregates_sum rfl (fun _ _ => rfl) output.records).trans ?_
    refine hsum _ _ fun s r hs hr => ?_
    rw [hr.sellLanded, hs.reached, hs.sell_toNat]
  have hclosed : output.summary.aggregates.closedCount
      = state.states.total fun _ s => s.sold.toNat := by
    rw [hsummary]
    refine (roundtripAggregates_sum rfl (fun _ _ => rfl) output.records).trans ?_
    exact hsum _ _ fun s r _ hr => congrArg Bool.toNat hr.closed
  have hopen : output.summary.aggregates.openCount
      = state.states.total fun _ s => s.held.toNat := by
    rw [hsummary]
    refine (roundtripAggregates_sum rfl (fun _ _ => rfl) output.records).trans ?_
    exact hsum _ _ fun s r _ hr => congrArg Bool.toNat hr.opened
  have hkeys : output.records.map RoundTripRecord.roundtripId = state.states.keys := hfinished.keys
  -- the counters, over the states
  have htarget : output.summary.targetCount = state.states.total fun _ _ => 1 := by
    rw [hsummary]
    exact haccounts.target
  have hskipped : output.summary.cooldownSkippedCount
      = state.states.total fun _ s => s.skipped.toNat := by
    rw [hsummary]
    exact haccounts.skipped
  have hacceptedBuy : output.summary.acceptedBuyCount
      = state.states.total fun _ s => s.buyAccepted.toNat := by
    rw [hsummary]
    exact haccounts.acceptedBuy
  have hbuys : (state.states.total fun _ s => s.buyAccepted.toNat)
      = (state.states.total fun _ s => s.bought.toNat)
        + state.states.total fun _ s => s.buyMissed.toNat := by
    rw [← total_add]
    exact total_congr fun s hs => (hsettled s hs).buy_toNat
  have hheld : (state.states.total fun _ s => s.bought.toNat)
      = (state.states.total fun _ s => s.sold.toNat)
        + state.states.total fun _ s => s.held.toNat := by
    rw [← total_add]
    exact total_congr fun s hs => (hsettled s hs).held_toNat
  have hfilled : output.summary.filledOrderCount
      = (state.states.total fun _ s => s.bought.toNat)
        + state.states.total fun _ s => s.sold.toNat := by
    rw [hsummary, ← total_add]
    exact (congrArg List.length hfinished.fills).trans haccounts.fills
  have hfailed : output.summary.failedOrderCount
      = (state.states.total fun _ s => s.buyMissed.toNat)
        + state.states.total fun _ s => s.sellMissed.toNat := by
    rw [hsummary, ← haccounts.failedBuy, ← haccounts.failedSell]
    rfl
  have hacceptedOrders : output.summary.acceptedOrderCount
      = output.summary.acceptedBuyCount + output.summary.aggregates.acceptedSellCount := by
    rw [hsummary]
    rfl
  have htargets : (state.states.total fun _ _ => 1)
      = (state.states.total fun _ s => s.skipped.toNat)
        + (state.states.total fun _ s => s.buyAccepted.toNat)
        + state.states.total fun _ s => s.buyRejected.toNat := by
    rw [← total_add, ← total_add]
    exact total_congr fun s hs => (hsettled s hs).decided.symm
  refine ⟨?_, fun rid side => ?_, ?_, ?_, ?_, ?_, ?_, ?_, fun r hr => ?_⟩
  · rw [htarget, hskipped, hacceptedBuy, hrejected, htargets]
  · have hflag : flagOf (·.landed side) (state.states.get? rid)
        = flagOf (·.accepted side) (state.states.get? rid) := by
      cases hs : state.states.get? rid with
      | none => rfl
      | some s =>
        cases side with
        | buy => exact (hsettled s ⟨rid, hs⟩).buy.symm
        | sell => exact (hsettled s ⟨rid, hs⟩).sell.symm
    rw [hfinished.audit, haccounts.landed, haccounts.accepted, hflag]
    exact ⟨rfl, Bool.toNat_le _⟩
  · rw [hacceptedOrders, hacceptedBuy, hacceptedSell, hbuys, total_add, hfilled, hfailed]
    omega
  · rw [hfilled, hclosed, hopen, hheld]
    omega
  · rw [hkeys, ← targets_of_simulate hstate]
    exact hcore.keys
  · rw [hkeys]
    exact state.states.nodup_keys
  · rw [hfinished.roundtrips, haccounts.roundtrips, List.nil_append]
  · have hlength := congrArg List.length hkeys
    rw [List.length_map] at hlength
    rw [htarget, hlength, Dict.total, Dict.keys, List.map_const', List.sum_replicate,
      List.length_map, smul_eq_mul, Nat.mul_one]
  · obtain ⟨s, hs, hfinal⟩ := hfinished.record hr
    have ho := hfinal.outcome
    have hend := hsettled s ⟨_, hs⟩
    rw [ho.skipped, ho.rejected, ho.failed, ho.closed, ho.opened]
    have h1 := hend.decided
    have h2 := hend.buy_toNat
    have h3 := hend.held_toNat
    omega

end Close

attribute [local instance] sampleDigest in
/-- The orders of the sample run close. -/
theorem orders_close_sample : ∃ output, run sampleSetup sampleSource = .ok output ∧
    OrdersClose sampleSetup sampleSource output := by
  obtain ⟨output, h⟩ := run_sample
  exact ⟨output, h, orders_close sampleSetup sampleSource output h⟩

end OnchainBacktest
