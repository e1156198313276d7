import OnchainBacktest.Engine.RunBooks

/-!
# Solvency

The reserved balance of an asset is what the landings in the queue have reserved, no balance the
portfolio owns is negative, and so every settlement that can be built for an accepted order finds
its reservation in the portfolio (`reservations_conserved`).
-/

set_option autoImplicit false

namespace OnchainBacktest

open Checked

/-! ## What a landing has reserved -/

/-- The reservation of the order that lands. -/
def RoundTripState.landingReservation (s : RoundTripState) (kind : ActionKind) : AssetAmounts :=
  match kind, s.intent, s.buyNetworkCost, s.accountReservation, s.sellNetworkCost with
  | .buyLanding, some intent, some network, some plan, _ =>
    buyReservation intent.toPositionIntent network plan
  | .sellLanding, some intent, _, _, some network =>
    sellReservation intent.toPositionIntent s.acquiredTokenAmountAtomic network
  | _, _, _, _, _ => []

/-- The reservation of a scheduled action; a decision has none. -/
def RunState.reservationOf (run : RunState) (action : ScheduledAction ContentDigest) :
    AssetAmounts :=
  ((run.states.get? action.subject).map fun s => s.landingReservation action.kind).getD []

theorem RoundTripState.reservation_of_pending {s : RoundTripState} {kind : ActionKind}
    (h : s.pending = some kind) : s.reservation = s.landingReservation kind := by
  rw [reservation, landingReservation.eq_def, h]
  cases kind with
  | buyLanding => cases s.intent <;> cases s.buyNetworkCost <;> cases s.accountReservation <;> rfl
  | sellDecision => rfl
  | sellLanding => cases s.intent <;> cases s.sellNetworkCost <;> rfl

/-! ## No holding is negative -/

section Holdings

variable [DomainDigest] {setup : SnipingSetup} {rid : ContentDigest} {s : RoundTripState}

theorem HeldPosition.refunded_le (p : HeldPosition setup rid) :
    ∀ r ∈ [p.lockedMint, p.walletRecord], r.refundedAtomic ≤ r.paidAtomic := by
  intro r hr
  rw [List.mem_cons, List.mem_singleton] at hr
  rcases hr with rfl | rfl
  · exact Nat.zero_le _
  · rw [p.walletRecord_of.refunded_eq]
    exact Nat.zero_le _

theorem HeldPosition.refunded_le_closed (p : HeldPosition setup rid) :
    ∀ r ∈ [closedMintRecord p.lockedMint, p.walletRecord], r.refundedAtomic ≤ r.paidAtomic := by
  intro r hr
  rcases List.mem_cons.mp hr with rfl | hr
  · exact Nat.le_refl _
  · exact p.refunded_le r (List.mem_cons_of_mem _ hr)

/-- No record refunds more than it has paid. -/
theorem Lawful.refunded_le (h : Lawful setup rid s) :
    ∀ r ∈ s.accountComponents, r.refundedAtomic ≤ r.paidAtomic := by
  have hunpaid : ∀ m r : AccountComponentRecord, m.refundedAtomic = 0 → r.refundedAtomic = 0 →
      ∀ r' ∈ [m, r], r'.refundedAtomic ≤ r'.paidAtomic := by
    intro m r hm hr r' hr'
    rw [List.mem_cons, List.mem_singleton] at hr'
    rcases hr' with rfl | rfl
    · omega
    · omega
  cases h with
  | suppressed => exact fun _ hr => (nomatch hr)
  | buyReferenceRejected b stable record => exact hunpaid _ _ rfl record.refunded_eq
  | buyPreSubmitRejected b record => exact hunpaid _ _ rfl record.refunded_eq
  | buyPending => exact fun _ hr => (nomatch hr)
  | buyFailed b failed record => exact hunpaid _ _ rfl record.refunded_eq
  | holding p => exact p.refunded_le
  | sellUnavailable p => exact p.refunded_le
  | sellPreSubmitRejected o => exact o.refunded_le
  | sellPending o => exact o.refunded_le
  | sellFailed o => exact o.refunded_le
  | closed o => exact o.refunded_le_closed

omit [DomainDigest] in
theorem depositsOf_mono {f g : AccountComponentRecord → Nat}
    {records : List AccountComponentRecord} (h : ∀ r ∈ records, f r ≤ g r) (account : AccountId)
    (a : AssetId) : depositsOf f records account a ≤ depositsOf g records account a := by
  refine List.sum_le_sum fun r hr => ?_
  have hle := h r hr
  split
  · omega
  · exact le_refl _

omit [DomainDigest] in
theorem depositTotal_mono {f g : AccountComponentRecord → Nat}
    {records : List AccountComponentRecord} (h : ∀ r ∈ records, f r ≤ g r) (a : AssetId) :
    depositTotal f records a ≤ depositTotal g records a := by
  refine List.sum_le_sum fun r hr => ?_
  have hle := h r hr
  split
  · omega
  · exact le_refl _

/-- **A round trip holds no negative amount.** -/
theorem Lawful.holds_nonneg (h : Lawful setup rid s) (holding : Holding) :
    0 ≤ s.holds holding := by
  cases holding with
  | reserved a => exact Int.natCast_nonneg _
  | deposit mintOf schema a =>
    exact Int.sub_nonneg.mpr (depositsOf_mono h.refunded_le _ a)
  | locked a => exact Int.sub_nonneg.mpr (depositTotal_mono h.refunded_le a)
  | owed a =>
    rw [RoundTripState.holds]
    split
    · exact Int.natCast_nonneg _
    · exact le_refl _

/-- What one round trip holds the portfolio holds. -/
theorem holds_le {m : Moment} {source : HistoricalEventSource} (h : Reachable setup source m)
    (hs : m.run.states.get? rid = some s) (holding : Holding) :
    s.holds holding ≤ m.run.desk.portfolio.holds holding := by
  rw [h.kept.holds_eq holding, Dict.total]
  have hmem := Dict.get?_eq_some_iff.mp hs
  refine List.single_le_sum (fun x hx => ?_) _
    (List.mem_map_of_mem (f := fun e => RoundTripState.holds e.2 holding) hmem)
  obtain ⟨e, he, rfl⟩ := List.mem_map.mp hx
  exact (h.core.orders.lawful e.1 e.2 (Dict.get?_eq_some_iff.mpr he)).holds_nonneg holding

end Holdings

/-! ## Settlements -/

section Settlements

variable [DomainDigest] (setup : SnipingSetup)

/-- A settlement transaction one of the four builders makes for an order that lands, whatever the
venue quotes. -/
inductive SettlementOf (accounts : WalletProvisioningState) (s : RoundTripState) :
    ActionKind → LedgerTransaction → Prop
  | failedBuy {intent : RoundTripIntent} {network : NetworkCostQuote}
    {plan : AccountReservationPlan} {boundary : Nat} {code : String} {t : LedgerTransaction}
    (intent_eq : s.intent = some intent) (network_eq : s.buyNetworkCost = some network)
    (plan_eq : s.accountReservation = some plan)
    (built : failedBuySettlement intent.toPositionIntent boundary network plan
      SolanaSnipingCostModel.feeCollectorAccountId code = .ok t) :
    SettlementOf accounts s .buyLanding t
  | successfulBuy {intent : RoundTripIntent} {network : NetworkCostQuote}
    {plan : AccountReservationPlan} {transition : AccountProvisioningTransition}
    {curves : Curves} {time boundary : Nat} {quote : ProtocolQuote} {t : LedgerTransaction}
    (intent_eq : s.intent = some intent) (network_eq : s.buyNetworkCost = some network)
    (plan_eq : s.accountReservation = some plan)
    (accounts_eq : applyBuyAccountTransition accounts plan true = .ok transition)
    (quoted : (setup.protocol.view curves).quoteBuy intent.toPositionIntent time = .ok quote)
    (built : successfulBuySettlement intent.toPositionIntent boundary quote network plan transition
      SolanaSnipingCostModel.feeCollectorAccountId = .ok t) :
    SettlementOf accounts s .buyLanding t
  | failedSell {intent : RoundTripIntent} {network : NetworkCostQuote} {boundary : Nat}
    {code : String} {t : LedgerTransaction}
    (intent_eq : s.intent = some intent) (network_eq : s.sellNetworkCost = some network)
    (built : failedSellSettlement intent.toPositionIntent boundary s.acquiredTokenAmountAtomic
      network SolanaSnipingCostModel.feeCollectorAccountId code = .ok t) :
    SettlementOf accounts s .sellLanding t
  | successfulSell {intent : RoundTripIntent} {network : NetworkCostQuote}
    {transition : AccountProvisioningTransition} {curves : Curves} {time boundary : Nat}
    {quote : ProtocolQuote} {t : LedgerTransaction}
    (intent_eq : s.intent = some intent) (network_eq : s.sellNetworkCost = some network)
    (accounts_eq : applySellAccountTransition accounts intent.roundtripId intent.assetId
      s.accountComponents true = .ok transition)
    (quoted : (setup.protocol.view curves).quoteSell intent.toPositionIntent
      s.acquiredTokenAmountAtomic time = .ok quote)
    (built : successfulSellSettlement intent.toPositionIntent boundary quote network
      s.acquiredTokenAmountAtomic transition SolanaSnipingCostModel.feeCollectorAccountId = .ok t) :
    SettlementOf accounts s .sellLanding t

variable {setup} {rid : ContentDigest} {accounts : WalletProvisioningState} {s : RoundTripState}
  {kind : ActionKind} {t : LedgerTransaction}

/-- **A settlement gives up the reservation of its order, and refunds deposits it holds.** -/
theorem SettlementOf.settles (h : SettlementOf setup accounts s kind t)
    (hl : Lawful setup rid s) (hp : s.pending = some kind) :
    ∃ paid refunded owed, Settles t rid s.reservation paid refunded owed ∧
      ∀ mintOf schema a, depositsOf (·.refundedAtomic) refunded (.lockedDeposit mintOf schema) a
        ≤ s.holds (.deposit mintOf schema a) := by
  have hfee : SolanaSnipingCostModel.feeCollectorAccountId.kind = .networkFee := rfl
  have hnone : ∀ mintOf schema a, depositsOf (·.refundedAtomic) []
      (.lockedDeposit mintOf schema) a ≤ s.holds (.deposit mintOf schema a) := fun _ _ _ =>
    hl.holds_nonneg _
  cases h with
  | failedBuy intent_eq network_eq plan_eq built =>
    obtain ⟨b, rfl⟩ := hl.of_buyLanding hp
    cases intent_eq
    cases network_eq
    cases plan_eq
    have hs := failedBuySettlement_eq_ok hfee built
    rw [b.intent_rid] at hs
    exact ⟨_, _, _, hs, hnone⟩
  | @successfulBuy intent network plan transition curves time boundary quote _ intent_eq network_eq
      plan_eq accounts_eq quoted built =>
    obtain ⟨b, rfl⟩ := hl.of_buyLanding hp
    cases intent_eq
    cases network_eq
    cases plan_eq
    have hview : ProtocolView.Sound (setup.protocol.view curves) := setup.protocol.view_sound
    have hs := successfulBuySettlement_eq_ok hfee (hview.buy quoted) built
    rw [b.intent_rid] at hs
    exact ⟨_, _, _, hs, hnone⟩
  | failedSell intent_eq network_eq built =>
    obtain ⟨o, rfl⟩ := hl.of_sellLanding hp
    cases intent_eq
    cases network_eq
    have hs := failedSellSettlement_eq_ok hfee built
    rw [o.intent_rid] at hs
    rw [o.reservation_eq]
    exact ⟨_, _, _, hs, hnone⟩
  | @successfulSell intent network transition curves time boundary quote _ intent_eq network_eq
      accounts_eq quoted built =>
    obtain ⟨o, rfl⟩ := hl.of_sellLanding hp
    cases intent_eq
    cases network_eq
    have hview : ProtocolView.Sound (setup.protocol.view curves) := setup.protocol.view_sound
    have hs := successfulSellSettlement_eq_ok hfee (hview.sell quoted) built
    rw [o.intent_rid] at hs accounts_eq
    obtain ⟨_, _, hrecords⟩ := o.closed_records accounts_eq
    rw [hrecords] at hs
    rw [o.reservation_eq]
    refine ⟨_, _, _, hs, fun mintOf schema a => ?_⟩
    rw [o.holds_eq]
    show _ ≤ o.toHeldPosition.state.holds _
    rw [o.toHeldPosition.holds_eq]
    show _ ≤ depositsOf (·.paidAtomic) [o.lockedMint, o.walletRecord] _ a
    rw [← o.depositsOf_paid_closed]
    exact depositsOf_mono o.refunded_le_closed _ a

/-- **The reserved balance is what the queue has reserved.** -/
theorem Reachable.reserved_eq {source : HistoricalEventSource} {m : Moment}
    (h : Reachable setup source m) (a : AssetId) :
    m.run.desk.portfolio.reserved a
      = (m.queue.map fun action => (Tally.amount (m.run.reservationOf action) a : Int)).sum := by
  have hheld : m.run.desk.portfolio.reserved a
      = m.run.states.total fun _ s => (Tally.amount s.reservation a : Int) :=
    h.kept.holds_eq (.reserved a)
  have hqueue := h.core.orders.agenda.sum_eq fun rid kind =>
    (Tally.amount (((m.run.states.get? rid).map fun s => s.landingReservation kind).getD []) a
      : Int)
  rw [List.map_map] at hqueue
  refine hheld.trans (Eq.trans ?_ hqueue.symm)
  rw [Dict.total, Dict.total]
  refine congrArg List.sum (List.map_congr_left fun e he => ?_)
  rw [Dict.get?_eq_some_iff.mpr he]
  cases hp : e.2.pending with
  | none => simp [RoundTripState.reservation, hp]
  | some kind => simp [RoundTripState.reservation_of_pending hp]

/-- **Every settlement of an order in flight is accepted by the portfolio.** -/
theorem Reachable.settlement_preview {source : HistoricalEventSource} {m : Moment}
    (h : Reachable setup source m) {action : ScheduledAction ContentDigest}
    (ha : action ∈ m.queue) (hs : m.run.states.get? action.subject = some s)
    (ht : SettlementOf setup m.run.desk.accounts s action.kind t) :
    ∃ c, m.run.desk.portfolio.preview t = .ok c := by
  have horders := h.core.orders
  obtain ⟨s', hs', hp⟩ := horders.agenda.take
    (List.mem_map_of_mem (f := fun a => (a.subject, a.kind)) ha)
  cases hs.symm.trans hs'
  obtain ⟨paid, refunded, owed, hsettles, hrefund⟩ := ht.settles (horders.lawful _ _ hs) hp
  refine hsettles.preview h.kept.booked.sound (fun a => holds_le h hs (.reserved a)) ?_
  intro account a hk
  match account, hk with
  | .lockedDeposit mintOf schema, _ =>
    exact (hrefund mintOf schema a).trans (holds_le h hs (.deposit mintOf schema a))

variable (setup)

/-- **Reservations are conserved.**  In every state a run reaches the reserved balance of each asset
is the sum of what the scheduled landings have reserved, and no available, reserved, locked or
receivable balance is negative; so no settlement of an accepted order is refused by the portfolio.
When the run ends nothing is reserved. -/
theorem reservations_conserved (source : HistoricalEventSource) :
    (∀ m, Reachable setup source m →
      (∀ a, m.run.desk.portfolio.reserved a
        = (m.queue.map fun action => (Tally.amount (m.run.reservationOf action) a : Int)).sum) ∧
      (∀ account a, account.kind ∈ [AccountKind.portfolioAvailable, .portfolioReserved,
          .portfolioLocked, .receivable] → 0 ≤ m.run.desk.portfolio.balance account a) ∧
      ∀ action ∈ m.queue, ∀ s, m.run.states.get? action.subject = some s →
        ∀ t, SettlementOf setup m.run.desk.accounts s action.kind t →
          ∃ c, m.run.desk.portfolio.preview t = .ok c) ∧
    ∀ run, simulate setup source = .ok run → ∀ a, run.desk.portfolio.reserved a = 0 := by
  refine ⟨fun m h => ⟨h.reserved_eq, fun account a hk => ?_, fun action ha s hs t ht => ?_⟩,
    fun run h a => ?_⟩
  · refine h.kept.booked.sound.nonneg account a ?_
    cases hkind : account.kind <;> simp [hkind, AccountKind.owned] at hk ⊢
  · exact h.settlement_preview ha hs ht
  · obtain ⟨hreach, hscheduled⟩ := reachable_of_simulate h
    have hqueue : (Moment.between [] run).queue = [] := hscheduled
    refine (hreach.reserved_eq a).trans ?_
    rw [hqueue]
    rfl

end Settlements

end OnchainBacktest
