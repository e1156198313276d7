import OnchainBacktest.Engine.AccountBooks
import OnchainBacktest.Engine.SnipingFinish

/-!
# The rent of the wallet account

All orders share one wallet account, and any of them may have reserved its rent.  Who pays is
settled by the landings: the first buy that fills, and only in a wallet that opens fresh
(`WalletLaw`).  Everyone else gets the reserved rent back, and no one gets a refund.
-/

set_option autoImplicit false

namespace OnchainBacktest

open Checked

/-! ## The first buy that fills -/

/-- The round trip whose buy a row fills. -/
def AuditRecord.filledBuy? : AuditRecord → Option ContentDigest
  | buyFilled _ rid _ => some rid
  | _ => none

/-- The first round trip whose buy was filled. -/
def firstFilledBuy (audit : List AuditRecord) : Option ContentDigest :=
  audit.findSome? AuditRecord.filledBuy?

theorem firstFilledBuy_append_none {audit rows : List AuditRecord}
    (h : ∀ row ∈ rows, row.filledBuy? = none) :
    firstFilledBuy (audit ++ rows) = firstFilledBuy audit := by
  have hnone : rows.findSome? AuditRecord.filledBuy? = none := List.findSome?_eq_none_iff.mpr h
  rw [firstFilledBuy, List.findSome?_append, hnone, Option.or_none]
  rfl

theorem filledBuy?_of_roundtrip? {row : AuditRecord} (h : row.roundtrip? = none) :
    row.filledBuy? = none := by
  cases row <;> first | rfl | cases h

section Moves

variable [DomainDigest] {setup : SnipingSetup} {rid : ContentDigest} {boundary : Nat}
  {desk desk' : Desk ContentDigest} {old : Option RoundTripState} {new : RoundTripState}

/-- A move that fills no buy: the wallet keeps its creator, and a wallet record is one the round
trip had or one that has paid nothing. -/
structure WalletKept (desk desk' : Desk ContentDigest) (old : Option RoundTripState)
    (new : RoundTripState) : Prop where
  creator : desk'.accounts.uvaCreatedByRoundtripId = desk.accounts.uvaCreatedByRoundtripId
  audit : ∃ row, desk'.recorder.audit = desk.recorder.audit ++ [row] ∧ row.filledBuy? = none
  records : ∀ r ∈ new.accountComponents, r.scope = .wallet →
    (∃ s, old = some s ∧ r ∈ s.accountComponents) ∨
      r.paidAtomic = 0 ∧ ∀ s, old = some s → s.accountComponents = []
  kept : ∀ s, old = some s → ∀ r ∈ s.accountComponents, r.scope = .wallet →
    r ∈ new.accountComponents

/-- A move that fills a buy. -/
structure WalletFilled (p : HeldPosition setup rid) (desk desk' : Desk ContentDigest)
    (old : Option RoundTripState) (new : RoundTripState) : Prop where
  before : old = some p.toSubmittedBuy.state
  after : new = p.state
  record : p.walletRecord = landedWalletRecord desk.accounts p.walletPart rid
  accounts : desk'.accounts = landedWalletState desk.accounts p.plan p.mintPart p.walletPart
  audit : ∃ boundary decision, desk'.recorder.audit
    = desk.recorder.audit ++ [.buyFilled boundary rid decision]

omit [DomainDigest] in
/-- A wallet record of an order that was not filled has paid nothing. -/
theorem unpaid_records {m w : AccountComponentRecord} (hm : m.scope = .mint)
    (hw : w.paidAtomic = 0) {r : AccountComponentRecord} (hr : r ∈ [m, w])
    (hs : r.scope = .wallet) : r.paidAtomic = 0 := by
  rw [List.mem_cons, List.mem_singleton] at hr
  rcases hr with rfl | rfl
  · rw [hm] at hs
    cases hs
  · exact hw

/-- **A move fills a buy, or pays nothing for the wallet.** -/
theorem Move.wallet_cases (h : Move setup rid boundary desk old new desk') :
    WalletKept desk desk' old new ∨
      ∃ p : HeldPosition setup rid, WalletFilled p desk desk' old new := by
  have hsame : ∀ s t : RoundTripState, t.accountComponents = s.accountComponents →
      (∀ r ∈ t.accountComponents, r.scope = .wallet →
        (∃ u, some s = some u ∧ r ∈ u.accountComponents) ∨
          r.paidAtomic = 0 ∧ ∀ u, some s = some u → u.accountComponents = []) ∧
      ∀ u, some s = some u → ∀ r ∈ u.accountComponents, r.scope = .wallet →
        r ∈ t.accountComponents := by
    intro s t ht
    refine ⟨fun r hr _ => .inl ⟨s, rfl, ht ▸ hr⟩, fun u hu r hr _ => ?_⟩
    cases hu
    rw [ht]
    exact hr
  cases h with
  | suppressed => exact .inl ⟨rfl, ⟨_, rfl, rfl⟩, fun _ hr => (nomatch hr), fun _ hs => (nomatch hs)⟩
  | buyReferenceRejected b stable record =>
    refine .inl ⟨rfl, ⟨_, rfl, rfl⟩, fun r hr hs => .inr ⟨?_, fun _ hu => (nomatch hu)⟩,
      fun _ hu => (nomatch hu)⟩
    exact unpaid_records b.parts.mint record.paid_eq hr hs
  | buyPreSubmitRejected b record =>
    refine .inl ⟨rfl, ⟨_, rfl, rfl⟩, fun r hr hs => .inr ⟨?_, fun _ hu => (nomatch hu)⟩,
      fun _ hu => (nomatch hu)⟩
    exact unpaid_records b.parts.mint record.paid_eq hr hs
  | buyAccepted b _ _ _ apply accounts =>
    exact .inl ⟨congrArg _ accounts, ⟨_, congrArg (· ++ _) apply.audit, rfl⟩,
      fun _ hr => (nomatch hr), fun _ hs => (nomatch hs)⟩
  | buyFailed b _ record _ _ apply accounts =>
    refine .inl ⟨congrArg _ accounts, ⟨_, congrArg (· ++ _) apply.audit, rfl⟩,
      fun r hr hs => .inr ⟨?_, fun u hu => ?_⟩, fun u hu r hr => ?_⟩
    · exact unpaid_records b.parts.mint record.paid_eq hr hs
    · cases hu
      rfl
    · cases hu
      cases hr
  | buyFilled p wallet _ _ apply accounts =>
    exact .inr ⟨p, rfl, rfl, wallet, accounts, _, _, congrArg (· ++ _) apply.audit⟩
  | sellUnavailable p =>
    obtain ⟨h1, h2⟩ := hsame p.state _ rfl
    exact .inl ⟨rfl, ⟨_, rfl, rfl⟩, h1, h2⟩
  | sellPreSubmitRejected o =>
    obtain ⟨h1, h2⟩ := hsame o.toHeldPosition.state _ rfl
    exact .inl ⟨rfl, ⟨_, rfl, rfl⟩, h1, h2⟩
  | sellAccepted o _ _ apply accounts =>
    obtain ⟨h1, h2⟩ := hsame o.toHeldPosition.state _ rfl
    exact .inl ⟨congrArg _ accounts, ⟨_, congrArg (· ++ _) apply.audit, rfl⟩, h1, h2⟩
  | sellFailed o _ _ _ apply accounts =>
    obtain ⟨h1, h2⟩ := hsame o.state _ rfl
    exact .inl ⟨congrArg _ accounts, ⟨_, congrArg (· ++ _) apply.audit, rfl⟩, h1, h2⟩
  | closed o _ _ _ apply accounts =>
    have hmint : o.lockedMint.scope = .mint := o.parts.mint
    have hclosed : (closedMintRecord o.lockedMint).scope = .mint := o.parts.mint
    refine .inl ⟨Eq.trans (congrArg WalletProvisioningState.uvaCreatedByRoundtripId accounts) rfl,
      ⟨_, congrArg (· ++ _) apply.audit, rfl⟩, fun r hr hs => .inl ⟨_, rfl, ?_⟩,
      fun u hu r hr hs => ?_⟩
    · rcases List.mem_cons.mp hr with rfl | hr
      · rw [hclosed] at hs
        cases hs
      · exact List.mem_cons_of_mem _ hr
    · cases hu
      rcases List.mem_cons.mp hr with rfl | hr
      · rw [hmint] at hs
        cases hs
      · exact List.mem_cons_of_mem _ hr

end Moves

/-! ## The law of the wallet account -/

section Laws

variable [DomainDigest] (setup : SnipingSetup)

/-- Who has paid for the wallet account. -/
structure WalletLaw (run : RunState) : Prop where
  creator : run.desk.accounts.uvaCreatedByRoundtripId
    = if setup.config.initialUvaState = .fresh then firstFilledBuy run.desk.recorder.audit
      else none
  paid : ∀ rid s, run.states.get? rid = some s → ∀ r ∈ s.accountComponents, r.scope = .wallet →
    (0 < r.paidAtomic ↔ run.desk.accounts.uvaCreatedByRoundtripId = some rid)
  payer : ∀ rid, run.desk.accounts.uvaCreatedByRoundtripId = some rid →
    ∃ s, run.states.get? rid = some s ∧ ∃ r ∈ s.accountComponents, r.scope = .wallet

variable {setup} {run run' : RunState} {rid : ContentDigest} {boundary : Nat}
  {old : Option RoundTripState} {new : RoundTripState}

omit [DomainDigest] in
theorem WalletLaw.quiet (h : WalletLaw setup run) (hs : SameOrders run run') :
    WalletLaw setup run' := by
  obtain ⟨rows, haudit, hrows⟩ := hs.audit
  refine ⟨?_, ?_, ?_⟩
  · rw [hs.accounts, haudit, firstFilledBuy_append_none fun row hrow =>
      filledBuy?_of_roundtrip? (hrows row hrow)]
    exact h.creator
  · rw [hs.states, hs.accounts]
    exact h.paid
  · rw [hs.states, hs.accounts]
    exact h.payer

/-- A move that fills no buy keeps the law. -/
theorem WalletLaw.kept (h : WalletLaw setup run)
    (hm : Moved setup rid boundary old new run run')
    (hk : WalletKept run.desk run'.desk old new) : WalletLaw setup run' := by
  obtain ⟨row, haudit, hrow⟩ := hk.audit
  refine ⟨?_, fun rid' s hs r hr hscope => ?_, fun rid' hc => ?_⟩
  · rw [hk.creator, haudit, firstFilledBuy_append_none fun row' hrow' => by
      rw [List.mem_singleton.mp hrow', hrow]]
    exact h.creator
  · rw [hk.creator]
    rw [hm.states, Dict.get?_set] at hs
    split at hs
    · rename_i he
      subst he
      cases hs
      rcases hk.records r hr hscope with ⟨s', hs', hr'⟩ | ⟨hzero, hnone⟩
      · exact h.paid rid' s' (hm.before.trans hs') r hr' hscope
      · refine ⟨fun hpos => by omega, fun hc => ?_⟩
        -- the creator carries a wallet record, and this round trip had none
        obtain ⟨s', hs', r', hr', _⟩ := h.payer rid' hc
        rw [hnone s' (hm.before.symm.trans hs')] at hr'
        cases hr'
    · exact h.paid rid' s hs r hr hscope
  · rw [hk.creator] at hc
    obtain ⟨s, hs, r, hr, hscope⟩ := h.payer rid' hc
    rw [hm.states, Dict.get?_set]
    split
    · rename_i he
      subst he
      exact ⟨new, rfl, r, hk.kept s (hm.before.symm.trans hs) r hr hscope, hscope⟩
    · exact ⟨s, hs, r, hr, hscope⟩

omit [DomainDigest] in
theorem firstFilledBuy_filled {audit : List AuditRecord} {decision : Nat} :
    firstFilledBuy (audit ++ [.buyFilled boundary rid decision])
      = (firstFilledBuy audit).or (some rid) := by
  rw [firstFilledBuy, List.findSome?_append]
  rfl

/-- What a filled buy has paid for the wallet account. -/
theorem HeldPosition.wallet_paid (p : HeldPosition setup rid) {accounts : WalletProvisioningState}
    (h : p.walletRecord = landedWalletRecord accounts p.walletPart rid) :
    p.walletRecord.paidAtomic
      = if accounts.uvaExists = true then 0 else p.walletPart.maximumReservedAtomic := by
  rw [h, landedWalletRecord_eq p.parts.wallet]
  split <;> rfl

/-- **The first buy that fills pays, and no later one.** -/
theorem WalletLaw.filled (h : WalletLaw setup run)
    (hinit : run.desk.accounts.initialUvaState = setup.config.initialUvaState)
    (hm : Moved setup rid boundary old new run run') {p : HeldPosition setup rid}
    (hz : p.walletPart.maximumReservedAtomic = 0 → run.desk.accounts.uvaExists = true)
    (hf : WalletFilled p run.desk run'.desk old new) : WalletLaw setup run' := by
  obtain ⟨b', decision, haudit⟩ := hf.audit
  have hcreator : run'.desk.accounts.uvaCreatedByRoundtripId
      = if run.desk.accounts.uvaExists = true
        then run.desk.accounts.uvaCreatedByRoundtripId else some rid := by
    rw [hf.accounts, landedWalletState_uvaCreatedBy p.parts.wallet, p.plan_rid]
  have hpaid := p.wallet_paid hf.record
  -- before it is filled the round trip carries no record, so it is not the creator
  have hnot : run.desk.accounts.uvaCreatedByRoundtripId ≠ some rid := by
    intro hc
    obtain ⟨s, hs, r, hr, _⟩ := h.payer rid hc
    have hs' := hm.before.symm.trans hs
    rw [hf.before] at hs'
    cases hs'
    cases hr
  have hmem : ∀ r ∈ new.accountComponents, r.scope = .wallet → r = p.walletRecord := by
    intro r hr hscope
    rw [hf.after] at hr
    rcases List.mem_cons.mp hr with rfl | hr
    · have hmint : p.lockedMint.scope = .mint := p.parts.mint
      rw [hmint] at hscope
      cases hscope
    · exact List.mem_singleton.mp hr
  have hwallet : ∃ r ∈ new.accountComponents, r.scope = .wallet := by
    refine ⟨p.walletRecord, ?_, p.walletRecord_policy.1⟩
    rw [hf.after]
    exact List.mem_cons_of_mem _ List.mem_cons_self
  by_cases hexists : run.desk.accounts.uvaExists = true
  · rw [if_pos hexists] at hcreator hpaid
    refine ⟨?_, fun rid' s hs r hr hscope => ?_, fun rid' hc => ?_⟩
    · rw [hcreator, haudit, firstFilledBuy_filled, h.creator]
      split
      · rename_i hfresh
        have hsome : firstFilledBuy run.desk.recorder.audit ≠ none := by
          have h1 := WalletProvisioningState.uvaExists_iff.mp hexists
          rw [hinit, hfresh, h.creator, if_pos hfresh] at h1
          exact h1.resolve_left (by simp)
        obtain ⟨first, hfirst⟩ := Option.ne_none_iff_exists'.mp hsome
        rw [hfirst]
        rfl
      · rfl
    · rw [hcreator]
      rw [hm.states, Dict.get?_set] at hs
      split at hs
      · rename_i he
        subst he
        cases hs
        rw [hmem r hr hscope, hpaid]
        exact ⟨fun hpos => absurd hpos (Nat.lt_irrefl 0), fun hc => absurd hc hnot⟩
      · exact h.paid rid' s hs r hr hscope
    · rw [hcreator] at hc
      obtain ⟨s, hs, hrecord⟩ := h.payer rid' hc
      rw [hm.states, Dict.get?_set]
      split
      · exact ⟨new, rfl, hwallet⟩
      · exact ⟨s, hs, hrecord⟩
  · rw [if_neg hexists] at hcreator hpaid
    have hnone := not_or.mp (mt WalletProvisioningState.uvaExists_iff.mpr hexists)
    have hfresh : setup.config.initialUvaState = .fresh := by
      cases hc : setup.config.initialUvaState with
      | fresh => rfl
      | prewarmed => exact absurd (hinit.trans hc) hnone.1
    have hfirst := h.creator
    rw [if_pos hfresh, not_not.mp hnone.2] at hfirst
    refine ⟨?_, fun rid' s hs r hr hscope => ?_, fun rid' hc => ?_⟩
    · rw [hcreator, haudit, firstFilledBuy_filled, if_pos hfresh, ← hfirst]
      rfl
    · rw [hcreator]
      rw [hm.states, Dict.get?_set] at hs
      split at hs
      · rename_i he
        subst he
        cases hs
        rw [hmem r hr hscope, hpaid]
        exact ⟨fun _ => rfl, fun _ => Nat.pos_of_ne_zero (mt hz hexists)⟩
      · rename_i hne
        have hbefore := h.paid rid' s hs r hr hscope
        rw [not_not.mp hnone.2] at hbefore
        refine ⟨fun hpos => ?_, fun hc => absurd (Option.some.inj hc).symm hne⟩
        cases hbefore.mp hpos
    · rw [hcreator] at hc
      cases hc
      rw [hm.states, Dict.get?_set, if_pos rfl]
      exact ⟨new, rfl, hwallet⟩

theorem WalletLaw.moved {queue : List (ScheduledAction ContentDigest)} (h : WalletLaw setup run)
    (ho : OrderLaws setup run queue) (hm : Moved setup rid boundary old new run run') :
    WalletLaw setup run' := by
  rcases hm.move.wallet_cases with hk | ⟨p, hf⟩
  · exact h.kept hm hk
  · refine h.filled ho.accounts_initial hm ?_ hf
    exact (p.toPricedBuy.zeroExists_iff rfl).mp
      (ho.zeroExists rid p.toSubmittedBuy.state (hm.before.trans hf.before))

/-- **The law of the wallet account holds at every moment of a run.** -/
theorem Reachable.walletLaw {source : HistoricalEventSource} {m : Moment}
    (h : Reachable setup source m) : WalletLaw setup m.run := by
  refine Reachable.induct (P := fun m => WalletLaw setup m.run) (fun m h₀ => ?_)
    (fun m m' hr hs ih => ?_) h
  · obtain ⟨_, h₀⟩ := check_bind_eq_ok.mp h₀
    obtain ⟨_, _, h₀⟩ := bind_eq_ok.mp h₀
    obtain ⟨run, hrun, h₀⟩ := bind_eq_ok.mp h₀
    cases h₀
    obtain ⟨accounts, haccounts, hrun⟩ := bind_eq_ok.mp hrun
    cases hrun
    obtain ⟨_, rfl⟩ := initialWalletProvisioningState_eq_ok haccounts
    refine ⟨?_, fun _ _ hs => (nomatch hs), fun _ hc => (nomatch hc)⟩
    exact (ite_self none).symm
  · cases hr.turn hs with
    | quiet same => exact ih.quiet same
    | launched _ _ _ _ moved => exact ih.moved hr.core.orders moved
    | acted _ _ _ _ _ moved => exact ih.moved hr.core.orders moved

/-! ## What becomes of a reservation -/

/-- The rent an order has reserved: all of it is paid or all of it is released once the order has
landed, and nothing has happened to it before. -/
def RentSettled (s : RoundTripState) (r : AccountComponentRecord) : Prop :=
  ∃ plan ∈ s.accountReservation, ∃ w ∈ plan.components, w.scope = .wallet ∧
    if s.buyLandingPosition = none then r.paidAtomic = 0 ∧ r.releasedAtomic = 0
    else r.paidAtomic = 0 ∧ r.releasedAtomic = w.maximumReservedAtomic ∨
      r.paidAtomic = w.priced.maximumDepositAtomic ∧
        w.maximumReservedAtomic = w.priced.maximumDepositAtomic ∧ r.releasedAtomic = 0

theorem PricedBuy.rentSettled (b : PricedBuy setup rid) {s : RoundTripState}
    (hplan : s.accountReservation = some b.plan) {r : AccountComponentRecord}
    (h : if s.buyLandingPosition = none then r.paidAtomic = 0 ∧ r.releasedAtomic = 0
      else IsLandedRecordOf b.walletPart rid r) : RentSettled s r := by
  refine ⟨b.plan, hplan, b.walletPart, ?_, b.parts.wallet, ?_⟩
  · rw [b.parts.components]
    exact List.mem_cons_of_mem _ List.mem_cons_self
  · split at h
    · rename_i hn
      rw [if_pos hn]
      exact h
    · rename_i hn
      rw [if_neg hn]
      rcases h with h | ⟨hpos, h⟩
      · exact .inl ⟨h.paid_eq, h.released_eq⟩
      · have hfull := b.wallet_full.resolve_left (Nat.ne_of_gt hpos)
        exact .inr ⟨h.paid_eq.trans hfull, hfull, h.released_eq⟩

/-- **A wallet record refunds nothing and settles the rent its order has reserved.** -/
theorem Lawful.rentSettled {s : RoundTripState} (h : Lawful setup rid s)
    {r : AccountComponentRecord} (hr : r ∈ s.accountComponents) (hs : r.scope = .wallet) :
    r.refundedAtomic = 0 ∧ RentSettled s r := by
  have hsecond : ∀ m w : AccountComponentRecord, m.scope = .mint → r ∈ [m, w] → r = w := by
    intro m w hm hr
    rw [List.mem_cons, List.mem_singleton] at hr
    rcases hr with rfl | rfl
    · rw [hm] at hs
      cases hs
    · rfl
  have hheld : ∀ p : HeldPosition setup rid, ∀ t : RoundTripState,
      t.accountReservation = some p.plan → t.buyLandingPosition = some p.buyPosition →
      r = p.walletRecord → r.refundedAtomic = 0 ∧ RentSettled t r := by
    rintro p t hplan hlanded rfl
    refine ⟨p.walletRecord_of.refunded_eq, p.rentSettled hplan ?_⟩
    rw [if_neg (by simp [hlanded])]
    exact p.walletRecord_of
  cases h with
  | suppressed => cases hr
  | buyReferenceRejected b _ record =>
    obtain rfl := hsecond _ _ b.parts.mint hr
    exact ⟨record.refunded_eq, b.rentSettled rfl ⟨record.paid_eq, record.released_eq⟩⟩
  | buyPreSubmitRejected b record =>
    obtain rfl := hsecond _ _ b.parts.mint hr
    exact ⟨record.refunded_eq, b.rentSettled rfl ⟨record.paid_eq, record.released_eq⟩⟩
  | buyPending => cases hr
  | buyFailed b _ record =>
    obtain rfl := hsecond _ _ b.parts.mint hr
    exact ⟨record.refunded_eq, b.rentSettled rfl (.inl record)⟩
  | holding p => exact hheld p _ rfl rfl (hsecond _ _ p.parts.mint hr)
  | sellUnavailable p => exact hheld p _ rfl rfl (hsecond _ _ p.parts.mint hr)
  | sellPreSubmitRejected o =>
    exact hheld o.toHeldPosition _ rfl rfl (hsecond _ _ o.parts.mint hr)
  | sellPending o => exact hheld o.toHeldPosition _ rfl rfl (hsecond _ _ o.parts.mint hr)
  | sellFailed o => exact hheld o.toHeldPosition _ rfl rfl (hsecond _ _ o.parts.mint hr)
  | closed o => exact hheld o.toHeldPosition _ rfl rfl (hsecond _ _ o.parts.mint hr)

/-- What the ledger has locked for a round trip in the wallet account: what its wallet record has
paid. -/
theorem Lawful.walletDeposit_eq {s : RoundTripState} (h : Lawful setup rid s) (schema : String)
    (a : AssetId) :
    s.holds (.deposit none schema a)
      = depositsOf (·.paidAtomic) s.accountComponents (.lockedDeposit none schema) a := by
  rw [RoundTripState.holds, sub_eq_self, depositsOf]
  refine List.sum_eq_zero fun x hx => ?_
  obtain ⟨r, hr, rfl⟩ := List.mem_map.mp hx
  split
  · rename_i hc
    have hscope : r.scope = .wallet := by
      cases hs : r.scope with
      | wallet => rfl
      | mint =>
        rw [lockedDepositAccountId, hs] at hc
        cases hc.1
    rw [(h.rentSettled hr hscope).1]
    rfl
  · rfl

variable (setup)

/-- **The rent of the wallet account is paid once.**  At every moment of a run: a round trip has
paid it exactly if the wallet opened fresh and its buy was the first to fill, and that round trip
is there; whoever reserved it besides got all of it back when the order landed; nobody got a
refund.  The locked balance is the sum of the locked deltas of the records, and every record passes
its own checks. -/
theorem wallet_rent_paid_once (source : HistoricalEventSource) (m : Moment)
    (h : Reachable setup source m) :
    (∀ rid s, m.run.states.get? rid = some s → ∀ r ∈ s.accountComponents, r.scope = .wallet →
      (0 < r.paidAtomic ↔ setup.config.initialUvaState = .fresh ∧
        firstFilledBuy m.run.desk.recorder.audit = some rid) ∧
      r.refundedAtomic = 0 ∧ RentSettled s r) ∧
    (∀ rid, setup.config.initialUvaState = .fresh →
      firstFilledBuy m.run.desk.recorder.audit = some rid →
      ∃ s, m.run.states.get? rid = some s ∧
        ∃ r ∈ s.accountComponents, r.scope = .wallet ∧ 0 < r.paidAtomic) ∧
    (∀ rid s, m.run.states.get? rid = some s → ∀ schema a,
      ledgerPosted (correlated m.run.desk.recorder.ledger rid) (.deposit none schema a)
        = depositsOf (·.paidAtomic) s.accountComponents (.lockedDeposit none schema) a) ∧
    (∀ a, m.run.desk.portfolio.kindBalance .portfolioLocked a
      = m.run.states.total fun _ s => (s.accountComponents.map fun r =>
          if r.assetId = a then r.lockedDeltaAtomic else 0).sum) ∧
    ∀ rid s, m.run.states.get? rid = some s → ∀ r ∈ s.accountComponents, r.postInit = .ok () := by
  have hw := h.walletLaw
  have hlawful := h.core.orders.lawful
  have hcreator : ∀ rid, m.run.desk.accounts.uvaCreatedByRoundtripId = some rid ↔
      setup.config.initialUvaState = .fresh ∧
        firstFilledBuy m.run.desk.recorder.audit = some rid := by
    intro rid
    rw [hw.creator]
    split
    · rename_i hfresh
      exact ⟨fun hc => ⟨hfresh, hc⟩, fun hc => hc.2⟩
    · rename_i hfresh
      exact ⟨fun hc => (nomatch hc), fun hc => absurd hc.1 hfresh⟩
  refine ⟨fun rid s hs r hr hscope => ⟨?_, (hlawful rid s hs).rentSettled hr hscope⟩,
    fun rid hfresh hfirst => ?_, fun rid s hs schema a => ?_, fun a => ?_,
    fun rid s hs => (hlawful rid s hs).component_valid⟩
  · exact (hw.paid rid s hs r hr hscope).trans (hcreator rid)
  · have hc := (hcreator rid).mpr ⟨hfresh, hfirst⟩
    obtain ⟨s, hs, r, hr, hscope⟩ := hw.payer rid hc
    exact ⟨s, hs, r, hr, hscope, (hw.paid rid s hs r hr hscope).mpr hc⟩
  · rw [h.kept.posted rid s hs]
    exact (hlawful rid s hs).walletDeposit_eq schema a
  · refine (h.kept.holds_eq (.locked a)).trans ?_
    rw [Dict.total, Dict.total]
    refine congrArg List.sum (List.map_congr_left fun e he => ?_)
    exact (hlawful e.1 e.2 (Dict.get?_eq_some_iff.mpr he)).locked_eq a

end Laws

attribute [local instance] sampleDigest in
/-- In the sample run the locked balance is what the records have locked. -/
theorem wallet_rent_paid_once_sample : ∃ state,
    Reachable sampleSetup sampleSource (.between [] state) ∧
    (∀ rid, firstFilledBuy state.desk.recorder.audit = some rid → ∃ s,
      state.states.get? rid = some s ∧
        ∃ r ∈ s.accountComponents, r.scope = .wallet ∧ 0 < r.paidAtomic) ∧
    ∀ a, state.desk.portfolio.kindBalance .portfolioLocked a
      = state.states.total fun _ s => (s.accountComponents.map fun r =>
          if r.assetId = a then r.lockedDeltaAtomic else 0).sum := by
  obtain ⟨state, h⟩ := reachable_sample
  obtain ⟨_, hpayer, _, hlocked, _⟩ := wallet_rent_paid_once sampleSetup sampleSource _ h
  exact ⟨state, h, fun rid => hpayer rid rfl, hlocked⟩

end OnchainBacktest
