import OnchainBacktest.Engine.RoundTripMoves
import OnchainBacktest.Lib.Agenda

/-!
# What a move does

The effects of a move, one lemma for each thing a run keeps account of: the state it leads to is
lawful, the action it schedules is the one that state waits for, the wallet only gains its
accumulator, and what it posts is the difference of what the round trip holds.

`Holding` names what a round trip can hold: reserved amounts, the deposit of one account, all its
deposits, and the cashback it is owed.  The same names are read off postings (`postedTo`), off a
ledger (`ledgerPosted`), off a portfolio and off the state of a round trip.
-/

set_option autoImplicit false

namespace OnchainBacktest

open Checked

/-! ## Holdings -/

/-- What a round trip can hold. -/
inductive Holding
  | reserved (asset : AssetId)
  | deposit (mintOf : Option ContentDigest) (schema : String) (asset : AssetId)
  | locked (asset : AssetId)
  | owed (asset : AssetId)

/-- What postings do to a holding. -/
def postedTo (postings : List Posting) : Holding → Int
  | .reserved a => delta postings (.reserved a) a
  | .deposit mintOf schema a => delta postings (.lockedDeposit mintOf schema) a
  | .locked a => kindDelta postings .portfolioLocked a
  | .owed a => kindDelta postings .receivable a

/-- What a ledger does to a holding. -/
def ledgerPosted (ledger : List LedgerTransaction) (h : Holding) : Int :=
  (ledger.map fun t => postedTo t.postings h).sum

/-- What a portfolio holds. -/
def PortfolioState.holds (s : PortfolioState) : Holding → Int
  | .reserved a => s.reserved a
  | .deposit mintOf schema a => s.balance (.lockedDeposit mintOf schema) a
  | .locked a => s.kindBalance .portfolioLocked a
  | .owed a => s.kindBalance .receivable a

/-- What a round trip holds. -/
def RoundTripState.holds (s : RoundTripState) : Holding → Int
  | .reserved a => Tally.amount s.reservation a
  | .deposit mintOf schema a =>
    depositsOf (·.paidAtomic) s.accountComponents (.lockedDeposit mintOf schema) a
      - depositsOf (·.refundedAtomic) s.accountComponents (.lockedDeposit mintOf schema) a
  | .locked a => depositTotal (·.paidAtomic) s.accountComponents a
      - depositTotal (·.refundedAtomic) s.accountComponents a
  | .owed a => if s.target.quoteAssetId = a then (s.cashbackReceivableAtomic : Int) else 0

@[simp] theorem ledgerPosted_nil (h : Holding) : ledgerPosted [] h = 0 := rfl

@[simp] theorem ledgerPosted_append (ledger ledger' : List LedgerTransaction) (h : Holding) :
    ledgerPosted (ledger ++ ledger') h = ledgerPosted ledger h + ledgerPosted ledger' h := by
  simp [ledgerPosted]

@[simp] theorem ledgerPosted_singleton (t : LedgerTransaction) (h : Holding) :
    ledgerPosted [t] h = postedTo t.postings h := by
  simp [ledgerPosted]

/-- **What a booked portfolio holds is what its ledger has posted.** -/
theorem Desk.Booked.holds {ρ : Type} {initialAvailable : List (AssetId × Nat)} {desk : Desk ρ}
    (hb : desk.Booked initialAvailable) (h : Holding) :
    desk.portfolio.holds h = ledgerPosted desk.recorder.ledger h := by
  cases h with
  | reserved a => exact hb.reserved a
  | deposit mintOf schema a =>
    refine (hb.balance _ a).trans ?_
    rw [balance_initial _ (by simp), zero_add]
    rfl
  | locked a =>
    refine (hb.kindBalance _ a).trans ?_
    rw [kindBalance_initial _ (by simp), zero_add]
    rfl
  | owed a =>
    refine (hb.kindBalance _ a).trans ?_
    rw [kindBalance_initial _ (by simp), zero_add]
    rfl

section Transactions

variable {t : LedgerTransaction} {rid : ContentDigest} {amounts : AssetAmounts}
  {paid refunded : List AccountComponentRecord} {owed : AssetId → Int}

/-- What a reservation posts. -/
theorem Reserves.postedTo (hr : Reserves t rid amounts) (h : Holding) :
    postedTo t.postings h
      = match h with
        | .reserved a => (Tally.amount amounts a : Int)
        | _ => 0 := by
  cases h with
  | reserved a => exact hr.books.reserved a
  | deposit mintOf schema a => exact hr.books.locked mintOf schema a
  | locked a => exact hr.books.lockedTotal a
  | owed a => exact hr.books.owed a

/-- What a settlement posts. -/
theorem Settles.postedTo (hs : Settles t rid amounts paid refunded owed) (h : Holding) :
    postedTo t.postings h
      = match h with
        | .reserved a => -(Tally.amount amounts a : Int)
        | .deposit mintOf schema a =>
          depositsOf (·.paidAtomic) paid (.lockedDeposit mintOf schema) a
            - depositsOf (·.refundedAtomic) refunded (.lockedDeposit mintOf schema) a
        | .locked a =>
          depositTotal (·.paidAtomic) paid a - depositTotal (·.refundedAtomic) refunded a
        | .owed a => owed a := by
  cases h with
  | reserved a => exact hs.books.reserved a
  | deposit mintOf schema a => exact hs.books.locked mintOf schema a
  | locked a => exact hs.books.lockedTotal a
  | owed a => exact hs.books.owed a

end Transactions

/-- Holdings depend on four things of a state. -/
theorem RoundTripState.holds_congr (s s' : RoundTripState) (hr : s'.reservation = s.reservation)
    (hc : s'.accountComponents = s.accountComponents)
    (hq : s'.target.quoteAssetId = s.target.quoteAssetId)
    (hb : s'.cashbackReceivableAtomic = s.cashbackReceivableAtomic) (h : Holding) :
    s'.holds h = s.holds h := by
  cases h <;> simp only [RoundTripState.holds, hr, hc, hq, hb]

/-- A round trip that has reserved, paid and earned nothing holds nothing. -/
theorem RoundTripState.holds_eq_zero {s : RoundTripState} (hr : s.reservation = [])
    (hp : ∀ r ∈ s.accountComponents, r.paidAtomic = 0)
    (hf : ∀ r ∈ s.accountComponents, r.refundedAtomic = 0)
    (hb : s.cashbackReceivableAtomic = 0) (h : Holding) : s.holds h = 0 := by
  have hzero : ∀ f : AccountComponentRecord → Nat, (∀ r ∈ s.accountComponents, f r = 0) →
      (∀ account a, depositsOf f s.accountComponents account a = 0) ∧
        ∀ a, depositTotal f s.accountComponents a = 0 := by
    intro f hf
    refine ⟨fun account a => List.sum_eq_zero fun x hx => ?_,
      fun a => List.sum_eq_zero fun x hx => ?_⟩
    · obtain ⟨r, hr, rfl⟩ := List.mem_map.mp hx
      simp [hf r hr]
    · obtain ⟨r, hr, rfl⟩ := List.mem_map.mp hx
      simp [hf r hr]
  cases h with
  | reserved a => simp [RoundTripState.holds, hr]
  | deposit mintOf schema a =>
    rw [RoundTripState.holds, (hzero _ hp).1, (hzero _ hf).1, sub_zero]
  | locked a => rw [RoundTripState.holds, (hzero _ hp).2, (hzero _ hf).2, sub_zero]
  | owed a => simp [RoundTripState.holds, hb]

/-! ## The wallet of a step -/

/-- What a step does to the wallet: it stays valid, and only gains its accumulator. -/
structure WalletStep (accounts accounts' : WalletProvisioningState) : Prop where
  initial : accounts'.initialUvaState = accounts.initialUvaState
  valid : accounts.Valid → accounts'.Valid
  uvaExists : accounts.uvaExists = true → accounts'.uvaExists = true

theorem WalletStep.of_eq {accounts accounts' : WalletProvisioningState}
    (h : accounts' = accounts) : WalletStep accounts accounts' := by
  rw [h]
  exact ⟨rfl, id, id⟩

theorem landedWalletState_uvaExists {accounts : WalletProvisioningState}
    {plan : AccountReservationPlan} {m w : AccountReservationComponent} (hw : w.scope = .wallet) :
    (landedWalletState accounts plan m w).uvaExists = true := by
  rw [WalletProvisioningState.uvaExists_iff, landedWalletState_uvaCreatedBy hw]
  split
  · rename_i he
    exact WalletProvisioningState.uvaExists_iff.mp he
  · exact .inr (Option.some_ne_none _)

/-! ## The ledger of a step -/

/-- What a step commits for one round trip: nothing, or one transaction of it. -/
structure Committed (rid : ContentDigest) (desk desk' : Desk ContentDigest)
    (ts : List LedgerTransaction) : Prop where
  ledger : desk'.recorder.ledger = desk.recorder.ledger ++ ts
  correlation : ∀ t ∈ ts, t.correlationId = rid
  booked : ∀ initialAvailable, desk.Booked initialAvailable → desk'.Booked initialAvailable

theorem Committed.nothing {rid : ContentDigest} {desk : Desk ContentDigest} (record : AuditRecord) :
    Committed rid desk (desk.audit record) [] :=
  ⟨(List.append_nil _).symm, by simp, fun _ hb => hb.audit record⟩

theorem Committed.of_applied {rid : ContentDigest} {t : LedgerTransaction}
    {desk desk' applied : Desk ContentDigest}
    (happly : desk.Applied t applied) (hwk : WellKinded t.postings) (hid : t.correlationId = rid)
    (hp : desk'.portfolio = applied.portfolio)
    (hl : desk'.recorder.ledger = applied.recorder.ledger)
    (hc : desk'.recorder.cashflows = applied.recorder.cashflows) :
    Committed rid desk desk' [t] :=
  ⟨hl.trans happly.ledger, by simp [hid], fun _ hb => (hb.applied happly hwk).congr hp hl hc⟩

/-- What was held before a move. -/
def heldBefore (old : Option RoundTripState) (h : Holding) : Int :=
  (old.map fun s => s.holds h).getD 0

@[simp] theorem heldBefore_none (h : Holding) : heldBefore none h = 0 := rfl

@[simp] theorem heldBefore_some (s : RoundTripState) (h : Holding) :
    heldBefore (some s) h = s.holds h := rfl

section Effects

variable [DomainDigest] {setup : SnipingSetup} {rid : ContentDigest} {boundary : Nat}
  {desk desk' : Desk ContentDigest} {old : Option RoundTripState} {new : RoundTripState}

/-- **A move leads to a lawful state.** -/
theorem Move.lawful (h : Move setup rid boundary desk old new desk') : Lawful setup rid new := by
  cases h with
  | suppressed l inside => exact .suppressed l inside
  | buyReferenceRejected b stable record => exact .buyReferenceRejected b stable record
  | buyPreSubmitRejected b record => exact .buyPreSubmitRejected b record
  | buyAccepted b => exact .buyPending b
  | buyFailed b failed record => exact .buyFailed b failed record
  | buyFilled p => exact .holding p
  | sellUnavailable p stable => exact .sellUnavailable p stable
  | sellPreSubmitRejected o => exact .sellPreSubmitRejected o
  | sellAccepted o => exact .sellPending o
  | sellFailed o failed => exact .sellFailed o failed
  | closed o valid => exact .closed o valid

/-! ## The schedule -/

/-- **A move schedules the action its state waits for, at a later boundary, and nothing else.** -/
theorem Move.scheduled (h : Move setup rid boundary desk old new desk') :
    (new.pending = none ∧ desk'.scheduled = desk.scheduled) ∨
      ∃ position kind, new.pending = some kind ∧
        new.duePosition setup.clock setup.strategy.sellDelayTransactions = .ok position ∧
        boundary < position.boundaryOrdinal ∧
        desk'.scheduled = desk.scheduled.orderedInsert scheduledActionLe
          (releasedAt rid position kind boundary) := by
  cases h with
  | suppressed => exact .inl ⟨rfl, rfl⟩
  | buyReferenceRejected => exact .inl ⟨rfl, rfl⟩
  | buyPreSubmitRejected => exact .inl ⟨rfl, rfl⟩
  | buyAccepted b _ _ _ apply _ later =>
    refine .inr ⟨b.buyPosition, .buyLanding, b.pending_eq, b.duePosition_eq, later, ?_⟩
    rw [← apply.scheduled]
    rfl
  | buyFailed _ _ _ _ _ apply => exact .inl ⟨rfl, apply.scheduled⟩
  | buyFilled p _ _ _ apply _ _ _ later =>
    refine .inr ⟨p.decision, .sellDecision, p.pending_eq, p.duePosition_eq, later, ?_⟩
    rw [← apply.scheduled]
    rfl
  | sellUnavailable => exact .inl ⟨rfl, rfl⟩
  | sellPreSubmitRejected => exact .inl ⟨rfl, rfl⟩
  | sellAccepted o _ _ apply _ later =>
    refine .inr ⟨o.sellPosition, .sellLanding, o.pending_eq, o.duePosition_eq, later, ?_⟩
    rw [← apply.scheduled]
    rfl
  | sellFailed _ _ _ _ apply => exact .inl ⟨rfl, apply.scheduled⟩
  | closed _ _ _ _ apply => exact .inl ⟨rfl, apply.scheduled⟩

/-- The actions a round trip puts into the schedule when a move leads to `s`. -/
structure Fresh (setup : SnipingSetup) (rid : ContentDigest) (boundary : Nat)
    (s : RoundTripState) (fresh : List (ScheduledAction ContentDigest)) : Prop where
  tasks : fresh.map (fun a => (a.subject, a.kind)) = awaiting rid s.pending
  created : ∀ a ∈ fresh, a.creatorBoundaryOrdinal = boundary
  later : ∀ a ∈ fresh, boundary < a.releaseBoundaryOrdinal
  phased : ∀ a ∈ fresh, a.phase = a.kind.phase
  due : ∀ a ∈ fresh, ∃ position,
    s.duePosition setup.clock setup.strategy.sellDelayTransactions = .ok position ∧
      position.boundaryOrdinal = a.releaseBoundaryOrdinal

theorem Move.fresh (h : Move setup rid boundary desk old new desk') :
    ∃ fresh, Fresh setup rid boundary new fresh ∧
      desk'.scheduled.Perm (fresh ++ desk.scheduled) ∧
      (desk.scheduled.Pairwise scheduledActionLe → desk'.scheduled.Pairwise scheduledActionLe) := by
  rcases h.scheduled with ⟨hp, hs⟩ | ⟨position, kind, hp, hdue, hlater, hs⟩
  · refine ⟨[], ⟨?_, by simp, by simp, by simp, by simp⟩, ?_, ?_⟩
    · rw [hp]
      rfl
    · rw [hs]
      exact List.Perm.refl _
    · rw [hs]
      exact id
  · refine ⟨[releasedAt rid position kind boundary], ⟨?_, ?_, ?_, ?_, ?_⟩, ?_, ?_⟩
    · rw [hp]
      rfl
    · simp [releasedAt, Desk.newAction]
    · simpa [releasedAt, Desk.newAction] using hlater
    · simp [releasedAt, Desk.newAction]
    · simpa [releasedAt, Desk.newAction] using ⟨position, hdue, rfl⟩
    · rw [hs]
      exact List.perm_orderedInsert scheduledActionLe _ _
    · rw [hs]
      exact fun hsorted => List.Pairwise.orderedInsert _ _ hsorted

/-! ## The audit -/

/-- The round trip a row of the audit is about. -/
def AuditRecord.roundtrip? : AuditRecord → Option ContentDigest
  | historicalGroupApplied _ _ _ | targetOutsideDecisionRange _ _ | boundaryCheckpoint _ => none
  | targetCooldownSkipped _ _ rid | buyReferenceRejected _ rid _ | buyPreSubmitRejected _ rid
  | buyAcceptedAndReserved _ rid _ _ | buyLandedFailedNetworkFeeCharged _ rid _
  | buyFilled _ rid _ | sellReferenceUnavailable _ rid _ | sellPreSubmitRejected _ rid
  | sellAcceptedAndReserved _ rid _ | sellLandedFailedNetworkFeeCharged _ rid _
  | sellFilledAndAccountClosed _ rid _ => some rid

/-- A move writes one row. -/
theorem Move.audit (h : Move setup rid boundary desk old new desk') :
    ∃ row, desk'.recorder.audit = desk.recorder.audit ++ [row] ∧ row.boundary = boundary ∧
      row.roundtrip? = some rid := by
  cases h with
  | suppressed => exact ⟨_, rfl, rfl, rfl⟩
  | buyReferenceRejected => exact ⟨_, rfl, rfl, rfl⟩
  | buyPreSubmitRejected => exact ⟨_, rfl, rfl, rfl⟩
  | buyAccepted _ _ _ _ apply => exact ⟨_, congrArg (· ++ _) apply.audit, rfl, rfl⟩
  | buyFailed _ _ _ _ _ apply => exact ⟨_, congrArg (· ++ _) apply.audit, rfl, rfl⟩
  | buyFilled _ _ _ _ apply => exact ⟨_, congrArg (· ++ _) apply.audit, rfl, rfl⟩
  | sellUnavailable => exact ⟨_, rfl, rfl, rfl⟩
  | sellPreSubmitRejected => exact ⟨_, rfl, rfl, rfl⟩
  | sellAccepted _ _ _ apply => exact ⟨_, congrArg (· ++ _) apply.audit, rfl, rfl⟩
  | sellFailed _ _ _ _ apply => exact ⟨_, congrArg (· ++ _) apply.audit, rfl, rfl⟩
  | closed _ _ _ _ apply => exact ⟨_, congrArg (· ++ _) apply.audit, rfl, rfl⟩

/-- A move writes no result. -/
theorem Move.roundtrips (h : Move setup rid boundary desk old new desk') :
    desk'.recorder.roundtrips = desk.recorder.roundtrips := by
  cases h with
  | buyAccepted _ _ _ _ apply => exact apply.roundtrips
  | buyFailed _ _ _ _ _ apply => exact apply.roundtrips
  | buyFilled _ _ _ _ apply => exact apply.roundtrips
  | sellAccepted _ _ _ apply => exact apply.roundtrips
  | sellFailed _ _ _ _ apply => exact apply.roundtrips
  | closed _ _ _ _ apply => exact apply.roundtrips
  | _ => rfl

/-! ## The wallet -/

theorem Move.wallet (h : Move setup rid boundary desk old new desk') :
    WalletStep desk.accounts desk'.accounts := by
  cases h with
  | suppressed => exact .of_eq rfl
  | buyReferenceRejected => exact .of_eq rfl
  | buyPreSubmitRejected => exact .of_eq rfl
  | buyAccepted _ _ _ _ _ accounts => exact .of_eq accounts
  | buyFailed _ _ _ _ _ _ accounts => exact .of_eq accounts
  | buyFilled p _ _ _ _ accounts accounts_valid =>
    have hinit := congrArg WalletProvisioningState.initialUvaState accounts
    have hexists := congrArg WalletProvisioningState.uvaExists accounts
    refine ⟨hinit, fun _ => accounts_valid, fun _ => ?_⟩
    exact hexists.trans (landedWalletState_uvaExists p.parts.wallet)
  | sellUnavailable => exact .of_eq rfl
  | sellPreSubmitRejected => exact .of_eq rfl
  | sellAccepted _ _ _ _ accounts => exact .of_eq accounts
  | sellFailed _ _ _ _ _ accounts => exact .of_eq accounts
  | closed _ _ _ _ _ accounts accounts_valid =>
    have hinit := congrArg WalletProvisioningState.initialUvaState accounts
    have hexists := congrArg WalletProvisioningState.uvaExists accounts
    exact ⟨hinit, fun _ => accounts_valid, hexists.trans⟩

/-- What the plan of a round trip does not reserve exists. -/
def ZeroExists (accounts : WalletProvisioningState) (s : RoundTripState) : Prop :=
  ∀ plan ∈ s.accountReservation, ∀ c ∈ plan.components, c.scope = .wallet →
    c.maximumReservedAtomic = 0 → accounts.uvaExists = true

theorem PricedBuy.zeroExists_iff (b : PricedBuy setup rid) {s : RoundTripState}
    {accounts : WalletProvisioningState} (hs : s.accountReservation = some b.plan) :
    ZeroExists accounts s ↔
      (b.walletPart.maximumReservedAtomic = 0 → accounts.uvaExists = true) := by
  refine ⟨fun h hz => h b.plan hs b.walletPart ?_ b.parts.wallet hz, fun h plan hp c hc hw hz => ?_⟩
  · simp [b.parts.components]
  · rw [hs] at hp
    cases hp
    rw [b.parts.components, List.mem_cons, List.mem_singleton] at hc
    rcases hc with rfl | rfl
    · rw [b.parts.mint] at hw
      cases hw
    · exact h hz

theorem Move.zeroExists (h : Move setup rid boundary desk old new desk')
    (hold : ∀ s, old = some s → ZeroExists desk.accounts s) :
    ZeroExists desk'.accounts new := by
  have hstep := h.wallet.uvaExists
  cases h with
  | suppressed => exact fun plan hp => (nomatch hp)
  | buyReferenceRejected b _ _ _ zero => exact (b.zeroExists_iff rfl).mpr fun hz => hstep (zero hz)
  | buyPreSubmitRejected b _ _ zero =>
    exact (b.toPricedBuy.zeroExists_iff rfl).mpr fun hz => hstep (zero hz)
  | buyAccepted b _ zero => exact (b.toPricedBuy.zeroExists_iff rfl).mpr fun hz => hstep (zero hz)
  | _ => exact fun plan hp c hc hw hz => hstep (hold _ rfl plan hp c hc hw hz)

/-! ## The ledger -/

theorem HeldPosition.depositsOf_refunded (p : HeldPosition setup rid) (account : AccountId)
    (a : AssetId) :
    depositsOf (·.refundedAtomic) [p.lockedMint, p.walletRecord] account a = 0 := by
  have h1 : p.lockedMint.refundedAtomic = 0 := rfl
  simp [h1, p.walletRecord_of.refunded_eq]

theorem HeldPosition.depositTotal_refunded (p : HeldPosition setup rid) (a : AssetId) :
    depositTotal (·.refundedAtomic) [p.lockedMint, p.walletRecord] a = 0 := by
  have h1 : p.lockedMint.refundedAtomic = 0 := rfl
  simp [h1, p.walletRecord_of.refunded_eq]

/-- Closing a mint account changes no deposit that was paid. -/
theorem HeldPosition.depositsOf_paid_closed (p : HeldPosition setup rid) (account : AccountId)
    (a : AssetId) :
    depositsOf (·.paidAtomic) [closedMintRecord p.lockedMint, p.walletRecord] account a
      = depositsOf (·.paidAtomic) [p.lockedMint, p.walletRecord] account a := rfl

theorem HeldPosition.depositTotal_paid_closed (p : HeldPosition setup rid) (a : AssetId) :
    depositTotal (·.paidAtomic) [closedMintRecord p.lockedMint, p.walletRecord] a
      = depositTotal (·.paidAtomic) [p.lockedMint, p.walletRecord] a := rfl

theorem EligibleLaunch.cashbackOwed_eq (l : EligibleLaunch setup rid) (quote : ProtocolQuote)
    (a : AssetId) : cashbackOwed l.intent.toPositionIntent quote a
      = if l.target.quoteAssetId = a then (quote.cashbackReceivableAtomic : Int) else 0 := by
  rw [cashbackOwed, l.intent_quote]

/-- A pending buy holds its reservation. -/
theorem SubmittedBuy.holds_eq (b : SubmittedBuy setup rid) (h : Holding) :
    b.state.holds h = match h with
      | .reserved a => (Tally.amount b.reservation a : Int)
      | _ => 0 := by
  have hc : b.state.accountComponents = [] := rfl
  have hb : b.state.cashbackReceivableAtomic = 0 := rfl
  cases h <;> simp [RoundTripState.holds, hc, hb]

/-- A position holds its deposits and its cashback. -/
theorem HeldPosition.holds_eq (p : HeldPosition setup rid) (h : Holding) :
    p.state.holds h = match h with
      | .reserved _ => 0
      | .deposit mintOf schema a =>
        depositsOf (·.paidAtomic) [p.lockedMint, p.walletRecord] (.lockedDeposit mintOf schema) a
      | .locked a => depositTotal (·.paidAtomic) [p.lockedMint, p.walletRecord] a
      | .owed a =>
        if p.target.quoteAssetId = a then (p.buyFill.cashbackReceivableAtomic : Int) else 0 := by
  have hc : p.state.accountComponents = [p.lockedMint, p.walletRecord] := rfl
  have hb : p.state.cashbackReceivableAtomic = p.buyFill.cashbackReceivableAtomic :=
    Nat.zero_add _
  cases h with
  | reserved a => simp [RoundTripState.holds]
  | deposit mintOf schema a =>
    rw [RoundTripState.holds, hc, p.depositsOf_refunded, sub_zero]
  | locked a => rw [RoundTripState.holds, hc, p.depositTotal_refunded, sub_zero]
  | owed a => rw [RoundTripState.holds, hb]; rfl

/-- A pending sell holds its reservation besides. -/
theorem SubmittedSell.holds_eq (o : SubmittedSell setup rid) (h : Holding) :
    o.state.holds h = match h with
      | .reserved a => (Tally.amount o.reservation a : Int)
      | h => o.toHeldPosition.state.holds h := by
  cases h <;> simp [RoundTripState.holds] <;> rfl

/-- **What a move posts is the difference of what the round trip holds.** -/
theorem Move.posted (hm : Move setup rid boundary desk old new desk') :
    ∃ ts, Committed rid desk desk' ts ∧
      ∀ h, ledgerPosted ts h = new.holds h - heldBefore old h := by
  cases hm with
  | suppressed l =>
    refine ⟨[], .nothing _, fun h => ?_⟩
    rw [RoundTripState.holds_eq_zero rfl (by simp [RoundTripState.suppressed])
      (by simp [RoundTripState.suppressed]) rfl h]
    rfl
  | @buyReferenceRejected b code r _ record =>
    refine ⟨[], .nothing _, fun h => ?_⟩
    rw [RoundTripState.holds_eq_zero rfl ?_ ?_ rfl h]
    · rfl
    · simp [RoundTripState.buyReferenceRejected, componentRecord, record.paid_eq]
    · simp [RoundTripState.buyReferenceRejected, componentRecord, record.refunded_eq]
  | @buyPreSubmitRejected b r record =>
    refine ⟨[], .nothing _, fun h => ?_⟩
    rw [RoundTripState.holds_eq_zero rfl ?_ ?_ rfl h]
    · rfl
    · simp [RoundTripState.buyPreSubmitRejected, componentRecord, record.paid_eq]
    · simp [RoundTripState.buyPreSubmitRejected, componentRecord, record.refunded_eq]
  | @buyAccepted b t applied _ _ reserves apply =>
    refine ⟨[t], .of_applied apply reserves.books.wellKinded reserves.correlationId rfl rfl rfl,
      fun h => ?_⟩
    rw [ledgerPosted_singleton, reserves.postedTo, b.holds_eq, heldBefore_none, sub_zero]
  | @buyFailed b code landing r t applied failed record _ settles apply =>
    refine ⟨[t], .of_applied apply settles.books.wellKinded settles.correlationId rfl rfl rfl,
      fun h => ?_⟩
    rw [ledgerPosted_singleton, settles.postedTo, heldBefore_some, b.holds_eq,
      RoundTripState.holds_eq_zero rfl ?_ ?_ rfl h]
    · cases h <;> simp
    · simp [RoundTripState.buyLandedFailed, componentRecord, record.paid_eq]
    · simp [RoundTripState.buyLandedFailed, componentRecord, record.refunded_eq]
  | @buyFilled p t applied fill _ _ settles apply =>
    refine ⟨[t], .of_applied apply settles.books.wellKinded settles.correlationId rfl rfl rfl,
      fun h => ?_⟩
    rw [ledgerPosted_singleton, settles.postedTo, heldBefore_some, p.toSubmittedBuy.holds_eq,
      p.holds_eq]
    cases h <;> simp [p.cashbackOwed_eq]
  | @sellUnavailable p code =>
    refine ⟨[], .nothing _, fun h => ?_⟩
    have hsame : (p.state.sellReferenceUnavailable p.decision code).holds h = p.state.holds h := by
      refine RoundTripState.holds_congr p.state
        (p.state.sellReferenceUnavailable p.decision code) ?_ rfl rfl rfl h
      exact p.reservation_eq.symm
    simp [hsame]
  | sellPreSubmitRejected o =>
    refine ⟨[], .nothing _, fun h => ?_⟩
    have hsame : o.state.sellPreSubmitRejected.holds h = o.toHeldPosition.state.holds h := by
      refine RoundTripState.holds_congr o.toHeldPosition.state o.state.sellPreSubmitRejected ?_
        rfl rfl rfl h
      exact o.toHeldPosition.reservation_eq.symm
    simp [hsame]
  | @sellAccepted o t applied _ reserves apply =>
    refine ⟨[t], .of_applied apply reserves.books.wellKinded reserves.correlationId rfl rfl rfl,
      fun h => ?_⟩
    rw [ledgerPosted_singleton, reserves.postedTo, o.holds_eq, heldBefore_some]
    cases h <;> simp [o.toHeldPosition.holds_eq]
  | @sellFailed o code landing t applied _ _ settles apply =>
    refine ⟨[t], .of_applied apply settles.books.wellKinded settles.correlationId rfl rfl rfl,
      fun h => ?_⟩
    have hsame : (o.state.sellLandedFailed o.sellPosition landing code).holds h
        = o.toHeldPosition.state.holds h := by
      refine RoundTripState.holds_congr o.toHeldPosition.state
        (o.state.sellLandedFailed o.sellPosition landing code) ?_ rfl rfl rfl h
      exact o.toHeldPosition.reservation_eq.symm
    rw [ledgerPosted_singleton, settles.postedTo, heldBefore_some, o.holds_eq, hsame]
    cases h <;> simp [o.toHeldPosition.holds_eq]
  | @closed o landing t applied fill _ _ settles apply =>
    refine ⟨[t], .of_applied apply settles.books.wellKinded settles.correlationId rfl rfl rfl,
      fun h => ?_⟩
    rw [ledgerPosted_singleton, settles.postedTo, heldBefore_some, o.holds_eq]
    cases h with
    | reserved a => simp [RoundTripState.holds, RoundTripState.reservation_of_terminal,
        RoundTripState.sellFilled]
    | deposit mintOf schema a =>
      simp only [o.toHeldPosition.holds_eq]
      simp only [RoundTripState.holds, RoundTripState.sellFilled]
      rw [o.depositsOf_paid_closed, depositsOf_nil]
      omega
    | locked a =>
      simp only [o.toHeldPosition.holds_eq]
      simp only [RoundTripState.holds, RoundTripState.sellFilled]
      rw [o.depositTotal_paid_closed, depositTotal_nil]
      omega
    | owed a =>
      have hb : (o.state.sellFilled o.sellPosition landing
          [closedMintRecord o.lockedMint, o.walletRecord]).cashbackReceivableAtomic
            = o.buyFill.cashbackReceivableAtomic + landing.cashbackReceivableAtomic := by
        show 0 + _ + _ = _
        omega
      simp only [o.toHeldPosition.holds_eq]
      simp only [RoundTripState.holds, hb, o.cashbackOwed_eq]
      show _ = (if o.target.quoteAssetId = a then _ else _) - _
      split
      · push_cast
        omega
      · omega

end Effects

end OnchainBacktest
