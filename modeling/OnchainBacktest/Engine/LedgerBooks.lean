import OnchainBacktest.Engine.SnipingOutcomes
import OnchainBacktest.Lib.Journal

/-!
# The ledger behind the balances

Every balance of a run is its opening balance and what the recorded transactions have posted to it
since, and every cashflow is what the transactions of its round trip have posted.  `Desk.Booked`
says so of a desk; it is kept by a committed transaction and does not depend on anything else the
desk holds.
-/

set_option autoImplicit false

namespace OnchainBacktest

open Checked

/-! ## What a ledger posts -/

/-- What a ledger posts to one account. -/
def ledgerDelta (ledger : List LedgerTransaction) (account : AccountId) (asset : AssetId) : Int :=
  (ledger.map fun t => delta t.postings account asset).sum

/-- What a ledger posts to the accounts of one kind. -/
def ledgerKindDelta (ledger : List LedgerTransaction) (kind : AccountKind) (asset : AssetId) :
    Int :=
  (ledger.map fun t => kindDelta t.postings kind asset).sum

/-- What postings move in cash, available and reserved together. -/
def cashDelta (postings : List Posting) (asset : AssetId) : Int :=
  kindDelta postings .portfolioAvailable asset + kindDelta postings .portfolioReserved asset

/-- What a ledger moves in cash. -/
def ledgerCash (ledger : List LedgerTransaction) (asset : AssetId) : Int :=
  (ledger.map fun t => cashDelta t.postings asset).sum

/-- The transactions of one round trip. -/
def correlated (ledger : List LedgerTransaction) (roundtripId : ContentDigest) :
    List LedgerTransaction := Journal.rowsOf LedgerTransaction.correlationId ledger roundtripId

section Sums

variable (ledger : List LedgerTransaction) (t : LedgerTransaction) (asset : AssetId)

@[simp] theorem ledgerDelta_append_singleton (account : AccountId) :
    ledgerDelta (ledger ++ [t]) account asset
      = ledgerDelta ledger account asset + delta t.postings account asset := by
  simp [ledgerDelta]

@[simp] theorem ledgerKindDelta_append_singleton (kind : AccountKind) :
    ledgerKindDelta (ledger ++ [t]) kind asset
      = ledgerKindDelta ledger kind asset + kindDelta t.postings kind asset := by
  simp [ledgerKindDelta]

@[simp] theorem ledgerCash_append_singleton :
    ledgerCash (ledger ++ [t]) asset = ledgerCash ledger asset + cashDelta t.postings asset := by
  simp [ledgerCash]

theorem correlated_append_self :
    correlated (ledger ++ [t]) t.correlationId = correlated ledger t.correlationId ++ [t] := by
  rw [correlated, Journal.rowsOf_append, Journal.rowsOf_singleton_self]
  rfl

theorem correlated_append_of_ne {rid : ContentDigest} (h : t.correlationId ≠ rid) :
    correlated (ledger ++ [t]) rid = correlated ledger rid := by
  rw [correlated, Journal.rowsOf_append, Journal.rowsOf_singleton_of_ne _ h, List.append_nil]
  rfl

theorem cashDelta_cons (p : Posting) (ps : List Posting) :
    cashDelta (p :: ps) asset = (if (p.account.kind = .portfolioAvailable ∨
        p.account.kind = .portfolioReserved) ∧ p.assetId = asset then p.amountAtomic else 0)
      + cashDelta ps asset := by
  simp only [cashDelta, kindDelta, List.map_cons, List.sum_cons]
  by_cases ha : p.assetId = asset
  · cases hk : p.account.kind <;> simp [ha] <;> ring
  · simp [ha]

end Sums

/-- The cashflows after a transaction: those of its round trip move by its cash. -/
theorem amount_foldl_appendPosting (correlationId rid : ContentDigest) (asset : AssetId)
    (postings : List Posting) (amounts : CorrelatedLedgerCashflows) :
    (postings.foldl (CorrelatedLedgerCashflows.appendPosting correlationId) amounts).amount rid
        asset
      = amounts.amount rid asset
        + if correlationId = rid then cashDelta postings asset else 0 := by
  induction postings generalizing amounts with
  | nil => simp [cashDelta]
  | cons p ps ih =>
    rw [List.foldl_cons, ih, cashDelta_cons]
    have hstep : (CorrelatedLedgerCashflows.appendPosting correlationId amounts p).amount rid asset
        = amounts.amount rid asset + if correlationId = rid ∧ (p.account.kind = .portfolioAvailable
          ∨ p.account.kind = .portfolioReserved) ∧ p.assetId = asset then p.amountAtomic else 0 := by
      rw [CorrelatedLedgerCashflows.appendPosting]
      split
      · rename_i hk
        rw [CorrelatedLedgerCashflows.amount, Dict.getD_set]
        by_cases hc : correlationId = rid ∧ p.assetId = asset
        · obtain ⟨rfl, rfl⟩ := hc
          simp [hk, CorrelatedLedgerCashflows.amount]
        · rw [if_neg (fun he => hc ⟨(Prod.mk.inj he).1.symm, (Prod.mk.inj he).2.symm⟩),
            if_neg (fun he => hc ⟨he.1, he.2.2⟩)]
          simp [CorrelatedLedgerCashflows.amount]
      · rename_i hk
        rw [if_neg (fun he => hk he.2.1), add_zero]
    rw [hstep]
    by_cases hr : correlationId = rid
    · simp only [hr, true_and, if_true]
      ring
    · simp [hr]

/-! ## The opening balances -/

section Opening

variable (initialAvailable : List (AssetId × Nat))

/-- What the run starts with in one asset. -/
def openingAvailable (asset : AssetId) : Nat := Tally.lookup initialAvailable asset

theorem initial_foldl_sound (l : List (AssetId × Nat)) (s : PortfolioState)
    (h : PortfolioState.Sound s.balances s.accountKinds) :
    let s' := l.foldl (fun s e =>
      { s with
        balances := s.balances.set (AccountId.available e.1, e.1) (e.2 : Int)
        accountKinds := s.accountKinds.set (.available e.1) .portfolioAvailable }) s
    PortfolioState.Sound s'.balances s'.accountKinds := by
  induction l generalizing s with
  | nil => exact h
  | cons e rest ih =>
    refine ih _ ⟨fun account kind hget => ?_, fun account asset ho => ?_⟩
    · rw [Dict.get?_set] at hget
      split at hget
      · rename_i he
        rw [← Option.some.inj hget, he]
        rfl
      · exact h.kinds account kind hget
    · rw [Dict.getD_set]
      split
      · exact Int.natCast_nonneg _
      · exact h.nonneg account asset ho

theorem initial_sound : PortfolioState.Sound (PortfolioState.initial initialAvailable).balances
    (PortfolioState.initial initialAvailable).accountKinds :=
  initial_foldl_sound initialAvailable _ ⟨fun _ _ h => (nomatch h), fun _ _ _ => le_rfl⟩

theorem balance_initial_foldl (l : List (AssetId × Nat)) (s : PortfolioState)
    (account : AccountId) (asset : AssetId) (h : account ≠ .available asset) :
    (l.foldl (fun s e =>
      { s with
        balances := s.balances.set (AccountId.available e.1, e.1) (e.2 : Int)
        accountKinds := s.accountKinds.set (.available e.1) .portfolioAvailable }) s).balance
      account asset = s.balance account asset := by
  induction l generalizing s with
  | nil => rfl
  | cons e rest ih =>
    rw [List.foldl_cons, ih, PortfolioState.balance, Dict.getD_set, if_neg]
    · rfl
    · intro he
      rw [Prod.mk.injEq] at he
      exact h (he.2 ▸ he.1)

/-- Every opening balance is an available one. -/
theorem balance_initial {account : AccountId} {asset : AssetId}
    (h : account ≠ .available asset) :
    (PortfolioState.initial initialAvailable).balance account asset = 0 :=
  balance_initial_foldl initialAvailable _ account asset h

theorem available_initial_foldl (l : List (AssetId × Nat)) (hnd : (l.map Prod.fst).Nodup)
    (s : PortfolioState) (asset : AssetId) :
    (l.foldl (fun s e =>
      { s with
        balances := s.balances.set (AccountId.available e.1, e.1) (e.2 : Int)
        accountKinds := s.accountKinds.set (.available e.1) .portfolioAvailable }) s).available
      asset = if asset ∈ l.map Prod.fst then (Tally.lookup l asset : Int)
        else s.available asset := by
  induction l generalizing s with
  | nil => simp
  | cons e rest ih =>
    rw [List.map_cons, List.nodup_cons] at hnd
    rw [List.foldl_cons, ih hnd.2]
    by_cases he : asset = e.1
    · rw [if_neg (he ▸ hnd.1), if_pos (by simp [he]), PortfolioState.available,
        PortfolioState.balance, Dict.getD_set, if_pos (by rw [he]), Tally.lookup, Dict.find,
        if_pos he.symm]
      rfl
    · have h1 : Tally.lookup (e :: rest) asset = Tally.lookup rest asset := by
        rw [Tally.lookup, Dict.find, if_neg (Ne.symm he)]
        rfl
      by_cases hm : asset ∈ rest.map Prod.fst
      · rw [if_pos hm, if_pos (by simp [hm]), h1]
      · rw [if_neg hm, if_neg (by simp [hm, he]), PortfolioState.available,
          PortfolioState.balance, Dict.getD_set, if_neg]
        · rfl
        · simp [he]

/-- The opening available balances are the configured ones. -/
theorem available_initial (hnd : (initialAvailable.map Prod.fst).Nodup) (asset : AssetId) :
    (PortfolioState.initial initialAvailable).available asset
      = openingAvailable initialAvailable asset := by
  rw [PortfolioState.initial, available_initial_foldl initialAvailable hnd, openingAvailable]
  split
  · rfl
  · rename_i hm
    rw [Tally.lookup, Dict.find_eq_none_iff.mpr hm]
    rfl

theorem kindBalance_initial_foldl (l : List (AssetId × Nat)) (s : PortfolioState)
    {kind : AccountKind} (hk : kind ≠ .portfolioAvailable) (asset : AssetId) :
    (l.foldl (fun s e =>
      { s with
        balances := s.balances.set (AccountId.available e.1, e.1) (e.2 : Int)
        accountKinds := s.accountKinds.set (.available e.1) .portfolioAvailable }) s).kindBalance
      kind asset = s.kindBalance kind asset := by
  induction l generalizing s with
  | nil => rfl
  | cons e rest ih =>
    have h1 := PortfolioState.kindTotal_set s.balances (.available e.1) e.1
      ((e.2 : Int) - s.balances.getD (.available e.1, e.1) 0) kind asset
    rw [add_sub_cancel, if_neg (fun h => hk h.1.symm), add_zero] at h1
    rw [List.foldl_cons, ih]
    exact h1

theorem kindBalance_initial {kind : AccountKind} (hk : kind ≠ .portfolioAvailable)
    (asset : AssetId) :
    (PortfolioState.initial initialAvailable).kindBalance kind asset = 0 :=
  kindBalance_initial_foldl initialAvailable _ hk asset

end Opening

/-! ## Booked desks -/

/-- Every balance and every cashflow of the desk comes from its ledger. -/
structure Desk.Booked {ρ : Type} (initialAvailable : List (AssetId × Nat)) (desk : Desk ρ) :
    Prop where
  sound : PortfolioState.Sound desk.portfolio.balances desk.portfolio.accountKinds
  rows : ∀ t ∈ desk.recorder.ledger, WellKinded t.postings ∧ t.correlationKind = .roundtrip
  balance : ∀ account asset, desk.portfolio.balance account asset
    = (PortfolioState.initial initialAvailable).balance account asset
      + ledgerDelta desk.recorder.ledger account asset
  kindBalance : ∀ kind asset, desk.portfolio.kindBalance kind asset
    = (PortfolioState.initial initialAvailable).kindBalance kind asset
      + ledgerKindDelta desk.recorder.ledger kind asset
  cashflows : ∀ rid asset, desk.recorder.cashflows.amount rid asset
    = ledgerCash (correlated desk.recorder.ledger rid) asset

section Booked

variable {ρ : Type} {initialAvailable : List (AssetId × Nat)} {desk desk' : Desk ρ}
  {t : LedgerTransaction}

/-- What the books of a desk are read from. -/
theorem Desk.Booked.congr (h : desk.Booked initialAvailable)
    (hp : desk'.portfolio = desk.portfolio)
    (hl : desk'.recorder.ledger = desk.recorder.ledger)
    (hc : desk'.recorder.cashflows = desk.recorder.cashflows) : desk'.Booked initialAvailable := by
  refine ⟨?_, ?_, ?_, ?_, ?_⟩
  · rw [hp]
    exact h.sound
  · rw [hl]
    exact h.rows
  · rw [hp, hl]
    exact h.balance
  · rw [hp, hl]
    exact h.kindBalance
  · rw [hc, hl]
    exact h.cashflows

theorem Desk.Booked.audit (h : desk.Booked initialAvailable) (record : AuditRecord) :
    (desk.audit record).Booked initialAvailable := h.congr rfl rfl rfl

/-- **A committed transaction keeps a desk booked.** -/
theorem Desk.Booked.applied (h : desk.Booked initialAvailable) (ha : desk.Applied t desk')
    (hwk : WellKinded t.postings) : desk'.Booked initialAvailable := by
  obtain ⟨c, hc, hp⟩ := ha.portfolio
  refine ⟨?_, ?_, fun account asset => ?_, fun kind asset => ?_, fun rid asset => ?_⟩
  · rw [hp]
    exact PortfolioState.sound_commit hwk h.sound hc
  · rw [ha.ledger]
    intro t' ht'
    rcases List.mem_append.mp ht' with ht' | ht'
    · exact h.rows t' ht'
    · rw [List.mem_singleton] at ht'
      exact ht' ▸ ⟨hwk, ha.correlationKind⟩
  · rw [hp, PortfolioState.balance_preview hc, h.balance, ha.ledger,
      ledgerDelta_append_singleton, add_assoc]
  · rw [hp, PortfolioState.kindBalance_preview hwk hc, h.kindBalance, ha.ledger,
      ledgerKindDelta_append_singleton, add_assoc]
  · rw [ha.cashflows, amount_foldl_appendPosting, h.cashflows, ha.ledger]
    by_cases hr : t.correlationId = rid
    · subst hr
      rw [if_pos rfl, correlated_append_self, ledgerCash_append_singleton]
    · rw [if_neg hr, add_zero, correlated_append_of_ne _ _ hr]

/-- The opening desk. -/
theorem Desk.Booked.opening (accounts : WalletProvisioningState) :
    Desk.Booked initialAvailable
      (⟨PortfolioState.initial initialAvailable, accounts, Recorder.empty, []⟩ : Desk ρ) where
  sound := initial_sound initialAvailable
  rows := by simp [Recorder.empty]
  balance := by simp [Recorder.empty, ledgerDelta]
  kindBalance := by simp [Recorder.empty, ledgerKindDelta]
  cashflows := by
    simp [Recorder.empty, CorrelatedLedgerCashflows.amount, ledgerCash, correlated]

/-- The reserved balance is what the ledger has reserved. -/
theorem Desk.Booked.reserved (h : desk.Booked initialAvailable) (asset : AssetId) :
    desk.portfolio.reserved asset = ledgerDelta desk.recorder.ledger (.reserved asset) asset := by
  rw [PortfolioState.reserved, h.balance, balance_initial _ (by simp), zero_add]

theorem ledgerCash_eq {ledger : List LedgerTransaction}
    (h : ∀ t ∈ ledger, WellKinded t.postings) (asset : AssetId) :
    ledgerCash ledger asset = ledgerDelta ledger (.available asset) asset
      + ledgerDelta ledger (.reserved asset) asset := by
  induction ledger with
  | nil => rfl
  | cons t rest ih =>
    have h1 := ih fun t' ht' => h t' (List.mem_cons_of_mem t ht')
    have h2 := h t List.mem_cons_self
    simp only [ledgerCash, ledgerDelta, List.map_cons, List.sum_cons, cashDelta,
      kindDelta_available h2, kindDelta_reserved h2] at h1 ⊢
    omega

/-- **What is available and reserved is what the run started with and its cash since.** -/
theorem Desk.Booked.cash (h : desk.Booked initialAvailable) (asset : AssetId) :
    desk.portfolio.available asset + desk.portfolio.reserved asset
      = (PortfolioState.initial initialAvailable).available asset
        + ledgerCash desk.recorder.ledger asset := by
  rw [ledgerCash_eq (fun t ht => (h.rows t ht).1), h.reserved, PortfolioState.available,
    h.balance, ← PortfolioState.available]
  omega

end Booked

end OnchainBacktest
