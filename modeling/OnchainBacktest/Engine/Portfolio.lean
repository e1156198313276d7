import Mathlib.Data.List.Sort
import Mathlib.Data.Prod.Lex
import Mathlib.Data.String.Basic
import OnchainBacktest.Lib.Dict
import OnchainBacktest.Domain.Ledger

/-!
# The portfolio reducer

Current balances by account and asset, moved by ledger transactions.  A transaction is previewed
posting by posting, and refused when an account changes its kind or when a balance the portfolio
owns (available, reserved, locked or receivable) would go below zero at that point; a preview that
passes is committed as a whole.

Two facts carry the accounting above: a preview moves every balance by `delta`
(`PortfolioState.balance_preview`), and it passes as soon as the balances cover the transaction's
outflows (`PortfolioState.preview_of_covered`), whatever the order of the postings.
-/

set_option autoImplicit false

namespace OnchainBacktest

open Checked

/-- A validated candidate of a commit. -/
structure PortfolioCommit where
  balances : Dict (AccountId × AssetId) Int
  accountKinds : Dict AccountId AccountKind
  deriving DecidableEq

structure PortfolioState where
  balances : Dict (AccountId × AssetId) Int
  accountKinds : Dict AccountId AccountKind
  transactionCount : Nat
  deriving DecidableEq

/-- The kinds whose balance never goes below zero. -/
def AccountKind.owned : AccountKind → Bool
  | .portfolioAvailable | .portfolioReserved | .portfolioLocked | .receivable => true
  | _ => false

/-- A row of the canonical balance projection. -/
abbrev BalanceRow := String × String × String × Int

namespace PortfolioState

/-- The opening state: the initial balances, all available. -/
def initial (initialAvailable : List (AssetId × Nat)) : PortfolioState :=
  initialAvailable.foldl
    (fun s e =>
      { s with
        balances := s.balances.set (.available e.1, e.1) e.2
        accountKinds := s.accountKinds.set (.available e.1) .portfolioAvailable })
    ⟨Dict.empty, Dict.empty, 0⟩

/-- One posting of a preview. -/
def previewPosting (c : PortfolioCommit) (p : Posting) : Except Fault PortfolioCommit := do
  refuseIf (∃ known ∈ c.accountKinds.get? p.account.accountId, known ≠ p.account.kind)
    (.portfolioInvariant "ledger account kind changed")
  let amount := c.balances.getD (p.account.accountId, p.assetId) 0 + p.amountAtomic
  refuseIf (p.account.kind.owned = true ∧ amount < 0)
    (.portfolioInvariant "portfolio balance would become negative")
  .ok ⟨c.balances.set (p.account.accountId, p.assetId) amount,
    c.accountKinds.set p.account.accountId p.account.kind⟩

/-- Validate a transaction without changing the state. -/
def preview (s : PortfolioState) (transaction : LedgerTransaction) :
    Except Fault PortfolioCommit :=
  transaction.postings.foldlM previewPosting ⟨s.balances, s.accountKinds⟩

/-- Commit a candidate returned by `preview`. -/
def commit (s : PortfolioState) (candidate : PortfolioCommit) : PortfolioState :=
  ⟨candidate.balances, candidate.accountKinds, s.transactionCount + 1⟩

/-- The balance of one account in one asset. -/
def balance (s : PortfolioState) (account : AccountId) (asset : AssetId) : Int :=
  s.balances.getD (account, asset) 0

def available (s : PortfolioState) (asset : AssetId) : Int := s.balance (.available asset) asset

def reserved (s : PortfolioState) (asset : AssetId) : Int := s.balance (.reserved asset) asset

/-- The canonical sparse balance projection. -/
def semanticBalances (s : PortfolioState) : List BalanceRow :=
  ((s.balances.entries.filter fun e => e.2 != 0).map fun e =>
      (e.1.1.value, ((s.accountKinds.get? e.1.1).getD .external).value, e.1.2.value, e.2))
    |>.insertionSort fun a b =>
      toLex (a.1, toLex (a.2.1, toLex (a.2.2.1, a.2.2.2)))
        ≤ toLex (b.1, toLex (b.2.1, toLex (b.2.2.1, b.2.2.2)))

/-! ## What a preview does to the balances -/

variable {s : PortfolioState} {c c' : PortfolioCommit} {t : LedgerTransaction} {p : Posting}

theorem previewPosting_eq_ok (h : previewPosting c p = .ok c') :
    c' = ⟨c.balances.set (p.account.accountId, p.assetId)
        (c.balances.getD (p.account.accountId, p.assetId) 0 + p.amountAtomic),
      c.accountKinds.set p.account.accountId p.account.kind⟩ ∧
      (p.account.kind.owned = true →
        0 ≤ c.balances.getD (p.account.accountId, p.assetId) 0 + p.amountAtomic) := by
  simp only [previewPosting, bind_eq_ok, refuseIf_eq_ok, exists_const, Except.ok.injEq] at h
  obtain ⟨_, h2, rfl⟩ := h
  refine ⟨rfl, fun ho => ?_⟩
  by_contra hneg
  exact h2 ⟨ho, by omega⟩

theorem getD_foldlM_previewPosting (postings : List Posting)
    (h : postings.foldlM previewPosting c = .ok c') (account : AccountId) (asset : AssetId) :
    c'.balances.getD (account, asset) 0
      = c.balances.getD (account, asset) 0 + delta postings account asset := by
  induction postings generalizing c with
  | nil =>
    simp only [List.foldlM_nil, pure, Except.pure, Except.ok.injEq] at h
    simp [h]
  | cons p rest ih =>
    rw [List.foldlM_cons] at h
    obtain ⟨d, hd, h⟩ := bind_eq_ok.mp h
    obtain ⟨rfl, _⟩ := previewPosting_eq_ok hd
    rw [ih h, Dict.getD_set]
    simp only [delta, List.map_cons, List.sum_cons, Prod.mk.injEq]
    by_cases hk : account = p.account.accountId ∧ asset = p.assetId
    · obtain ⟨rfl, rfl⟩ := hk
      simp
      omega
    · rw [if_neg hk, if_neg (fun h => hk ⟨h.1.symm, h.2.symm⟩)]
      omega

/-- **A preview moves every balance by what the postings sum to there.** -/
theorem balance_preview (h : s.preview t = .ok c) (account : AccountId) (asset : AssetId) :
    (s.commit c).balance account asset
      = s.balance account asset + delta t.postings account asset :=
  getD_foldlM_previewPosting t.postings h account asset

/-! ## Balances of one kind together -/

/-- What the accounts of one kind hold in one asset. -/
def kindTotal (balances : Dict (AccountId × AssetId) Int) (kind : AccountKind)
    (asset : AssetId) : Int :=
  balances.total fun k v => if k.1.kind = kind ∧ k.2 = asset then v else 0

theorem kindTotal_set (balances : Dict (AccountId × AssetId) Int) (account : AccountId)
    (asset : AssetId) (amount : Int) (kind : AccountKind) (a : AssetId) :
    kindTotal (balances.set (account, asset) (balances.getD (account, asset) 0 + amount)) kind a
      = kindTotal balances kind a + if account.kind = kind ∧ asset = a then amount else 0 := by
  unfold kindTotal
  cases h : balances.get? (account, asset) with
  | none =>
    rw [Dict.total_set_of_new _ _ h, Dict.getD, h]
    simp
  | some old =>
    have h1 := Dict.total_set (balances.getD (account, asset) 0 + amount)
      (fun k v => if k.1.kind = kind ∧ k.2 = a then v else 0) h
    have h2 : balances.getD (account, asset) 0 = old := by rw [Dict.getD, h]; rfl
    simp only at h1
    split at h1 <;> rename_i hk
    · rw [if_pos hk]
      omega
    · rw [if_neg hk]
      omega

theorem kindTotal_foldlM_previewPosting (postings : List Posting) (hwk : WellKinded postings)
    (h : postings.foldlM previewPosting c = .ok c') (kind : AccountKind) (asset : AssetId) :
    kindTotal c'.balances kind asset
      = kindTotal c.balances kind asset + kindDelta postings kind asset := by
  induction postings generalizing c with
  | nil =>
    simp only [List.foldlM_nil, pure, Except.pure, Except.ok.injEq] at h
    simp [h]
  | cons p rest ih =>
    rw [List.foldlM_cons] at h
    obtain ⟨d, hd, h⟩ := bind_eq_ok.mp h
    obtain ⟨rfl, _⟩ := previewPosting_eq_ok hd
    have hk : p.account.kind = p.account.accountId.kind := (hwk p List.mem_cons_self).1
    rw [ih (fun q hq => hwk q (List.mem_cons_of_mem _ hq)) h, kindTotal_set]
    simp only [kindDelta, List.map_cons, List.sum_cons, hk]
    omega

/-- What the accounts of one kind hold in one asset. -/
def kindBalance (s : PortfolioState) (kind : AccountKind) (asset : AssetId) : Int :=
  kindTotal s.balances kind asset

theorem kindBalance_preview (hwk : WellKinded t.postings) (h : s.preview t = .ok c)
    (kind : AccountKind) (asset : AssetId) :
    (s.commit c).kindBalance kind asset
      = s.kindBalance kind asset + kindDelta t.postings kind asset :=
  kindTotal_foldlM_previewPosting t.postings hwk h kind asset

/-! ## When a preview passes -/

/-- The known kinds are the accounts' own, and no owned balance is negative. -/
structure Sound (balances : Dict (AccountId × AssetId) Int)
    (accountKinds : Dict AccountId AccountKind) : Prop where
  kinds : ∀ account kind, accountKinds.get? account = some kind → kind = account.kind
  nonneg : ∀ account asset, account.kind.owned = true → 0 ≤ balances.getD (account, asset) 0

theorem Sound.previewPosting (h : Sound c.balances c.accountKinds)
    (hk : p.account.kind = p.account.accountId.kind) (hc : previewPosting c p = .ok c') :
    Sound c'.balances c'.accountKinds := by
  obtain ⟨rfl, hneg⟩ := previewPosting_eq_ok hc
  refine ⟨fun account kind hget => ?_, fun account asset ho => ?_⟩
  · rw [Dict.get?_set] at hget
    split at hget
    · rename_i he
      rw [← Option.some.inj hget, hk, he]
    · exact h.kinds account kind hget
  · rw [Dict.getD_set]
    split
    · rename_i he
      rw [Prod.mk.injEq] at he
      rw [he.1, ← hk] at ho
      exact hneg ho
    · exact h.nonneg account asset ho

theorem Sound.foldlM (postings : List Posting) (hwk : WellKinded postings)
    (h : Sound c.balances c.accountKinds) (hc : postings.foldlM PortfolioState.previewPosting c = .ok c') :
    Sound c'.balances c'.accountKinds := by
  induction postings generalizing c with
  | nil =>
    simp only [List.foldlM_nil, pure, Except.pure, Except.ok.injEq] at hc
    rwa [← hc]
  | cons p rest ih =>
    rw [List.foldlM_cons] at hc
    obtain ⟨d, hd, hc⟩ := bind_eq_ok.mp hc
    exact ih (fun q hq => hwk q (List.mem_cons_of_mem _ hq))
      (h.previewPosting (hwk p List.mem_cons_self).1 hd) hc

theorem exists_foldlM_previewPosting (postings : List Posting) (hwk : WellKinded postings)
    (h : Sound c.balances c.accountKinds)
    (hcov : ∀ account asset, account.kind.owned = true →
      0 ≤ c.balances.getD (account, asset) 0 + outflow postings account asset) :
    ∃ c', postings.foldlM PortfolioState.previewPosting c = .ok c' := by
  induction postings generalizing c with
  | nil => exact ⟨c, rfl⟩
  | cons p rest ih =>
    have hk : p.account.kind = p.account.accountId.kind := (hwk p List.mem_cons_self).1
    have hstep : ∃ d, PortfolioState.previewPosting c p = .ok d := by
      cases hd : PortfolioState.previewPosting c p with
      | ok d => exact ⟨d, rfl⟩
      | error e =>
        simp only [PortfolioState.previewPosting, bind_eq_error, refuseIf_eq_error] at hd
        rcases hd with ⟨⟨known, hknown, hne⟩, _⟩ | ⟨_, _, ⟨⟨ho, hneg⟩, _⟩ | ⟨_, _, hd⟩⟩
        · exact absurd ((h.kinds _ _ hknown).trans hk.symm) hne
        · have h1 := hcov p.account.accountId p.assetId (hk ▸ ho)
          have h2 := outflow_nonpos p.account.accountId p.assetId rest
          simp only [outflow, List.map_cons, List.sum_cons, and_self, if_true] at h1 h2
          omega
        · cases hd
    obtain ⟨d, hd⟩ := hstep
    have hsound := h.previewPosting hk hd
    obtain ⟨rfl, _⟩ := previewPosting_eq_ok hd
    have hrest : ∀ account asset, account.kind.owned = true →
        0 ≤ (c.balances.set (p.account.accountId, p.assetId)
            (c.balances.getD (p.account.accountId, p.assetId) 0 + p.amountAtomic)).getD
              (account, asset) 0 + outflow rest account asset := by
      intro account asset ho
      have h1 := hcov account asset ho
      simp only [outflow, List.map_cons, List.sum_cons] at h1 ⊢
      rw [Dict.getD_set]
      split
      · rename_i he
        rw [Prod.mk.injEq] at he
        obtain ⟨rfl, rfl⟩ := he
        rw [if_pos ⟨rfl, rfl⟩] at h1
        omega
      · rename_i he
        rw [if_neg (fun h => he (Prod.ext h.1.symm h.2.symm))] at h1
        omega
    obtain ⟨c', hc'⟩ := ih (fun q hq => hwk q (List.mem_cons_of_mem _ hq)) hsound hrest
    refine ⟨c', ?_⟩
    rw [List.foldlM_cons, hd]
    exact hc'

/-- **A preview passes when every owned balance covers what leaves it.** -/
theorem preview_of_covered (hwk : WellKinded t.postings) (h : Sound s.balances s.accountKinds)
    (hcov : ∀ account asset, account.kind.owned = true →
      0 ≤ s.balance account asset + outflow t.postings account asset) :
    ∃ c, s.preview t = .ok c :=
  exists_foldlM_previewPosting t.postings hwk h hcov

theorem sound_commit (hwk : WellKinded t.postings) (h : Sound s.balances s.accountKinds)
    (hc : s.preview t = .ok c) : Sound (s.commit c).balances (s.commit c).accountKinds :=
  h.foldlM t.postings hwk hc

end PortfolioState

end OnchainBacktest
