import Mathlib.Algebra.BigOperators.Group.List.Basic
import OnchainBacktest.Domain.Identifiers

/-!
# The double-entry ledger

A ledger transaction is a list of postings that conserve every asset.  Postings are appended by
`posting`, which leaves out an amount of zero.

The arithmetic of a list of postings is `delta`: what it does to one account in one asset.
-/

set_option autoImplicit false

namespace OnchainBacktest

open Checked

structure LedgerAccount where
  accountId : AccountId
  kind : AccountKind
  deriving DecidableEq

/-- A posting; its amount is never zero. -/
structure Posting where
  account : LedgerAccount
  assetId : AssetId
  amountAtomic : Int
  amount_ne : amountAtomic ≠ 0
  deriving DecidableEq

/-- Typed owner of one ledger transaction. -/
inductive LedgerCorrelationKind
  | order
  | roundtrip
  deriving DecidableEq, Repr

/-- What the postings of one asset sum to. -/
def assetTotal (postings : List Posting) (asset : AssetId) : Int :=
  (postings.map fun p => if p.assetId = asset then p.amountAtomic else 0).sum

/-- An immutable transaction; it conserves every asset. -/
structure LedgerTransaction where
  transactionId : ContentDigest
  correlationKind : LedgerCorrelationKind
  correlationId : ContentDigest
  boundaryOrdinal : Nat
  postings : List Posting
  reason : String
  reason_trimmed : nonemptyTrimmed reason = true
  two_le : 2 ≤ postings.length
  conserves : ∀ p ∈ postings, assetTotal postings p.assetId = 0
  deriving DecidableEq

/-- The constructor of a transaction. -/
def LedgerTransaction.make (transactionId : ContentDigest)
    (correlationKind : LedgerCorrelationKind) (correlationId : ContentDigest)
    (boundaryOrdinal : Nat) (postings : List Posting) (reason : String) :
    Except Fault LedgerTransaction :=
  if h1 : nonemptyTrimmed reason = true then
    if h2 : 2 ≤ postings.length then
      if h3 : ∀ p ∈ postings, assetTotal postings p.assetId = 0 then
        .ok ⟨transactionId, correlationKind, correlationId, boundaryOrdinal, postings, reason,
          h1, h2, h3⟩
      else .error (.value "ledger postings must conserve every asset")
    else .error (.value "double-entry transaction requires at least two postings")
  else .error (.value "ledger reason must be non-empty and trimmed")

/-- What a constructed transaction holds. -/
theorem LedgerTransaction.make_eq_ok {transactionId : ContentDigest}
    {correlationKind : LedgerCorrelationKind} {correlationId : ContentDigest}
    {boundaryOrdinal : Nat} {postings : List Posting} {reason : String} {t : LedgerTransaction}
    (h : make transactionId correlationKind correlationId boundaryOrdinal postings reason = .ok t) :
    t.transactionId = transactionId ∧ t.correlationKind = correlationKind ∧
      t.correlationId = correlationId ∧ t.boundaryOrdinal = boundaryOrdinal ∧
      t.postings = postings ∧ t.reason = reason := by
  rw [make] at h
  split at h
  · split at h
    · split at h
      · cases h
        exact ⟨rfl, rfl, rfl, rfl, rfl, rfl⟩
      · cases h
    · cases h
  · cases h

/-- Append a posting, unless its amount is zero. -/
def posting (postings : List Posting) (accountId : AccountId) (kind : AccountKind)
    (assetId : AssetId) (amount : Int) : List Posting :=
  if h : amount ≠ 0 then postings ++ [⟨⟨accountId, kind⟩, assetId, amount, h⟩] else postings

/-! ## What postings do to an account -/

/-- What the postings to one account sum to in one asset. -/
def delta (postings : List Posting) (account : AccountId) (asset : AssetId) : Int :=
  (postings.map fun p =>
    if p.account.accountId = account ∧ p.assetId = asset then p.amountAtomic else 0).sum

/-- What the postings to accounts of one kind sum to in one asset. -/
def kindDelta (postings : List Posting) (kind : AccountKind) (asset : AssetId) : Int :=
  (postings.map fun p =>
    if p.account.kind = kind ∧ p.assetId = asset then p.amountAtomic else 0).sum

/-- The negative postings alone. -/
def outflow (postings : List Posting) (account : AccountId) (asset : AssetId) : Int :=
  (postings.map fun p =>
    if p.account.accountId = account ∧ p.assetId = asset then min p.amountAtomic 0 else 0).sum

section Sums

variable {postings : List Posting} {accountId account : AccountId} {kind k : AccountKind}
  {assetId asset : AssetId} {amount : Int}

@[simp] theorem delta_nil : delta [] account asset = 0 := rfl

@[simp] theorem kindDelta_nil : kindDelta [] k asset = 0 := rfl

@[simp] theorem outflow_nil : outflow [] account asset = 0 := rfl

theorem delta_append (ps qs : List Posting) :
    delta (ps ++ qs) account asset = delta ps account asset + delta qs account asset := by
  simp [delta]

theorem kindDelta_append (ps qs : List Posting) :
    kindDelta (ps ++ qs) k asset = kindDelta ps k asset + kindDelta qs k asset := by
  simp [kindDelta]

theorem outflow_append (ps qs : List Posting) :
    outflow (ps ++ qs) account asset = outflow ps account asset + outflow qs account asset := by
  simp [outflow]

@[simp] theorem delta_posting :
    delta (posting postings accountId kind assetId amount) account asset
      = delta postings account asset
        + if accountId = account ∧ assetId = asset then amount else 0 := by
  rw [posting]
  split
  · rw [delta_append]
    simp [delta]
  · rename_i h
    simp [not_not.mp h]

@[simp] theorem kindDelta_posting :
    kindDelta (posting postings accountId kind assetId amount) k asset
      = kindDelta postings k asset + if kind = k ∧ assetId = asset then amount else 0 := by
  rw [posting]
  split
  · rw [kindDelta_append]
    simp [kindDelta]
  · rename_i h
    simp [not_not.mp h]

@[simp] theorem outflow_posting :
    outflow (posting postings accountId kind assetId amount) account asset
      = outflow postings account asset
        + if accountId = account ∧ assetId = asset then min amount 0 else 0 := by
  rw [posting]
  split
  · rw [outflow_append]
    simp [outflow]
  · rename_i h
    simp [not_not.mp h]

theorem outflow_nonpos (account : AccountId) (asset : AssetId) (ps : List Posting) :
    outflow ps account asset ≤ 0 := by
  induction ps with
  | nil => simp
  | cons p ps ih =>
    simp only [outflow, List.map_cons, List.sum_cons] at ih ⊢
    split <;> omega

/-- A posting is made to an account under the account's own kind, and an account that is opened
for one asset holds no other. -/
def WellKinded (postings : List Posting) : Prop :=
  ∀ p ∈ postings, p.account.kind = p.account.accountId.kind ∧
    p.account.accountId.mayHold p.assetId

theorem wellKinded_nil : WellKinded [] := by simp [WellKinded]

theorem wellKinded_posting (h : WellKinded postings) (hk : kind = accountId.kind)
    (ha : accountId.mayHold assetId) :
    WellKinded (posting postings accountId kind assetId amount) := by
  intro p hp
  rw [posting] at hp
  split at hp
  · rcases List.mem_append.mp hp with hp | hp
    · exact h p hp
    · rw [List.mem_singleton] at hp
      rw [hp]
      exact ⟨hk, ha⟩
  · exact h p hp

end Sums

/-- The available accounts of one asset are one account. -/
theorem kindDelta_available {ps : List Posting} (h : WellKinded ps) (asset : AssetId) :
    kindDelta ps .portfolioAvailable asset = delta ps (.available asset) asset := by
  rw [kindDelta, delta]
  congr 1
  refine List.map_congr_left fun p hp => ?_
  obtain ⟨hk, ha⟩ := h p hp
  refine if_congr ⟨fun ⟨h1, h2⟩ => ⟨?_, h2⟩, fun ⟨h1, h2⟩ => ⟨by rw [hk, h1]; rfl, h2⟩⟩ rfl rfl
  rw [hk] at h1
  cases hid : p.account.accountId <;> rw [hid] at h1 ha <;> cases h1
  rw [AccountId.mayHold] at ha
  rw [ha, h2]

/-- The reserved accounts of one asset are one account. -/
theorem kindDelta_reserved {ps : List Posting} (h : WellKinded ps) (asset : AssetId) :
    kindDelta ps .portfolioReserved asset = delta ps (.reserved asset) asset := by
  rw [kindDelta, delta]
  congr 1
  refine List.map_congr_left fun p hp => ?_
  obtain ⟨hk, ha⟩ := h p hp
  refine if_congr ⟨fun ⟨h1, h2⟩ => ⟨?_, h2⟩, fun ⟨h1, h2⟩ => ⟨by rw [hk, h1]; rfl, h2⟩⟩ rfl rfl
  rw [hk] at h1
  cases hid : p.account.accountId <;> rw [hid] at h1 ha <;> cases h1
  rw [AccountId.mayHold] at ha
  rw [ha, h2]

end OnchainBacktest
