import Mathlib.Data.List.Sort
import Mathlib.Data.Prod.Lex
import Mathlib.Data.String.Basic
import OnchainBacktest.Domain.Ledger

/-!
# Account requirements

Which accounts an order needs, what they cost, and what became of them.  A protocol names a
requirement, a network prices it, and the engine records its outcome for one round trip as an
`AccountComponentRecord`.

The requirement and its price carry their checks.  The record is kept raw, with the validator of
its constructor beside it (`AccountComponentRecord.postInit`), since that the engine's records pass
it is something to prove and not to assume.
-/

set_option autoImplicit false

namespace OnchainBacktest

open Checked

/-! ## Requirements -/

/-- Lifetime key of an account. -/
inductive AccountRequirementScope
  | mint
  | wallet
  deriving DecidableEq, Repr

def AccountRequirementScope.value : AccountRequirementScope → String
  | mint => "MINT"
  | wallet => "WALLET"

/-- When a created account may return its deposit. -/
inductive AccountReleasePolicy
  | closeOnSuccessfulSell
  | runLocked
  deriving DecidableEq, Repr

def AccountReleasePolicy.value : AccountReleasePolicy → String
  | closeOnSuccessfulSell => "CLOSE_ON_SUCCESSFUL_SELL"
  | runLocked => "RUN_LOCKED"

/-- The one release policy a scope goes with. -/
def AccountRequirementScope.expectedPolicy : AccountRequirementScope → AccountReleasePolicy
  | mint => .closeOnSuccessfulSell
  | wallet => .runLocked

/-- Final outcome of one account requirement for one round trip. -/
inductive AccountComponentLifecycle
  | notCreated
  | reservationReleased
  | prewarmed
  | existingRunLocked
  | createdLocked
  | closedRefunded
  deriving DecidableEq, Repr

/-- Protocol-owned account need, without a price. -/
structure AccountRequirement where
  requirementSchemaId : String
  scope : AccountRequirementScope
  releasePolicy : AccountReleasePolicy
  schema_stable : stableName requirementSchemaId = true
  policy_eq : scope.expectedPolicy = releasePolicy
  deriving DecidableEq

/-- Network-priced account requirement, in an explicit asset. -/
structure PricedAccountRequirement where
  requirement : AccountRequirement
  assetId : AssetId
  maximumDepositAtomic : Nat
  deposit_pos : 0 < maximumDepositAtomic
  deposit_le : maximumDepositAtomic ≤ UINT64_MAX
  deriving DecidableEq

/-- The constructor of a price. -/
def PricedAccountRequirement.make (requirement : AccountRequirement) (assetId : AssetId)
    (maximumDepositAtomic : Nat) : Except Fault PricedAccountRequirement :=
  if h : 0 < maximumDepositAtomic ∧ maximumDepositAtomic ≤ UINT64_MAX then
    .ok ⟨requirement, assetId, maximumDepositAtomic, h.1, h.2⟩
  else .error (.value "maximum_deposit_atomic must be an unsigned 64-bit integer >= 1")

def AccountRequirementScope.order : AccountRequirementScope → Nat
  | mint => 0
  | wallet => 1

/-- Mint-scoped requirements come before wallet-scoped ones. -/
def accountRequirementKey (item : AccountRequirement) : Nat × String × String :=
  (item.scope.order, item.requirementSchemaId, item.releasePolicy.value)

def accountRequirementLe (a b : AccountRequirement) : Bool :=
  let x := accountRequirementKey a
  let y := accountRequirementKey b
  toLex (x.1, toLex (x.2.1, x.2.2)) ≤ toLex (y.1, toLex (y.2.1, y.2.2))

/-- The protocol order, extended with the deposit asset. -/
def pricedAccountRequirementLe (a b : PricedAccountRequirement) : Bool :=
  let x := accountRequirementKey a.requirement
  let y := accountRequirementKey b.requirement
  toLex (x.1, toLex (x.2.1, toLex (x.2.2, a.assetId.value)))
    ≤ toLex (y.1, toLex (y.2.1, toLex (y.2.2, b.assetId.value)))

/-! ## Outcomes -/

/-- Canonical result projection of one account requirement. -/
structure AccountComponentRecord where
  requirementSchemaId : String
  assetId : AssetId
  scope : AccountRequirementScope
  releasePolicy : AccountReleasePolicy
  maximumReservedAtomic : Nat
  paidAtomic : Nat
  releasedAtomic : Nat
  refundedAtomic : Nat
  lockedDeltaAtomic : Int
  lifecycle : AccountComponentLifecycle
  attributionKind : LedgerCorrelationKind
  attributionId : ContentDigest
  deriving DecidableEq

namespace AccountComponentRecord

/-- The amounts a lifecycle allows. -/
def validateLifecycleAmounts (r : AccountComponentRecord) : Except Fault Unit :=
  match r.lifecycle with
  | .notCreated =>
    refuseIf (r.paidAtomic ≠ 0 ∨ r.releasedAtomic ≠ 0 ∨ r.refundedAtomic ≠ 0)
      (.value "an uncreated account cannot carry cashflows")
  | .reservationReleased => do
    refuseIf (r.paidAtomic ≠ 0 ∨ r.refundedAtomic ≠ 0 ∨ r.lockedDeltaAtomic ≠ 0)
      (.value "a released reservation cannot carry a deposit")
    refuseIf (r.releasedAtomic ≠ r.maximumReservedAtomic)
      (.value "a released reservation must release its full maximum")
  | .prewarmed =>
    refuseIf (r.maximumReservedAtomic ≠ 0 ∨ r.paidAtomic ≠ 0 ∨ r.releasedAtomic ≠ 0 ∨
        r.refundedAtomic ≠ 0 ∨ r.lockedDeltaAtomic ≠ 0)
      (.value "an existing account cannot duplicate lifecycle cashflow")
  | .existingRunLocked => do
    refuseIf (r.paidAtomic ≠ 0 ∨ r.refundedAtomic ≠ 0 ∨ r.lockedDeltaAtomic ≠ 0)
      (.value "an existing account cannot duplicate lifecycle cashflow")
    refuseIf (r.releasedAtomic ≠ r.maximumReservedAtomic)
      (.value "an existing account must release any redundant reservation")
  | .createdLocked => do
    refuseIf (r.paidAtomic = 0 ∨ r.paidAtomic ≠ r.maximumReservedAtomic)
      (.value "a locked account must pay its full reserved deposit")
    refuseIf (r.releasedAtomic ≠ 0 ∨ r.refundedAtomic ≠ 0)
      (.value "a locked account cannot release or refund its deposit")
  | .closedRefunded => do
    refuseIf (r.releasePolicy ≠ .closeOnSuccessfulSell)
      (.value "a run-locked account cannot be closed by a sell")
    refuseIf (r.paidAtomic = 0 ∨ r.paidAtomic ≠ r.refundedAtomic)
      (.value "a closed account must refund its complete paid deposit")
    refuseIf (r.releasedAtomic ≠ 0 ∨ r.maximumReservedAtomic ≠ r.paidAtomic)
      (.value "a closed account has inconsistent reservation amounts")

/-- What the amounts of a lifecycle are. -/
def AmountsFit (r : AccountComponentRecord) : Prop :=
  match r.lifecycle with
  | .notCreated => r.paidAtomic = 0 ∧ r.releasedAtomic = 0 ∧ r.refundedAtomic = 0
  | .reservationReleased =>
    r.paidAtomic = 0 ∧ r.refundedAtomic = 0 ∧ r.lockedDeltaAtomic = 0 ∧
      r.releasedAtomic = r.maximumReservedAtomic
  | .prewarmed =>
    r.maximumReservedAtomic = 0 ∧ r.paidAtomic = 0 ∧ r.releasedAtomic = 0 ∧
      r.refundedAtomic = 0 ∧ r.lockedDeltaAtomic = 0
  | .existingRunLocked =>
    r.paidAtomic = 0 ∧ r.refundedAtomic = 0 ∧ r.lockedDeltaAtomic = 0 ∧
      r.releasedAtomic = r.maximumReservedAtomic
  | .createdLocked =>
    r.paidAtomic ≠ 0 ∧ r.paidAtomic = r.maximumReservedAtomic ∧ r.releasedAtomic = 0 ∧
      r.refundedAtomic = 0
  | .closedRefunded =>
    r.releasePolicy = .closeOnSuccessfulSell ∧ r.paidAtomic ≠ 0 ∧
      r.paidAtomic = r.refundedAtomic ∧ r.releasedAtomic = 0 ∧
      r.maximumReservedAtomic = r.paidAtomic

theorem validateLifecycleAmounts_eq_ok {r : AccountComponentRecord} :
    r.validateLifecycleAmounts = .ok () ↔ r.AmountsFit := by
  rw [validateLifecycleAmounts, AmountsFit]
  cases r.lifecycle <;> simp [check_bind_eq_ok, not_or, and_assoc]

/-- The checks of the constructor. -/
def postInit (r : AccountComponentRecord) : Except Fault Unit := do
  refuseIf (stableName r.requirementSchemaId = false)
    (.value "requirement_schema_id must be non-empty, trimmed and NUL-free")
  refuseIf (r.scope.expectedPolicy ≠ r.releasePolicy)
    (.value "account requirement scope and release policy are incompatible")
  refuseIf (UINT64_MAX < r.maximumReservedAtomic)
    (.value "maximum_reserved_atomic must be an unsigned 64-bit integer >= 0")
  refuseIf (UINT64_MAX < r.paidAtomic)
    (.value "paid_atomic must be an unsigned 64-bit integer >= 0")
  refuseIf (UINT64_MAX < r.releasedAtomic)
    (.value "released_atomic must be an unsigned 64-bit integer >= 0")
  refuseIf (UINT64_MAX < r.refundedAtomic)
    (.value "refunded_atomic must be an unsigned 64-bit integer >= 0")
  refuseIf (¬ (-(2 ^ 127) ≤ r.lockedDeltaAtomic ∧ r.lockedDeltaAtomic < 2 ^ 127))
    (.value "locked_delta_atomic must fit signed Int128")
  refuseIf (r.maximumReservedAtomic < r.paidAtomic + r.releasedAtomic)
    (.value "account component consumes more than its reservation")
  refuseIf (r.paidAtomic < r.refundedAtomic)
    (.value "account component refund exceeds its paid deposit")
  refuseIf (r.lockedDeltaAtomic ≠ (r.paidAtomic : Int) - r.refundedAtomic)
    (.value "account component locked delta is inconsistent")
  r.validateLifecycleAmounts

/-- The constructor: the record, once its checks pass. -/
def checked (r : AccountComponentRecord) : Except Fault AccountComponentRecord := do
  r.postInit
  .ok r

theorem checked_eq_ok {r r' : AccountComponentRecord} :
    r.checked = .ok r' ↔ r.postInit = .ok () ∧ r = r' := by
  simp only [checked, check_bind_eq_ok, Except.ok.injEq]

/-- A record passes its checks when its amounts fit its lifecycle and its requirement. -/
theorem postInit_eq_ok {r : AccountComponentRecord} :
    r.postInit = .ok () ↔
      stableName r.requirementSchemaId = true ∧ r.scope.expectedPolicy = r.releasePolicy ∧
        r.maximumReservedAtomic ≤ UINT64_MAX ∧
        r.paidAtomic + r.releasedAtomic ≤ r.maximumReservedAtomic ∧
        r.refundedAtomic ≤ r.paidAtomic ∧
        r.lockedDeltaAtomic = (r.paidAtomic : Int) - r.refundedAtomic ∧ r.AmountsFit := by
  have hmax : UINT64_MAX = 2 ^ 64 - 1 := rfl
  simp only [postInit, bind_eq_ok, refuseIf_eq_ok, exists_const, not_lt, not_not,
    Bool.not_eq_false, ne_eq, validateLifecycleAmounts_eq_ok]
  constructor
  · rintro ⟨h1, h2, h3, h4, h5, h6, h7, h8, h9, h10, h11⟩
    exact ⟨h1, h2, h3, h8, h9, h10, h11⟩
  · rintro ⟨h1, h2, h3, h8, h9, h10, h11⟩
    exact ⟨h1, h2, h3, by omega, by omega, by omega, by omega, h8, h9, h10, h11⟩

end AccountComponentRecord

end OnchainBacktest
