import OnchainBacktest.Lib.Tally
import OnchainBacktest.Domain.AccountRequirements

/-!
# Wallet account provisioning

The run-scoped reducer for token accounts: one account for each mint, opened by a buy that lands
and closed by the sell that empties it, and one wallet-scoped accumulator (UVA), created at most
once in a run and never closed.

An order reserves the deposits of the accounts that do not exist yet (`prepareAccountReservation`)
and settles them when it lands (`applyBuyAccountTransition`), by which time another order may have
created the accumulator.  All functions are pure: the engine previews a transition and commits its
state only after the ledger has accepted the matching transaction.
-/

set_option autoImplicit false

namespace OnchainBacktest

open Checked

/-- Opening state of the wallet-scoped accumulator. -/
inductive WalletUvaInitialState
  | fresh
  | prewarmed
  deriving DecidableEq, Repr

/-- An open mint account: its mint, its schema and the round trip that opened it. -/
abbrev OpenMintAccount := AssetId × String × ContentDigest

def openMintAccountLe (a b : OpenMintAccount) : Bool :=
  toLex (a.1.value, toLex (a.2.1, a.2.2.hex.val)) ≤ toLex (b.1.value, toLex (b.2.1, b.2.2.hex.val))

structure WalletProvisioningState where
  initialUvaState : WalletUvaInitialState
  uvaSchemaId : String
  uvaCreatedByRoundtripId : Option ContentDigest
  openMintAccounts : List OpenMintAccount
  deriving DecidableEq

namespace WalletProvisioningState

/-- The constructor: the state, once its checks pass. -/
def checked (s : WalletProvisioningState) : Except Fault WalletProvisioningState := do
  refuseIf (stableName s.uvaSchemaId = false)
    (.value "UVA schema ID must be non-empty, trimmed and NUL-free")
  refuseIf (s.initialUvaState = .prewarmed ∧ s.uvaCreatedByRoundtripId ≠ none)
    (.value "prewarmed UVA cannot have an in-run creator")
  refuseIf (¬ s.openMintAccounts.Pairwise fun a b => openMintAccountLe a b = true)
    (.value "open mint accounts must be canonically sorted")
  refuseIf (¬ (s.openMintAccounts.map Prod.fst).Nodup)
    (.value "a mint cannot have multiple open accounts")
  .ok s

def uvaExists (s : WalletProvisioningState) : Bool :=
  s.initialUvaState == .prewarmed || s.uvaCreatedByRoundtripId.isSome

/-- The mint has an open account. -/
def mintOpen (s : WalletProvisioningState) (mint : AssetId) : Bool :=
  s.openMintAccounts.any fun opened => opened.1 == mint

end WalletProvisioningState

/-- The run-opening account state. -/
def initialWalletProvisioningState (initialUvaState : WalletUvaInitialState)
    (uvaSchemaId : String) : Except Fault WalletProvisioningState :=
  WalletProvisioningState.checked ⟨initialUvaState, uvaSchemaId, none, []⟩

/-! ## Reservations -/

/-- Accepted maximum reservation for one priced requirement. -/
structure AccountReservationComponent where
  priced : PricedAccountRequirement
  maximumReservedAtomic : Nat
  within : maximumReservedAtomic ≤ priced.maximumDepositAtomic
  deriving DecidableEq

/-- The scope of the requirement behind a component. -/
def AccountReservationComponent.scope (c : AccountReservationComponent) :
    AccountRequirementScope := c.priced.requirement.scope

/-- The key components are sorted by. -/
def componentKey (priced : PricedAccountRequirement) : String ×ₗ String :=
  toLex (priced.requirement.scope.value, priced.requirement.requirementSchemaId)

/-- Canonical account portion of one accepted buy reservation. -/
structure AccountReservationPlan where
  roundtripId : ContentDigest
  mintAssetId : AssetId
  components : List AccountReservationComponent
  sorted : (components.map fun c => componentKey c.priced).Pairwise (· ≤ ·)
  one_mint : (components.map AccountReservationComponent.scope).count .mint = 1
  one_wallet : (components.map AccountReservationComponent.scope).count .wallet = 1
  deriving DecidableEq

namespace AccountReservationPlan

/-- The constructor of a plan.  Keys of the two scopes differ, so one component of each scope
makes them unique as well. -/
def make (roundtripId : ContentDigest) (mintAssetId : AssetId)
    (components : List AccountReservationComponent) : Except Fault AccountReservationPlan :=
  if h1 : (components.map fun c => componentKey c.priced).Pairwise (· ≤ ·) ∧
      (components.map fun c => componentKey c.priced).Nodup then
    if h2 : (components.map AccountReservationComponent.scope).count .mint = 1 then
      if h3 : (components.map AccountReservationComponent.scope).count .wallet = 1 then
        .ok ⟨roundtripId, mintAssetId, components, h1.1, h2, h3⟩
      else .error (.value "account reservation requires exactly one wallet component")
    else .error (.value "account reservation requires exactly one mint component")
  else .error (.value "account reservation components must be sorted and unique")

/-- The accepted reservation, aggregated by asset. -/
def reservedAssetAmounts (plan : AccountReservationPlan) : List (AssetId × Nat) :=
  Tally.collect (fun a b => a.value ≤ b.value)
    (plan.components.map fun c => (c.priced.assetId, c.maximumReservedAtomic))

theorem make_eq_ok {roundtripId : ContentDigest} {mintAssetId : AssetId}
    {components : List AccountReservationComponent} {plan : AccountReservationPlan}
    (h : make roundtripId mintAssetId components = .ok plan) :
    plan.roundtripId = roundtripId ∧ plan.mintAssetId = mintAssetId ∧
      plan.components = components := by
  rw [make] at h
  split at h
  · split at h
    · split at h
      · cases h
        exact ⟨rfl, rfl, rfl⟩
      · cases h
    · cases h
  · cases h

/-- **A plan is one mint component followed by one wallet component.** -/
theorem components_eq (plan : AccountReservationPlan) :
    ∃ m w, plan.components = [m, w] ∧ m.scope = .mint ∧ w.scope = .wallet := by
  obtain ⟨rid, mint, cs, hs, hm, hw⟩ := plan
  simp only
  have hlen : cs.length = 2 := by
    have h1 : ∀ l : List AccountRequirementScope, l.length = l.count .mint + l.count .wallet := by
      intro l
      induction l with
      | nil => rfl
      | cons a l ih => cases a <;> simp [ih] <;> omega
    have h2 := h1 (cs.map AccountReservationComponent.scope)
    rw [List.length_map, hm, hw] at h2
    exact h2
  match cs, hlen with
  | [a, b], _ =>
    cases ha : a.scope with
    | mint =>
      cases hb : b.scope with
      | mint => simp [ha, hb] at hm
      | wallet => exact ⟨a, b, rfl, ha, hb⟩
    | wallet =>
      cases hb : b.scope with
      | wallet => simp [ha, hb] at hw
      | mint =>
        simp only [List.map_cons, List.map_nil, List.pairwise_cons, List.mem_singleton,
          forall_eq] at hs
        have h1 := hs.1
        rw [componentKey, componentKey, Prod.Lex.le_iff] at h1
        rw [AccountReservationComponent.scope] at ha hb
        simp only [ha, hb, AccountRequirementScope.value, ofLex_toLex] at h1
        rcases h1 with h1 | h1
        · exact absurd h1 (by decide)
        · exact absurd h1.1 (by decide)

end AccountReservationPlan

/-- Compute an accepted reservation without changing the provisioning state. -/
def prepareAccountReservation (state : WalletProvisioningState) (roundtripId : ContentDigest)
    (mintAssetId : AssetId) (pricedRequirements : List PricedAccountRequirement) :
    Except Fault AccountReservationPlan := do
  refuseIf (pricedRequirements = [])
    (.value "priced account requirements must be a non-empty tuple")
  refuseIf (state.mintOpen mintAssetId = true) (.walletProvisioning "mint account is already open")
  let walletRequirements := pricedRequirements.filter fun item => item.requirement.scope == .wallet
  refuseIf (walletRequirements.length ≠ 1)
    (.walletProvisioning "exactly one wallet requirement is required")
  refuseIf (∃ item ∈ walletRequirements,
      item.requirement.requirementSchemaId ≠ state.uvaSchemaId)
    (.walletProvisioning "wallet requirement does not match the resolved UVA")
  let components := pricedRequirements.map fun priced =>
    if priced.requirement.scope = .wallet ∧ state.uvaExists = true then
      (⟨priced, 0, Nat.zero_le _⟩ : AccountReservationComponent)
    else ⟨priced, priced.maximumDepositAtomic, le_rfl⟩
  AccountReservationPlan.make roundtripId mintAssetId
    (components.insertionSort fun a b => componentKey a.priced ≤ componentKey b.priced)

/-! ## Outcomes -/

/-- Previewed state and canonical component outcomes. -/
structure AccountProvisioningTransition where
  state : WalletProvisioningState
  records : List AccountComponentRecord
  deriving DecidableEq

/-- How the wallet account already exists, if it does. -/
def existingWalletLifecycle (state : WalletProvisioningState) (priced : PricedAccountRequirement) :
    Option AccountComponentLifecycle :=
  if priced.requirement.scope ≠ .wallet then none
  else if state.initialUvaState = .prewarmed then some .prewarmed
  else if state.uvaCreatedByRoundtripId ≠ none then some .existingRunLocked
  else none

/-- The record of one component. -/
def componentRecord (component : AccountReservationComponent) (roundtripId : ContentDigest)
    (lifecycle : AccountComponentLifecycle) (paidAtomic releasedAtomic : Nat) :
    AccountComponentRecord where
  requirementSchemaId := component.priced.requirement.requirementSchemaId
  assetId := component.priced.assetId
  scope := component.priced.requirement.scope
  releasePolicy := component.priced.requirement.releasePolicy
  maximumReservedAtomic := component.maximumReservedAtomic
  paidAtomic := paidAtomic
  releasedAtomic := releasedAtomic
  refundedAtomic := 0
  lockedDeltaAtomic := paidAtomic
  lifecycle := lifecycle
  attributionKind := .roundtrip
  attributionId := roundtripId

/-- Describe requirements that never became a portfolio reservation. -/
def unsubmittedAccountRecords (state : WalletProvisioningState) (plan : AccountReservationPlan) :
    Except Fault (List AccountComponentRecord) :=
  plan.components.mapM fun component =>
    (componentRecord component plan.roundtripId
      ((existingWalletLifecycle state component.priced).getD .notCreated) 0 0).checked

/-- One component of a buy that landed. -/
def applyBuyComponent (plan : AccountReservationPlan)
    (candidate : WalletProvisioningState × List AccountComponentRecord)
    (component : AccountReservationComponent) :
    Except Fault (WalletProvisioningState × List AccountComponentRecord) :=
  if component.priced.requirement.scope = .mint then do
    let opened := candidate.1.openMintAccounts ++
      [(plan.mintAssetId, component.priced.requirement.requirementSchemaId, plan.roundtripId)]
    let state ← ({ candidate.1 with
      openMintAccounts := opened.insertionSort fun a b => openMintAccountLe a b = true }
        : WalletProvisioningState).checked
    let record ← (componentRecord component plan.roundtripId .createdLocked
      component.maximumReservedAtomic 0).checked
    .ok (state, candidate.2 ++ [record])
  else
    match existingWalletLifecycle candidate.1 component.priced with
    | some existing => do
      let record ← (componentRecord component plan.roundtripId existing 0
        component.maximumReservedAtomic).checked
      .ok (candidate.1, candidate.2 ++ [record])
    | none => do
      let state ← ({ candidate.1 with uvaCreatedByRoundtripId := some plan.roundtripId }
        : WalletProvisioningState).checked
      let record ← (componentRecord component plan.roundtripId .createdLocked
        component.maximumReservedAtomic 0).checked
      .ok (state, candidate.2 ++ [record])

/-- Preview account state and reservation outcomes of a buy landing. -/
def applyBuyAccountTransition (state : WalletProvisioningState) (plan : AccountReservationPlan)
    (successful : Bool) : Except Fault AccountProvisioningTransition := do
  refuseIf (state.mintOpen plan.mintAssetId = true)
    (.walletProvisioning "mint account is already open")
  if successful then
    let result ← plan.components.foldlM (applyBuyComponent plan) (state, [])
    .ok ⟨result.1, result.2⟩
  else
    let records ← plan.components.mapM fun component =>
      (componentRecord component plan.roundtripId
        ((existingWalletLifecycle state component.priced).getD .reservationReleased) 0
        component.maximumReservedAtomic).checked
    .ok ⟨state, records⟩

/-- One record of a sell that landed. -/
def closeRecord (record : AccountComponentRecord) : Except Fault AccountComponentRecord :=
  if record.scope = .mint then do
    refuseIf (record.lifecycle ≠ .createdLocked)
      (.walletProvisioning "mint account is not in a closable state")
    ({ record with
      refundedAtomic := record.paidAtomic
      lockedDeltaAtomic := 0
      lifecycle := .closedRefunded } : AccountComponentRecord).checked
  else .ok record

/-- Preview the close of a mint account, keeping the wallet account. -/
def applySellAccountTransition (state : WalletProvisioningState) (roundtripId : ContentDigest)
    (mintAssetId : AssetId) (records : List AccountComponentRecord) (successful : Bool) :
    Except Fault AccountProvisioningTransition := do
  if successful then
    let closable := match state.openMintAccounts.filter fun item => item.1 == mintAssetId with
      | [item] => item.2.2 == roundtripId
      | _ => false
    refuseIf (closable = false)
      (.walletProvisioning "sell does not own the open mint account")
    let updated ← records.mapM closeRecord
    let remaining := state.openMintAccounts.filter fun item => item.1 != mintAssetId
    let next ← ({ state with openMintAccounts := remaining } : WalletProvisioningState).checked
    .ok ⟨next, updated⟩
  else .ok ⟨state, records⟩

/-- Currently locked closeable mint deposits, by asset. -/
def refundableMintDeposits (records : List AccountComponentRecord) : List (AssetId × Nat) :=
  Tally.collect (fun a b => a.value ≤ b.value) <|
    (records.filter fun r => r.scope == .mint && r.releasePolicy == .closeOnSuccessfulSell &&
      decide (0 < r.lockedDeltaAtomic)).map fun r => (r.assetId, r.lockedDeltaAtomic.toNat)

/-- Wallet-scoped value created and still locked by this round trip, by asset. -/
def runLockedValue (records : List AccountComponentRecord) : List (AssetId × Nat) :=
  Tally.collect (fun a b => a.value ≤ b.value) <|
    (records.filter fun r => r.scope == .wallet && r.releasePolicy == .runLocked &&
      decide (0 < r.lockedDeltaAtomic)).map fun r => (r.assetId, r.lockedDeltaAtomic.toNat)

end OnchainBacktest
