import OnchainBacktest.Engine.Portfolio
import OnchainBacktest.Engine.SnipingContracts
import OnchainBacktest.Engine.WalletAccounts

/-!
# Reservations and settlements

The ledger transactions of an order: what it reserves when it is accepted, and the four ways it is
settled when it lands.  A settlement empties the order's reservation: what the landing consumed
leaves the portfolio, the rest returns to the available balance.

For each builder one lemma says what the transaction does to every account the invariants speak of
(`Settles`): the reserved account gives up exactly the reservation, no available balance is taken
from, locked balances move by the deposits of the account records.
-/

set_option autoImplicit false

namespace OnchainBacktest

open Checked

/-- Amounts by asset, in canonical form. -/
abbrev AssetAmounts := List (AssetId × Nat)

def canonicalAssetAmounts (components : List (AssetId × Nat)) : AssetAmounts :=
  Tally.collect (fun a b => a.value ≤ b.value) components

def buyReservation (intent : PositionIntent) (network : NetworkCostQuote)
    (accountPlan : AccountReservationPlan) : AssetAmounts :=
  canonicalAssetAmounts
    ((intent.quoteAssetId, intent.grossBuyBudgetAtomic)
      :: (network.feeAssetId, network.transactionFeeAtomic) :: accountPlan.reservedAssetAmounts)

def sellReservation (intent : PositionIntent) (tokensAtomic : Nat) (network : NetworkCostQuote) :
    AssetAmounts :=
  canonicalAssetAmounts
    [(intent.assetId, tokensAtomic), (network.feeAssetId, network.transactionFeeAtomic)]

def hasAvailable (portfolio : PortfolioState) (amounts : AssetAmounts) : Bool :=
  amounts.all fun e => decide ((e.2 : Int) ≤ portfolio.available e.1)

def amountIfAsset (assetId expected : AssetId) (amount : Nat) : Nat :=
  if assetId = expected then amount else 0

/-- Read one explicit asset amount. -/
def assetAmount (amounts : AssetAmounts) (expected : AssetId) : Nat := Tally.lookup amounts expected

def minimumOutputAtomic (reference slippageBps : Nat) : Nat :=
  reference * (10000 - slippageBps) / 10000

/-! ## Quote checks -/

def validateBuyQuote (intent : PositionIntent) (quote : ProtocolQuote) : Except Fault Unit :=
  refuseIf (quote.side ≠ .buy ∨ quote.inputAssetId ≠ intent.quoteAssetId ∨
      quote.outputAssetId ≠ intent.assetId ∨ intent.grossBuyBudgetAtomic < quote.amountInAtomic)
    (.snipingEngine .quoteContractMismatch)

section Digests

variable [DomainDigest]

/-- The source an exact shortfall has to name. -/
def expectedSyntheticSource (intent : PositionIntent) (expectedShortfall : Nat) :
    Except Fault (Option AccountId) :=
  if 0 < expectedShortfall then do
    let account ← syntheticLiquidityAccountId "pumpfun" intent.targetPosition.networkId
      intent.venueId
    .ok (some account)
  else .ok none

def validateSellQuote (intent : PositionIntent) (tokensAtomic : Nat) (quote : ProtocolQuote) :
    Except Fault Unit := do
  refuseIf (quote.side ≠ .sell ∨ quote.inputAssetId ≠ intent.assetId ∨
      quote.outputAssetId ≠ intent.quoteAssetId ∨ quote.amountInAtomic ≠ tokensAtomic)
    (.snipingEngine .quoteContractMismatch)
  match quote.liquidityEvidence with
  | none => .error (.snipingEngine .quoteContractMismatch)
  | some liquidity => do
    let expectedPolicyId ← liquidityPolicyIdForExecutionMode intent.executionMode
    refuseIf (liquidity.policyId ≠ expectedPolicyId) (.snipingEngine .quoteContractMismatch)
    if intent.executionMode = .exogenousReplay then
      refuseIf (liquidity.syntheticShortfallAtomic ≠ 0 ∨
          liquidity.syntheticSourceAccountId ≠ none) (.snipingEngine .quoteContractMismatch)
    else do
      let expectedShortfall :=
        liquidity.requiredOutputAtomic - liquidity.observedAvailableOutputAtomic
      let expectedSource ← expectedSyntheticSource intent expectedShortfall
      refuseIf (intent.executionMode ≠ .exogenousVirtualSettlement ∨
          liquidity.syntheticShortfallAtomic ≠ expectedShortfall ∨
          liquidity.syntheticSourceAccountId ≠ expectedSource)
        (.snipingEngine .quoteContractMismatch)

/-! ## Transactions -/

def ledgerTransaction (roundtripId : ContentDigest) (boundary : Nat) (reason : String)
    (postings : List Posting) : Except Fault LedgerTransaction :=
  LedgerTransaction.make
    (domainDigest "backtest.sniping-ledger-transaction.v2"
      [("boundary_ordinal", .integer boundary), ("reason", .text reason),
        ("roundtrip_id", .text roundtripId.spelling)])
    .roundtrip roundtripId boundary postings reason

end Digests

/-- Move amounts from the available to the reserved balances. -/
def reserveAmounts (postings : List Posting) (amounts : AssetAmounts) : List Posting :=
  amounts.foldl
    (fun postings e =>
      posting (posting postings (.available e.1) .portfolioAvailable e.1 (-(e.2 : Int)))
        (.reserved e.1) .portfolioReserved e.1 e.2)
    postings

/-- Give up one reserved amount; what was not consumed becomes available again. -/
def settleReservedAmount (consumed : AssetAmounts) (postings : List Posting)
    (reserved : AssetId × Nat) : Except Fault (List Posting) := do
  let consumedAmount := Tally.lookup consumed reserved.1
  refuseIf (reserved.2 < consumedAmount) (.snipingEngine .portfolioInvariant)
  .ok (posting (posting postings (.reserved reserved.1) .portfolioReserved reserved.1
      (-(reserved.2 : Int)))
    (.available reserved.1) .portfolioAvailable reserved.1 ((reserved.2 : Int) - consumedAmount))

def settleReservedAmounts (postings : List Posting) (reserved consumed : AssetAmounts) :
    Except Fault (List Posting) := do
  refuseIf (∃ e ∈ consumed, e.1 ∉ reserved.map Prod.fst) (.snipingEngine .portfolioInvariant)
  reserved.foldlM (settleReservedAmount consumed) postings

/-- Wallet identity for the accumulator, round-trip identity for each mint account. -/
def lockedDepositAccountId (record : AccountComponentRecord) : AccountId :=
  match record.scope with
  | .wallet => .lockedDeposit none record.requirementSchemaId
  | .mint => .lockedDeposit (some record.attributionId) record.requirementSchemaId

def cashbackReceivableAccountId (roundtripId : ContentDigest) : AccountId :=
  .cashbackReceivable roundtripId

def cashbackPostings (postings : List Posting) (intent : PositionIntent) (quote : ProtocolQuote) :
    List Posting :=
  posting
    (posting postings (cashbackReceivableAccountId intent.roundtripId) .receivable
      intent.quoteAssetId quote.cashbackReceivableAtomic)
    quote.cashbackSourceAccountId .external intent.quoteAssetId
    (-(quote.cashbackReceivableAtomic : Int))

/-- Lock the deposits that were paid. -/
def lockedPostings (postings : List Posting) (records : List AccountComponentRecord) :
    List Posting :=
  records.foldl
    (fun postings r =>
      posting postings (lockedDepositAccountId r) .portfolioLocked r.assetId r.paidAtomic)
    postings

/-- Return the deposits that were refunded. -/
def refundPostings (postings : List Posting) (records : List AccountComponentRecord) :
    List Posting :=
  records.foldl
    (fun postings r =>
      posting
        (posting postings (lockedDepositAccountId r) .portfolioLocked r.assetId
          (-(r.refundedAtomic : Int)))
        (.available r.assetId) .portfolioAvailable r.assetId r.refundedAtomic)
    postings

section Builders

variable [DomainDigest]

def reserveBuy (intent : RoundTripIntent) (network : NetworkCostQuote)
    (accountPlan : AccountReservationPlan) : Except Fault LedgerTransaction :=
  ledgerTransaction intent.roundtripId intent.createdBoundaryOrdinal "SNIPING_BUY_RESERVATION"
    (reserveAmounts [] (buyReservation intent.toPositionIntent network accountPlan))

def reserveSell (intent : PositionIntent) (tokensAtomic : Nat) (network : NetworkCostQuote)
    (boundary : Nat) : Except Fault LedgerTransaction :=
  ledgerTransaction intent.roundtripId boundary "SNIPING_SELL_RESERVATION"
    (reserveAmounts [] (sellReservation intent tokensAtomic network))

def failedBuySettlement (intent : PositionIntent) (boundary : Nat) (network : NetworkCostQuote)
    (accountPlan : AccountReservationPlan) (networkFeeAccountId : AccountId) (reason : String) :
    Except Fault LedgerTransaction := do
  let postings ← settleReservedAmounts [] (buyReservation intent network accountPlan)
    (canonicalAssetAmounts [(network.feeAssetId, network.transactionFeeAtomic)])
  let postings := posting postings networkFeeAccountId .networkFee network.feeAssetId
    network.transactionFeeAtomic
  ledgerTransaction intent.roundtripId boundary ("SNIPING_BUY_FAILED_" ++ reason) postings

def successfulBuySettlement (intent : PositionIntent) (boundary : Nat) (quote : ProtocolQuote)
    (network : NetworkCostQuote) (accountPlan : AccountReservationPlan)
    (accountTransition : AccountProvisioningTransition) (networkFeeAccountId : AccountId) :
    Except Fault LedgerTransaction := do
  let paidAccounts := (accountTransition.records.filter fun r => r.paidAtomic != 0).map
    fun r => (r.assetId, r.paidAtomic)
  let postings ← settleReservedAmounts [] (buyReservation intent network accountPlan)
    (canonicalAssetAmounts
      ((intent.quoteAssetId, quote.amountInAtomic)
        :: (network.feeAssetId, network.transactionFeeAtomic) :: paidAccounts))
  let venue : AccountId := .venue intent.venueId
  let postings := posting postings venue .venue intent.quoteAssetId quote.venueInputAtomic
  let postings := posting postings quote.protocolFeeAccountId .protocolFee intent.quoteAssetId
    quote.protocolFeeAtomic
  let postings := posting postings quote.creatorFeeAccountId .creatorFee intent.quoteAssetId
    quote.creatorFeeAtomic
  let postings := posting postings networkFeeAccountId .networkFee network.feeAssetId
    network.transactionFeeAtomic
  let postings := lockedPostings postings accountTransition.records
  let postings := posting postings venue .venue intent.assetId (-(quote.amountOutAtomic : Int))
  let postings := posting postings (.available intent.assetId) .portfolioAvailable intent.assetId
    quote.amountOutAtomic
  let postings := cashbackPostings postings intent quote
  ledgerTransaction intent.roundtripId boundary "SNIPING_BUY_FILLED" postings

def failedSellSettlement (intent : PositionIntent) (boundary tokensAtomic : Nat)
    (network : NetworkCostQuote) (networkFeeAccountId : AccountId) (reason : String) :
    Except Fault LedgerTransaction := do
  let postings ← settleReservedAmounts [] (sellReservation intent tokensAtomic network)
    (canonicalAssetAmounts [(network.feeAssetId, network.transactionFeeAtomic)])
  let postings := posting postings networkFeeAccountId .networkFee network.feeAssetId
    network.transactionFeeAtomic
  ledgerTransaction intent.roundtripId boundary ("SNIPING_SELL_FAILED_" ++ reason) postings

/-- The part of a sell's gross output its own venue does not fund. -/
def syntheticPosting (postings : List Posting) (intent : PositionIntent)
    (liquidity : ProtocolLiquidityEvidence) : Except Fault (List Posting) :=
  if liquidity.syntheticShortfallAtomic = 0 then .ok postings
  else match liquidity.syntheticSourceAccountId with
    | none => .error (.snipingEngine .quoteContractMismatch)
    | some source => .ok (posting postings source .external intent.quoteAssetId
        (-(liquidity.syntheticShortfallAtomic : Int)))

def successfulSellSettlement (intent : PositionIntent) (boundary : Nat) (quote : ProtocolQuote)
    (network : NetworkCostQuote) (tokensAtomic : Nat)
    (accountTransition : AccountProvisioningTransition) (networkFeeAccountId : AccountId) :
    Except Fault LedgerTransaction :=
  match quote.liquidityEvidence with
  | none => .error (.snipingEngine .quoteContractMismatch)
  | some liquidity => do
    let venueFundedAtomic : Int :=
      (liquidity.requiredOutputAtomic : Int) - liquidity.syntheticShortfallAtomic
    let venue : AccountId := .venue intent.venueId
    let postings ← settleReservedAmounts [] (sellReservation intent tokensAtomic network)
      (canonicalAssetAmounts
        [(intent.assetId, tokensAtomic), (network.feeAssetId, network.transactionFeeAtomic)])
    let postings := posting postings venue .venue intent.assetId tokensAtomic
    let postings := posting postings networkFeeAccountId .networkFee network.feeAssetId
      network.transactionFeeAtomic
    let postings := posting postings venue .venue intent.quoteAssetId (-venueFundedAtomic)
    let postings ← syntheticPosting postings intent liquidity
    let postings := posting postings (.available intent.quoteAssetId) .portfolioAvailable
      intent.quoteAssetId quote.amountOutAtomic
    let postings := posting postings quote.protocolFeeAccountId .protocolFee intent.quoteAssetId
      quote.protocolFeeAtomic
    let postings := posting postings quote.creatorFeeAccountId .creatorFee intent.quoteAssetId
      quote.creatorFeeAtomic
    let postings := refundPostings postings accountTransition.records
    let postings := cashbackPostings postings intent quote
    ledgerTransaction intent.roundtripId boundary "SNIPING_SELL_FILLED_ACCOUNT_CLOSED" postings

def fillOf (intent : PositionIntent) (side : ProtocolQuoteSide) (quote : ProtocolQuote)
    (boundary : Nat) : Except Fault Fill :=
  Fill.checked
    { orderId := domainDigest "backtest.sniping-order.v1"
        [("roundtrip_id", .text intent.roundtripId.spelling), ("side", .text side.value)]
      poolId := ⟨intent.venueId.value⟩
      soldAssetId := quote.inputAssetId
      boughtAssetId := quote.outputAssetId
      amountInAtomic := quote.amountInAtomic
      amountOutAtomic := quote.amountOutAtomic
      feeAmountAtomic := quote.protocolFeeAtomic + quote.creatorFeeAtomic
      boundaryOrdinal := boundary }

end Builders

/-! ## What the parts of a transaction do -/

/-- What records hold in one locked account, counted by one of their amounts. -/
def depositsOf (amountOf : AccountComponentRecord → Nat) (records : List AccountComponentRecord)
    (account : AccountId) (asset : AssetId) : Int :=
  (records.map fun r =>
    if lockedDepositAccountId r = account ∧ r.assetId = asset then (amountOf r : Int) else 0).sum

/-- What records hold in all locked accounts, counted by one of their amounts. -/
def depositTotal (amountOf : AccountComponentRecord → Nat) (records : List AccountComponentRecord)
    (asset : AssetId) : Int :=
  (records.map fun r => if r.assetId = asset then (amountOf r : Int) else 0).sum

@[simp] theorem depositsOf_nil (f : AccountComponentRecord → Nat) (account : AccountId)
    (asset : AssetId) : depositsOf f [] account asset = 0 := rfl

@[simp] theorem depositTotal_nil (f : AccountComponentRecord → Nat) (asset : AssetId) :
    depositTotal f [] asset = 0 := rfl

@[simp] theorem depositsOf_cons (f : AccountComponentRecord → Nat) (r : AccountComponentRecord)
    (rs : List AccountComponentRecord) (account : AccountId) (asset : AssetId) :
    depositsOf f (r :: rs) account asset
      = (if lockedDepositAccountId r = account ∧ r.assetId = asset then (f r : Int) else 0)
        + depositsOf f rs account asset := by
  simp [depositsOf]

@[simp] theorem depositTotal_cons (f : AccountComponentRecord → Nat) (r : AccountComponentRecord)
    (rs : List AccountComponentRecord) (asset : AssetId) :
    depositTotal f (r :: rs) asset
      = (if r.assetId = asset then (f r : Int) else 0) + depositTotal f rs asset := by
  simp [depositTotal]

theorem lockedDepositAccountId_kind (r : AccountComponentRecord) :
    (lockedDepositAccountId r).kind = .portfolioLocked := by
  rw [lockedDepositAccountId]
  cases r.scope <;> rfl

theorem lockedDepositAccountId_mayHold (r : AccountComponentRecord) (asset : AssetId) :
    (lockedDepositAccountId r).mayHold asset := by
  rw [lockedDepositAccountId]
  cases r.scope <;> trivial

/-- What a list of postings does to the books of the engine: its reserved accounts, its locked
accounts and their sum, what it is owed, and what leaves an owned account. -/
structure Books (postings : List Posting) (reserved : AssetId → Int)
    (locked : AccountId → AssetId → Int) (lockedTotal owed : AssetId → Int)
    (leaves : AccountId → AssetId → Int) : Prop where
  wellKinded : WellKinded postings
  reserved : ∀ a, delta postings (.reserved a) a = reserved a
  locked : ∀ mintOf schema a,
    delta postings (.lockedDeposit mintOf schema) a = locked (.lockedDeposit mintOf schema) a
  lockedTotal : ∀ a, kindDelta postings .portfolioLocked a = lockedTotal a
  owed : ∀ a, kindDelta postings .receivable a = owed a
  leaves : ∀ account a, account.kind.owned = true →
    leaves account a ≤ outflow postings account a

namespace Books

variable {ps : List Posting} {reserved : AssetId → Int} {locked : AccountId → AssetId → Int}
  {lockedTotal owed : AssetId → Int} {leaves : AccountId → AssetId → Int}

theorem nil : Books [] (fun _ => 0) (fun _ _ => 0) (fun _ => 0) (fun _ => 0) (fun _ _ => 0) where
  wellKinded := wellKinded_nil
  reserved _ := rfl
  locked _ _ _ := rfl
  lockedTotal _ := rfl
  owed _ := rfl
  leaves _ _ _ := le_rfl

/-- A posting to an account the portfolio does not own changes nothing here. -/
theorem foreign (h : Books ps reserved locked lockedTotal owed leaves) {accountId : AccountId}
    {kind : AccountKind} (hk : accountId.kind = kind) (ho : kind.owned = false) (asset : AssetId)
    (amount : Int) :
    Books (posting ps accountId kind asset amount) reserved locked lockedTotal owed leaves := by
  have hne : ∀ account : AccountId, account.kind.owned = true → accountId ≠ account := by
    rintro account h1 rfl
    rw [hk, ho] at h1
    cases h1
  have hkind : ∀ k : AccountKind, k.owned = true → ∀ a, ¬ (kind = k ∧ asset = a) := by
    rintro k h1 a ⟨rfl, _⟩
    rw [ho] at h1
    cases h1
  refine ⟨wellKinded_posting h.wellKinded hk.symm ?_, fun a => ?_, fun m s a => ?_, fun a => ?_,
    fun a => ?_, fun account a hown => ?_⟩
  · cases accountId <;> first | trivial | (rw [← hk] at ho; cases ho)
  · rw [delta_posting, if_neg fun hc => hne _ rfl hc.1, add_zero]
    exact h.reserved a
  · rw [delta_posting, if_neg fun hc => hne _ rfl hc.1, add_zero]
    exact h.locked m s a
  · rw [kindDelta_posting, if_neg (hkind _ rfl a), add_zero]
    exact h.lockedTotal a
  · rw [kindDelta_posting, if_neg (hkind _ rfl a), add_zero]
    exact h.owed a
  · rw [outflow_posting, if_neg fun hc => hne _ hown hc.1, add_zero]
    exact h.leaves account a hown

theorem venue (h : Books ps reserved locked lockedTotal owed leaves) (venueId : VenueId)
    (asset : AssetId) (amount : Int) :
    Books (posting ps (.venue venueId) .venue asset amount) reserved locked lockedTotal owed
      leaves :=
  h.foreign rfl rfl asset amount

/-- A posting to an available account. -/
theorem available (h : Books ps reserved locked lockedTotal owed leaves) (asset : AssetId)
    (amount : Int) :
    Books (posting ps (.available asset) .portfolioAvailable asset amount) reserved locked
      lockedTotal owed fun account a =>
        leaves account a + if account = .available asset ∧ asset = a then min amount 0 else 0 := by
  refine ⟨wellKinded_posting h.wellKinded rfl rfl, fun a => ?_, fun m s a => ?_, fun a => ?_,
    fun a => ?_, fun account a hown => ?_⟩
  · rw [delta_posting, if_neg (by simp), add_zero]
    exact h.reserved a
  · rw [delta_posting, if_neg (by simp), add_zero]
    exact h.locked m s a
  · rw [kindDelta_posting, if_neg (by simp), add_zero]
    exact h.lockedTotal a
  · rw [kindDelta_posting, if_neg (by simp), add_zero]
    exact h.owed a
  · have h1 := h.leaves account a hown
    rw [outflow_posting]
    by_cases hc : account = .available asset ∧ asset = a
    · rw [if_pos hc, if_pos ⟨hc.1.symm, hc.2⟩]
      omega
    · rw [if_neg hc, if_neg fun h' => hc ⟨h'.1.symm, h'.2⟩]
      omega

/-- Money that comes in leaves no account. -/
theorem available_nonneg (h : Books ps reserved locked lockedTotal owed leaves) (asset : AssetId)
    {amount : Int} (hn : 0 ≤ amount) :
    Books (posting ps (.available asset) .portfolioAvailable asset amount) reserved locked
      lockedTotal owed leaves := by
  refine { h.available asset amount with leaves := fun account a hown => ?_ }
  have h1 := (h.available asset amount).leaves account a hown
  rw [min_eq_right hn, ite_self, add_zero] at h1
  exact h1

/-- A posting to the cashback receivable of a round trip. -/
theorem receivable (h : Books ps reserved locked lockedTotal owed leaves) (rid : ContentDigest)
    (asset : AssetId) {amount : Int} (hn : 0 ≤ amount) :
    Books (posting ps (.cashbackReceivable rid) .receivable asset amount) reserved locked
      lockedTotal (fun a => owed a + if asset = a then amount else 0) leaves := by
  refine ⟨wellKinded_posting h.wellKinded rfl trivial, fun a => ?_, fun m s a => ?_, fun a => ?_,
    fun a => ?_, fun account a hown => ?_⟩
  · rw [delta_posting, if_neg (by simp), add_zero]
    exact h.reserved a
  · rw [delta_posting, if_neg (by simp), add_zero]
    exact h.locked m s a
  · rw [kindDelta_posting, if_neg (by simp), add_zero]
    exact h.lockedTotal a
  · rw [kindDelta_posting, h.owed a]
    simp only [true_and]
  · rw [outflow_posting, min_eq_right hn, ite_self, add_zero]
    exact h.leaves account a hown

/-- A posting to a reserved account. -/
theorem reserve (h : Books ps reserved locked lockedTotal owed leaves) (asset : AssetId)
    (amount : Int) :
    Books (posting ps (.reserved asset) .portfolioReserved asset amount)
      (fun a => reserved a + if asset = a then amount else 0) locked lockedTotal owed
      fun account a =>
        leaves account a + if account = .reserved asset ∧ asset = a then min amount 0 else 0 := by
  refine ⟨wellKinded_posting h.wellKinded rfl rfl, fun a => ?_, fun m s a => ?_, fun a => ?_,
    fun a => ?_, fun account a hown => ?_⟩
  · rw [delta_posting, h.reserved a]
    by_cases hc : asset = a
    · rw [if_pos ⟨by rw [hc], hc⟩, if_pos hc]
    · rw [if_neg fun h' => hc h'.2, if_neg hc]
  · rw [delta_posting, if_neg (by simp), add_zero]
    exact h.locked m s a
  · rw [kindDelta_posting, if_neg (by simp), add_zero]
    exact h.lockedTotal a
  · rw [kindDelta_posting, if_neg (by simp), add_zero]
    exact h.owed a
  · have h1 := h.leaves account a hown
    rw [outflow_posting]
    by_cases hc : account = .reserved asset ∧ asset = a
    · rw [if_pos hc, if_pos ⟨hc.1.symm, hc.2⟩]
      omega
    · rw [if_neg hc, if_neg fun h' => hc ⟨h'.1.symm, h'.2⟩]
      omega

/-- A posting to the locked account of a record. -/
theorem lock (h : Books ps reserved locked lockedTotal owed leaves) (r : AccountComponentRecord)
    (amount : Int) :
    Books (posting ps (lockedDepositAccountId r) .portfolioLocked r.assetId amount) reserved
      (fun account a => locked account a +
        if lockedDepositAccountId r = account ∧ r.assetId = a then amount else 0)
      (fun a => lockedTotal a + if r.assetId = a then amount else 0) owed
      fun account a => leaves account a +
        if lockedDepositAccountId r = account ∧ r.assetId = a then min amount 0 else 0 := by
  refine ⟨wellKinded_posting h.wellKinded (lockedDepositAccountId_kind r).symm
    (lockedDepositAccountId_mayHold r _), fun a => ?_, fun m s a => ?_, fun a => ?_, fun a => ?_,
    fun account a hown => ?_⟩
  · rw [delta_posting, if_neg ?_, add_zero]
    · exact h.reserved a
    · rintro ⟨h1, _⟩
      have h2 := lockedDepositAccountId_kind r
      rw [h1] at h2
      cases h2
  · rw [delta_posting, h.locked m s a]
  · rw [kindDelta_posting, h.lockedTotal a]
    simp only [true_and]
  · rw [kindDelta_posting, if_neg (by simp), add_zero]
    exact h.owed a
  · have h1 := h.leaves account a hown
    rw [outflow_posting]
    omega

theorem congr (h : Books ps reserved locked lockedTotal owed leaves) {reserved' : AssetId → Int}
    {locked' leaves' : AccountId → AssetId → Int} {lockedTotal' owed' : AssetId → Int}
    (h1 : ∀ a, reserved a = reserved' a) (h2 : ∀ account a, locked account a = locked' account a)
    (h3 : ∀ a, lockedTotal a = lockedTotal' a) (h4 : ∀ a, owed a = owed' a)
    (h5 : ∀ account a, leaves' account a ≤ leaves account a) :
    Books ps reserved' locked' lockedTotal' owed' leaves' where
  wellKinded := h.wellKinded
  reserved a := (h.reserved a).trans (h1 a)
  locked m s a := (h.locked m s a).trans (h2 _ a)
  lockedTotal a := (h.lockedTotal a).trans (h3 a)
  owed a := (h.owed a).trans (h4 a)
  leaves account a ho := (h5 account a).trans (h.leaves account a ho)

theorem reserveAmounts (amounts : AssetAmounts) (h : Books ps reserved locked lockedTotal owed leaves) :
    Books (OnchainBacktest.reserveAmounts ps amounts)
      (fun a => reserved a + Tally.amount amounts a) locked lockedTotal owed
      fun account a =>
        leaves account a - if account = .available a then (Tally.amount amounts a : Int) else 0 := by
  induction amounts generalizing ps reserved leaves with
  | nil => exact h.congr (by simp) (fun _ _ => rfl) (fun _ => rfl) (fun _ => rfl) (by simp)
  | cons e rest ih =>
    refine (ih ((h.available e.1 (-(e.2 : Int))).reserve e.1 e.2)).congr (fun a => ?_)
      (fun _ _ => rfl) (fun _ => rfl) (fun _ => rfl) fun account a => ?_
    · rw [Tally.amount_cons]
      split <;> push_cast <;> omega
    · rw [Tally.amount_cons, min_eq_left (by omega), min_eq_right (by omega), ite_self, add_zero]
      by_cases hc : account = .available a
      · subst hc
        simp only [if_true, AccountId.available.injEq]
        by_cases he : e.1 = a
        · simp only [he, and_self, if_true]
          push_cast
          omega
        · simp only [he, and_false, if_false]
          push_cast
          omega
      · rw [if_neg hc, if_neg hc, if_neg]
        · omega
        · rintro ⟨h1, h2⟩
          exact hc (h2 ▸ h1)

theorem settleReservedAmount {consumed : AssetAmounts} {e : AssetId × Nat} {ps' : List Posting}
    (h : Books ps reserved locked lockedTotal owed leaves)
    (hs : OnchainBacktest.settleReservedAmount consumed ps e = .ok ps') :
    Books ps' (fun a => reserved a - if e.1 = a then (e.2 : Int) else 0) locked lockedTotal owed
      fun account a =>
        leaves account a - if account = .reserved a ∧ e.1 = a then (e.2 : Int) else 0 := by
  simp only [OnchainBacktest.settleReservedAmount, bind_eq_ok, refuseIf_eq_ok, exists_const,
    Except.ok.injEq, not_lt] at hs
  obtain ⟨hle, rfl⟩ := hs
  refine ((h.reserve e.1 (-(e.2 : Int))).available_nonneg e.1 (by omega)).congr (fun a => ?_)
    (fun _ _ => rfl) (fun _ => rfl) (fun _ => rfl) fun account a => ?_
  · split <;> omega
  · rw [min_eq_left (by omega)]
    by_cases hc : account = .reserved e.1 ∧ e.1 = a
    · obtain ⟨h1, rfl⟩ := hc
      rw [if_pos ⟨h1, rfl⟩, if_pos ⟨h1, rfl⟩]
      omega
    · rw [if_neg hc, if_neg]
      · omega
      · rintro ⟨h1, h2⟩
        exact hc ⟨h2.symm ▸ h1, h2⟩

theorem foldlM_settle {consumed : AssetAmounts} (entries : AssetAmounts) {ps' : List Posting}
    (h : Books ps reserved locked lockedTotal owed leaves)
    (hs : entries.foldlM (OnchainBacktest.settleReservedAmount consumed) ps = .ok ps') :
    Books ps' (fun a => reserved a - Tally.amount entries a) locked lockedTotal owed
      fun account a =>
        leaves account a - if account = .reserved a then (Tally.amount entries a : Int) else 0 := by
  induction entries generalizing ps reserved leaves with
  | nil =>
    cases hs
    exact h.congr (by simp) (fun _ _ => rfl) (fun _ => rfl) (fun _ => rfl) (by simp)
  | cons e rest ih =>
    rw [List.foldlM_cons] at hs
    obtain ⟨qs, hq, hs⟩ := bind_eq_ok.mp hs
    refine (ih (h.settleReservedAmount hq) hs).congr (fun a => ?_) (fun _ _ => rfl) (fun _ => rfl)
      (fun _ => rfl) fun account a => ?_
    · rw [Tally.amount_cons]
      split <;> push_cast <;> omega
    · rw [Tally.amount_cons]
      by_cases hc : account = .reserved a
      · simp only [hc, true_and, if_true]
        split <;> push_cast <;> omega
      · simp only [hc, false_and, if_false]
        omega

/-- **Settling gives up exactly what was reserved.** -/
theorem settle {entries consumed : AssetAmounts} {ps' : List Posting}
    (h : Books ps reserved locked lockedTotal owed leaves)
    (hs : settleReservedAmounts ps entries consumed = .ok ps') :
    Books ps' (fun a => reserved a - Tally.amount entries a) locked lockedTotal owed
      fun account a =>
        leaves account a - if account = .reserved a then (Tally.amount entries a : Int) else 0 := by
  obtain ⟨_, _, hs⟩ := bind_eq_ok.mp hs
  exact h.foldlM_settle entries hs

theorem lockedPostings (records : List AccountComponentRecord)
    (h : Books ps reserved locked lockedTotal owed leaves) :
    Books (OnchainBacktest.lockedPostings ps records) reserved
      (fun account a => locked account a + depositsOf (·.paidAtomic) records account a)
      (fun a => lockedTotal a + depositTotal (·.paidAtomic) records a) owed leaves := by
  induction records generalizing ps locked lockedTotal with
  | nil => exact h.congr (fun _ => rfl) (by simp) (by simp) (fun _ => rfl) fun _ _ => le_rfl
  | cons r rest ih =>
    have hl : Books (posting ps (lockedDepositAccountId r) .portfolioLocked r.assetId r.paidAtomic)
        reserved _ _ owed leaves :=
      (h.lock r r.paidAtomic).congr (fun _ => rfl) (fun _ _ => rfl) (fun _ => rfl) (fun _ => rfl)
        fun account a => by rw [min_eq_right (by omega), ite_self, add_zero]
    refine (ih hl).congr (fun _ => rfl) (fun account a => ?_) (fun a => ?_) (fun _ => rfl)
      fun _ _ => le_rfl
    · rw [depositsOf_cons, add_assoc]
    · rw [depositTotal_cons, add_assoc]

theorem refundPostings (records : List AccountComponentRecord)
    (h : Books ps reserved locked lockedTotal owed leaves) :
    Books (OnchainBacktest.refundPostings ps records) reserved
      (fun account a => locked account a - depositsOf (·.refundedAtomic) records account a)
      (fun a => lockedTotal a - depositTotal (·.refundedAtomic) records a) owed
      fun account a => leaves account a - depositsOf (·.refundedAtomic) records account a := by
  induction records generalizing ps locked lockedTotal leaves with
  | nil => exact h.congr (fun _ => rfl) (by simp) (by simp) (fun _ => rfl) (by simp)
  | cons r rest ih =>
    refine (ih ((h.lock r (-(r.refundedAtomic : Int))).available_nonneg r.assetId (by omega))).congr
      (fun _ => rfl) (fun account a => ?_) (fun a => ?_) (fun _ => rfl) fun account a => ?_
    · rw [depositsOf_cons]
      split <;> omega
    · rw [depositTotal_cons]
      split <;> omega
    · rw [depositsOf_cons, min_eq_left (by omega)]
      split <;> omega

theorem cashback {intent : PositionIntent} {quote : ProtocolQuote}
    (hr : quote.Routed) (h : Books ps reserved locked lockedTotal owed leaves) :
    Books (cashbackPostings ps intent quote) reserved locked lockedTotal
      (fun a => owed a + if intent.quoteAssetId = a then (quote.cashbackReceivableAtomic : Int)
        else 0) leaves :=
  (h.receivable _ _ (by omega)).foreign hr.cashback rfl _ _

end Books

/-! ## What the transactions do -/

/-- A transaction of one round trip that moves `amounts` into the reserved balances. -/
structure Reserves (t : LedgerTransaction) (roundtripId : ContentDigest) (amounts : AssetAmounts) :
    Prop where
  correlationKind : t.correlationKind = .roundtrip
  correlationId : t.correlationId = roundtripId
  books : Books t.postings (fun a => Tally.amount amounts a) (fun _ _ => 0) (fun _ => 0)
    (fun _ => 0) fun account a => -(if account = .available a then (Tally.amount amounts a : Int) else 0)

/-- A transaction of one round trip that gives up its reservation, locks the deposits `paid`,
returns the deposits `refunded` and leaves the cashback `owed`. -/
structure Settles (t : LedgerTransaction) (roundtripId : ContentDigest)
    (reservation : AssetAmounts) (paid refunded : List AccountComponentRecord)
    (owed : AssetId → Int) : Prop where
  correlationKind : t.correlationKind = .roundtrip
  correlationId : t.correlationId = roundtripId
  books : Books t.postings (fun a => -(Tally.amount reservation a : Int))
    (fun account a => depositsOf (·.paidAtomic) paid account a
      - depositsOf (·.refundedAtomic) refunded account a)
    (fun a => depositTotal (·.paidAtomic) paid a - depositTotal (·.refundedAtomic) refunded a)
    owed fun account a => -(if account = .reserved a then (Tally.amount reservation a : Int) else 0)
      - depositsOf (·.refundedAtomic) refunded account a

theorem syntheticPosting_books {intent : PositionIntent} {ps ps' : List Posting} {liquidity : ProtocolLiquidityEvidence}
    {reserved : AssetId → Int} {locked : AccountId → AssetId → Int} {lockedTotal owed : AssetId → Int}
    {leaves : AccountId → AssetId → Int}
    (hk : ∀ account ∈ liquidity.syntheticSourceAccountId, account.kind = .external)
    (h : Books ps reserved locked lockedTotal owed leaves)
    (hs : syntheticPosting ps intent liquidity = .ok ps') :
    Books ps' reserved locked lockedTotal owed leaves := by
  rw [syntheticPosting] at hs
  split at hs
  · cases hs
    exact h
  · split at hs
    · cases hs
    · rename_i source hsource
      cases hs
      exact h.foreign (hk source hsource) rfl _ _

section Transactions

variable [DomainDigest] {intent : PositionIntent} {network : NetworkCostQuote}
  {plan : AccountReservationPlan} {boundary tokens : Nat} {feeAccount : AccountId}
  {t : LedgerTransaction} {reason : String} {quote : ProtocolQuote}
  {transition : AccountProvisioningTransition}

theorem ledgerTransaction_eq_ok {rid : ContentDigest} {postings : List Posting}
    (h : ledgerTransaction rid boundary reason postings = .ok t) :
    t.correlationKind = .roundtrip ∧ t.correlationId = rid ∧ t.postings = postings := by
  obtain ⟨_, h2, h3, _, h5, _⟩ := LedgerTransaction.make_eq_ok h
  exact ⟨h2, h3, h5⟩

theorem reserveBuy_eq_ok {intent : RoundTripIntent} (h : reserveBuy intent network plan = .ok t) :
    Reserves t intent.roundtripId (buyReservation intent.toPositionIntent network plan) := by
  obtain ⟨h1, h2, h3⟩ := ledgerTransaction_eq_ok h
  refine ⟨h1, h2, h3 ▸ (Books.nil.reserveAmounts _).congr ?_ (fun _ _ => rfl) (fun _ => rfl)
    (fun _ => rfl) ?_⟩
  · intro a
    omega
  · intro account a
    omega

theorem reserveSell_eq_ok (h : reserveSell intent tokens network boundary = .ok t) :
    Reserves t intent.roundtripId (sellReservation intent tokens network) := by
  obtain ⟨h1, h2, h3⟩ := ledgerTransaction_eq_ok h
  refine ⟨h1, h2, h3 ▸ (Books.nil.reserveAmounts _).congr ?_ (fun _ _ => rfl) (fun _ => rfl)
    (fun _ => rfl) ?_⟩
  · intro a
    omega
  · intro account a
    omega

theorem failedBuySettlement_eq_ok (hfee : feeAccount.kind = .networkFee)
    (h : failedBuySettlement intent boundary network plan feeAccount reason = .ok t) :
    Settles t intent.roundtripId (buyReservation intent network plan) [] [] fun _ => 0 := by
  obtain ⟨ps, hps, h⟩ := bind_eq_ok.mp h
  obtain ⟨h1, h2, h3⟩ := ledgerTransaction_eq_ok h
  refine ⟨h1, h2, h3 ▸ ((Books.nil.settle hps).foreign hfee rfl _ _).congr ?_ ?_ ?_ ?_ ?_⟩
  · intro a
    omega
  · simp
  · simp
  · simp
  · simp

theorem failedSellSettlement_eq_ok (hfee : feeAccount.kind = .networkFee)
    (h : failedSellSettlement intent boundary tokens network feeAccount reason = .ok t) :
    Settles t intent.roundtripId (sellReservation intent tokens network) [] [] fun _ => 0 := by
  obtain ⟨ps, hps, h⟩ := bind_eq_ok.mp h
  obtain ⟨h1, h2, h3⟩ := ledgerTransaction_eq_ok h
  refine ⟨h1, h2, h3 ▸ ((Books.nil.settle hps).foreign hfee rfl _ _).congr ?_ ?_ ?_ ?_ ?_⟩
  · intro a
    omega
  · simp
  · simp
  · simp
  · simp

theorem successfulBuySettlement_eq_ok (hfee : feeAccount.kind = .networkFee) (hr : quote.Routed)
    (h : successfulBuySettlement intent boundary quote network plan transition feeAccount
      = .ok t) :
    Settles t intent.roundtripId (buyReservation intent network plan) transition.records []
      fun a => if intent.quoteAssetId = a then (quote.cashbackReceivableAtomic : Int) else 0 := by
  obtain ⟨ps, hps, h⟩ := bind_eq_ok.mp h
  obtain ⟨h1, h2, h3⟩ := ledgerTransaction_eq_ok h
  have hb := ((((Books.nil.settle hps).venue intent.venueId intent.quoteAssetId
    quote.venueInputAtomic).foreign hr.protocolFee rfl intent.quoteAssetId
    quote.protocolFeeAtomic).foreign hr.creatorFee rfl intent.quoteAssetId
    quote.creatorFeeAtomic).foreign hfee rfl network.feeAssetId network.transactionFeeAtomic
  have hb' := ((hb.lockedPostings transition.records).venue intent.venueId intent.assetId
    (-(quote.amountOutAtomic : Int))).available_nonneg intent.assetId
    (Int.natCast_nonneg quote.amountOutAtomic)
  refine ⟨h1, h2, ?_⟩
  rw [h3]
  refine (hb'.cashback hr).congr ?_ ?_ ?_ ?_ ?_
  · intro a
    omega
  · simp
  · simp
  · simp
  · simp

theorem successfulSellSettlement_eq_ok (hfee : feeAccount.kind = .networkFee) (hr : quote.Routed)
    (h : successfulSellSettlement intent boundary quote network tokens transition feeAccount
      = .ok t) :
    Settles t intent.roundtripId (sellReservation intent tokens network) [] transition.records
      fun a => if intent.quoteAssetId = a then (quote.cashbackReceivableAtomic : Int) else 0 := by
  rw [successfulSellSettlement] at h
  split at h
  · cases h
  · rename_i liquidity hl
    obtain ⟨ps, hps, h⟩ := bind_eq_ok.mp h
    obtain ⟨qs, hqs, h⟩ := bind_eq_ok.mp h
    obtain ⟨h1, h2, h3⟩ := ledgerTransaction_eq_ok h
    have hb := syntheticPosting_books (hr.synthetic liquidity hl)
      ((((Books.nil.settle hps).venue intent.venueId intent.assetId tokens).foreign hfee rfl
        network.feeAssetId network.transactionFeeAtomic).venue intent.venueId
        intent.quoteAssetId (-((liquidity.requiredOutputAtomic : Int)
          - liquidity.syntheticShortfallAtomic))) hqs
    have hb' := ((hb.available_nonneg intent.quoteAssetId
      (Int.natCast_nonneg quote.amountOutAtomic)).foreign hr.protocolFee rfl intent.quoteAssetId
      quote.protocolFeeAtomic).foreign hr.creatorFee rfl intent.quoteAssetId
      quote.creatorFeeAtomic
    refine ⟨h1, h2, ?_⟩
    rw [h3]
    refine ((hb'.refundPostings transition.records).cashback hr).congr ?_ ?_ ?_ ?_ ?_
    · intro a
      omega
    · simp
    · simp
    · simp
    · simp

end Transactions

/-! ## Committing them -/

section Commit

open PortfolioState

variable {s : PortfolioState} {t : LedgerTransaction} {rid : ContentDigest}

/-- **A settlement is never refused while the reserved balances hold its reservation and the
locked accounts its refunds.** -/
theorem Settles.preview {reservation : AssetAmounts} {paid refunded : List AccountComponentRecord}
    {owed : AssetId → Int} (h : Settles t rid reservation paid refunded owed) (hs : Sound s.balances s.accountKinds)
    (hres : ∀ a, (Tally.amount reservation a : Int) ≤ s.reserved a)
    (hlock : ∀ account a, account.kind = .portfolioLocked →
      depositsOf (·.refundedAtomic) refunded account a ≤ s.balance account a) :
    ∃ c, s.preview t = .ok c := by
  refine preview_of_covered h.books.wellKinded hs fun account a ho => ?_
  have h1 := h.books.leaves account a ho
  have h2 : 0 ≤ s.balance account a := hs.nonneg account a ho
  by_cases hk : account.kind = .portfolioLocked
  · have h3 := hlock account a hk
    rw [if_neg (by rintro rfl; cases hk)] at h1
    omega
  · have h3 : depositsOf (·.refundedAtomic) refunded account a = 0 := by
      rw [depositsOf]
      refine List.sum_eq_zero fun x hx => ?_
      obtain ⟨r, _, rfl⟩ := List.mem_map.mp hx
      refine if_neg fun hc => hk ?_
      rw [← hc.1]
      exact lockedDepositAccountId_kind r
    by_cases hc : account = .reserved a
    · have h4 := hres a
      rw [reserved] at h4
      rw [if_pos hc, h3] at h1
      rw [hc] at h1 ⊢
      omega
    · rw [if_neg hc, h3] at h1
      omega

end Commit

end OnchainBacktest
