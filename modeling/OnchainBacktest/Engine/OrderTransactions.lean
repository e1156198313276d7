import OnchainBacktest.Domain.IdentifierTexts
import OnchainBacktest.Engine.PostingFlow

/-!
# The six transactions of an order

An order makes one transaction when it is accepted and one when it has landed: a reservation and
a settlement, of a buy or of a sell, failed or filled.  `OrderTransaction` is any of the six with
what it is built from, `OrderTransaction.Valid` says when a landing gives it, and
`OrderTransaction.Balanced` what its postings come to: they conserve every asset, they give up
exactly the reservation, they return exactly what was not consumed, and the only postings outside
the venue and the wallet are the synthetic shortfall of a sell and the cashback.

`OrderTransaction.builds` proves that the six are built, and balanced, as long as the account
identifiers they name are identifiers.  A builder spells those identifiers from the venue, the
assets and the account schemas, and an identifier has at most 256 characters, so a venue whose own
identifier is nearly that long cannot be traded (`OrderTransaction.not_always_built`).

The arithmetic is that of `Flow`.
-/

set_option autoImplicit false

namespace OnchainBacktest

open Checked

/-! ## The transactions of an order -/

/-- One of the six transactions of an order, with what its builder is given. -/
inductive OrderTransaction
  | reserveBuy (intent : RoundTripIntent) (network : NetworkCostQuote)
      (accountPlan : AccountReservationPlan)
  | reserveSell (intent : PositionIntent) (tokensAtomic : Nat) (network : NetworkCostQuote)
      (boundary : Nat)
  | failedBuy (intent : PositionIntent) (boundary : Nat) (network : NetworkCostQuote)
      (accountPlan : AccountReservationPlan) (networkFeeAccountId : AccountId) (reason : String)
  | successfulBuy (intent : PositionIntent) (boundary : Nat) (quote : ProtocolQuote)
      (network : NetworkCostQuote) (accountPlan : AccountReservationPlan)
      (accountTransition : AccountProvisioningTransition) (networkFeeAccountId : AccountId)
  | failedSell (intent : PositionIntent) (boundary tokensAtomic : Nat)
      (network : NetworkCostQuote) (networkFeeAccountId : AccountId) (reason : String)
  | successfulSell (intent : PositionIntent) (boundary : Nat) (quote : ProtocolQuote)
      (network : NetworkCostQuote) (tokensAtomic : Nat)
      (accountTransition : AccountProvisioningTransition) (networkFeeAccountId : AccountId)

/-- The accounts a settlement names for each asset of its reservation. -/
def settledAccounts (reservation : AssetAmounts) : List AccountId :=
  reservation.flatMap fun e => [.reserved e.1, .available e.1]

/-- The accounts a sell names for each record it closes. -/
def refundAccounts (records : List AccountComponentRecord) : List AccountId :=
  records.flatMap fun r => [lockedDepositAccountId r, .available r.assetId]

namespace OrderTransaction

/-- What the order reserved, or reserves. -/
def reservation : OrderTransaction → AssetAmounts
  | reserveBuy intent network plan => buyReservation intent.toPositionIntent network plan
  | reserveSell intent tokens network _ => sellReservation intent tokens network
  | failedBuy intent _ network plan _ _ => buyReservation intent network plan
  | successfulBuy intent _ _ network plan _ _ => buyReservation intent network plan
  | failedSell intent _ tokens network _ _ => sellReservation intent tokens network
  | successfulSell intent _ _ network tokens _ _ => sellReservation intent tokens network

/-- The account identifiers a builder spells; the others are given to it. -/
def accounts (o : OrderTransaction) : List AccountId :=
  match o with
  | reserveBuy .. => o.reservation.flatMap fun e => [.available e.1, .reserved e.1]
  | reserveSell .. => o.reservation.flatMap fun e => [.available e.1, .reserved e.1]
  | failedBuy .. => settledAccounts o.reservation
  | successfulBuy intent _ _ _ _ transition _ =>
    settledAccounts o.reservation ++ .venue intent.venueId ::
      transition.records.map lockedDepositAccountId ++
      [.available intent.assetId, cashbackReceivableAccountId intent.roundtripId]
  | failedSell .. => settledAccounts o.reservation
  | successfulSell intent _ _ _ _ transition _ =>
    .venue intent.venueId :: settledAccounts o.reservation ++ .available intent.quoteAssetId ::
      refundAccounts transition.records ++ [cashbackReceivableAccountId intent.roundtripId]

section Building

variable [DomainDigest]

/-- The builder of a transaction, given its account identifiers. -/
def post : OrderTransaction → Except Fault LedgerTransaction
  | reserveBuy intent network plan => OnchainBacktest.reserveBuy intent network plan
  | reserveSell intent tokens network boundary =>
    OnchainBacktest.reserveSell intent tokens network boundary
  | failedBuy intent boundary network plan feeAccount reason =>
    failedBuySettlement intent boundary network plan feeAccount reason
  | successfulBuy intent boundary quote network plan transition feeAccount =>
    successfulBuySettlement intent boundary quote network plan transition feeAccount
  | failedSell intent boundary tokens network feeAccount reason =>
    failedSellSettlement intent boundary tokens network feeAccount reason
  | successfulSell intent boundary quote network tokens transition feeAccount =>
    successfulSellSettlement intent boundary quote network tokens transition feeAccount

/-- Build a transaction.  Its identifiers are made on the way; which of two faults comes first is
not told apart. -/
def build (o : OrderTransaction) : Except Fault LedgerTransaction := do
  o.accounts.forM fun account => checkIdentifier account.value
  o.post

/-- What a transaction is built from when it is built: an intent has a budget, a sell has tokens, a
failure has a stable code, a quote is the one of its intent, and the accounts of a filled buy are
the previewed outcome of its plan. -/
def Valid : OrderTransaction → Prop
  | reserveBuy .. => True
  | reserveSell _ tokens _ _ => 0 < tokens
  | failedBuy intent _ _ _ _ reason => 0 < intent.grossBuyBudgetAtomic ∧ stableToken reason = true
  | successfulBuy intent _ quote _ plan transition _ =>
    validateBuyQuote intent quote = .ok () ∧
      ∃ state, applyBuyAccountTransition state plan true = .ok transition
  | failedSell _ _ tokens _ _ reason => 0 < tokens ∧ stableToken reason = true
  | successfulSell intent _ quote _ tokens _ _ => validateSellQuote intent tokens quote = .ok ()

/-- The account a synthetic shortfall is funded from. -/
def syntheticAccount (intent : PositionIntent) : AccountId :=
  .syntheticLiquidity "pumpfun" (domainDigest "backtest.pumpfun-synthetic-liquidity-account.v1"
    [("network_id", .text intent.targetPosition.networkId.value),
      ("venue_id", .text intent.venueId.value)])

end Building

/-- What the observed reserve of a virtual settlement leaves uncovered. -/
def uncovered (intent : PositionIntent) (quote : ProtocolQuote) : Nat :=
  match quote.liquidityEvidence with
  | none => 0
  | some liquidity =>
    if intent.executionMode = .exogenousVirtualSettlement then
      liquidity.requiredOutputAtomic - liquidity.observedAvailableOutputAtomic
    else 0

/-- The transaction is a reservation. -/
def reserves : OrderTransaction → Bool
  | reserveBuy .. => true
  | reserveSell .. => true
  | _ => false

/-- What the landing took out of the reservation. -/
def consumed : OrderTransaction → AssetId → Int
  | reserveBuy .., _ => 0
  | reserveSell .., _ => 0
  | failedBuy _ _ network _ _ _, a =>
    amountIfAsset network.feeAssetId a network.transactionFeeAtomic
  | successfulBuy intent _ quote network _ transition _, a =>
    amountIfAsset intent.quoteAssetId a quote.amountInAtomic
      + amountIfAsset network.feeAssetId a network.transactionFeeAtomic
      + depositTotal (·.paidAtomic) transition.records a
  | failedSell _ _ _ network _ _, a =>
    amountIfAsset network.feeAssetId a network.transactionFeeAtomic
  | successfulSell intent _ _ network tokens _ _, a =>
    amountIfAsset intent.assetId a tokens
      + amountIfAsset network.feeAssetId a network.transactionFeeAtomic

/-- What the landing earned: the output of a fill, and the deposits a sell gives back. -/
def proceeds : OrderTransaction → AssetId → Int
  | successfulBuy intent _ quote _ _ _ _, a => amountIfAsset intent.assetId a quote.amountOutAtomic
  | successfulSell intent _ quote _ _ transition _, a =>
    amountIfAsset intent.quoteAssetId a quote.amountOutAtomic
      + depositTotal (·.refundedAtomic) transition.records a
  | _, _ => 0

/-- The posting for cashback. -/
def cashback : OrderTransaction → List Posting
  | successfulBuy intent _ quote _ _ _ _ => posting [] quote.cashbackSourceAccountId .external
      intent.quoteAssetId (-(quote.cashbackReceivableAtomic : Int))
  | successfulSell intent _ quote _ _ _ _ => posting [] quote.cashbackSourceAccountId .external
      intent.quoteAssetId (-(quote.cashbackReceivableAtomic : Int))
  | _ => []

/-- The posting for the synthetic shortfall: on a filled sell in virtual settlement whose output
the observed reserve does not cover, and on nothing else. -/
def shortfall [DomainDigest] : OrderTransaction → List Posting
  | successfulSell intent _ quote _ _ _ _ => posting [] (syntheticAccount intent) .external
      intent.quoteAssetId (-(uncovered intent quote : Int))
  | _ => []

/-- What the postings of a transaction come to. -/
structure Balanced [DomainDigest] (o : OrderTransaction) (t : LedgerTransaction) : Prop where
  conserves : ∀ a, assetTotal t.postings a = 0
  two_le : 2 ≤ t.postings.length
  nonzero : ∀ p ∈ t.postings, p.amountAtomic ≠ 0
  consumed_nonneg : ∀ a, 0 ≤ o.consumed a
  consumed_le : ∀ a, o.consumed a ≤ Tally.amount o.reservation a
  reserved : ∀ a, kindDelta t.postings .portfolioReserved a
    = if o.reserves then (Tally.amount o.reservation a : Int) else -Tally.amount o.reservation a
  available : ∀ a, kindDelta t.postings .portfolioAvailable a
    = if o.reserves then -(Tally.amount o.reservation a : Int)
      else Tally.amount o.reservation a - o.consumed a + o.proceeds a
  atHome : ∀ p ∈ t.postings, p.AtHome
  external : t.postings.filter (fun p => p.account.kind = .external) = o.shortfall ++ o.cashback

end OrderTransaction

/-! ## Building them -/

/-- The deposits paid, as a tally. -/
theorem amount_paidAccounts (records : List AccountComponentRecord) (a : AssetId) :
    (Tally.amount ((records.filter fun r => r.paidAtomic != 0).map fun r =>
      (r.assetId, r.paidAtomic)) a : Int) = depositTotal (·.paidAtomic) records a := by
  induction records with
  | nil => rfl
  | cons r rest ih =>
    rw [depositTotal_cons, ← ih]
    by_cases hz : r.paidAtomic = 0
    · rw [List.filter_cons_of_neg (by simp [hz]), hz]
      simp
    · rw [List.filter_cons_of_pos (by simp [hz]), List.map_cons, Tally.amount_cons]
      split <;> push_cast <;> rfl

theorem depositTotal_append (f : AccountComponentRecord → Nat) (rs qs : List AccountComponentRecord)
    (a : AssetId) : depositTotal f (rs ++ qs) a = depositTotal f rs a + depositTotal f qs a := by
  simp [depositTotal]

theorem depositTotal_nonneg (f : AccountComponentRecord → Nat) (rs : List AccountComponentRecord)
    (a : AssetId) : 0 ≤ depositTotal f rs a := by
  induction rs with
  | nil => rfl
  | cons r rest ih =>
    rw [depositTotal_cons]
    split <;> omega

/-- A component that lands pays at most what was reserved for it. -/
theorem applyBuyComponent_paid {plan : AccountReservationPlan}
    {candidate next : WalletProvisioningState × List AccountComponentRecord}
    {component : AccountReservationComponent}
    (h : applyBuyComponent plan candidate component = .ok next) (a : AssetId) :
    depositTotal (·.paidAtomic) next.2 a ≤ depositTotal (·.paidAtomic) candidate.2 a
      + if component.priced.assetId = a then (component.maximumReservedAtomic : Int) else 0 := by
  have hadd : ∀ {lifecycle : AccountComponentLifecycle} {paid released : Nat}
      {record : AccountComponentRecord}, paid ≤ component.maximumReservedAtomic →
      (componentRecord component plan.roundtripId lifecycle paid released).checked = .ok record →
      depositTotal (·.paidAtomic) (candidate.2 ++ [record]) a
        ≤ depositTotal (·.paidAtomic) candidate.2 a
          + if component.priced.assetId = a then (component.maximumReservedAtomic : Int)
            else 0 := by
    intro lifecycle paid released record hle hrecord
    obtain ⟨_, rfl⟩ := AccountComponentRecord.checked_eq_ok.mp hrecord
    have hasset : (componentRecord component plan.roundtripId lifecycle paid released).assetId
        = component.priced.assetId := rfl
    have hpaid : (componentRecord component plan.roundtripId lifecycle paid released).paidAtomic
        = paid := rfl
    rw [depositTotal_append, depositTotal_cons, depositTotal_nil, hasset, hpaid]
    by_cases ha : component.priced.assetId = a
    · rw [if_pos ha, if_pos ha]
      omega
    · rw [if_neg ha, if_neg ha]
      omega
  rw [applyBuyComponent] at h
  split at h
  · obtain ⟨state, _, h⟩ := bind_eq_ok.mp h
    obtain ⟨record, hrecord, h⟩ := bind_eq_ok.mp h
    cases h
    exact hadd le_rfl hrecord
  · split at h
    · obtain ⟨record, hrecord, h⟩ := bind_eq_ok.mp h
      cases h
      exact hadd (Nat.zero_le _) hrecord
    · obtain ⟨state, _, h⟩ := bind_eq_ok.mp h
      obtain ⟨record, hrecord, h⟩ := bind_eq_ok.mp h
      cases h
      exact hadd le_rfl hrecord

/-- The components of a plan, one after the other. -/
theorem foldlM_applyBuyComponent_paid {plan : AccountReservationPlan}
    (components : List AccountReservationComponent)
    {candidate next : WalletProvisioningState × List AccountComponentRecord}
    (h : components.foldlM (applyBuyComponent plan) candidate = .ok next) (a : AssetId) :
    depositTotal (·.paidAtomic) next.2 a ≤ depositTotal (·.paidAtomic) candidate.2 a
      + Tally.amount (components.map fun c => (c.priced.assetId, c.maximumReservedAtomic)) a := by
  induction components generalizing candidate with
  | nil =>
    cases h
    simp
  | cons component rest ih =>
    rw [List.foldlM_cons] at h
    obtain ⟨middle, hmiddle, h⟩ := bind_eq_ok.mp h
    have h1 := applyBuyComponent_paid hmiddle a
    have h2 := ih h
    rw [List.map_cons, Tally.amount_cons]
    push_cast
    omega

/-- **A buy that fills pays no deposit its plan did not reserve.** -/
theorem applyBuyAccountTransition_paid {state : WalletProvisioningState}
    {plan : AccountReservationPlan} {transition : AccountProvisioningTransition}
    (h : applyBuyAccountTransition state plan true = .ok transition) (a : AssetId) :
    depositTotal (·.paidAtomic) transition.records a
      ≤ Tally.amount plan.reservedAssetAmounts a := by
  rw [applyBuyAccountTransition] at h
  obtain ⟨_, _, h⟩ := bind_eq_ok.mp h
  rw [if_pos rfl] at h
  obtain ⟨result, hresult, h⟩ := bind_eq_ok.mp h
  cases h
  have hpaid := foldlM_applyBuyComponent_paid plan.components hresult a
  rw [depositTotal_nil, zero_add] at hpaid
  rw [AccountReservationPlan.reservedAssetAmounts, Tally.amount_collect]
  exact hpaid

namespace OrderTransaction

/-- The reservation of a buy holds its budget. -/
theorem amount_buyReservation (intent : PositionIntent) (network : NetworkCostQuote)
    (plan : AccountReservationPlan) (a : AssetId) :
    Tally.amount (buyReservation intent network plan) a
      = amountIfAsset intent.quoteAssetId a intent.grossBuyBudgetAtomic
        + (amountIfAsset network.feeAssetId a network.transactionFeeAtomic
          + Tally.amount plan.reservedAssetAmounts a) := by
  rw [buyReservation, amount_canonical, Tally.amount_cons, Tally.amount_cons]
  rfl

theorem amount_sellReservation (intent : PositionIntent) (tokens : Nat)
    (network : NetworkCostQuote) (a : AssetId) :
    Tally.amount (sellReservation intent tokens network) a
      = amountIfAsset intent.assetId a tokens
        + amountIfAsset network.feeAssetId a network.transactionFeeAtomic := by
  rw [sellReservation, amount_canonical, Tally.amount_cons, Tally.amount_cons, Tally.amount_nil]
  rfl

theorem buyReservation_pos {intent : PositionIntent} (h : 0 < intent.grossBuyBudgetAtomic)
    (network : NetworkCostQuote) (plan : AccountReservationPlan) :
    0 < Tally.amount (buyReservation intent network plan) intent.quoteAssetId := by
  rw [amount_buyReservation, amountIfAsset, if_pos rfl]
  omega

theorem sellReservation_pos {tokens : Nat} (h : 0 < tokens) (intent : PositionIntent)
    (network : NetworkCostQuote) :
    0 < Tally.amount (sellReservation intent tokens network) intent.assetId := by
  rw [amount_sellReservation, amountIfAsset, if_pos rfl]
  omega

end OrderTransaction

section Building

variable [DomainDigest]

/-- Postings that conserve every asset and move a reserved balance are a transaction. -/
theorem ledgerTransaction_of_flow (rid : ContentDigest) (boundary : Nat) {reason : String}
    {ps : List Posting} {reserved available : AssetId → Int} {external : List Posting}
    (hreason : nonemptyTrimmed reason = true)
    (h : Flow ps (fun _ => 0) reserved available external) (hmoves : ∃ a, reserved a ≠ 0) :
    ∃ t, ledgerTransaction rid boundary reason ps = .ok t ∧ t.postings = ps := by
  obtain ⟨a, ha⟩ := hmoves
  have hne : ps ≠ [] := by
    rintro rfl
    exact ha (h.reserved a).symm
  have hconserves : ∀ p ∈ ps, assetTotal ps p.assetId = 0 := fun p _ => h.total p.assetId
  rw [ledgerTransaction, LedgerTransaction.make, dif_pos hreason,
    dif_pos (two_le_of_conserves hne h.total), dif_pos hconserves]
  exact ⟨_, rfl, rfl⟩

namespace OrderTransaction

theorem balanced_of_flow {o : OrderTransaction} {t : LedgerTransaction}
    (h0 : ∀ a, 0 ≤ o.consumed a) (hle : ∀ a, o.consumed a ≤ Tally.amount o.reservation a)
    (h : Flow t.postings (fun _ => 0)
      (fun a => if o.reserves then (Tally.amount o.reservation a : Int)
        else -Tally.amount o.reservation a)
      (fun a => if o.reserves then -(Tally.amount o.reservation a : Int)
        else Tally.amount o.reservation a - o.consumed a + o.proceeds a)
      (o.shortfall ++ o.cashback)) : o.Balanced t where
  conserves := h.total
  two_le := t.two_le
  nonzero p _ := p.amount_ne
  consumed_nonneg := h0
  consumed_le := hle
  reserved := h.reserved
  available := h.available
  atHome := h.atHome
  external := h.external

/-- A reservation is built. -/
theorem post_reserve (rid : ContentDigest) (boundary : Nat) {reason : String}
    {amounts : AssetAmounts} (hreason : nonemptyTrimmed reason = true)
    (hpos : ∃ a, 0 < Tally.amount amounts a) :
    ∃ t, ledgerTransaction rid boundary reason (OnchainBacktest.reserveAmounts [] amounts) = .ok t ∧
      Flow t.postings (fun _ => 0) (fun a => Tally.amount amounts a)
        (fun a => -(Tally.amount amounts a : Int)) [] := by
  obtain ⟨a, ha⟩ := hpos
  have hflow : Flow (OnchainBacktest.reserveAmounts [] amounts) (fun _ => 0)
      (fun a => Tally.amount amounts a) (fun a => -(Tally.amount amounts a : Int)) [] :=
    (Flow.nil.reserveAmounts amounts).congr (fun _ => rfl) (by simp) (by simp) rfl
  obtain ⟨t, ht, hpostings⟩ := ledgerTransaction_of_flow rid boundary hreason hflow ⟨a, by omega⟩
  exact ⟨t, ht, by rw [hpostings]; exact hflow⟩

/-- A failed settlement pays the fee of the network and returns the rest. -/
theorem post_failed (rid : ContentDigest) (boundary : Nat) {reason : String}
    {network : NetworkCostQuote} (feeAccount : AccountId) (rs : List (AssetId × Nat))
    (hreason : nonemptyTrimmed reason = true)
    (hpos : ∃ a, 0 < Tally.amount (canonicalAssetAmounts rs) a)
    (hfee : ∀ a, amountIfAsset network.feeAssetId a network.transactionFeeAtomic
      ≤ Tally.amount (canonicalAssetAmounts rs) a) :
    ∃ ps t, settleReservedAmounts [] (canonicalAssetAmounts rs)
        (canonicalAssetAmounts [(network.feeAssetId, network.transactionFeeAtomic)]) = .ok ps ∧
      ledgerTransaction rid boundary reason (posting ps feeAccount .networkFee network.feeAssetId
        network.transactionFeeAtomic) = .ok t ∧
      Flow t.postings (fun _ => 0) (fun a => -(Tally.amount (canonicalAssetAmounts rs) a : Int))
        (fun a => Tally.amount (canonicalAssetAmounts rs) a
          - (amountIfAsset network.feeAssetId a network.transactionFeeAtomic : Int) + 0) [] := by
  have hconsumed : ∀ a, Tally.amount [(network.feeAssetId, network.transactionFeeAtomic)] a
      = amountIfAsset network.feeAssetId a network.transactionFeeAtomic := by
    intro a
    rw [Tally.amount_cons, Tally.amount_nil]
    rfl
  obtain ⟨ps, hps, hsettled⟩ := Flow.nil.settled rs
    [(network.feeAssetId, network.transactionFeeAtomic)] fun a => by
      rw [hconsumed, ← amount_canonical]
      exact hfee a
  have hbalanced : Flow _ (fun _ => 0)
      (fun a => -(Tally.amount (canonicalAssetAmounts rs) a : Int))
      (fun a => Tally.amount (canonicalAssetAmounts rs) a
        - (amountIfAsset network.feeAssetId a network.transactionFeeAtomic : Int) + 0) [] :=
    (hsettled.elsewhere feeAccount .networkFee network.feeAssetId network.transactionFeeAtomic
      (by decide)).congr
      (fun a => by
        rw [hconsumed, amountIfAsset]
        split <;> omega)
      (fun a => by rw [amount_canonical, zero_sub])
      (fun a => by
        rw [hconsumed, amount_canonical]
        omega) rfl
  obtain ⟨a, ha⟩ := hpos
  obtain ⟨t, ht, hpostings⟩ :=
    ledgerTransaction_of_flow rid boundary hreason hbalanced ⟨a, by omega⟩
  exact ⟨ps, t, hps, ht, hpostings ▸ hbalanced⟩

/-- The synthetic account of a position is the one its sell quote has to name. -/
theorem syntheticLiquidityAccountId_eq (intent : PositionIntent) :
    syntheticLiquidityAccountId "pumpfun" intent.targetPosition.networkId intent.venueId
      = .ok (syntheticAccount intent) := by
  have hlower : ¬ (("pumpfun".toList.filter (· != '-')) = [] ∨
      ¬ (("pumpfun".toList.filter (· != '-')).all fun c => c.isLower || c.isDigit) = true) := by
    decide
  rw [syntheticLiquidityAccountId, refuseIf_of_not hlower, ok_bind]
  rfl

/-- **A sell quote its intent accepts funds its shortfall as its mode says.** -/
theorem validateSellQuote_eq_ok {intent : PositionIntent} {tokens : Nat} {quote : ProtocolQuote}
    (h : validateSellQuote intent tokens quote = .ok ()) :
    quote.side = .sell ∧ quote.inputAssetId = intent.assetId ∧
      quote.outputAssetId = intent.quoteAssetId ∧ quote.amountInAtomic = tokens ∧
      ∃ liquidity, quote.liquidityEvidence = some liquidity ∧
        liquidity.syntheticShortfallAtomic = uncovered intent quote ∧
        (0 < uncovered intent quote →
          liquidity.syntheticSourceAccountId = some (syntheticAccount intent)) := by
  rw [validateSellQuote, check_bind_eq_ok] at h
  obtain ⟨hshape, h⟩ := h
  simp only [refuseIf_eq_ok, not_or, not_not, ne_eq] at hshape
  obtain ⟨hside, hinput, houtput, hamount⟩ := hshape
  cases hl : quote.liquidityEvidence with
  | none =>
    rw [hl] at h
    cases h
  | some liquidity =>
    rw [hl] at h
    dsimp only at h
    obtain ⟨policy, hpolicy, h⟩ := bind_eq_ok.mp h
    rw [check_bind_eq_ok] at h
    have hmode := h.2
    refine ⟨hside, hinput, houtput, hamount, liquidity, rfl, ?_⟩
    rw [uncovered, hl]
    dsimp only
    by_cases hreplay : intent.executionMode = .exogenousReplay
    · rw [if_pos hreplay] at hmode
      simp only [refuseIf_eq_ok, not_or, not_not, ne_eq] at hmode
      rw [hreplay, if_neg (by decide)]
      exact ⟨hmode.1, fun hpos => absurd hpos (by decide)⟩
    · rw [if_neg hreplay] at hmode
      obtain ⟨source, hsource, hmode⟩ := bind_eq_ok.mp hmode
      simp only [refuseIf_eq_ok, not_or, not_not, ne_eq] at hmode
      obtain ⟨hvirtual, hshort, hfrom⟩ := hmode
      rw [if_pos hvirtual]
      refine ⟨hshort, fun hpos => ?_⟩
      rw [expectedSyntheticSource, if_pos hpos, syntheticLiquidityAccountId_eq, ok_bind] at hsource
      rw [hfrom]
      exact (Except.ok.inj hsource).symm

/-- The shortfall posting of a sell quote its intent accepts. -/
theorem syntheticPosting_eq {intent : PositionIntent} {liquidity : ProtocolLiquidityEvidence}
    {quote : ProtocolQuote} (ps : List Posting)
    (hshort : liquidity.syntheticShortfallAtomic = uncovered intent quote)
    (hsource : 0 < uncovered intent quote →
      liquidity.syntheticSourceAccountId = some (syntheticAccount intent)) :
    syntheticPosting ps intent liquidity = .ok (posting ps (syntheticAccount intent) .external
      intent.quoteAssetId (-(uncovered intent quote : Int))) := by
  rw [syntheticPosting, hshort]
  by_cases hz : uncovered intent quote = 0
  · rw [if_pos hz, hz, posting, dif_neg (by simp)]
  · rw [if_neg hz, hsource (Nat.pos_of_ne_zero hz)]

/-- **A filled buy is built.** -/
theorem post_successfulBuy {intent : PositionIntent} {quote : ProtocolQuote}
    (boundary : Nat) (network : NetworkCostQuote) {plan : AccountReservationPlan}
    {transition : AccountProvisioningTransition} (feeAccount : AccountId)
    (hvalid : (successfulBuy intent boundary quote network plan transition feeAccount).Valid) :
    ∃ t, (successfulBuy intent boundary quote network plan transition feeAccount).post = .ok t ∧
      (successfulBuy intent boundary quote network plan transition feeAccount).Balanced t := by
  obtain ⟨hquote, state, htransition⟩ := hvalid
  simp only [validateBuyQuote, refuseIf_eq_ok, not_or, not_not, ne_eq, not_lt] at hquote
  obtain ⟨hside, _, _, hbudget⟩ := hquote
  have hgross := quote.buy_facts hside
  have hin := quote.facts.2.1
  -- what the landing consumes, asset by asset
  have hconsumed : ∀ a, (Tally.amount ((intent.quoteAssetId, quote.amountInAtomic)
      :: (network.feeAssetId, network.transactionFeeAtomic)
      :: (transition.records.filter fun r => r.paidAtomic != 0).map fun r =>
        (r.assetId, r.paidAtomic)) a : Int)
      = amountIfAsset intent.quoteAssetId a quote.amountInAtomic
        + amountIfAsset network.feeAssetId a network.transactionFeeAtomic
        + depositTotal (·.paidAtomic) transition.records a := by
    intro a
    rw [Tally.amount_cons, Tally.amount_cons, Nat.cast_add, Nat.cast_add, amount_paidAccounts,
      ← add_assoc]
    rfl
  have hle : ∀ a, amountIfAsset intent.quoteAssetId a quote.amountInAtomic
        + amountIfAsset network.feeAssetId a network.transactionFeeAtomic
        + depositTotal (·.paidAtomic) transition.records a
      ≤ Tally.amount (buyReservation intent network plan) a := by
    intro a
    have hpaid := applyBuyAccountTransition_paid htransition a
    have hpart : amountIfAsset intent.quoteAssetId a quote.amountInAtomic
        ≤ amountIfAsset intent.quoteAssetId a intent.grossBuyBudgetAtomic := by
      rw [amountIfAsset, amountIfAsset]
      split <;> omega
    rw [amount_buyReservation]
    push_cast
    omega
  obtain ⟨ps, hps, hsettled⟩ := Flow.nil.settled
    ((intent.quoteAssetId, intent.grossBuyBudgetAtomic)
      :: (network.feeAssetId, network.transactionFeeAtomic) :: plan.reservedAssetAmounts)
    ((intent.quoteAssetId, quote.amountInAtomic)
      :: (network.feeAssetId, network.transactionFeeAtomic)
      :: (transition.records.filter fun r => r.paidAtomic != 0).map fun r =>
        (r.assetId, r.paidAtomic)) fun a => by
      have hcover := hle a
      rw [← hconsumed, buyReservation, amount_canonical] at hcover
      exact_mod_cast hcover
  have hpaid := ((((hsettled.elsewhere (.venue intent.venueId) .venue intent.quoteAssetId
    quote.venueInputAtomic (by decide)).elsewhere quote.protocolFeeAccountId .protocolFee
    intent.quoteAssetId quote.protocolFeeAtomic (by decide)).elsewhere quote.creatorFeeAccountId
    .creatorFee intent.quoteAssetId quote.creatorFeeAtomic (by decide)).elsewhere feeAccount
    .networkFee network.feeAssetId network.transactionFeeAtomic (by decide)).lockedPostings
    transition.records
  have hflow := ((hpaid.elsewhere (.venue intent.venueId) .venue intent.assetId
    (-(quote.amountOutAtomic : Int)) (by decide)).avail intent.assetId
    quote.amountOutAtomic).cashback intent quote
  have hbalanced : Flow _ (fun _ => 0)
      (fun a => -(Tally.amount (buyReservation intent network plan) a : Int))
      (fun a => Tally.amount (buyReservation intent network plan) a
        - (amountIfAsset intent.quoteAssetId a quote.amountInAtomic
          + amountIfAsset network.feeAssetId a network.transactionFeeAtomic
          + depositTotal (·.paidAtomic) transition.records a)
        + amountIfAsset intent.assetId a quote.amountOutAtomic) _ :=
    hflow.congr
      (fun a => by
        rw [hconsumed]
        simp only [amountIfAsset]
        split_ifs <;> omega)
      (fun a => by rw [buyReservation, amount_canonical, zero_sub])
      (fun a => by
        rw [hconsumed, buyReservation, amount_canonical]
        simp only [amountIfAsset]
        split_ifs <;> omega) rfl
  have hpos := buyReservation_pos (lt_of_lt_of_le hin hbudget) network plan
  obtain ⟨t, ht, hpostings⟩ := ledgerTransaction_of_flow intent.roundtripId boundary
    (by decide : nonemptyTrimmed "SNIPING_BUY_FILLED" = true) hbalanced
    ⟨intent.quoteAssetId, by omega⟩
  refine ⟨t, ?_, balanced_of_flow (fun a => ?_) hle (hpostings ▸ hbalanced)⟩
  · rw [post, successfulBuySettlement, buyReservation, hps, ok_bind]
    exact ht
  · have hdeposit := depositTotal_nonneg (·.paidAtomic) transition.records a
    simp only [consumed]
    omega

/-- **A filled sell is built**, with its shortfall posted. -/
theorem post_successfulSell {intent : PositionIntent} {quote : ProtocolQuote} (boundary : Nat)
    (network : NetworkCostQuote) {tokens : Nat} (transition : AccountProvisioningTransition)
    (feeAccount : AccountId)
    (hvalid : (successfulSell intent boundary quote network tokens transition feeAccount).Valid) :
    ∃ t, (successfulSell intent boundary quote network tokens transition feeAccount).post = .ok t ∧
      (successfulSell intent boundary quote network tokens transition feeAccount).Balanced t := by
  obtain ⟨hside, _, _, hamount, liquidity, hl, hshort, hsource⟩ := validateSellQuote_eq_ok hvalid
  obtain ⟨hgross, evidence, hevidence, _, hrequired⟩ := quote.sell_facts hside
  rw [hl] at hevidence
  cases hevidence
  have htokens : 0 < tokens := hamount ▸ quote.facts.2.1
  have hconsumed : ∀ a, Tally.amount [(intent.assetId, tokens),
      (network.feeAssetId, network.transactionFeeAtomic)] a
      = amountIfAsset intent.assetId a tokens
        + amountIfAsset network.feeAssetId a network.transactionFeeAtomic := by
    intro a
    rw [Tally.amount_cons, Tally.amount_cons, Tally.amount_nil]
    rfl
  obtain ⟨ps, hps, hsettled⟩ := Flow.nil.settled
    [(intent.assetId, tokens), (network.feeAssetId, network.transactionFeeAtomic)]
    [(intent.assetId, tokens), (network.feeAssetId, network.transactionFeeAtomic)] fun _ => le_rfl
  have hfunded := (((hsettled.elsewhere (.venue intent.venueId) .venue intent.assetId tokens
    (by decide)).elsewhere feeAccount .networkFee network.feeAssetId network.transactionFeeAtomic
    (by decide)).elsewhere (.venue intent.venueId) .venue intent.quoteAssetId
    (-((liquidity.requiredOutputAtomic : Int) - liquidity.syntheticShortfallAtomic))
    (by decide)).outside (syntheticAccount intent) intent.quoteAssetId
    (-(uncovered intent quote : Int))
  have hflow := (((((hfunded.avail intent.quoteAssetId quote.amountOutAtomic).elsewhere
    quote.protocolFeeAccountId .protocolFee intent.quoteAssetId quote.protocolFeeAtomic
    (by decide)).elsewhere quote.creatorFeeAccountId .creatorFee intent.quoteAssetId
    quote.creatorFeeAtomic (by decide)).refundPostings transition.records).cashback intent quote)
  have hbalanced : Flow _ (fun _ => 0)
      (fun a => -(Tally.amount (sellReservation intent tokens network) a : Int))
      (fun a => Tally.amount (sellReservation intent tokens network) a
        - (amountIfAsset intent.assetId a tokens
          + amountIfAsset network.feeAssetId a network.transactionFeeAtomic)
        + (amountIfAsset intent.quoteAssetId a quote.amountOutAtomic
          + depositTotal (·.refundedAtomic) transition.records a))
      (posting [] (syntheticAccount intent) .external intent.quoteAssetId
          (-(uncovered intent quote : Int))
        ++ posting [] quote.cashbackSourceAccountId .external intent.quoteAssetId
          (-(quote.cashbackReceivableAtomic : Int))) :=
    hflow.congr
      (fun a => by
        rw [hconsumed, hshort, hrequired, hgross]
        simp only [amountIfAsset]
        split_ifs <;> omega)
      (fun a => by rw [sellReservation, amount_canonical, zero_sub])
      (fun a => by
        rw [hconsumed, sellReservation, amount_canonical, hconsumed]
        simp only [amountIfAsset]
        split_ifs <;> omega)
      posting_eq_append
  have hpos := sellReservation_pos htokens intent network
  obtain ⟨t, ht, hpostings⟩ := ledgerTransaction_of_flow intent.roundtripId boundary
    (by decide : nonemptyTrimmed "SNIPING_SELL_FILLED_ACCOUNT_CLOSED" = true) hbalanced
    ⟨intent.assetId, by omega⟩
  refine ⟨t, ?_, balanced_of_flow (fun a => ?_) (fun a => ?_) (hpostings ▸ hbalanced)⟩
  · rw [post, successfulSellSettlement, hl]
    dsimp only
    rw [sellReservation, hps, ok_bind, syntheticPosting_eq _ hshort hsource, ok_bind]
    exact ht
  · simp only [consumed]
    omega
  · rw [reservation, amount_sellReservation]
    simp only [consumed]
    omega

/-- **The builder of a valid transaction returns it, balanced.** -/
theorem Valid.post {o : OrderTransaction} (hvalid : o.Valid) :
    ∃ t, o.post = .ok t ∧ o.Balanced t := by
  cases o with
  | reserveBuy intent network plan =>
    have hpos := buyReservation_pos intent.facts.2.1 network plan
    obtain ⟨t, ht, hflow⟩ := post_reserve intent.roundtripId intent.createdBoundaryOrdinal
      (by decide : nonemptyTrimmed "SNIPING_BUY_RESERVATION" = true) ⟨_, hpos⟩
    exact ⟨t, ht, balanced_of_flow (fun _ => le_rfl) (fun _ => Int.natCast_nonneg _) hflow⟩
  | reserveSell intent tokens network boundary =>
    have hpos := sellReservation_pos hvalid intent network
    obtain ⟨t, ht, hflow⟩ := post_reserve intent.roundtripId boundary
      (by decide : nonemptyTrimmed "SNIPING_SELL_RESERVATION" = true) ⟨_, hpos⟩
    exact ⟨t, ht, balanced_of_flow (fun _ => le_rfl) (fun _ => Int.natCast_nonneg _) hflow⟩
  | failedBuy intent boundary network plan feeAccount reason =>
    have hpos := buyReservation_pos hvalid.1 network plan
    have hfee : ∀ a, amountIfAsset network.feeAssetId a network.transactionFeeAtomic
        ≤ Tally.amount (buyReservation intent network plan) a := by
      intro a
      rw [amount_buyReservation]
      omega
    have hreason := nonemptyTrimmed_append
      (by decide : nonemptyTrimmed "SNIPING_BUY_FAILED_" = true)
      (nonemptyTrimmed_of_stableToken hvalid.2)
    obtain ⟨ps, t, hps, ht, hflow⟩ :=
      post_failed intent.roundtripId boundary feeAccount _ hreason ⟨_, hpos⟩ hfee
    refine ⟨t, ?_, balanced_of_flow (fun a => Int.natCast_nonneg _) (fun a => ?_) hflow⟩
    · rw [OrderTransaction.post, failedBuySettlement, buyReservation, hps, ok_bind]
      exact ht
    · exact Int.ofNat_le.mpr (hfee a)
  | successfulBuy intent boundary quote network plan transition feeAccount =>
    exact post_successfulBuy boundary network feeAccount hvalid
  | failedSell intent boundary tokens network feeAccount reason =>
    have hpos := sellReservation_pos hvalid.1 intent network
    have hfee : ∀ a, amountIfAsset network.feeAssetId a network.transactionFeeAtomic
        ≤ Tally.amount (sellReservation intent tokens network) a := by
      intro a
      rw [amount_sellReservation]
      omega
    have hreason := nonemptyTrimmed_append
      (by decide : nonemptyTrimmed "SNIPING_SELL_FAILED_" = true)
      (nonemptyTrimmed_of_stableToken hvalid.2)
    obtain ⟨ps, t, hps, ht, hflow⟩ :=
      post_failed intent.roundtripId boundary feeAccount _ hreason ⟨_, hpos⟩ hfee
    refine ⟨t, ?_, balanced_of_flow (fun a => Int.natCast_nonneg _) (fun a => ?_) hflow⟩
    · rw [OrderTransaction.post, failedSellSettlement, sellReservation, hps, ok_bind]
      exact ht
    · exact Int.ofNat_le.mpr (hfee a)
  | successfulSell intent boundary quote network tokens transition feeAccount =>
    exact post_successfulSell boundary network transition feeAccount hvalid

end OrderTransaction

end Building

/-! ## Every one of them -/

namespace OrderTransaction

variable [DomainDigest]

/-- The transaction draws on synthetic liquidity: it is a filled sell in virtual settlement, and
the observed reserve does not cover its output. -/
def DrawsSynthetic : OrderTransaction → Prop
  | successfulSell intent _ quote _ _ _ _ =>
    intent.executionMode = .exogenousVirtualSettlement ∧ ∃ liquidity ∈ quote.liquidityEvidence,
      liquidity.observedAvailableOutputAtomic < liquidity.requiredOutputAtomic
  | _ => False

/-- A shortfall is posted by the sells that draw on synthetic liquidity, and by nothing else. -/
theorem shortfall_ne_nil {o : OrderTransaction} : o.shortfall ≠ [] ↔ o.DrawsSynthetic := by
  cases o with
  | successfulSell intent boundary quote network tokens transition feeAccount =>
    rw [shortfall, posting_ne_nil, DrawsSynthetic, uncovered]
    cases quote.liquidityEvidence with
    | none => simp
    | some liquidity =>
      by_cases hmode : intent.executionMode = .exogenousVirtualSettlement
      · simp only [hmode, if_true, true_and, Option.mem_def, Option.some.injEq, exists_eq_left']
        omega
      · simp [hmode]
  | _ => simp [shortfall, DrawsSynthetic]

/-- **The transaction of a valid landing is built, and balanced, exactly when the account
identifiers it names are identifiers**; of its shortfall posting nothing is left open. -/
theorem builds {o : OrderTransaction} (hvalid : o.Valid) :
    ((∃ t, o.build = .ok t ∧ o.Balanced t) ↔
        ∀ account ∈ o.accounts, checkIdentifier account.value = .ok ()) ∧
      (o.shortfall ≠ [] ↔ o.DrawsSynthetic) := by
  refine ⟨⟨?_, fun hnames => ?_⟩, shortfall_ne_nil⟩
  · rintro ⟨t, hbuild, _⟩
    exact forM_eq_ok (check_bind_eq_ok.mp hbuild).1
  · obtain ⟨t, ht, hbalanced⟩ := hvalid.post
    exact ⟨t, by rw [build, forM_of_forall hnames, ok_bind, ht], hbalanced⟩

end OrderTransaction

/-! ## A covered and an uncovered sell -/

section Sample

/-- One digest for every document. -/
@[reducible] def flatDigest : DomainDigest := ⟨fun _ _ => ⟨0, false⟩⟩

attribute [local instance] flatDigest

def virtualPosition (venueId : VenueId) : PositionIntent where
  roundtripId := ⟨1, false⟩
  targetPosition :=
    { networkId := ⟨"solana:5eykt4UsFv8P8NJdTREpY1vzqKqZKvdpKuc147dw2N9d"⟩
      positionSchemaId := BLOCK32_TRANSACTION32_POSITION_SCHEMA_ID
      blockOrdinal := 7
      transactionIndex := 0
      eventIndex := none
      schema_supported := rfl
      block_le := by decide
      neg_one_le := ChainPosition.first_ge
      transaction_lt := ChainPosition.first_lt
      event_le := ChainPosition.eventless_le }
  assetId := ⟨"token"⟩
  venueId := venueId
  quoteAssetId := ⟨"sol"⟩
  grossBuyBudgetAtomic := 1000
  executionMode := .exogenousVirtualSettlement

/-- The evidence of an output of 100 atoms, `observed` of them in the reserve. -/
def evidenceFields (observed : Nat) (source : Option AccountId) :
    ProtocolLiquidityEvidenceFields where
  policyId := VIRTUAL_RESERVE_EXPLICIT_SHORTFALL_LIQUIDITY_POLICY_ID
  assetId := ⟨"sol"⟩
  requiredOutputAtomic := 100
  observedAvailableOutputAtomic := observed
  syntheticShortfallAtomic := 100 - observed
  syntheticSourceAccountId := source

/-- A sell of 10 tokens for 100 atoms, 10 of them fees. -/
def sellFields (evidence : ProtocolLiquidityEvidence) : ProtocolQuoteFields where
  side := .sell
  inputAssetId := ⟨"token"⟩
  outputAssetId := ⟨"sol"⟩
  amountInAtomic := 10
  amountOutAtomic := 90
  venueInputAtomic := 10
  venueOutputAtomic := 100
  protocolFeeAtomic := 6
  creatorFeeAtomic := 4
  cashbackReceivableAtomic := 0
  protocolFeeAccountId := .protocolFee ⟨"venue"⟩ "fee"
  creatorFeeAccountId := .creatorFee ⟨"venue"⟩ "fee"
  cashbackSourceAccountId := .cashbackSource ⟨"venue"⟩ "fee"
  liquidityEvidence := some evidence

theorem coveredEvidence_valid : (evidenceFields 100 none).postInit = .ok () := by decide

def coveredEvidence : ProtocolLiquidityEvidence := ⟨evidenceFields 100 none, coveredEvidence_valid⟩

theorem coveredQuote_valid : (sellFields coveredEvidence).postInit = .ok () := by decide

def coveredQuote : ProtocolQuote := ⟨sellFields coveredEvidence, coveredQuote_valid⟩

def shortSource : AccountId := .syntheticLiquidity "pumpfun" ⟨0, false⟩

theorem shortEvidence_valid : (evidenceFields 30 (some shortSource)).postInit = .ok () := by
  decide

def shortEvidence : ProtocolLiquidityEvidence :=
  ⟨evidenceFields 30 (some shortSource), shortEvidence_valid⟩

theorem shortQuote_valid : (sellFields shortEvidence).postInit = .ok () := by decide

def shortQuote : ProtocolQuote := ⟨sellFields shortEvidence, shortQuote_valid⟩

def sampleSellCost : NetworkCostQuote := ⟨⟨"sol"⟩, 5, 2, [], List.Pairwise.nil⟩

/-- The sell of a position, filled. -/
def filledSell (venueId : VenueId) (quote : ProtocolQuote) : OrderTransaction :=
  .successfulSell (virtualPosition venueId) 9 quote sampleSellCost 10
    ⟨⟨.fresh, "uva", none, []⟩, []⟩ (.networkFee "solana")

theorem filledSell_covered_valid (venueId : VenueId) :
    (filledSell venueId coveredQuote).Valid := by
  show validateSellQuote (virtualPosition venueId) 10 coveredQuote = .ok ()
  rfl

theorem filledSell_accounts (quote : ProtocolQuote) :
    ∀ account ∈ (filledSell ⟨"venue"⟩ quote).accounts, checkIdentifier account.value = .ok () := by
  show ∀ account ∈ (filledSell ⟨"venue"⟩ coveredQuote).accounts,
    checkIdentifier account.value = .ok ()
  decide

namespace OrderTransaction

/-- A sell whose reserve is 70 atoms short is built with its shortfall. -/
theorem builds_short : ∃ t, (filledSell ⟨"venue"⟩ shortQuote).build = .ok t ∧
    (filledSell ⟨"venue"⟩ shortQuote).Balanced t ∧
    (filledSell ⟨"venue"⟩ shortQuote).shortfall ≠ [] := by
  have hvalid : (filledSell ⟨"venue"⟩ shortQuote).Valid := by
    show validateSellQuote (virtualPosition ⟨"venue"⟩) 10 shortQuote = .ok ()
    decide
  obtain ⟨hbuilds, hshort⟩ := builds hvalid
  obtain ⟨t, ht, hbalanced⟩ := hbuilds.mpr (filledSell_accounts shortQuote)
  refine ⟨t, ht, hbalanced, hshort.mpr ⟨rfl, shortEvidence, rfl, ?_⟩⟩
  decide

/-- The check of an identifier reads its characters only. -/
theorem checkIdentifier_of_toList {value : String} {cs : List Char} (h : value.toList = cs) :
    checkIdentifier value =
      (refuseIf ((!cs.isEmpty && isTrimmedList cs) = false)
        (.value "identifier must be non-empty and have no outer whitespace") >>= fun _ =>
      refuseIf (256 < cs.length) (.value "identifier is longer than 256 characters") >>= fun _ =>
      refuseIf (cs.any (fun c => c.toNat < 32) = true)
        (.value "identifier must not contain control characters")) := by
  subst h
  rw [checkIdentifier, nonemptyTrimmed, String.length_toList]

/-- A venue whose identifier is as long as an identifier can be. -/
def longVenue : VenueId := ⟨String.ofList (List.replicate 256 'v')⟩

theorem longVenue_toList : longVenue.value.toList = List.replicate 256 'v' := String.toList_ofList

theorem longVenue_make : VenueId.make longVenue.value = .ok longVenue := by
  have hchecked : checkIdentifier longVenue.value = .ok () := by
    rw [checkIdentifier_of_toList longVenue_toList]
    decide +kernel
  rw [VenueId.make, hchecked, ok_bind]

theorem longVenue_account : checkIdentifier (AccountId.venue longVenue).value =
    .error (.value "identifier is longer than 256 characters") := by
  have hvalue : (AccountId.venue longVenue).value.toList =
      "venue:".toList ++ List.replicate 256 'v' := by
    rw [← longVenue_toList]
    exact String.toList_append
  rw [checkIdentifier_of_toList hvalue]
  decide +kernel

/-- **A valid sell is not always built, and a filled sell in virtual settlement does not always
post a shortfall**: the account of a venue with a long identifier is no identifier, and a reserve
that covers the output leaves nothing to post. -/
theorem not_always_built :
    (VenueId.make longVenue.value = .ok longVenue ∧ (filledSell longVenue coveredQuote).Valid ∧
      ∃ fault, (filledSell longVenue coveredQuote).build = .error fault) ∧
    (filledSell ⟨"venue"⟩ coveredQuote).Valid ∧
      (virtualPosition ⟨"venue"⟩).executionMode = .exogenousVirtualSettlement ∧
      ∃ t, (filledSell ⟨"venue"⟩ coveredQuote).build = .ok t ∧
        ∀ p ∈ t.postings, p.account.kind ≠ .external := by
  refine ⟨⟨longVenue_make, filledSell_covered_valid longVenue, ?_⟩,
    filledSell_covered_valid ⟨"venue"⟩, rfl, ?_⟩
  · cases hbuild : (filledSell longVenue coveredQuote).build with
    | error fault => exact ⟨fault, rfl⟩
    | ok t =>
      have hvenue := forM_eq_ok (check_bind_eq_ok.mp hbuild).1 (.venue longVenue)
        (by simp [accounts, filledSell, virtualPosition])
      rw [longVenue_account] at hvenue
      cases hvenue
  · obtain ⟨t, ht, hbalanced⟩ := (filledSell_covered_valid ⟨"venue"⟩).post
    refine ⟨t, by rw [build, forM_of_forall (filledSell_accounts coveredQuote), ok_bind, ht], ?_⟩
    intro p hp hkind
    have hmem : p ∈ t.postings.filter (fun p => p.account.kind = .external) :=
      List.mem_filter.mpr ⟨hp, decide_eq_true hkind⟩
    rw [hbalanced.external] at hmem
    exact absurd hmem (by simp [shortfall, cashback, filledSell, uncovered, coveredQuote,
      sellFields, coveredEvidence, evidenceFields, posting])

end OrderTransaction

end Sample

end OnchainBacktest
