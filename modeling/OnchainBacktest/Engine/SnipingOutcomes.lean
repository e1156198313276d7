import OnchainBacktest.Engine.SnipingOrders

/-!
# What an order handler can do

For each of the four handlers, the ways it returns: an inductive type with one constructor for each
branch that does not stop the run, carrying every computation the branch has made.  Whatever is
proved about orders is proved by cases on these, and no handler is unfolded again.
-/

set_option autoImplicit false

namespace OnchainBacktest

open Checked

/-! ## The parts of a handler -/

theorem expectRejection_eq_ok {α : Type} {x : Except Fault α} {r : Except String α} :
    expectRejection x = .ok r ↔
      (∃ value, x = .ok value ∧ r = .ok value) ∨
        ∃ code, x = .error (.executionRejected code) ∧ r = .error code := by
  match x with
  | .ok value => simp [expectRejection, eq_comm]
  | .error fault => cases fault <;> simp [expectRejection, eq_comm]

theorem mapPortfolioError_eq_ok {α : Type} {x : Except Fault α} {a : α} :
    mapPortfolioError x = .ok a ↔ x = .ok a := by
  match x with
  | .ok _ => simp [mapPortfolioError]
  | .error fault => cases fault <;> simp [mapPortfolioError]

/-- The ways a landing is refused. -/
inductive LandingRefused (quoted : Except Fault ProtocolQuote)
    (validate : ProtocolQuote → Except Fault Unit) (minimumOutAtomic : Nat) :
    String → Option ProtocolQuote → Prop
  | rejected {code : String} (h : quoted = .error (.executionRejected code)) :
    LandingRefused quoted validate minimumOutAtomic code none
  | belowMinimum {landing : ProtocolQuote} (h : quoted = .ok landing)
    (valid : validate landing = .ok ()) (below : landing.amountOutAtomic < minimumOutAtomic) :
    LandingRefused quoted validate minimumOutAtomic "MINIMUM_OUTPUT_NOT_MET" (some landing)

section Attempt

variable {quoted : Except Fault ProtocolQuote} {validate : ProtocolQuote → Except Fault Unit}
  {minimumOutAtomic : Nat}

theorem attemptLanding_cases {attempt : LandingAttempt}
    (h : attemptLanding quoted validate minimumOutAtomic = .ok attempt) :
    (∃ code landing, attempt = .rejected code landing ∧
        LandingRefused quoted validate minimumOutAtomic code landing) ∨
      ∃ landing, attempt = .filled landing ∧ quoted = .ok landing ∧ validate landing = .ok () ∧
        minimumOutAtomic ≤ landing.amountOutAtomic := by
  obtain ⟨r, hr, h⟩ := bind_eq_ok.mp h
  obtain ⟨landing, hq, rfl⟩ | ⟨code, hq, rfl⟩ := expectRejection_eq_ok.mp hr
  · obtain ⟨hv, h⟩ := check_bind_eq_ok.mp h
    split at h
    · rename_i hlt
      cases h
      exact .inl ⟨_, _, rfl, .belowMinimum hq hv hlt⟩
    · rename_i hge
      cases h
      exact .inr ⟨landing, rfl, hq, hv, not_lt.mp hge⟩
  · cases h
    exact .inl ⟨code, none, rfl, .rejected hq⟩

end Attempt

/-! ## The desk -/

namespace Desk

variable {ρ : Type} {desk desk' : Desk ρ} {t : LedgerTransaction}

/-- The desk after a transaction: one commit, one ledger row. -/
structure Applied (desk : Desk ρ) (t : LedgerTransaction) (desk' : Desk ρ) : Prop where
  portfolio : ∃ c, desk.portfolio.preview t = .ok c ∧ desk'.portfolio = desk.portfolio.commit c
  correlationKind : t.correlationKind = .roundtrip
  ledger : desk'.recorder.ledger = desk.recorder.ledger ++ [t]
  cashflows : desk'.recorder.cashflows
    = t.postings.foldl (CorrelatedLedgerCashflows.appendPosting t.correlationId)
      desk.recorder.cashflows
  audit : desk'.recorder.audit = desk.recorder.audit
  fills : desk'.recorder.fills = desk.recorder.fills
  roundtrips : desk'.recorder.roundtrips = desk.recorder.roundtrips
  scheduled : desk'.scheduled = desk.scheduled

theorem applyTransaction_eq_ok (h : desk.applyTransaction t = .ok desk') :
    desk.Applied t desk' ∧ desk'.accounts = desk.accounts := by
  obtain ⟨c, hc, h⟩ := bind_eq_ok.mp h
  obtain ⟨recorder, hrec, h⟩ := bind_eq_ok.mp h
  obtain ⟨cashflows, hcash, hrec⟩ := bind_eq_ok.mp hrec
  obtain ⟨hkind, hcash⟩ := check_bind_eq_ok.mp hcash
  cases h
  cases hrec
  cases hcash
  exact ⟨⟨⟨c, mapPortfolioError_eq_ok.mp hc, rfl⟩, not_not.mp (refuseIf_eq_ok.mp hkind), rfl, rfl,
    rfl, rfl, rfl, rfl⟩, rfl⟩

theorem applyTransactionWithAccounts_eq_ok {transition : AccountProvisioningTransition}
    (h : desk.applyTransactionWithAccounts t transition = .ok desk') :
    desk.Applied t desk' ∧ desk'.accounts = transition.state := by
  obtain ⟨d, hd, h⟩ := bind_eq_ok.mp h
  obtain ⟨ha, _⟩ := applyTransaction_eq_ok hd
  cases h
  exact ⟨⟨ha.portfolio, ha.correlationKind, ha.ledger, ha.cashflows, ha.audit, ha.fills,
    ha.roundtrips, ha.scheduled⟩, rfl⟩

/-- The action a `schedule` call puts into the schedule. -/
def newAction [DomainDigest] (position : ChainPosition) (kind : ActionKind) (creator : Nat)
    (rid : ContentDigest) (subject : ρ) : ScheduledAction ρ :=
  ⟨position.boundaryOrdinal, kind.phase, creator, actionId rid kind.name, kind, subject⟩

theorem schedule_eq_ok [DomainDigest] {position : ChainPosition} {kind : ActionKind}
    {creator : Nat} {rid : ContentDigest} {subject : ρ} :
    desk.schedule position kind creator rid subject = .ok desk' ↔
      creator < position.boundaryOrdinal ∧
        desk' = { desk with
          scheduled := desk.scheduled.orderedInsert scheduledActionLe
            (newAction position kind creator rid subject) } := by
  simp only [Desk.schedule, OnchainBacktest.schedule, bind_eq_ok, refuseIf_eq_ok, exists_const,
    not_le, Except.ok.injEq]
  constructor
  · rintro ⟨scheduled, ⟨hlt, rfl⟩, rfl⟩
    exact ⟨hlt, rfl⟩
  · rintro ⟨hlt, rfl⟩
    exact ⟨_, ⟨hlt, rfl⟩, rfl⟩

end Desk

/-! ## The outcomes -/

section Outcomes

variable [DomainDigest] {ρ : Type}

/-- A buy with its network price and its account plan. -/
structure BuyPriced (market : Market) (desk : Desk ρ) (state : RoundTripState)
    (intent : RoundTripIntent) (network : NetworkCostQuote) (plan : AccountReservationPlan) :
    Prop where
  intent_eq : state.intent = some intent
  network_eq : ∃ requirements, market.protocol.accountRequirements intent = .ok requirements ∧
    market.networkCosts.quoteBuy (state.targetTimeNs / 1000000000) requirements = .ok network
  plan_eq : prepareAccountReservation desk.accounts intent.roundtripId intent.assetId
    network.accountRequirements = .ok plan

/-- A priced buy with its reference quote and its landing position. -/
structure BuyReferenced (market : Market) (desk : Desk ρ) (state : RoundTripState)
    (intent : RoundTripIntent) (network : NetworkCostQuote) (plan : AccountReservationPlan)
    (reference : ProtocolQuote) (landing : ChainPosition) : Prop
    extends BuyPriced market desk state intent network plan where
  quoted : market.protocol.quoteBuy intent.toPositionIntent (state.targetTimeNs / 1000000000)
    = .ok reference
  valid : validateBuyQuote intent.toPositionIntent reference = .ok ()
  landing_eq : market.clock.transactionAfter intent.targetPosition intent.buyDelayTransactions
    = .ok landing

/-- The minimum a buy accepts. -/
def buyMinimum (intent : RoundTripIntent) (reference : ProtocolQuote) : Nat :=
  minimumOutputAtomic reference.amountOutAtomic intent.buySlippageBps

/-- The minimum a sell accepts. -/
def sellMinimum (intent : RoundTripIntent) (reference : ProtocolQuote) : Nat :=
  minimumOutputAtomic reference.amountOutAtomic intent.sellSlippageBps

/-- The ways `acceptBuy` returns. -/
inductive BuyAcceptance (market : Market) (subject : ρ) (desk : Desk ρ) (state : RoundTripState) :
    Handled ρ → Prop
  | referenceRejected {intent : RoundTripIntent} {network : NetworkCostQuote}
    {plan : AccountReservationPlan} {code : String} {records : List AccountComponentRecord}
    (priced : BuyPriced market desk state intent network plan)
    (rejected : market.protocol.quoteBuy intent.toPositionIntent
      (state.targetTimeNs / 1000000000) = .error (.executionRejected code))
    (records_eq : unsubmittedAccountRecords desk.accounts plan = .ok records) :
    BuyAcceptance market subject desk state
      ⟨desk.audit (.buyReferenceRejected intent.createdBoundaryOrdinal intent.roundtripId code),
        (state.buyPriced network plan).buyReferenceRejected code records, false⟩
  | fundsRejected {intent : RoundTripIntent} {network : NetworkCostQuote}
    {plan : AccountReservationPlan} {reference : ProtocolQuote} {landing : ChainPosition}
    {records : List AccountComponentRecord}
    (quoted : BuyReferenced market desk state intent network plan reference landing)
    (records_eq : unsubmittedAccountRecords desk.accounts plan = .ok records) :
    BuyAcceptance market subject desk state
      ⟨desk.audit (.buyPreSubmitRejected intent.createdBoundaryOrdinal intent.roundtripId),
        ((state.buyPriced network plan).buyReferenced reference
          (buyMinimum intent reference)).buyPreSubmitRejected records, false⟩
  | accepted {intent : RoundTripIntent} {network : NetworkCostQuote}
    {plan : AccountReservationPlan} {reference : ProtocolQuote} {landing : ChainPosition}
    {transaction : LedgerTransaction} {applied scheduled : Desk ρ}
    (quoted : BuyReferenced market desk state intent network plan reference landing)
    (funded : hasAvailable desk.portfolio
      (buyReservation intent.toPositionIntent network plan) = true)
    (reserve : reserveBuy intent network plan = .ok transaction)
    (apply : desk.applyTransaction transaction = .ok applied)
    (schedule : applied.schedule landing .buyLanding intent.createdBoundaryOrdinal
      intent.roundtripId subject = .ok scheduled) :
    BuyAcceptance market subject desk state
      ⟨scheduled.audit (.buyAcceptedAndReserved intent.createdBoundaryOrdinal intent.roundtripId
          landing.boundaryOrdinal (buyReservation intent.toPositionIntent network plan)),
        (state.buyPriced network plan).buyReferenced reference (buyMinimum intent reference), true⟩

/-- What a landing buy is about. -/
structure BuyLanding (market : Market) (state : RoundTripState) (position : ChainPosition)
    (intent : RoundTripIntent) (network : NetworkCostQuote) (plan : AccountReservationPlan)
    (timeNs : Nat) : Prop where
  intent_eq : state.intent = some intent
  network_eq : state.buyNetworkCost = some network
  plan_eq : state.accountReservation = some plan
  time : market.clock.blockTimeForPosition position = .ok timeNs

/-- The ways `landBuy` returns. -/
inductive BuyLanded (market : Market) (subject : ρ) (desk : Desk ρ) (state : RoundTripState)
    (position : ChainPosition) : Handled ρ → Prop
  | failed {intent : RoundTripIntent} {network : NetworkCostQuote} {plan : AccountReservationPlan}
    {timeNs : Nat} {code : String} {landing : Option ProtocolQuote}
    {transition : AccountProvisioningTransition} {transaction : LedgerTransaction}
    {applied : Desk ρ}
    (order : BuyLanding market state position intent network plan timeNs)
    (refused : LandingRefused
      (market.protocol.quoteBuy intent.toPositionIntent (timeNs / 1000000000))
      (validateBuyQuote intent.toPositionIntent) state.buyMinimumOutAtomic code landing)
    (accounts : applyBuyAccountTransition desk.accounts plan false = .ok transition)
    (settle : failedBuySettlement intent.toPositionIntent position.boundaryOrdinal network plan
      SolanaSnipingCostModel.feeCollectorAccountId code = .ok transaction)
    (apply : desk.applyTransactionWithAccounts transaction transition = .ok applied) :
    BuyLanded market subject desk state position
      ⟨applied.audit (.buyLandedFailedNetworkFeeCharged position.boundaryOrdinal
          intent.roundtripId code),
        state.buyLandedFailed position landing code transition.records, false⟩
  | filled {intent : RoundTripIntent} {network : NetworkCostQuote} {plan : AccountReservationPlan}
    {timeNs : Nat} {landing : ProtocolQuote} {transition : AccountProvisioningTransition}
    {transaction : LedgerTransaction} {applied scheduled : Desk ρ} {fill : Fill}
    {decision : ChainPosition}
    (order : BuyLanding market state position intent network plan timeNs)
    (quoted : market.protocol.quoteBuy intent.toPositionIntent (timeNs / 1000000000)
      = .ok landing)
    (valid : validateBuyQuote intent.toPositionIntent landing = .ok ())
    (accounts : applyBuyAccountTransition desk.accounts plan true = .ok transition)
    (settle : successfulBuySettlement intent.toPositionIntent position.boundaryOrdinal landing
      network plan transition SolanaSnipingCostModel.feeCollectorAccountId = .ok transaction)
    (apply : desk.applyTransactionWithAccounts transaction transition = .ok applied)
    (fill_eq : fillOf intent.toPositionIntent .buy landing position.boundaryOrdinal = .ok fill)
    (decision_eq : market.clock.firstNonemptyTransactionAtOrAfter position
      (timeNs + intent.sellDecisionDelayNs) = .ok decision)
    (schedule : Desk.schedule { applied with recorder := applied.recorder.appendFill fill }
      decision .sellDecision position.boundaryOrdinal intent.roundtripId subject
        = .ok scheduled) :
    BuyLanded market subject desk state position
      ⟨scheduled.audit (.buyFilled position.boundaryOrdinal intent.roundtripId
          decision.boundaryOrdinal),
        state.buyFilled position landing transition.records, true⟩

/-- What a sell decision is about. -/
structure SellDeciding (market : Market) (state : RoundTripState) (position : ChainPosition)
    (intent : RoundTripIntent) (timeNs : Nat) : Prop where
  intent_eq : state.intent = some intent
  acquired : 0 < state.acquiredTokenAmountAtomic
  live : state.terminal = false
  time : market.clock.blockTimeForPosition position = .ok timeNs

/-- A sell with its reference quote, its landing position and its network price. -/
structure SellReferenced (market : Market) (desk : Desk ρ) (state : RoundTripState)
    (position : ChainPosition) (intent : RoundTripIntent) (timeNs : Nat)
    (reference : ProtocolQuote) (landing : ChainPosition) (network : NetworkCostQuote) : Prop
    extends SellDeciding market state position intent timeNs where
  quoted : market.protocol.quoteSell intent.toPositionIntent state.acquiredTokenAmountAtomic
    (timeNs / 1000000000) = .ok reference
  valid : validateSellQuote intent.toPositionIntent state.acquiredTokenAmountAtomic reference
    = .ok ()
  landing_eq : market.clock.transactionAfter position intent.sellDelayTransactions = .ok landing
  network_eq : market.networkCosts.quoteSell (timeNs / 1000000000) = .ok network
  tokens : (state.acquiredTokenAmountAtomic : Int) ≤ desk.portfolio.available intent.assetId

/-- The ways `decideSell` returns. -/
inductive SellDecided (market : Market) (subject : ρ) (desk : Desk ρ) (state : RoundTripState)
    (position : ChainPosition) : Handled ρ → Prop
  | unavailable {intent : RoundTripIntent} {timeNs : Nat} {code : String}
    (order : SellDeciding market state position intent timeNs)
    (rejected : market.protocol.quoteSell intent.toPositionIntent state.acquiredTokenAmountAtomic
      (timeNs / 1000000000) = .error (.executionRejected code)) :
    SellDecided market subject desk state position
      ⟨desk.audit (.sellReferenceUnavailable position.boundaryOrdinal intent.roundtripId code),
        state.sellReferenceUnavailable position code, false⟩
  | fundsRejected {intent : RoundTripIntent} {timeNs : Nat} {reference : ProtocolQuote}
    {landing : ChainPosition} {network : NetworkCostQuote}
    (quoted : SellReferenced market desk state position intent timeNs reference landing network) :
    SellDecided market subject desk state position
      ⟨desk.audit (.sellPreSubmitRejected position.boundaryOrdinal intent.roundtripId),
        (state.sellReferenced position reference (sellMinimum intent reference)
          network).sellPreSubmitRejected, false⟩
  | accepted {intent : RoundTripIntent} {timeNs : Nat} {reference : ProtocolQuote}
    {landing : ChainPosition} {network : NetworkCostQuote} {transaction : LedgerTransaction}
    {applied scheduled : Desk ρ}
    (quoted : SellReferenced market desk state position intent timeNs reference landing network)
    (funded : hasAvailable desk.portfolio (sellReservation intent.toPositionIntent
      state.acquiredTokenAmountAtomic network) = true)
    (reserve : reserveSell intent.toPositionIntent state.acquiredTokenAmountAtomic network
      position.boundaryOrdinal = .ok transaction)
    (apply : desk.applyTransaction transaction = .ok applied)
    (schedule : applied.schedule landing .sellLanding position.boundaryOrdinal intent.roundtripId
      subject = .ok scheduled) :
    SellDecided market subject desk state position
      ⟨scheduled.audit (.sellAcceptedAndReserved position.boundaryOrdinal intent.roundtripId
          landing.boundaryOrdinal),
        state.sellReferenced position reference (sellMinimum intent reference) network, true⟩

/-- What a landing sell is about. -/
structure SellLanding (market : Market) (state : RoundTripState) (position : ChainPosition)
    (intent : RoundTripIntent) (network : NetworkCostQuote) (timeNs : Nat) : Prop where
  intent_eq : state.intent = some intent
  network_eq : state.sellNetworkCost = some network
  time : market.clock.blockTimeForPosition position = .ok timeNs

/-- The ways `landSell` returns. -/
inductive SellLanded (market : Market) (desk : Desk ρ) (state : RoundTripState)
    (position : ChainPosition) : Handled ρ → Prop
  | failed {intent : RoundTripIntent} {network : NetworkCostQuote} {timeNs : Nat} {code : String}
    {landing : Option ProtocolQuote} {transaction : LedgerTransaction} {applied : Desk ρ}
    (order : SellLanding market state position intent network timeNs)
    (refused : LandingRefused (market.protocol.quoteSell intent.toPositionIntent
        state.acquiredTokenAmountAtomic (timeNs / 1000000000))
      (validateSellQuote intent.toPositionIntent state.acquiredTokenAmountAtomic)
      state.sellMinimumOutAtomic code landing)
    (settle : failedSellSettlement intent.toPositionIntent position.boundaryOrdinal
      state.acquiredTokenAmountAtomic network SolanaSnipingCostModel.feeCollectorAccountId code
        = .ok transaction)
    (apply : desk.applyTransaction transaction = .ok applied) :
    SellLanded market desk state position
      ⟨applied.audit (.sellLandedFailedNetworkFeeCharged position.boundaryOrdinal
          intent.roundtripId code),
        state.sellLandedFailed position landing code, false⟩
  | filled {intent : RoundTripIntent} {network : NetworkCostQuote} {timeNs : Nat}
    {landing : ProtocolQuote} {transition : AccountProvisioningTransition}
    {transaction : LedgerTransaction} {applied : Desk ρ} {fill : Fill}
    (order : SellLanding market state position intent network timeNs)
    (quoted : market.protocol.quoteSell intent.toPositionIntent state.acquiredTokenAmountAtomic
      (timeNs / 1000000000) = .ok landing)
    (valid : validateSellQuote intent.toPositionIntent state.acquiredTokenAmountAtomic landing
      = .ok ())
    (accounts : applySellAccountTransition desk.accounts intent.roundtripId intent.assetId
      state.accountComponents true = .ok transition)
    (settle : successfulSellSettlement intent.toPositionIntent position.boundaryOrdinal landing
      network state.acquiredTokenAmountAtomic transition
      SolanaSnipingCostModel.feeCollectorAccountId = .ok transaction)
    (apply : desk.applyTransactionWithAccounts transaction transition = .ok applied)
    (fill_eq : fillOf intent.toPositionIntent .sell landing position.boundaryOrdinal
      = .ok fill) :
    SellLanded market desk state position
      ⟨Desk.audit { applied with recorder := applied.recorder.appendFill fill }
          (.sellFilledAndAccountClosed position.boundaryOrdinal intent.roundtripId
            (applied.recorder.cashflows.amount intent.roundtripId intent.quoteAssetId)),
        state.sellFilled position landing transition.records, true⟩

/-! ## The handlers return only so -/

variable {market : Market} {subject : ρ} {desk : Desk ρ} {state : RoundTripState}
  {position : ChainPosition} {handled : Handled ρ}

theorem acceptBuy_cases (h : acceptBuy market subject desk state = .ok handled) :
    BuyAcceptance market subject desk state handled := by
  obtain ⟨intent, hintent, h⟩ := bind_eq_ok.mp h
  obtain ⟨requirements, hreq, h⟩ := bind_eq_ok.mp h
  obtain ⟨network, hnetwork, h⟩ := bind_eq_ok.mp h
  obtain ⟨plan, hplan, h⟩ := bind_eq_ok.mp h
  obtain ⟨r, hr, h⟩ := bind_eq_ok.mp h
  have hpriced : BuyPriced market desk state intent network plan :=
    ⟨requirePart_eq_ok.mp hintent, ⟨requirements, hreq, hnetwork⟩, hplan⟩
  obtain ⟨reference, hq, rfl⟩ | ⟨code, hq, rfl⟩ := expectRejection_eq_ok.mp hr
  · obtain ⟨hv, h⟩ := check_bind_eq_ok.mp h
    obtain ⟨landing, hlanding, h⟩ := bind_eq_ok.mp h
    have hquoted : BuyReferenced market desk state intent network plan reference landing :=
      { hpriced with quoted := hq, valid := hv, landing_eq := hlanding }
    split at h
    · rename_i hfunded
      obtain ⟨transaction, htx, h⟩ := bind_eq_ok.mp h
      obtain ⟨applied, happ, h⟩ := bind_eq_ok.mp h
      obtain ⟨scheduled, hsch, h⟩ := bind_eq_ok.mp h
      cases h
      exact .accepted hquoted hfunded htx happ hsch
    · obtain ⟨records, hrecords, h⟩ := bind_eq_ok.mp h
      cases h
      exact .fundsRejected hquoted hrecords
  · obtain ⟨records, hrecords, h⟩ := bind_eq_ok.mp h
    cases h
    exact .referenceRejected hpriced hq hrecords

theorem landBuyOrder_cases (h : landBuyOrder market subject desk state position = .ok handled) :
    BuyLanded market subject desk state position handled := by
  obtain ⟨intent, hintent, h⟩ := bind_eq_ok.mp h
  obtain ⟨network, hnetwork, h⟩ := bind_eq_ok.mp h
  obtain ⟨plan, hplan, h⟩ := bind_eq_ok.mp h
  obtain ⟨timeNs, htime, h⟩ := bind_eq_ok.mp h
  obtain ⟨attempt, hattempt, h⟩ := bind_eq_ok.mp h
  have horder : BuyLanding market state position intent network plan timeNs :=
    ⟨requirePart_eq_ok.mp hintent, requirePart_eq_ok.mp hnetwork, requirePart_eq_ok.mp hplan,
      htime⟩
  obtain ⟨code, landing, rfl, hrefused⟩ | ⟨landing, rfl, hq, hv, _⟩ :=
    attemptLanding_cases hattempt
  · obtain ⟨transition, hacc, h⟩ := bind_eq_ok.mp h
    obtain ⟨transaction, htx, h⟩ := bind_eq_ok.mp h
    obtain ⟨applied, happ, h⟩ := bind_eq_ok.mp h
    cases h
    exact .failed horder hrefused hacc htx happ
  · obtain ⟨transition, hacc, h⟩ := bind_eq_ok.mp h
    obtain ⟨transaction, htx, h⟩ := bind_eq_ok.mp h
    obtain ⟨applied, happ, h⟩ := bind_eq_ok.mp h
    obtain ⟨fill, hfill, h⟩ := bind_eq_ok.mp h
    obtain ⟨fillTimeNs, hfillTime, h⟩ := bind_eq_ok.mp h
    rw [htime] at hfillTime
    cases hfillTime
    obtain ⟨decision, hdecision, h⟩ := bind_eq_ok.mp h
    obtain ⟨scheduled, hsch, h⟩ := bind_eq_ok.mp h
    cases h
    exact .filled horder hq hv hacc htx happ hfill hdecision hsch

theorem landBuy_cases (h : landBuy market subject desk state position = .ok handled) :
    BuyLanded market subject desk state position handled := by
  obtain ⟨_, _, h⟩ := bind_eq_ok.mp h
  exact landBuyOrder_cases h

theorem decideSell_cases (h : decideSell market subject desk state position = .ok handled) :
    SellDecided market subject desk state position handled := by
  obtain ⟨intent, hintent, h⟩ := bind_eq_ok.mp h
  obtain ⟨hlive, h⟩ := check_bind_eq_ok.mp h
  rw [refuseIf_eq_ok, not_or, Bool.not_eq_true] at hlive
  obtain ⟨timeNs, htime, h⟩ := bind_eq_ok.mp h
  obtain ⟨r, hr, h⟩ := bind_eq_ok.mp h
  have horder : SellDeciding market state position intent timeNs :=
    ⟨requirePart_eq_ok.mp hintent, Nat.pos_of_ne_zero hlive.1, hlive.2, htime⟩
  obtain ⟨reference, hq, rfl⟩ | ⟨code, hq, rfl⟩ := expectRejection_eq_ok.mp hr
  · obtain ⟨hv, h⟩ := check_bind_eq_ok.mp h
    obtain ⟨landing, hlanding, h⟩ := bind_eq_ok.mp h
    obtain ⟨network, hnetwork, h⟩ := bind_eq_ok.mp h
    obtain ⟨htokens, h⟩ := check_bind_eq_ok.mp h
    have hquoted : SellReferenced market desk state position intent timeNs reference landing network :=
      { horder with
        quoted := hq
        valid := hv
        landing_eq := hlanding
        network_eq := hnetwork
        tokens := not_lt.mp (refuseIf_eq_ok.mp htokens) }
    split at h
    · rename_i hfunded
      obtain ⟨transaction, htx, h⟩ := bind_eq_ok.mp h
      obtain ⟨applied, happ, h⟩ := bind_eq_ok.mp h
      obtain ⟨scheduled, hsch, h⟩ := bind_eq_ok.mp h
      cases h
      exact .accepted hquoted hfunded htx happ hsch
    · cases h
      exact .fundsRejected hquoted
  · cases h
    exact .unavailable horder hq

theorem landSellOrder_cases (h : landSellOrder market desk state position = .ok handled) :
    SellLanded market desk state position handled := by
  obtain ⟨intent, hintent, h⟩ := bind_eq_ok.mp h
  obtain ⟨network, hnetwork, h⟩ := bind_eq_ok.mp h
  obtain ⟨timeNs, htime, h⟩ := bind_eq_ok.mp h
  obtain ⟨attempt, hattempt, h⟩ := bind_eq_ok.mp h
  have horder : SellLanding market state position intent network timeNs :=
    ⟨requirePart_eq_ok.mp hintent, requirePart_eq_ok.mp hnetwork, htime⟩
  obtain ⟨code, landing, rfl, hrefused⟩ | ⟨landing, rfl, hq, hv, _⟩ :=
    attemptLanding_cases hattempt
  · obtain ⟨transaction, htx, h⟩ := bind_eq_ok.mp h
    obtain ⟨applied, happ, h⟩ := bind_eq_ok.mp h
    cases h
    exact .failed horder hrefused htx happ
  · obtain ⟨transition, hacc, h⟩ := bind_eq_ok.mp h
    obtain ⟨transaction, htx, h⟩ := bind_eq_ok.mp h
    obtain ⟨applied, happ, h⟩ := bind_eq_ok.mp h
    obtain ⟨fill, hfill, h⟩ := bind_eq_ok.mp h
    cases h
    exact .filled horder hq hv hacc htx happ hfill

theorem landSell_cases (h : landSell market desk state position = .ok handled) :
    SellLanded market desk state position handled := by
  obtain ⟨_, _, h⟩ := bind_eq_ok.mp h
  exact landSellOrder_cases h

end Outcomes

end OnchainBacktest
