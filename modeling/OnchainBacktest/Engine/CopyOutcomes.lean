import OnchainBacktest.Engine.CopyMoves
import OnchainBacktest.Engine.SnipingOutcomes

/-!
# What an order of a copy run can do

For each operation of the executor, the ways it returns, with every computation the branch has
made: an attempt is rejected for free or submitted (`CopySubmission`), an entry or an exit is begun
(`BuyBegun`, `SellBegun`), a submitted attempt lands (`CopyLanded`).  Whatever is proved about the
orders of a copy run is proved by cases on these.
-/

set_option autoImplicit false

namespace OnchainBacktest

open Checked

variable [DomainDigest]

/-! ## The parts of an order -/

/-- The desk after a transaction: one commit, one ledger row. -/
structure CopyDesk.Applied (desk : CopyDesk) (t : LedgerTransaction) (desk' : CopyDesk) : Prop where
  portfolio : ∃ c, desk.portfolio.preview t = .ok c ∧ desk'.portfolio = desk.portfolio.commit c
  correlationKind : t.correlationKind = .roundtrip
  ledger : desk'.ledger = desk.ledger ++ [t]
  cashflows : desk'.cashflows
    = t.postings.foldl (CorrelatedLedgerCashflows.appendPosting t.correlationId) desk.cashflows
  historical : desk'.historical = desk.historical
  observed : desk'.observed = desk.observed
  audit : desk'.audit = desk.audit
  fills : desk'.fills = desk.fills

section Parts

variable {setup : CopySetup} {desk : CopyDesk} {state : CopyExecutionPosition}
  {attempt : CopyOrderAttempt} {handled : CopyHandled}

omit [DomainDigest] in
theorem copyCommit_eq_ok {transaction : LedgerTransaction}
    {transition : Option AccountProvisioningTransition}
    (h : copyCommit desk state transaction transition = .ok handled) :
    desk.Applied transaction handled.desk ∧
      handled.desk.accounts = (transition.map fun t => t.state).getD desk.accounts ∧
      handled.state = { state with
        accountComponents := (transition.map fun t => t.records).getD state.accountComponents } := by
  obtain ⟨c, hc, h⟩ := bind_eq_ok.mp h
  obtain ⟨cashflows, hcash, h⟩ := bind_eq_ok.mp h
  obtain ⟨hkind, hcash⟩ := check_bind_eq_ok.mp hcash
  cases hcash
  have hround := not_not.mp (refuseIf_eq_ok.mp hkind)
  cases transition with
  | none =>
    cases h
    exact ⟨⟨⟨c, hc, rfl⟩, hround, rfl, rfl, rfl, rfl, rfl, rfl⟩, rfl, rfl⟩
  | some transition =>
    cases h
    exact ⟨⟨⟨c, hc, rfl⟩, hround, rfl, rfl, rfl, rfl, rfl, rfl⟩, rfl, rfl⟩

/-- An attempt that ends before its submission. -/
def CopyOrderAttempt.rejectedFor (attempt : CopyOrderAttempt) (code : String) : CopyOrderAttempt :=
  { attempt with status := .rejected, failureCode := some code }

/-- An attempt that waits for its landing. -/
def CopyOrderAttempt.submitted (attempt : CopyOrderAttempt) : CopyOrderAttempt :=
  { attempt with status := .submitted }

/-- An attempt with the quote it refers to. -/
def CopyOrderAttempt.referring (attempt : CopyOrderAttempt) (reference : ProtocolQuote)
    (minimumOutAtomic : Nat) : CopyOrderAttempt :=
  { attempt with reference := some reference, minimumOutAtomic := minimumOutAtomic }

/-- The last attempt of a position took its final form. -/
inductive CopySettled (setup : CopySetup) (desk : CopyDesk) (state : CopyExecutionPosition)
    (attempt : CopyOrderAttempt) (successful : Bool) : CopyHandled → Prop
  | intro {control : CopyPositionControl}
      (notify : notifyControl setup state.control attempt successful = .ok control) :
      CopySettled setup desk state attempt successful
        ⟨recordAttempt desk
          { state with control := control, attempts := state.attempts ++ [attempt] } attempt,
          { state with control := control, attempts := state.attempts ++ [attempt] }⟩

omit [DomainDigest] in
theorem settleAttempt_cases {successful : Bool}
    (h : settleAttempt setup desk state attempt successful = .ok handled) :
    CopySettled setup desk state attempt successful handled := by
  obtain ⟨control, hnotify, h⟩ := bind_eq_ok.mp h
  cases h
  exact ⟨hnotify⟩

/-- The ways an attempt that has a reference quote is submitted. -/
inductive CopySubmission (setup : CopySetup) (desk : CopyDesk) (state : CopyExecutionPosition)
    (attempt : CopyOrderAttempt) (amounts : AssetAmounts) : CopyHandled → Prop
  | rejected {handled : CopyHandled}
      (settled : CopySettled setup desk state (attempt.rejectedFor "INSUFFICIENT_FUNDS") false
        handled) :
      CopySubmission setup desk state attempt amounts handled
  | submitted {transaction : LedgerTransaction} {desk' : CopyDesk}
      (funded : hasAvailable desk.portfolio amounts = true)
      (transaction_eq : copyTransaction state attempt attempt.decision.boundaryOrdinal "RESERVATION"
        (reserveAmounts [] amounts) = .ok transaction)
      (applied : desk.Applied transaction desk') (accounts : desk'.accounts = desk.accounts) :
      CopySubmission setup desk state attempt amounts
        ⟨recordAttempt desk' { state with attempts := state.attempts ++ [attempt.submitted] }
          attempt.submitted, { state with attempts := state.attempts ++ [attempt.submitted] }⟩

theorem submitAttempt_cases {amounts : AssetAmounts}
    (h : submitAttempt setup desk state attempt amounts = .ok handled) :
    CopySubmission setup desk state attempt amounts handled := by
  rw [submitAttempt] at h
  split at h
  · rename_i hfunded
    obtain ⟨transaction, htransaction, h⟩ := bind_eq_ok.mp h
    obtain ⟨⟨desk', state'⟩, hcommitted, h⟩ := bind_eq_ok.mp h
    obtain ⟨happlied, haccounts, hstate⟩ := copyCommit_eq_ok hcommitted
    cases h
    have hsame : state' = state := hstate
    subst hsame
    exact .submitted hfunded htransaction happlied haccounts
  · exact .rejected (settleAttempt_cases h)

end Parts

/-! ## Beginning -/

section Beginning

variable (setup : CopySetup) (desk : CopyDesk) (state : CopyExecutionPosition)

/-- The latency of an order, by its side. -/
def CopyBuyPolicy.delayTransactions (policy : CopyBuyPolicy) : ProtocolQuoteSide → Nat
  | .buy => policy.buyDelayTransactions
  | .sell => policy.sellDelayTransactions

/-- What every attempt is given when it is made. -/
structure AttemptMade (side : ProtocolQuoteSide) (number : Nat) (position : ChainPosition)
    (network : NetworkCostQuote) (seconds : Nat) (attempt : CopyOrderAttempt) : Prop where
  landing : setup.clock.transactionAfter position (state.intent.policy.delayTransactions side)
    = .ok attempt.expectedLanding
  time : copySeconds setup position = .ok seconds
  eq : attempt =
    { orderId := copyOrderId state.intent.roundtripId side number
      side := side
      number := number
      decision := position
      expectedLanding := attempt.expectedLanding
      network := some network }

/-- The ways `begin_buy` returns. -/
inductive BuyBegun : CopyHandled → Prop
  | intro {attempt : CopyOrderAttempt} {network : NetworkCostQuote} {seconds : Nat}
      {requirements : List AccountRequirement} {plan : AccountReservationPlan}
      {records : List AccountComponentRecord} {handled : CopyHandled}
      (untried : state.attempts = []) (observed : requireObserved setup state.intent = .ok ())
      (made : AttemptMade setup state .buy 0 state.intent.decisionPosition network seconds attempt)
      (requirements_eq : setup.protocol.accountRequirements desk.observed
        state.intent.toPositionIntent = .ok requirements)
      (network_eq : setup.networkCosts.quoteBuy seconds requirements = .ok network)
      (plan_eq : prepareAccountReservation desk.accounts state.intent.roundtripId
        state.intent.assetId network.accountRequirements = .ok plan)
      (records_eq : unsubmittedAccountRecords desk.accounts plan = .ok records)
      (outcome :
        (∃ code, setup.protocol.quoteBuy desk.observed state.intent.toPositionIntent seconds
            = .error (.executionRejected code) ∧
          CopySettled setup desk
            { state with accountPlan := some plan, accountComponents := records }
            (attempt.rejectedFor code) false handled) ∨
        ∃ reference, setup.protocol.quoteBuy desk.observed state.intent.toPositionIntent seconds
            = .ok reference ∧
          validateBuyQuote state.intent.toPositionIntent reference = .ok () ∧
          CopySubmission setup desk
            { state with accountPlan := some plan, accountComponents := records }
            (attempt.referring reference (minimumOutputAtomic reference.amountOutAtomic
              state.intent.policy.buySlippageBps))
            (buyReservation state.intent.toPositionIntent network plan) handled) :
      BuyBegun handled

/-- The ways `begin_sell` returns. -/
inductive SellBegun (position : ChainPosition) : CopyHandled → Prop
  | intro {control : CopyPositionControl} {number : Nat} {attempt : CopyOrderAttempt}
      {network : NetworkCostQuote} {seconds : Nat} {handled : CopyHandled}
      (control_eq : state.control.beginSell setup.clock position = .ok (control, number))
      (made : AttemptMade setup state .sell number position network seconds attempt)
      (network_eq : setup.networkCosts.quoteSell seconds = .ok network)
      (outcome :
        (∃ code, setup.protocol.quoteSell desk.observed state.intent.toPositionIntent
            control.remainingTokensAtomic seconds = .error (.executionRejected code) ∧
          CopySettled setup desk { state with control := control } (attempt.rejectedFor code) false
            handled) ∨
        ∃ reference, setup.protocol.quoteSell desk.observed state.intent.toPositionIntent
            control.remainingTokensAtomic seconds = .ok reference ∧
          validateSellQuote state.intent.toPositionIntent control.remainingTokensAtomic reference
            = .ok () ∧
          CopySubmission setup desk { state with control := control }
            (attempt.referring reference (minimumOutputAtomic reference.amountOutAtomic
              state.intent.policy.sellSlippageBps))
            (sellReservation state.intent.toPositionIntent control.remainingTokensAtomic network)
            handled) :
      SellBegun position handled

variable {setup desk state} {handled : CopyHandled} {position : ChainPosition}

theorem newAttempt_eq_ok {side : ProtocolQuoteSide} {number seconds : Nat}
    {attempt : CopyOrderAttempt} (network : NetworkCostQuote)
    (h : newAttempt setup state side number position = .ok attempt)
    (htime : copySeconds setup position = .ok seconds) :
    attempt.decision = position ∧
      AttemptMade setup state side number position network seconds
        { attempt with network := some network } := by
  obtain ⟨landing, hlanding, h⟩ := bind_eq_ok.mp h
  cases h
  refine ⟨rfl, ?_, htime, rfl⟩
  cases side with
  | buy => exact hlanding
  | sell => exact hlanding

theorem beginBuy_cases (h : beginBuy setup desk state = .ok handled) :
    BuyBegun setup desk state handled := by
  obtain ⟨huntried, h⟩ := check_bind_eq_ok.mp h
  obtain ⟨hobserved, h⟩ := check_bind_eq_ok.mp h
  obtain ⟨attempt, hattempt, h⟩ := bind_eq_ok.mp h
  obtain ⟨seconds, hseconds, h⟩ := bind_eq_ok.mp h
  obtain ⟨requirements, hrequirements, h⟩ := bind_eq_ok.mp h
  obtain ⟨network, hnetwork, h⟩ := bind_eq_ok.mp h
  obtain ⟨plan, hplan, h⟩ := bind_eq_ok.mp h
  obtain ⟨records, hrecords, h⟩ := bind_eq_ok.mp h
  obtain ⟨quoted, hquoted, h⟩ := bind_eq_ok.mp h
  have hdecision : attempt.decision = state.intent.decisionPosition := by
    obtain ⟨landing, _, hattempt⟩ := bind_eq_ok.mp hattempt
    cases hattempt
    rfl
  rw [hdecision] at hseconds
  have hmade := (newAttempt_eq_ok network hattempt hseconds).2
  refine .intro (not_not.mp (refuseIf_eq_ok.mp huntried)) hobserved hmade hrequirements hnetwork
    hplan hrecords ?_
  obtain ⟨reference, hq, rfl⟩ | ⟨code, hq, rfl⟩ := expectRejection_eq_ok.mp hquoted
  · obtain ⟨hvalid, h⟩ := check_bind_eq_ok.mp h
    exact .inr ⟨reference, hq, hvalid, submitAttempt_cases h⟩
  · exact .inl ⟨code, hq, settleAttempt_cases h⟩

theorem beginSell_cases (h : beginSell setup desk state position = .ok handled) :
    SellBegun setup desk state position handled := by
  obtain ⟨⟨control, number⟩, hcontrol, h⟩ := bind_eq_ok.mp h
  obtain ⟨attempt, hattempt, h⟩ := bind_eq_ok.mp h
  obtain ⟨seconds, hseconds, h⟩ := bind_eq_ok.mp h
  obtain ⟨network, hnetwork, h⟩ := bind_eq_ok.mp h
  obtain ⟨quoted, hquoted, h⟩ := bind_eq_ok.mp h
  have hmade := (newAttempt_eq_ok network hattempt hseconds).2
  refine .intro hcontrol ⟨hmade.landing, hmade.time, hmade.eq⟩ hnetwork ?_
  obtain ⟨reference, hq, rfl⟩ | ⟨code, hq, rfl⟩ := expectRejection_eq_ok.mp hquoted
  · obtain ⟨hvalid, h⟩ := check_bind_eq_ok.mp h
    exact .inr ⟨reference, hq, hvalid, submitAttempt_cases h⟩
  · exact .inl ⟨code, hq, settleAttempt_cases h⟩

end Beginning

/-! ## Landing -/

section Landing

variable (setup : CopySetup) (desk : CopyDesk) (state : CopyExecutionPosition)

/-- The quote an attempt lands with. -/
def CopyOrderAttempt.landingQuoted (attempt : CopyOrderAttempt) (seconds : Nat) :
    Except Fault ProtocolQuote :=
  match attempt.side with
  | .buy => setup.protocol.quoteBuy desk.historical state.intent.toPositionIntent seconds
  | .sell => setup.protocol.quoteSell desk.historical state.intent.toPositionIntent
      state.control.remainingTokensAtomic seconds

/-- The check of a quote an attempt lands with. -/
def CopyOrderAttempt.landingValid (attempt : CopyOrderAttempt) (quote : ProtocolQuote) :
    Except Fault Unit :=
  match attempt.side with
  | .buy => validateBuyQuote state.intent.toPositionIntent quote
  | .sell => validateSellQuote state.intent.toPositionIntent state.control.remainingTokensAtomic
      quote

/-- The attempt that lands is the last one of its position, and it was submitted for here. -/
structure LandingDue (position : ChainPosition) (earlier : List CopyOrderAttempt)
    (attempt : CopyOrderAttempt) (network : NetworkCostQuote) (seconds : Nat) : Prop where
  attempts : state.attempts = earlier ++ [attempt]
  submitted : attempt.status = .submitted
  here : position = attempt.expectedLanding
  network : attempt.network = some network
  time : copySeconds setup position = .ok seconds

/-- A settlement was committed under the identity of its order. -/
structure SettlementCommitted (attempt : CopyOrderAttempt) (settlement : CopySettlement)
    (transaction : LedgerTransaction) (desk' : CopyDesk) : Prop where
  transaction_eq : copyTransaction state attempt settlement.transaction.boundaryOrdinal
    (removeSnipingPrefix settlement.transaction.reason) settlement.transaction.postings
      = .ok transaction
  applied : desk.Applied transaction desk'
  accounts : desk'.accounts = (settlement.transition.map fun t => t.state).getD desk.accounts

/-- The position once the settlement of its last attempt is committed. -/
def CopyExecutionPosition.settledBy (state : CopyExecutionPosition)
    (earlier : List CopyOrderAttempt) (settlement : CopySettlement) : CopyExecutionPosition :=
  { state with
    attempts := earlier
    accountComponents :=
      (settlement.transition.map fun t => t.records).getD state.accountComponents }

/-- The ways `land` returns. -/
inductive CopyLanded (position : ChainPosition) : CopyHandled → Prop
  | failed {earlier : List CopyOrderAttempt} {attempt : CopyOrderAttempt}
      {network : NetworkCostQuote} {seconds : Nat} {code : String}
      {landing : Option ProtocolQuote} {settlement : CopySettlement}
      {transaction : LedgerTransaction} {desk' : CopyDesk} {handled : CopyHandled}
      (due : LandingDue setup state position earlier attempt network seconds)
      (refused : LandingRefused (attempt.landingQuoted setup desk state seconds)
        (attempt.landingValid state) attempt.minimumOutAtomic code landing)
      (settlement_eq : copySettlement desk state attempt network (.rejected code landing)
        = .ok settlement)
      (committed : SettlementCommitted desk state attempt settlement transaction desk')
      (settled : CopySettled setup desk' (state.settledBy earlier settlement)
        (attempt.landed position (.rejected code landing)) false handled) :
      CopyLanded position handled
  | filled {earlier : List CopyOrderAttempt} {attempt : CopyOrderAttempt}
      {network : NetworkCostQuote} {seconds : Nat} {landing : ProtocolQuote}
      {settlement : CopySettlement} {transaction : LedgerTransaction} {desk' : CopyDesk}
      {settled : CopyHandled} {fill : Fill}
      (due : LandingDue setup state position earlier attempt network seconds)
      (quoted : attempt.landingQuoted setup desk state seconds = .ok landing)
      (valid : attempt.landingValid state landing = .ok ())
      (reached : attempt.minimumOutAtomic ≤ landing.amountOutAtomic)
      (settlement_eq : copySettlement desk state attempt network (.filled landing)
        = .ok settlement)
      (committed : SettlementCommitted desk state attempt settlement transaction desk')
      (settled_eq : CopySettled setup desk' (state.settledBy earlier settlement)
        (attempt.landed position (.filled landing)) true settled)
      (fill_eq : copyFill settled.state (attempt.landed position (.filled landing)) landing
        = .ok fill) :
      CopyLanded position
        ⟨{ settled.desk with fills := settled.desk.fills ++ [fill] }, settled.state⟩

variable {setup desk state} {handled : CopyHandled} {position : ChainPosition}

theorem landingAttempt_eq_ok {attempt : CopyOrderAttempt} {landing : LandingAttempt}
    (h : landingAttempt setup desk state attempt position = .ok landing) :
    ∃ seconds, copySeconds setup position = .ok seconds ∧
      attemptLanding (attempt.landingQuoted setup desk state seconds)
        (attempt.landingValid state) attempt.minimumOutAtomic = .ok landing := by
  obtain ⟨seconds, hseconds, h⟩ := bind_eq_ok.mp h
  refine ⟨seconds, hseconds, ?_⟩
  cases hside : attempt.side with
  | buy =>
    simp only [hside] at h
    simp only [CopyOrderAttempt.landingQuoted, hside]
    rw [show attempt.landingValid state = validateBuyQuote state.intent.toPositionIntent by
      funext quote
      simp only [CopyOrderAttempt.landingValid, hside]]
    exact h
  | sell =>
    simp only [hside] at h
    simp only [CopyOrderAttempt.landingQuoted, hside]
    rw [show attempt.landingValid state = validateSellQuote state.intent.toPositionIntent
        state.control.remainingTokensAtomic by
      funext quote
      simp only [CopyOrderAttempt.landingValid, hside]]
    exact h

theorem land_cases (h : land setup desk state position = .ok handled) :
    CopyLanded setup desk state position handled := by
  rw [land] at h
  split at h
  · cases h
  rename_i attempt hlast
  have hattempts : state.attempts = state.attempts.dropLast ++ [attempt] :=
    (List.dropLast_append_getLast? attempt hlast).symm
  obtain ⟨hready, h⟩ := check_bind_eq_ok.mp h
  rw [refuseIf_eq_ok, not_or, not_not, not_not] at hready
  cases hnetwork : attempt.network with
  | none =>
    rw [hnetwork] at h
    cases h
  | some network =>
    rw [hnetwork] at h
    obtain ⟨landing, hlanding, h⟩ := bind_eq_ok.mp h
    obtain ⟨settlement, hsettlement, h⟩ := bind_eq_ok.mp h
    obtain ⟨⟨desk', state'⟩, hcommitted, h⟩ := bind_eq_ok.mp h
    obtain ⟨transaction, htransaction, hcommitted⟩ := bind_eq_ok.mp hcommitted
    obtain ⟨happlied, haccounts, hstate⟩ := copyCommit_eq_ok hcommitted
    obtain ⟨seconds, hseconds, hattempt⟩ := landingAttempt_eq_ok hlanding
    have hdue : LandingDue setup state position state.attempts.dropLast attempt network seconds :=
      ⟨hattempts, hready.1, hready.2, hnetwork, hseconds⟩
    have hcommit : SettlementCommitted desk state attempt settlement transaction desk' :=
      ⟨htransaction, happlied, haccounts⟩
    have hsettledBy : ({ state' with attempts := state.attempts.dropLast } : CopyExecutionPosition)
        = state.settledBy state.attempts.dropLast settlement := by
      rw [show state' = _ from hstate]
      rfl
    obtain ⟨code, landed, rfl, hrefused⟩ | ⟨landed, rfl, hquoted, hvalid, hreached⟩ :=
      attemptLanding_cases hattempt
    · have hsettled := settleAttempt_cases h
      rw [hsettledBy] at hsettled
      exact .failed hdue hrefused hsettlement hcommit hsettled
    · obtain ⟨settled, hsettle, h⟩ := bind_eq_ok.mp h
      obtain ⟨fill, hfill, h⟩ := bind_eq_ok.mp h
      cases h
      have hsettled := settleAttempt_cases hsettle
      rw [hsettledBy] at hsettled
      exact .filled hdue hquoted hvalid hreached hsettlement hcommit hsettled hfill

omit [DomainDigest] in
theorem LandingDue.last_eq {earlier before : List CopyOrderAttempt}
    {attempt last : CopyOrderAttempt} {network : NetworkCostQuote} {seconds : Nat}
    (h : LandingDue setup state position earlier attempt network seconds)
    (hattempts : state.attempts = before ++ [last]) : earlier = before ∧ attempt = last := by
  obtain ⟨hbefore, hlast⟩ := List.append_inj' (h.attempts.symm.trans hattempts) rfl
  exact ⟨hbefore, List.singleton_inj.mp hlast⟩

end Landing

/-! ## Settling -/

section Settling

variable {desk : CopyDesk} {state : CopyExecutionPosition} {attempt : CopyOrderAttempt}
  {network : NetworkCostQuote} {settlement : CopySettlement}

theorem copySettlement_buy {landing : LandingAttempt} (hside : attempt.side = .buy) :
    copySettlement desk state attempt network landing
      = copyBuySettlement desk state attempt network landing := by
  rw [copySettlement.eq_def, hside]

/-- A failed entry: its reservation is released and its network fee is paid. -/
theorem copySettlement_buyFailed {code : String} {landing : Option ProtocolQuote}
    (hside : attempt.side = .buy)
    (h : copySettlement desk state attempt network (.rejected code landing) = .ok settlement) :
    ∃ plan transition transaction, state.accountPlan = some plan ∧
      applyBuyAccountTransition desk.accounts plan false = .ok transition ∧
      failedBuySettlement state.intent.toPositionIntent attempt.expectedLanding.boundaryOrdinal
        network plan SolanaSnipingCostModel.feeCollectorAccountId code = .ok transaction ∧
      settlement = ⟨transaction, some transition⟩ := by
  rw [copySettlement_buy hside, copyBuySettlement.eq_def] at h
  split at h
  · cases h
  · rename_i plan hplan
    obtain ⟨transition, htransition, h⟩ := bind_eq_ok.mp h
    obtain ⟨transaction, htransaction, h⟩ := bind_eq_ok.mp h
    exact ⟨plan, transition, transaction, hplan, htransition, htransaction,
      (Except.ok.inj h).symm⟩

end Settling

end OnchainBacktest
